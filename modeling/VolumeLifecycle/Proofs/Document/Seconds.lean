import VolumeLifecycle.Document.Arith
import VolumeLifecycle.Proofs.Number.WholeDoubles
/-!
# VolumeLifecycle.Proofs.Document.Seconds

**Values that count whole seconds.** The times of a run — the clock, a timeout, an interval, a
deadline — are document values. A configuration file gives whole numbers, but the environment
gives doubles (`25.0`), and a sum or a difference with a double is a double. This module says
when a value is `n` whole seconds (`Value.Seconds`), in one of two timebases: `whole`, where
times are whole numbers, and `doubles`, where they may also be doubles that hold whole numbers
of at most 53 bits. On such values the arithmetic and the order of documents are those of the
whole numbers:

* `Value.plus_seconds`, `Value.minus_seconds` — a sum or a difference of seconds is the seconds
  of the sum or the difference, as long as the timebase can hold it (`Timebase.Fits`);
* `Value.lessThan_seconds`, `Value.atMost_seconds`, `Value.least_seconds` — seconds compare as
  the whole numbers they are.

In the `whole` timebase `Value.Seconds .whole v n` is `v = .int n`, so every statement made for
a timebase is, at `whole`, the statement about whole numbers.
-/

namespace VolumeLifecycle

open VolumeLifecycle.Number

/-- What the seconds of a run are written as: whole numbers only (`whole`), or also doubles that
hold whole numbers (`doubles`), as times read from the environment are. -/
inductive Timebase where
  | whole
  | doubles
  deriving DecidableEq

namespace Timebase

/-- The whole numbers of seconds the timebase can write: every one, or, where doubles may hold
them, those of at most 53 bits. -/
def Fits : Timebase → Int → Prop
  | whole, _ => True
  | doubles, n => n.natAbs ≤ 2 ^ 53

instance Fits.decidable : ∀ (tb : Timebase) (n : Int), Decidable (tb.Fits n)
  | whole, _ => isTrue trivial
  | doubles, n => inferInstanceAs (Decidable (n.natAbs ≤ 2 ^ 53))

variable {tb : Timebase} {a b x : Int}

theorem fits_whole (n : Int) : whole.Fits n := trivial

theorem fits_zero (tb : Timebase) : tb.Fits 0 := by
  cases tb
  · trivial
  · show (0 : Int).natAbs ≤ 2 ^ 53
    decide

/-- A time between two the timebase can write is one it can write. -/
theorem Fits.between (ha : tb.Fits a) (hb : tb.Fits b) (hax : a ≤ x) (hxb : x ≤ b) :
    tb.Fits x := by
  cases tb
  · trivial
  · simp only [Fits] at ha hb ⊢
    omega

/-- A time no further from zero than one the timebase can write is one it can write. -/
theorem Fits.of_natAbs_le (ha : tb.Fits a) (h : x.natAbs ≤ a.natAbs) : tb.Fits x := by
  cases tb
  · trivial
  · simp only [Fits] at ha ⊢
    omega

/-- What a wait of `T` seconds from `N` asks of the timebase: nothing of whole numbers; of
doubles, that they can write the start and the deadline, and, as the poll loops' step budget
counts no polls for times that are doubles, that the wait is shorter than `2 ^ 32` seconds. -/
def Spans : Timebase → Int → Int → Prop
  | whole, _, _ => True
  | doubles, N, T => N.natAbs ≤ 2 ^ 53 ∧ (N + T).natAbs ≤ 2 ^ 53 ∧ T < 2 ^ 32

instance Spans.decidable : ∀ (tb : Timebase) (N T : Int), Decidable (tb.Spans N T)
  | whole, _, _ => isTrue trivial
  | doubles, N, T =>
    inferInstanceAs (Decidable (N.natAbs ≤ 2 ^ 53 ∧ (N + T).natAbs ≤ 2 ^ 53 ∧ T < 2 ^ 32))

theorem Spans.start {N T : Int} (h : tb.Spans N T) : tb.Fits N := by
  cases tb
  · trivial
  · exact h.1

theorem Spans.deadline {N T : Int} (h : tb.Spans N T) : tb.Fits (N + T) := by
  cases tb
  · trivial
  · exact h.2.1

end Timebase

namespace Value

/-- `v` is `n` whole seconds in the timebase `tb`: the whole number `n`, or, with doubles, a
double that holds `n` exactly. -/
def Seconds : Timebase → Value → Int → Prop
  | .whole, v, n => v = .int n
  | .doubles, v, n => n.natAbs ≤ 2 ^ 53 ∧ (v = .int n ∨ ∃ x, v = .float x ∧ HoldsWhole x n)

variable {tb : Timebase} {a b v : Value} {m n : Int}

@[simp] theorem seconds_whole : Seconds .whole v n ↔ v = .int n := Iff.rfl

theorem seconds_int (h : tb.Fits n) : Seconds tb (.int n) n := by
  cases tb
  · rfl
  · exact ⟨h, .inl rfl⟩

theorem Seconds.fits (h : Seconds tb v n) : tb.Fits n := by
  cases tb
  · trivial
  · exact h.1

/-- A double that holds `n` is `n` seconds in the timebase of doubles. -/
theorem seconds_float {x : Float} (h : HoldsWhole x n) : Seconds .doubles (.float x) n :=
  ⟨h.2, .inr ⟨x, rfl, h⟩⟩

/-! ## The number a time is -/

/-- The number `x` counts `n` seconds in the timebase `tb`: as the whole number `n`, or, with
doubles, as a double that holds it. -/
def Numeric.Counts (tb : Timebase) : Numeric → Int → Prop
  | .whole a, n => a = n ∧ tb.Fits n
  | .real x, n => tb = .doubles ∧ HoldsWhole x n

theorem Seconds.numeric? (h : Seconds tb v n) : ∃ x, v.numeric? = some x ∧ x.Counts tb n := by
  cases tb with
  | whole =>
    subst h
    exact ⟨.whole n, rfl, rfl, trivial⟩
  | doubles =>
    obtain ⟨hn, rfl | ⟨x, rfl, hx⟩⟩ := h
    · exact ⟨.whole n, rfl, rfl, hn⟩
    · exact ⟨.real x, rfl, rfl, hx⟩

/-- A number that counts seconds where doubles may write them becomes a double that holds
them. -/
theorem Numeric.Counts.toReal {x : Numeric} (h : x.Counts .doubles n) :
    ∃ y, x.toReal = .ok y ∧ HoldsWhole y n := by
  cases x with
  | whole a =>
    obtain ⟨rfl, ha⟩ := h
    obtain ⟨y, hy, hwhole⟩ := Binary.ofInt?_whole ha
    exact ⟨y, by rw [Numeric.toReal, wholeToReal, hy], hwhole⟩
  | real y => exact ⟨y, rfl, h.2⟩

/-- Numbers that count seconds are in the order of the seconds they count. -/
theorem Numeric.Counts.order {x y : Numeric} (hx : x.Counts tb m) (hy : y.Counts tb n) :
    x.order y = some (compare m n) := by
  cases x with
  | whole a =>
    obtain ⟨rfl, -⟩ := hx
    cases y with
    | whole b =>
      obtain ⟨rfl, -⟩ := hy
      rfl
    | real y =>
      -- the double is compared with the whole number, and the answer turned round
      show ((Binary.ofFloat y).compareInt a).map Ordering.swap = _
      rw [Binary.compareInt_of_toInt? hy.2.1 a, Option.map_some, Int.compare_swap]
  | real x =>
    cases y with
    | whole b =>
      obtain ⟨rfl, -⟩ := hy
      exact Binary.compareInt_of_toInt? hx.2.1 b
    | real y =>
      have hlt := hx.2.lt hy.2
      have hgt := hy.2.lt hx.2
      show (if x < y then some Ordering.lt else if x == y then some Ordering.eq
        else if y < x then some Ordering.gt else none) = _
      rw [hx.2.beq hy.2]
      rcases Int.lt_trichotomy m n with h | h | h
      · rw [if_pos (hlt.2 h), Int.compare_eq_lt.2 h]
      · rw [if_neg (fun h' => absurd (hlt.1 h') (by omega)), h, decide_eq_true rfl, if_pos rfl,
          Int.compare_eq_eq.2 rfl]
      · rw [if_neg (fun h' => absurd (hlt.1 h') (by omega)),
          decide_eq_false (by omega : ¬m = n), if_neg Bool.false_ne_true, if_pos (hgt.2 h),
          Int.compare_eq_gt.2 h]

/-! ## Arithmetic -/

/-- The operator on whole numbers, as `Arith.apply` applies it to two of them. -/
def Arith.onWhole : Arith → Int → Int → Int
  | .add => (· + ·)
  | .sub => (· - ·)

theorem Arith.apply_whole (op : Arith) (a b : Int) :
    op.apply (.whole a) (.whole b) = .ok (.int (op.onWhole a b)) := by
  cases op <;> rfl

/-- Numbers that are not both whole are operated on as the doubles they become. -/
theorem Arith.apply_of_toReal (op : Arith) {x y : Numeric} {x' y' : Float}
    (hw : ∀ a b, x = .whole a → y = .whole b → False) (hx : x.toReal = .ok x')
    (hy : y.toReal = .ok y') : op.apply x y = op.apply (.real x') (.real y') := by
  cases x <;> cases y
  · exact absurd rfl (hw _ _ rfl)
  all_goals simp only [Arith.apply, hx, hy]
  all_goals rfl

end Value

/-- The sum and the difference of doubles that hold whole numbers hold the sum and the
difference of the numbers, when that has at most 53 bits too. -/
theorem Number.HoldsWhole.apply (op : Value.Arith) {x y : Float} {m n : Int}
    (hx : HoldsWhole x m) (hy : HoldsWhole y n) (h : (op.onWhole m n).natAbs ≤ 2 ^ 53) :
    ∃ z, op.apply (.real x) (.real y) = .ok (.float z) ∧ HoldsWhole z (op.onWhole m n) := by
  cases op with
  | add => exact ⟨_, rfl, hx.add hy h⟩
  | sub => exact ⟨_, rfl, hx.sub hy h⟩

namespace Value

variable {tb : Timebase} {a b v : Value} {m n : Int}

/-- A sum or a difference of numbers that count seconds is the seconds of the sum or the
difference, when the timebase can write it: whole numbers add exactly, and a double on either
side makes both doubles, whose sum and difference are exact on whole numbers of 53 bits. -/
theorem Numeric.Counts.apply (op : Arith) {x y : Numeric} (hx : x.Counts tb m)
    (hy : y.Counts tb n) (hfit : tb.Fits (op.onWhole m n)) :
    ∃ c, op.apply x y = .ok c ∧ Seconds tb c (op.onWhole m n) := by
  by_cases hw : ∃ a b, x = .whole a ∧ y = .whole b
  · obtain ⟨a, b, rfl, rfl⟩ := hw
    obtain ⟨rfl, -⟩ := hx
    obtain ⟨rfl, -⟩ := hy
    exact ⟨_, op.apply_whole _ _, seconds_int hfit⟩
  · -- a double on either side: the timebase is that of doubles, and both become doubles
    have hdoubles : tb = .doubles := by
      cases x with
      | whole a =>
        cases y with
        | whole b => exact absurd ⟨a, b, rfl, rfl⟩ hw
        | real y => exact hy.1
      | real x => exact hx.1
    subst hdoubles
    obtain ⟨x', hx', hxw⟩ := hx.toReal
    obtain ⟨y', hy', hyw⟩ := hy.toReal
    obtain ⟨z, hz, hzw⟩ := hxw.apply op hyw hfit
    refine ⟨_, ?_, seconds_float hzw⟩
    rw [op.apply_of_toReal (fun a b ha hb => hw ⟨a, b, ha, hb⟩) hx' hy', hz]

theorem arith_seconds (op : Arith) (ha : Seconds tb a m) (hb : Seconds tb b n)
    (hfit : tb.Fits (op.onWhole m n)) :
    ∃ c, arith op a b = .ok c ∧ Seconds tb c (op.onWhole m n) := by
  obtain ⟨x, hx, hxc⟩ := ha.numeric?
  obtain ⟨y, hy, hyc⟩ := hb.numeric?
  simp only [arith, hx, hy]
  exact hxc.apply op hyc hfit

/-- **A sum of seconds is the seconds of the sum**, when the timebase can write it. -/
theorem plus_seconds (ha : Seconds tb a m) (hb : Seconds tb b n) (hfit : tb.Fits (m + n)) :
    ∃ c, plus a b = .ok c ∧ Seconds tb c (m + n) :=
  arith_seconds .add ha hb hfit

/-- **A difference of seconds is the seconds of the difference**, when the timebase can write
it. -/
theorem minus_seconds (ha : Seconds tb a m) (hb : Seconds tb b n) (hfit : tb.Fits (m - n)) :
    ∃ c, minus a b = .ok c ∧ Seconds tb c (m - n) :=
  arith_seconds .sub ha hb hfit

/-! ## Order -/

theorem order_seconds (symbol : String) (ha : Seconds tb a m) (hb : Seconds tb b n) :
    order symbol a b = .ok (some (compare m n)) := by
  obtain ⟨x, hx, hxc⟩ := ha.numeric?
  obtain ⟨y, hy, hyc⟩ := hb.numeric?
  simp only [order, hx, hy, hxc.order hyc]

/-- **Seconds compare as the whole numbers they are.** -/
theorem lessThan_seconds (ha : Seconds tb a m) (hb : Seconds tb b n) :
    lessThan a b = .ok (decide (m < n)) := by
  simp only [lessThan, order_seconds "<" ha hb, Except.map]
  by_cases h : m < n
  · simp [h, Int.compare_eq_lt.2 h]
  · simp [h, Int.compare_eq_lt]

theorem atMost_seconds (ha : Seconds tb a m) (hb : Seconds tb b n) :
    atMost a b = .ok (decide (m ≤ n)) := by
  simp only [atMost, order_seconds "<=" ha hb, Except.map]
  rcases Int.lt_trichotomy m n with h | h | h
  · simp [Int.le_of_lt h, Int.compare_eq_lt.2 h]
  · subst h
    simp
  · simp [Int.compare_eq_gt.2 h, Int.not_le.2 h]

/-- The smaller of two times is the smaller number of seconds; on a tie, the first time. -/
theorem least_seconds (ha : Seconds tb a m) (hb : Seconds tb b n) :
    ∃ c, least a b = .ok c ∧ Seconds tb c (min m n) := by
  simp only [least, lessThan_seconds hb ha, bind, Except.bind]
  by_cases h : n < m
  · refine ⟨b, by simp [h]; rfl, ?_⟩
    rwa [Int.min_eq_right (Int.le_of_lt h)]
  · refine ⟨a, by simp [h]; rfl, ?_⟩
    rwa [Int.min_eq_left (Int.not_lt.1 h)]

end Value

end VolumeLifecycle
