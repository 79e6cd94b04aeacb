import Mathlib.Data.Rat.Floor
import VolumeLifecycle.Lifecycle.PowerCycle
import VolumeLifecycle.Proofs.Site.Clock
/-!
# VolumeLifecycle.Proofs.Lifecycle.Deadline

**The polls a deadline allows.** Both poll loops, the job's and the power state's, begin each
round by asking the clock for the time left until the deadline, and stop when none is left;
otherwise they sleep for the interval, or for the time left when that is shorter, and poll once.
On a clock of whole seconds with a positive interval `I` and `T` seconds to go, that allows
`pollsWithin I T = ⌈T / I⌉` polls, none when `T ≤ 0`. The `i`-th sleep, counted from `0`, is
`min I (T - i * I)`, and `n` of those rounds take `min (n * I) (max T 0)` seconds (`waited`).

* `pollsWithin_after_sleep` — a round leaves one poll fewer; `pollsWithin_le_wholePolls` — the
  step budget of a loop covers every poll;
* `waited_succ` — the sleeps of the rounds add up to `waited`;
* `pollEvents` — the events of polls of one path, each a sleep and then a GET, with the seconds
  written as whole numbers; `Event.ReadsAs` relates them to the events of a run whose seconds
  are written in another timebase; `pollEvents_sleeps` gives the `i`-th sleep and
  `pollEvents_calls` the requests;
* `timeLeft_timed`, `sleepWithin_timed` — the two steps that open a round, on a clock of whole
  seconds in any timebase.

The proofs carry the time left `R` rather than the clock: a round at `R > 0` sleeps `min I R`
and leaves `R - min I R`, which is `R - I` unless the round was the last.
-/

namespace VolumeLifecycle.Lifecycle

open VolumeLifecycle.Redfish VolumeLifecycle.Value

/-! ## Counting polls -/

/-- The polls a wait of `T` seconds at the interval `I` makes at most: `⌈T / I⌉`, and none when
`T` is not positive. -/
def pollsWithin (I T : Int) : Nat := ⌈(T : ℚ) / I⌉.toNat

variable {I T R : Int}

theorem pollsWithin_of_nonpos (hI : 0 < I) (hT : T ≤ 0) : pollsWithin I T = 0 := by
  have hq : (T : ℚ) / I ≤ 0 :=
    div_nonpos_of_nonpos_of_nonneg (by exact_mod_cast hT) (by exact_mod_cast hI.le)
  have hceil : ⌈(T : ℚ) / I⌉ ≤ 0 := Int.ceil_nonpos.2 hq
  simp only [pollsWithin]
  omega

/-- A wait with time left allows one poll more than the same wait an interval later. -/
theorem pollsWithin_sub (hI : 0 < I) (hT : 0 < T) : pollsWithin I (T - I) + 1 = pollsWithin I T := by
  have hI' : (I : ℚ) ≠ 0 := by exact_mod_cast hI.ne'
  have hshift : ((T - I : Int) : ℚ) / I = (T : ℚ) / I - 1 := by
    push_cast
    field_simp
  have hpos : 0 < ⌈(T : ℚ) / I⌉ :=
    Int.ceil_pos.2 (div_pos (by exact_mod_cast hT) (by exact_mod_cast hI))
  simp only [pollsWithin, hshift, Int.ceil_sub_one]
  omega

/-- After a round at `R > 0` seconds before the deadline, which sleeps `min I R`, one poll fewer
is left. -/
theorem pollsWithin_after_sleep (hI : 0 < I) (hR : 0 < R) :
    pollsWithin I (R - min I R) + 1 = pollsWithin I R := by
  by_cases hle : I ≤ R
  · rw [Int.min_eq_left hle]
    exact pollsWithin_sub hI hR
  · -- the round was the last: its sleep reaches the deadline
    have hlast : pollsWithin I (R - I) = 0 := pollsWithin_of_nonpos hI (by omega)
    rw [Int.min_eq_right (by omega), Int.sub_self, pollsWithin_of_nonpos hI (Int.le_refl 0),
      ← pollsWithin_sub hI hR, hlast]

/-- The step budget of a loop covers every poll whole-number times allow. -/
theorem pollsWithin_le_wholePolls (hI : 0 < I) : pollsWithin I T ≤ wholePolls (.int I) (.int T) := by
  simp only [wholePolls, numeric?, if_pos hI, pollsWithin]
  -- `(T + I - 1) / I` is at least `T / I`, so at least its ceiling
  have hmul : T ≤ (T + I - 1) / I * I := by
    have := Int.lt_ediv_add_one_mul_self (T + I - 1) hI
    rw [Int.add_mul, Int.one_mul] at this
    omega
  have hq : (T : ℚ) / I ≤ (((T + I - 1) / I : Int) : ℚ) := by
    rw [div_le_iff₀ (by exact_mod_cast hI)]
    exact_mod_cast hmul
  exact Int.toNat_le_toNat (Int.ceil_le.2 hq)

/-- At a positive interval a wait polls at most once a second. -/
theorem pollsWithin_le_toNat (hI : 0 < I) : pollsWithin I T ≤ T.toNat := by
  by_cases hT : T ≤ 0
  · rw [pollsWithin_of_nonpos hI hT]
    exact Nat.zero_le _
  · have hq : (T : ℚ) / I ≤ T :=
      div_le_self (by exact_mod_cast (Int.le_of_lt (Int.not_le.1 hT))) (by exact_mod_cast hI)
    exact Int.toNat_le_toNat (Int.ceil_le.2 hq)

section Budget

variable {tb : Timebase} {N : Int}

/-- **The step budget of a loop covers every poll**, whether its times are whole numbers, whose
polls it counts, or doubles, for which it allows `2 ^ 32`. -/
theorem pollsWithin_lt_pollBudget {interval timeout : Value} (hI : 0 < I)
    (hinterval : Value.Seconds tb interval I) (htimeout : Value.Seconds tb timeout T)
    (hspan : tb.Spans N T) : pollsWithin I T < pollBudget interval timeout := by
  unfold pollBudget
  cases tb with
  | whole =>
    rw [Value.seconds_whole] at hinterval htimeout
    subst hinterval htimeout
    have := pollsWithin_le_wholePolls (T := T) hI
    omega
  | doubles =>
    have := pollsWithin_le_toNat (T := T) hI
    have hT := hspan.2.2
    omega

end Budget

/-! ## Time waited -/

/-- The seconds `n` rounds of a wait of `T` seconds at the interval `I` sleep in all. -/
def waited (I T : Int) (n : Nat) : Int := min (n * I) (max T 0)

theorem waited_zero (I T : Int) : waited I T 0 = 0 := by
  simp [waited]

/-- A round at `R > 0` seconds before the deadline sleeps `min I R`; with the `n` rounds after
it, all of them within the deadline, that is `n + 1` rounds from `R`. -/
theorem waited_succ (hI : 0 < I) (hR : 0 < R) {n : Nat} (hn : n ≤ pollsWithin I (R - min I R)) :
    min I R + waited I (R - min I R) n = waited I R (n + 1) := by
  simp only [waited]
  by_cases hle : I ≤ R
  · rw [Int.min_eq_left hle]
    push_cast
    rw [Int.add_mul, Int.one_mul]
    omega
  · have hlast : pollsWithin I (R - min I R) = 0 := by
      rw [Int.min_eq_right (by omega), Int.sub_self]
      exact pollsWithin_of_nonpos hI (Int.le_refl 0)
    have hn0 : n = 0 := by omega
    subst hn0
    simp only [Nat.cast_zero, Int.zero_mul, Nat.zero_add, Nat.cast_one, Int.one_mul]
    omega

/-! ## The events of polling -/

/-- The events of polls of `path` answered with `answers`, the first at `T` seconds before the
deadline: each is a sleep for the interval or the time left, whichever is shorter, and then a
GET of the path. -/
def pollEvents (I T : Int) (path : String) : List (Except Failure Response) → List Event
  | [] => []
  | answer :: answers =>
      .sleep (.int (min I T)) :: .exchange { method := .get, path, payload := .null } answer ::
        pollEvents I (T - I) path answers

@[simp] theorem pollEvents_nil (path : String) : pollEvents I T path [] = [] := rfl

/-- The event `e` of a run is the event `e'` of `pollEvents` with the seconds of a sleep
written in the timebase `tb`; every other event is as it is. -/
def Event.ReadsAs (tb : Timebase) (e : Event) : Event → Prop
  | .sleep (.int n) => ∃ v, e = .sleep v ∧ Value.Seconds tb v n
  | e' => e = e'

/-- In the timebase of whole numbers the events are the events themselves. -/
theorem Event.readsAs_whole {e e' : Event} : Event.ReadsAs .whole e e' ↔ e = e' := by
  cases e' with
  | exchange call answer => rfl
  | sleep v =>
    cases v with
    | int n =>
      constructor
      · rintro ⟨v, rfl, rfl⟩
        rfl
      · intro he
        exact ⟨_, he, rfl⟩
    | _ => rfl

/-- The requests of a run are those of the events it reads as. -/
theorem Event.ReadsAs.call? {tb : Timebase} {e e' : Event} (h : Event.ReadsAs tb e e') :
    e.call? = e'.call? := by
  cases e' with
  | exchange call answer => rw [show e = _ from h]
  | sleep v =>
    cases v with
    | int n =>
      obtain ⟨v, rfl, -⟩ := h
      rfl
    | _ => rw [show e = _ from h]

/-- The `i`-th sleep of a wait of `T` seconds, counted from `0`, is `min I (T - i * I)` seconds,
written in the timebase of the run. -/
theorem pollEvents_sleeps {tb : Timebase} {path : String} {answers : List (Except Failure Response)}
    {evs : List Event} (h : List.Forall₂ (Event.ReadsAs tb) evs (pollEvents I T path answers)) :
    List.Forall₂ (Value.Seconds tb) (evs.filterMap Event.seconds?)
      ((List.range answers.length).map fun i : Nat => min I (T - i * I)) := by
  induction answers generalizing T evs with
  | nil =>
    rw [pollEvents_nil, List.forall₂_nil_right_iff] at h
    subst h
    exact .nil
  | cons answer answers ih =>
    obtain ⟨e₁, e₂, rest, rfl, ⟨v, rfl, hv⟩, rfl, hrest⟩ :
        ∃ e₁ e₂ rest, evs = e₁ :: e₂ :: rest ∧
          Event.ReadsAs tb e₁ (.sleep (.int (min I T))) ∧
          e₂ = .exchange { method := .get, path, payload := .null } answer ∧
          List.Forall₂ (Event.ReadsAs tb) rest (pollEvents I (T - I) path answers) := by
      rcases h with _ | ⟨h₁, h₂⟩
      rcases h₂ with _ | ⟨h₂, hrest⟩
      exact ⟨_, _, _, rfl, h₁, h₂, hrest⟩
    rw [List.length_cons, List.range_succ_eq_map]
    simp only [List.filterMap_cons, Event.seconds?, List.map_cons, List.map_map]
    refine .cons (by simpa using hv) ?_
    have hshift : ((fun i : Nat => min I (T - i * I)) ∘ Nat.succ) =
        fun i : Nat => min I (T - I - i * I) := by
      funext i
      simp only [Function.comp_apply, Nat.succ_eq_add_one]
      push_cast
      rw [Int.add_mul, Int.one_mul]
      congr 1
      omega
    rw [hshift]
    exact ih hrest

/-- The requests of a run are those of the events it reads as, in order. -/
theorem Event.calls_of_readsAs {tb : Timebase} {evs evs' : List Event}
    (h : List.Forall₂ (Event.ReadsAs tb) evs evs') :
    evs.filterMap Event.call? = evs'.filterMap Event.call? := by
  induction h with
  | nil => rfl
  | cons he _ ih => simp only [List.filterMap_cons, he.call?, ih]

/-- Every request of the polls is a GET of the path, one per answer. -/
theorem pollEvents_calls {tb : Timebase} {path : String} {answers : List (Except Failure Response)}
    {evs : List Event} (h : List.Forall₂ (Event.ReadsAs tb) evs (pollEvents I T path answers)) :
    evs.filterMap Event.call? =
      List.replicate answers.length { method := .get, path, payload := .null } := by
  rw [Event.calls_of_readsAs h]
  clear h
  induction answers generalizing T with
  | nil => rfl
  | cons answer answers ih =>
    simp only [pollEvents, List.filterMap_cons, Event.call?, ih, List.length_cons, List.replicate_succ]

/-- The events of the rounds after the last are none, wherever the deadline then stands. -/
theorem pollEvents_of_pollsWithin (hI : 0 < I) (path : String)
    {answers : List (Except Failure Response)} (hn : answers.length ≤ pollsWithin I (R - min I R)) :
    pollEvents I (R - min I R) path answers = pollEvents I (R - I) path answers := by
  by_cases hle : I ≤ R
  · rw [Int.min_eq_left hle]
  · have hlast : pollsWithin I (R - min I R) = 0 := by
      rw [Int.min_eq_right (by omega), Int.sub_self]
      exact pollsWithin_of_nonpos hI (Int.le_refl 0)
    rw [List.eq_nil_of_length_eq_zero (by omega : answers.length = 0)]
    rfl

/-! ## The steps that open a round -/

section Round

variable {tb : Timebase}

/-- At `N` seconds, the time left until a deadline of `D` seconds is `D - N` seconds, and none
is left when that is not positive. Reading it waits no time and sends nothing. -/
theorem timeLeft_timed {deadline : Value} {D : Int} (hD : Value.Seconds tb deadline D) (N : Int)
    (hfit : tb.Fits (D - N)) : (timeLeft deadline).Timed tb N fun r evs d =>
      (D - N ≤ 0 ∧ r = .ok none ∨ 0 < D - N ∧ ∃ v, Value.Seconds tb v (D - N) ∧ r = .ok (some v)) ∧
      evs = [] ∧ d = 0 := by
  unfold timeLeft
  refine Act.Timed.now_bind fun now hnow => ?_
  obtain ⟨left, hleft, hsecs⟩ := Value.minus_seconds hD hnow hfit
  refine Act.Timed.ofExcept_ok_bind hleft ?_
  refine Act.Timed.ofExcept_ok_bind
    (Value.atMost_seconds hsecs (Value.seconds_int (Timebase.fits_zero tb))) ?_
  by_cases h : D - N ≤ 0
  · rw [decide_eq_true h]
    exact Act.Timed.of_pure ⟨.inl ⟨h, rfl⟩, rfl, rfl⟩
  · rw [decide_eq_false h]
    exact Act.Timed.of_pure ⟨.inr ⟨by omega, left, hsecs, rfl⟩, rfl, rfl⟩

/-- A bounded sleep is one wait for the interval or the time left, whichever is shorter. -/
theorem sleepWithin_timed {interval remaining : Value} (hI : Value.Seconds tb interval I)
    (hR : Value.Seconds tb remaining R) (N : Int) (hfit : tb.Fits (N + min I R)) :
    (sleepWithin interval remaining).Timed tb N fun r evs d =>
      r = .ok () ∧ (∃ v, Value.Seconds tb v (min I R) ∧ evs = [.sleep v]) ∧ d = min I R := by
  obtain ⟨v, hv, hsecs⟩ := Value.least_seconds hI hR
  unfold sleepWithin
  refine Act.Timed.ofExcept_ok_bind hv ((Act.timed_sleep hsecs N hfit).mono ?_)
  rintro r evs d ⟨hr, he, hd⟩
  exact ⟨hr, ⟨v, hsecs, he⟩, hd⟩

end Round

end VolumeLifecycle.Lifecycle
