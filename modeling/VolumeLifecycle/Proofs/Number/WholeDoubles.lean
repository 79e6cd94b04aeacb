import Mathlib
import VolumeLifecycle.Number.Binary
/-!
# VolumeLifecycle.Proofs.Number.WholeDoubles

**Doubles that hold whole numbers.** Timeouts and intervals read from the environment are
doubles (`float("25")` is `25.0`), and so are the clock readings and deadlines computed from
them. On whole numbers of at most 53 bits the IEEE operations are exact: this module proves it
against the binary64 model of the core library (`Float.Model`), and ties that model to the
reading of a double's bits the program uses (`Binary.ofBits`).

* `wholeForm z n` — the unpacked double of the whole number `n`, its magnitude's bits moved up
  to fill a 53-bit mantissa; `z` is the sign of zero;
* `round_whole`, `normalize_whole` — rounding an exact result to the double of a whole number
  keeps it;
* `Binary.toInt?_wholeForm`, `unpack_eq_wholeForm` — a double holds the whole number `n` exactly
  when it is `n`'s double;
* `HoldsWhole x n` — the double `x` holds `n`, `|n| ≤ 2 ^ 53`; `HoldsWhole.add`,
  `HoldsWhole.sub` (when the result has at most 53 bits too), `HoldsWhole.lt`,
  `HoldsWhole.beq` and `Binary.compareInt_of_toInt?` — arithmetic and order on such doubles are
  those of the numbers;
* `Binary.ofInt?_whole` — every whole number of at most 53 bits becomes a double exactly.

## Proof shape

The model unpacks a double into a sign, a mantissa and an exponent, operates on the mantissas at
the smaller exponent, and rounds the result back (`normalize`, `round`). For whole numbers the
mantissas are the numbers scaled by a power of two (`wholeMantissa_mul`), the exponents are at
least `-52`, so every operation's exact result is again a whole number at an exponent of at
least `-52`, and `round_whole` shows the rounding then shifts out only zeros.
-/

open Float.Model Float.Model.UnpackedFloat

namespace VolumeLifecycle.Number

/-! ## Reading the bits -/

/-- What an unpacked double stands for; a zero is the least subnormal exponent times `0`. -/
def Binary.ofUnpacked : UnpackedFloat → Binary
  | .notANumber => .nan
  | .infinity s => .infinite (s == .negative)
  | .zero s => .finite (s == .negative) 0 (-1074)
  | .finite s m e _ => .finite (s == .negative) m e

theorem signField_toNat (b : UInt64) : ((b >>> 63) == 1) = (b.toNat / 2 ^ 63 == 1) := by
  rw [Bool.eq_iff_iff, beq_iff_eq, beq_iff_eq, ← UInt64.toNat_inj]
  simp [Nat.shiftRight_eq_div_pow]

theorem exponentField_toNat (b : UInt64) : ((b >>> 52) &&& 0x7FF).toNat = b.toNat / 2 ^ 52 % 2 ^ 11 := by
  simp only [UInt64.toNat_and, UInt64.toNat_shiftRight]
  rw [← Nat.shiftRight_eq_div_pow]
  exact Nat.and_two_pow_sub_one_eq_mod _ 11

theorem fractionField_toNat (b : UInt64) : (b &&& 0xFFFFFFFFFFFFF).toNat = b.toNat % 2 ^ 52 := by
  simp only [UInt64.toNat_and]
  exact Nat.and_two_pow_sub_one_eq_mod _ 52

theorem signBit_eq (b : UInt64) :
    ((b >>> 63) == 1) = (Sign.ofBitVec (@unpackSign .binary64 b.toBitVec) == .negative) := by
  have hv : (@unpackSign .binary64 b.toBitVec).toNat = b.toNat >>> 63 := by
    simp only [unpackSign, BitVec.extractLsb]
    simp
    have : b.toNat < 2 ^ 64 := b.toBitVec.isLt
    rw [Nat.shiftRight_eq_div_pow]; omega
  have hsign : ∀ v : BitVec 1, (Sign.ofBitVec v == .negative) = (v.toNat == 1) := by decide
  rw [hsign, hv, Bool.eq_iff_iff, beq_iff_eq, beq_iff_eq, ← UInt64.toNat_inj]
  simp

theorem exponentField_eq (b : UInt64) :
    ((b >>> 52) &&& 0x7FF).toNat = (@unpackExponent .binary64 b.toBitVec).toNat := by
  simp [unpackExponent, BitVec.extractLsb, UInt64.toNat_and]
  exact Nat.and_two_pow_sub_one_eq_mod _ 11

theorem fractionField_eq (b : UInt64) :
    (b &&& 0xFFFFFFFFFFFFF).toNat = (@unpackMantissa .binary64 b.toBitVec).toNat := by
  simp [unpackMantissa, BitVec.extractLsb, UInt64.toNat_and]
  exact Nat.and_two_pow_sub_one_eq_mod _ 52


theorem toNat_one_append {w : Nat} (v : BitVec w) : (1#1 ++ v).toNat = 2 ^ w + v.toNat := by
  rw [BitVec.toNat_append, ← Nat.shiftLeft_add_eq_or_of_lt v.isLt]
  simp [Nat.shiftLeft_eq]

theorem Sign.beq_negative (s : Sign) : (s == .negative) = true ↔ s = .negative := by
  cases s
  · exact ⟨fun _ => rfl, fun _ => rfl⟩
  · exact ⟨fun h => absurd h (by decide), fun h => by cases h⟩

/-- The program's reading of a double's bits is the model's unpacking: NaN, an infinity, a
subnormal mantissa at the least exponent, or a normal one with its leading bit put back. -/
theorem Binary.ofBits_eq_ofUnpacked (b : UInt64) :
    Binary.ofBits b = Binary.ofUnpacked (UnpackedFloat.unpack .binary64 b.toBitVec) := by
  rw [Binary.ofBits]
  simp only [signBit_eq, exponentField_eq, fractionField_eq]
  unfold UnpackedFloat.unpack
  simp only []
  have hbias : ((Format.binary64.exponentBias : Nat) : Int) = 1023 := rfl
  generalize @unpackExponent .binary64 b.toBitVec = E
  generalize Sign.ofBitVec (@unpackSign .binary64 b.toBitVec) = s
  have hE1 : E = -1#11 ↔ E.toNat = 2047 := by rw [← BitVec.toNat_inj]; simp
  have hE0 : E = 0#11 ↔ E.toNat = 0 := by rw [← BitVec.toNat_inj]; simp
  have hM0 : @unpackMantissa .binary64 b.toBitVec = 0#52 ↔
      (@unpackMantissa .binary64 b.toBitVec).toNat = 0 := by
    rw [← BitVec.toNat_inj]; simp
  by_cases h1 : E.toNat = 2047
  · rw [if_pos (hE1.2 h1)]
    by_cases h2 : (@unpackMantissa .binary64 b.toBitVec).toNat = 0
    · simp [h1, hM0.2 h2, Binary.ofUnpacked]
    · simp [h1, h2, mt hM0.1 h2, Binary.ofUnpacked]
  · rw [if_neg (mt hE1.1 h1)]
    by_cases h3 : E.toNat = 0
    · rw [if_pos (hE0.2 h3)]
      by_cases h2 : (@unpackMantissa .binary64 b.toBitVec).toNat = 0
      · simp [h3, hM0.2 h2, Binary.ofUnpacked]
      · simp [h3, mt hM0.1 h2, Binary.ofUnpacked, hbias]
    · rw [if_neg (mt hE0.1 h3)]
      simp only [Binary.ofUnpacked, toNat_one_append, hbias, h1, h3, beq_iff_eq, if_false]
      congr 1
      exact Nat.add_comm _ _

/-- What a double stands for, read off its unpacked form. -/
theorem Binary.ofFloat_eq_ofUnpacked (x : Float) :
    Binary.ofFloat x = Binary.ofUnpacked x.toModel.unpack :=
  Binary.ofBits_eq_ofUnpacked x.toBits

/-! ## Whole mantissas -/

/-- The mantissa of the double that holds the whole number `v`: its bits moved up to fill the
53 of a normal double, `v · 2 ^ 52 / 2 ^ log₂ v`. -/
def wholeMantissa (v : Nat) : Nat := v * 2 ^ 52 / 2 ^ v.log2

/-- Scaling by `2 ^ j` moves the leading bit up by `j`. -/
theorem log2_mul_two_pow {m : Nat} (h0 : m ≠ 0) (j : Nat) : (m * 2 ^ j).log2 = m.log2 + j := by
  rw [Nat.log2_eq_iff (Nat.mul_ne_zero h0 (Nat.pos_iff_ne_zero.1 (Nat.two_pow_pos _)))]
  constructor
  · rw [Nat.pow_add]; exact Nat.mul_le_mul_right _ (Nat.log2_self_le h0)
  · rw [show m.log2 + j + 1 = m.log2 + 1 + j by omega, Nat.pow_add]
    exact Nat.mul_lt_mul_of_pos_right Nat.lt_log2_self (Nat.two_pow_pos _)

section Whole

variable {v : Nat}

theorem log2_le_of_whole (hv : v ≤ 2 ^ 53) (h0 : v ≠ 0) : v.log2 ≤ 53 :=
  Nat.lt_succ_iff.1 ((Nat.log2_lt h0).2 (by omega))

/-- A whole number of at most 53 bits fills a mantissa without a remainder. -/
theorem wholeMantissa_mul (h0 : v ≠ 0) (hv : v ≤ 2 ^ 53) :
    wholeMantissa v * 2 ^ v.log2 = v * 2 ^ 52 := by
  have hdvd : 2 ^ v.log2 ∣ v * 2 ^ 52 := by
    by_cases hL : v.log2 ≤ 52
    · exact Nat.dvd_mul_left_of_dvd (Nat.pow_dvd_pow 2 hL) v
    · -- the one number of 54 bits allowed is `2 ^ 53` itself
      have hL53 : v.log2 = 53 := by have := log2_le_of_whole hv h0; omega
      have hv53 : v = 2 ^ 53 := by
        have := Nat.log2_self_le h0
        rw [hL53] at this
        omega
      rw [hL53, hv53]
      exact Nat.dvd_mul_right _ _
  exact Nat.div_mul_cancel hdvd

theorem wholeMantissa_bounds (h0 : v ≠ 0) (hv : v ≤ 2 ^ 53) :
    2 ^ 52 ≤ wholeMantissa v ∧ wholeMantissa v < 2 ^ 53 := by
  have hmul := wholeMantissa_mul h0 hv
  have hlo := Nat.log2_self_le h0
  have hhi : v < 2 ^ (v.log2 + 1) := Nat.lt_log2_self
  have hpos : 0 < 2 ^ v.log2 := Nat.two_pow_pos _
  constructor
  · refine Nat.le_of_mul_le_mul_right ?_ hpos
    rw [hmul, Nat.mul_comm]
    exact Nat.mul_le_mul_right _ hlo
  · refine Nat.lt_of_mul_lt_mul_right (a := 2 ^ v.log2) ?_
    rw [hmul, show 2 ^ 53 * 2 ^ v.log2 = 2 ^ (v.log2 + 1) * 2 ^ 52 by
      rw [← Nat.pow_add, ← Nat.pow_add]; congr 1; omega]
    exact Nat.mul_lt_mul_of_pos_right hhi (Nat.two_pow_pos _)

/-- A number of 53 or 54 bits is its mantissa scaled up. -/
theorem wholeMantissa_mul_of_le (h0 : v ≠ 0) (hv : v ≤ 2 ^ 53) (hL : 52 ≤ v.log2) :
    wholeMantissa v * 2 ^ (v.log2 - 52) = v := by
  refine Nat.eq_of_mul_eq_mul_right (Nat.two_pow_pos 52) ?_
  rw [Nat.mul_assoc, ← Nat.pow_add, Nat.sub_add_cancel hL, wholeMantissa_mul h0 hv]

/-- A number of fewer bits is its mantissa with the zeros below it dropped. -/
theorem wholeMantissa_of_lt (h0 : v ≠ 0) (hv : v ≤ 2 ^ 53) (hL : v.log2 < 52) :
    wholeMantissa v = v * 2 ^ (52 - v.log2) := by
  refine Nat.eq_of_mul_eq_mul_right (Nat.two_pow_pos v.log2) ?_
  rw [wholeMantissa_mul h0 hv, Nat.mul_assoc, ← Nat.pow_add, Nat.sub_add_cancel (Nat.le_of_lt hL)]

/-- A normal mantissa scaled by `2 ^ j` is the whole number `v` scaled by `2 ^ 52` only as
`wholeMantissa v` at `j = log₂ v`: a normal double has one form. -/
theorem eq_wholeMantissa {m j : Nat} (hlo : 2 ^ 52 ≤ m) (hhi : m < 2 ^ 53) (h0 : v ≠ 0)
    (hv : v ≤ 2 ^ 53) (h : m * 2 ^ j = v * 2 ^ 52) : j = v.log2 ∧ m = wholeMantissa v := by
  -- both sides have their leading bit at `52 + j`, and at `log₂ v + 52`
  have hm : m.log2 = 52 := (Nat.log2_eq_iff (by omega)).2 ⟨hlo, hhi⟩
  have hlog := congrArg Nat.log2 h
  rw [log2_mul_two_pow (by omega), log2_mul_two_pow h0, hm] at hlog
  have hj : j = v.log2 := by omega
  refine ⟨hj, ?_⟩
  subst hj
  exact Nat.eq_of_mul_eq_mul_right (Nat.two_pow_pos _) (h.trans (wholeMantissa_mul h0 hv).symm)

end Whole

theorem wholeMantissa_pos {v : Nat} (h0 : v ≠ 0) : 0 < wholeMantissa v :=
  Nat.div_pos (Nat.le_trans (Nat.log2_self_le h0) (Nat.le_mul_of_pos_right _ (Nat.two_pow_pos _)))
    (Nat.two_pow_pos _)

/-! ## Rounding is exact -/

section Rounding

variable {m v : Nat} {e : Int}

/-- Where a mantissa `m` at exponent `e` that is the whole number `v` is rounded to. -/
theorem targetExponent_whole (h0 : v ≠ 0) (he : -52 ≤ e) (h : m * 2 ^ (e + 52).toNat = v * 2 ^ 52) :
    Format.binary64.targetExponent (totalExponent m e) = (v.log2 : Int) - 52 := by
  have hm0 : m ≠ 0 := by
    rintro rfl
    rw [Nat.zero_mul] at h
    exact absurd h.symm (Nat.mul_ne_zero h0 (Nat.pos_iff_ne_zero.1 (Nat.two_pow_pos _)))
  have hlog := congrArg Nat.log2 h
  rw [log2_mul_two_pow hm0, log2_mul_two_pow h0] at hlog
  simp only [Format.targetExponent, totalExponent, Format.mantissaBits, Format.minExponent]
  omega

/-- Shifting out bits that are all zero loses nothing. -/
theorem shift_exact (M k : Nat) :
    (ExtendedMantissa.ofMantissaAndAccuracy (M * 2 ^ k) .exact) >>> k = ⟨M, false, false⟩ := by
  suffices ∀ j, ExtendedMantissa.mk (M * 2 ^ (j + k)) false false >>> k =
      ⟨M * 2 ^ j, false, false⟩ by
    simpa [ExtendedMantissa.ofMantissaAndAccuracy] using this 0
  induction k with
  | zero => intro j; rfl
  | succ k ih =>
    intro j
    show ExtendedMantissa.shiftRightOne (ExtendedMantissa.mk (M * 2 ^ (j + (k + 1))) false false >>> k) = _
    rw [show j + (k + 1) = (j + 1) + k by omega, ih (j + 1)]
    simp [ExtendedMantissa.shiftRightOne, Nat.pow_succ, ← Nat.mul_assoc]

/-- **Rounding is exact on whole numbers of at most 53 bits.** A mantissa `m` at an exponent
`e ≥ -52` that is the whole number `v` rounds to the normal double of `v`, whatever the form. -/
theorem round_whole (s : Sign) (h0 : v ≠ 0) (hv : v ≤ 2 ^ 53) (he : -52 ≤ e)
    (h : m * 2 ^ (e + 52).toNat = v * 2 ^ 52) :
    UnpackedFloat.round .binary64 s m e =
      .finite s (wholeMantissa v) ((v.log2 : Int) - 52) (wholeMantissa_pos h0) := by
  have ht := targetExponent_whole h0 he h
  -- the exponent is lowered to the target, which keeps the value
  have hlow : m <<< (e - ((v.log2 : Int) - 52)).toNat *
      2 ^ (e - ((e - ((v.log2 : Int) - 52)).toNat : Int) + 52).toNat = v * 2 ^ 52 := by
    rw [Nat.shiftLeft_eq, Nat.mul_assoc, ← Nat.pow_add, ← h]
    congr 2
    omega
  have ht1 := targetExponent_whole h0 (by omega) hlow
  -- the lowered mantissa is the whole mantissa followed by zeros, so shifting them out is exact
  have hbits : m <<< (e - ((v.log2 : Int) - 52)).toNat = wholeMantissa v *
      2 ^ ((v.log2 : Int) - 52 - (e - ((e - ((v.log2 : Int) - 52)).toNat : Int))).toNat := by
    have hm := wholeMantissa_mul h0 hv
    refine Nat.eq_of_mul_eq_mul_right (Nat.two_pow_pos
      (e - ((e - ((v.log2 : Int) - 52)).toNat : Int) + 52).toNat) ?_
    rw [hlow, Nat.mul_assoc, ← Nat.pow_add, ← hm]
    congr 2
    omega
  have htw : Format.binary64.targetExponent
      (totalExponent (wholeMantissa v) ((v.log2 : Int) - 52)) = (v.log2 : Int) - 52 :=
    targetExponent_whole h0 (by omega) (by rw [← wholeMantissa_mul h0 hv]; congr 2; omega)
  have hexp : e - ((e - ((v.log2 : Int) - 52)).toNat : Int) +
      (((v.log2 : Int) - 52 - (e - ((e - ((v.log2 : Int) - 52)).toNat : Int))).toNat : Int) =
      (v.log2 : Int) - 52 := by omega
  simp only [UnpackedFloat.round, decreaseExponent, ht, roundWithAccuracy, shiftToTargetExponent,
    shiftToExponent]
  simp only [ht1]
  simp only [hbits, shift_exact]
  simp only [hexp]
  have hrounded : (ExtendedMantissa.mk (wholeMantissa v) false false).roundedMantissa =
      wholeMantissa v := rfl
  have hkept : ExtendedMantissa.ofMantissaAndAccuracy (wholeMantissa v) .exact >>> 0 =
      ⟨wholeMantissa v, false, false⟩ := rfl
  simp only [hrounded, htw, Int.sub_self, Int.toNat_zero, hkept, Int.natCast_zero, Int.add_zero]
  rw [dif_neg (Nat.pos_iff_ne_zero.1 (wholeMantissa_pos h0))]

end Rounding

/-! ## The double of a whole number -/

/-- The sign a double gives the whole number `n`. -/
def signOf (n : Int) : Sign := if n < 0 then .negative else .positive

theorem signOf_negative (n : Int) : signOf n = .negative ↔ n < 0 := by
  unfold signOf
  by_cases h : n < 0
  · rw [if_pos h]
    exact ⟨fun _ => h, fun _ => rfl⟩
  · rw [if_neg h]
    exact ⟨fun h' => (by cases h'), fun h' => absurd h' h⟩

/-- The unpacked double that holds the whole number `n`: its magnitude's bits fill a normal
mantissa; zero takes the sign `z`. -/
def wholeForm (z : Sign) (n : Int) : UnpackedFloat :=
  if h : n.natAbs = 0 then .zero z
  else .finite (signOf n) (wholeMantissa n.natAbs) ((n.natAbs.log2 : Int) - 52) (wholeMantissa_pos h)

theorem wholeForm_zero (z : Sign) : wholeForm z 0 = .zero z := rfl

theorem wholeForm_of_ne_zero (z : Sign) {n : Int} (h0 : n.natAbs ≠ 0) :
    wholeForm z n = .finite (signOf n) (wholeMantissa n.natAbs) ((n.natAbs.log2 : Int) - 52)
      (wholeMantissa_pos h0) := by
  simp only [wholeForm, dif_neg h0]

theorem sign_packComponents (s : Sign) (ev : BitVec 11) (mv : BitVec 52) :
    Sign.ofBitVec (unpackSign (packComponents .binary64 s ev mv)) = s := by
  simp only [unpackSign, packComponents, BitVec.extractLsb]
  rw [BitVec.extractLsb'_append_eq_of_le (by omega), BitVec.extractLsb'_append_eq_of_le (by omega)]
  cases s <;> rfl

/-- Packing the double of a whole number and unpacking it again gives it back. -/
theorem unpack_pack_wholeForm (z : Sign) {n : Int} (hn : n.natAbs ≤ 2 ^ 53) :
    unpack .binary64 (pack .binary64 (wholeForm z n)) = wholeForm z n := by
  unfold wholeForm
  split
  · cases z <;> rfl
  · rename_i h0
    obtain ⟨hlo, hhi⟩ := wholeMantissa_bounds h0 hn
    have hL := log2_le_of_whole hn h0
    have hlog : (wholeMantissa n.natAbs).log2 = 52 :=
      (Nat.log2_eq_iff (Nat.pos_iff_ne_zero.1 (wholeMantissa_pos h0))).2 ⟨hlo, hhi⟩
    have hbiased : ((n.natAbs.log2 : Int) - 52 + (Format.binary64.exponentBias : Nat) +
        (Format.binary64.mantissaBitsWithoutImplicit : Nat)).toNat = n.natAbs.log2 + 1023 := by
      show ((n.natAbs.log2 : Int) - 52 + ((2 ^ (11 - 1) - 1 : Nat) : Int) + (52 : Nat)).toNat = _
      omega
    rw [UnpackedFloat.pack]
    simp only [hlog, hbiased]
    rw [if_neg (by omega), if_pos (by simp [Format.mantissaBits]), UnpackedFloat.unpack]
    simp only [unpackMantissa_packComponents, unpackExponent_packComponents, sign_packComponents]
    have hne1 : BitVec.ofNat 11 (n.natAbs.log2 + 1023) ≠ -1#11 := by
      intro heq
      have := congrArg BitVec.toNat heq
      simp [BitVec.toNat_ofNat] at this
      omega
    have hne0 : BitVec.ofNat 11 (n.natAbs.log2 + 1023) ≠ 0#11 := by
      intro heq
      have := congrArg BitVec.toNat heq
      simp [BitVec.toNat_ofNat] at this
      omega
    rw [if_neg hne1, if_neg hne0]
    have hmant : (1#1 ++ BitVec.ofNat 52 (wholeMantissa n.natAbs)).toNat = wholeMantissa n.natAbs := by
      rw [toNat_one_append, BitVec.toNat_ofNat]
      omega
    have hbias : ((Format.binary64.exponentBias : Nat) : Int) = 1023 := rfl
    have hE : (((n.natAbs.log2 + 1023) % 2 ^ 11 : Nat) : Int) - (1023 + ((52 : Nat) : Int)) =
        (n.natAbs.log2 : Int) - 52 := by
      rw [Nat.mod_eq_of_lt (by omega)]
      omega
    simp only [hmant, BitVec.toNat_ofNat, hbias, hE]

/-- The finite forms `unpack` gives: a subnormal one at the least exponent, or a normal one with
a full 53-bit mantissa. -/
theorem unpack_finite {b : BitVec 64} {s : Sign} {m : Nat} {e : Int} {hm : 0 < m}
    (h : unpack .binary64 b = .finite s m e hm) :
    (e = -1074 ∧ m < 2 ^ 52) ∨ (2 ^ 52 ≤ m ∧ m < 2 ^ 53 ∧ -1074 ≤ e) := by
  have hbias : ((Format.binary64.exponentBias : Nat) : Int) = 1023 := rfl
  have hmlt : (@unpackMantissa .binary64 b).toNat < 2 ^ 52 :=
    (@unpackMantissa .binary64 b).isLt
  unfold UnpackedFloat.unpack at h
  simp only [] at h
  split at h
  · split at h <;> cases h
  · split at h
    · split at h
      · cases h
      · -- subnormal
        rename_i hE _
        cases h
        left
        have hE0 : (@unpackExponent .binary64 b).toNat = 0 := by rw [hE]; rfl
        refine ⟨?_, hmlt⟩
        rw [hE0, hbias]
        rfl
    · -- normal
      rename_i hE1 hE0
      cases h
      right
      have hE0' : (@unpackExponent .binary64 b).toNat ≠ 0 := fun h' =>
        hE0 (BitVec.toNat_inj.mp (by simpa using h'))
      rw [toNat_one_append, show 2 ^ Format.binary64.mantissaBitsWithoutImplicit = 2 ^ 52 from rfl]
      refine ⟨by omega, by omega, ?_⟩
      rw [hbias]
      show (-1074 : Int) ≤ _ - (1023 + ((52 : Nat) : Int))
      omega

/-! ## Reading a whole number off a double -/

/-- The whole number a finite double with a mantissa below `2 ^ 53` holds: its exponent is at
least `-52`, the mantissa scaled by `2 ^ (q + 52)` is the number's magnitude scaled by
`2 ^ 52`, and the sign is the number's. -/
theorem Binary.toInt?_finite {neg : Bool} {m : Nat} {q n : Int} (hm0 : m ≠ 0) (hm : m < 2 ^ 53)
    (h : (Binary.finite neg m q).toInt? = some n) :
    -52 ≤ q ∧ m * 2 ^ (q + 52).toNat = n.natAbs * 2 ^ 52 ∧ (neg = true ↔ n < 0) := by
  simp only [Binary.toInt?, Nat.pow_eq, Option.map_eq_some_iff, Option.pure_def,
    Option.bind_eq_bind, Option.bind_eq_some_iff, Option.some.injEq] at h
  obtain ⟨k, ⟨a, ha, rfl⟩, hn⟩ := h
  -- the magnitude `a` and the sign are read apart
  have hsign : a ≠ 0 → n.natAbs = a ∧ (neg = true ↔ n < 0) := by
    intro ha0
    subst hn
    cases neg
    · simp only [Bool.false_eq_true, if_false, Int.natAbs_natCast, false_iff, Int.not_lt,
        Int.natCast_nonneg, and_self]
    · simp only [if_true, Int.natAbs_neg, Int.natAbs_natCast, Int.neg_neg_iff_pos, Int.natCast_pos,
        true_iff, true_and]
      omega
  by_cases hq : q ≥ 0
  · -- a whole exponent scales the mantissa up
    rw [if_pos hq, Option.some.injEq] at ha
    subst ha
    obtain ⟨habs, hneg⟩ := hsign (Nat.mul_ne_zero hm0 (Nat.pos_iff_ne_zero.1 (Nat.two_pow_pos _)))
    refine ⟨by omega, ?_, hneg⟩
    rw [habs, Nat.mul_assoc, ← Nat.pow_add]
    congr 2
    omega
  · -- a negative exponent divides it, exactly
    rw [if_neg hq] at ha
    by_cases hdiv : m % 2 ^ (-q).toNat = 0
    · rw [if_pos (beq_iff_eq.2 hdiv), Option.some.injEq] at ha
      subst ha
      have hk : m / 2 ^ (-q).toNat ≠ 0 := by
        intro hk
        have := Nat.div_add_mod m (2 ^ (-q).toNat)
        rw [hk, hdiv] at this
        omega
      obtain ⟨habs, hneg⟩ := hsign hk
      have hm' : m / 2 ^ (-q).toNat * 2 ^ (-q).toNat = m :=
        Nat.div_mul_cancel (Nat.dvd_of_mod_eq_zero hdiv)
      -- the divisor is at most the mantissa, so at most `2 ^ 52`
      have hp : (-q).toNat ≤ 52 := by
        have hle : 2 ^ (-q).toNat ≤ m := by
          rw [← hm']
          exact Nat.le_mul_of_pos_left _ (Nat.pos_of_ne_zero hk)
        have := Nat.lt_of_le_of_lt hle hm
        exact Nat.lt_succ_iff.1 ((Nat.pow_lt_pow_iff_right (by omega)).1 this)
      refine ⟨by omega, ?_, hneg⟩
      calc m * 2 ^ (q + 52).toNat
          = m / 2 ^ (-q).toNat * 2 ^ (-q).toNat * 2 ^ (q + 52).toNat := by rw [hm']
        _ = n.natAbs * 2 ^ 52 := by
          rw [habs, Nat.mul_assoc, ← Nat.pow_add]
          congr 2
          omega
    · rw [if_neg (by simpa using hdiv)] at ha
      cases ha

/-- The double of a whole number holds it. -/
theorem Binary.toInt?_wholeForm (z : Sign) {n : Int} (hn : n.natAbs ≤ 2 ^ 53) :
    (Binary.ofUnpacked (wholeForm z n)).toInt? = some n := by
  unfold wholeForm
  split
  · rename_i h0
    have hn0 : n = 0 := Int.natAbs_eq_zero.1 h0
    subst hn0
    cases z <;> simp only [Binary.ofUnpacked, Binary.toInt?, Nat.pow_eq, Nat.zero_mod, Nat.zero_div,
      beq_self_eq_true, if_true] <;> rfl
  · rename_i h0
    have hmul := wholeMantissa_mul h0 hn
    have hL := log2_le_of_whole hn h0
    have hsigned : (if (signOf n == .negative) = true then -(n.natAbs : Int) else n.natAbs) = n := by
      by_cases hneg : n < 0
      · rw [if_pos ((Sign.beq_negative _).2 ((signOf_negative n).2 hneg))]
        omega
      · rw [if_neg (fun h => hneg ((signOf_negative n).1 ((Sign.beq_negative _).1 h)))]
        omega
    simp only [Binary.ofUnpacked, Binary.toInt?, Nat.pow_eq]
    by_cases hq : (n.natAbs.log2 : Int) - 52 ≥ 0
    · -- 53 or 54 bits: the mantissa is the number, or half of `2 ^ 53`
      have hm : wholeMantissa n.natAbs * 2 ^ ((n.natAbs.log2 : Int) - 52).toNat = n.natAbs := by
        rw [show ((n.natAbs.log2 : Int) - 52).toNat = n.natAbs.log2 - 52 by omega]
        exact wholeMantissa_mul_of_le h0 hn (by omega)
      rw [if_pos hq, hm]
      exact congrArg some hsigned
    · -- fewer bits: the mantissa is the number followed by zeros
      have hm : wholeMantissa n.natAbs = n.natAbs * 2 ^ ((-((n.natAbs.log2 : Int) - 52)).toNat) := by
        rw [show (-((n.natAbs.log2 : Int) - 52)).toNat = 52 - n.natAbs.log2 by omega]
        exact wholeMantissa_of_lt h0 hn (by omega)
      have hpos : 0 < 2 ^ ((-((n.natAbs.log2 : Int) - 52)).toNat) := Nat.two_pow_pos _
      rw [if_neg hq, hm, Nat.mul_mod_left, Nat.mul_div_cancel _ hpos]
      exact congrArg some hsigned

/-- A double that holds a whole number of at most 53 bits is that number's double, up to the
sign of zero. -/
theorem unpack_eq_wholeForm {b : BitVec 64} {n : Int}
    (h : (Binary.ofUnpacked (unpack .binary64 b)).toInt? = some n) (hn : n.natAbs ≤ 2 ^ 53) :
    ∃ z, unpack .binary64 b = wholeForm z n := by
  cases hu : unpack .binary64 b with
  | notANumber => rw [hu] at h; cases h
  | infinity s => rw [hu] at h; cases h
  | zero z =>
    rw [hu] at h
    have h0 : (Binary.ofUnpacked (.zero z)).toInt? = some 0 :=
      Binary.toInt?_wholeForm z (n := 0) (by decide)
    have hn0 : n = 0 := Option.some.inj (h.symm.trans h0)
    subst hn0
    exact ⟨z, rfl⟩
  | finite s m e hm =>
    rw [hu] at h
    rcases unpack_finite hu with ⟨rfl, hsub⟩ | ⟨hlo, hhi, -⟩
    · -- a subnormal mantissa is below the divisor `2 ^ 1074`, so it holds no whole number
      have := (Binary.toInt?_finite (Nat.pos_iff_ne_zero.1 hm) (by omega) h).1
      omega
    · obtain ⟨he, hval, hneg⟩ := Binary.toInt?_finite (Nat.pos_iff_ne_zero.1 hm) hhi h
      have hn0 : n.natAbs ≠ 0 := by
        intro h0
        rw [h0, Nat.zero_mul] at hval
        exact Nat.pos_iff_ne_zero.1 hm ((Nat.mul_eq_zero.1 hval).resolve_right
          (Nat.pos_iff_ne_zero.1 (Nat.two_pow_pos _)))
      obtain ⟨hj, rfl⟩ := eq_wholeMantissa hlo hhi hn0 hn hval
      refine ⟨.positive, ?_⟩
      have hs : s = signOf n := by
        have hneg' : s = .negative ↔ n < 0 := (Sign.beq_negative s).symm.trans hneg
        cases s
        · exact ((signOf_negative n).2 (hneg'.1 rfl)).symm
        · by_cases hn : n < 0
          · cases hneg'.2 hn
          · unfold signOf; rw [if_neg hn]
      subst hs
      simp only [wholeForm, dif_neg hn0]
      congr 1
      omega

/-! ## Arithmetic -/

/-- **Normalizing an exact result.** An integer mantissa `M` at an exponent `e ≥ -52` whose value
is a whole number `c` of at most 53 bits normalizes to the double of `c`. -/
theorem normalize_whole {M e c : Int} (z : Sign) (he : -52 ≤ e) (hc : c.natAbs ≤ 2 ^ 53)
    (h : M * 2 ^ (e + 52).toNat = c * 2 ^ 52) :
    UnpackedFloat.normalize .binary64 M e z = wholeForm z c := by
  have hpow : (0 : Int) < 2 ^ (e + 52).toNat := Int.pow_pos (by decide)
  have hpow52 : (0 : Int) < 2 ^ 52 := by decide
  -- the mantissa and the number have one sign
  have hsign : (M < 0 ↔ c < 0) ∧ (M = 0 ↔ c = 0) := by
    constructor
    · constructor
      · intro hM
        have : M * 2 ^ (e + 52).toNat < 0 := Int.mul_neg_of_neg_of_pos hM hpow
        rw [h] at this
        exact Int.neg_of_mul_neg_left this hpow52
      · intro hc'
        have : c * 2 ^ 52 < 0 := Int.mul_neg_of_neg_of_pos hc' hpow52
        rw [← h] at this
        exact Int.neg_of_mul_neg_left this hpow
    · constructor
      · rintro rfl
        rw [Int.zero_mul] at h
        exact ((Int.mul_eq_zero.1 h.symm).resolve_right (Int.ne_of_gt hpow52))
      · rintro rfl
        rw [Int.zero_mul] at h
        exact ((Int.mul_eq_zero.1 h).resolve_right (Int.ne_of_gt hpow))
  -- its magnitude is the number's magnitude, at the same scale
  have habs : M.natAbs * 2 ^ (e + 52).toNat = c.natAbs * 2 ^ 52 := by
    have := congrArg Int.natAbs h
    simpa [Int.natAbs_mul, Int.natAbs_pow] using this
  unfold UnpackedFloat.normalize
  split
  · rename_i hlt
    have hM : M < 0 := Int.compare_eq_lt.1 hlt
    have hc0 : c.natAbs ≠ 0 := by have := hsign.1.1 hM; omega
    rw [round_whole .negative hc0 hc he (by rw [show (-M).toNat = M.natAbs by omega]; exact habs),
      wholeForm_of_ne_zero z hc0]
    rw [show signOf c = .negative from (signOf_negative c).2 (hsign.1.1 hM)]
  · rename_i heq
    have hM : M = 0 := Int.compare_eq_eq.1 heq
    rw [hsign.2.1 hM, wholeForm_zero]
  · rename_i hgt
    have hM : 0 < M := Int.compare_eq_gt.1 hgt
    have hc0 : c.natAbs ≠ 0 := by
      intro h0
      have := hsign.2.2 (Int.natAbs_eq_zero.1 h0)
      omega
    rw [round_whole .positive hc0 hc he (by rw [show M.toNat = M.natAbs by omega]; exact habs),
      wholeForm_of_ne_zero z hc0]
    have hcpos : ¬c < 0 := fun h' => absurd (hsign.1.2 h') (by omega)
    unfold signOf
    rw [if_neg hcpos]

theorem Sign.apply_mul (s : Sign) (x y : Int) : s.apply x * y = s.apply (x * y) := by
  cases s
  · exact Int.neg_mul x y
  · rfl

theorem signOf_apply_natAbs (a : Int) : (signOf a).apply (a.natAbs : Int) = a := by
  unfold signOf
  split
  · show -(a.natAbs : Int) = a
    omega
  · show (a.natAbs : Int) = a
    omega

theorem signOf_neg {b : Int} (h0 : b.natAbs ≠ 0) : signOf (-b) = -signOf b := by
  unfold signOf
  by_cases hb : b < 0
  · rw [if_pos hb, if_neg (by omega)]
    rfl
  · rw [if_neg hb, if_pos (by omega)]
    rfl

/-- The double of a nonzero whole number `a`, its mantissa moved down to an exponent `t` between
`-52` and its own: the signed mantissa, scaled by `2 ^ (t + 52)`, is `a` scaled by `2 ^ 52`. -/
theorem wholeForm_lowered {a : Int} (h0 : a.natAbs ≠ 0) (ha : a.natAbs ≤ 2 ^ 53) {t : Int}
    (ht : -52 ≤ t) (hte : t ≤ (a.natAbs.log2 : Int) - 52) :
    (signOf a).apply ((wholeMantissa a.natAbs <<< ((a.natAbs.log2 : Int) - 52 - t).toNat : Nat) : Int) *
      2 ^ (t + 52).toNat = a * 2 ^ 52 := by
  have hnat : wholeMantissa a.natAbs <<< ((a.natAbs.log2 : Int) - 52 - t).toNat * 2 ^ (t + 52).toNat =
      a.natAbs * 2 ^ 52 := by
    rw [Nat.shiftLeft_eq, Nat.mul_assoc, ← Nat.pow_add, ← wholeMantissa_mul h0 ha]
    congr 2
    omega
  rw [Sign.apply_mul, show (2 : Int) ^ (t + 52).toNat = ((2 ^ (t + 52).toNat : Nat) : Int) by
    push_cast; rfl, ← Int.natCast_mul, hnat, Int.natCast_mul, ← Sign.apply_mul,
    signOf_apply_natAbs, Int.natCast_pow]
  rfl

section Arithmetic

variable {a b : Int}

/-- The exponent of the double of a nonzero whole number of at most 53 bits lies in `[-52, 1]`. -/
theorem wholeExponent_bounds (h0 : a.natAbs ≠ 0) (ha : a.natAbs ≤ 2 ^ 53) :
    -52 ≤ (a.natAbs.log2 : Int) - 52 ∧ (a.natAbs.log2 : Int) - 52 ≤ 1 := by
  have := log2_le_of_whole ha h0
  omega

/-- Two nonzero whole numbers brought to the smaller of their exponents, and combined by `op`
(`+` or `-` on the signed mantissas), normalize to the double of the combined number. -/
theorem normalize_combined (op : Int → Int → Int) (hop : ∀ x y k : Int, op x y * k = op (x * k) (y * k))
    (z : Sign) (ha0 : a.natAbs ≠ 0) (hb0 : b.natAbs ≠ 0) (ha : a.natAbs ≤ 2 ^ 53)
    (hb : b.natAbs ≤ 2 ^ 53) (hab : (op a b).natAbs ≤ 2 ^ 53) :
    UnpackedFloat.normalize .binary64
      (op ((signOf a).apply ↑(wholeMantissa a.natAbs <<<
          ((a.natAbs.log2 : Int) - 52 - min ((a.natAbs.log2 : Int) - 52) ((b.natAbs.log2 : Int) - 52)).toNat))
        ((signOf b).apply ↑(wholeMantissa b.natAbs <<<
          ((b.natAbs.log2 : Int) - 52 - min ((a.natAbs.log2 : Int) - 52) ((b.natAbs.log2 : Int) - 52)).toNat)))
      (min ((a.natAbs.log2 : Int) - 52) ((b.natAbs.log2 : Int) - 52)) z = wholeForm z (op a b) := by
  obtain ⟨hea, -⟩ := wholeExponent_bounds ha0 ha
  obtain ⟨heb, -⟩ := wholeExponent_bounds hb0 hb
  refine normalize_whole z (by omega) hab ?_
  rw [hop, wholeForm_lowered ha0 ha (by omega) (Int.min_le_left _ _),
    wholeForm_lowered hb0 hb (by omega) (Int.min_le_right _ _), ← hop]

/-- **Subtraction is exact on whole numbers.** The difference of the doubles of two whole
numbers of at most 53 bits, when it has at most 53 bits too, is its double. -/
theorem sub_wholeForm (z₁ z₂ : Sign) (ha : a.natAbs ≤ 2 ^ 53) (hb : b.natAbs ≤ 2 ^ 53)
    (hab : (a - b).natAbs ≤ 2 ^ 53) :
    ∃ z, UnpackedFloat.sub .binary64 (wholeForm z₁ a) (wholeForm z₂ b) = wholeForm z (a - b) := by
  by_cases ha0 : a.natAbs = 0 <;> by_cases hb0 : b.natAbs = 0
  · -- two zeros
    obtain rfl := Int.natAbs_eq_zero.1 ha0
    obtain rfl := Int.natAbs_eq_zero.1 hb0
    simp only [wholeForm_zero, UnpackedFloat.sub]
    split
    · exact ⟨z₁, rfl⟩
    · exact ⟨.positive, rfl⟩
  · -- zero less a number is its negation
    obtain rfl := Int.natAbs_eq_zero.1 ha0
    refine ⟨.positive, ?_⟩
    have hneg : (0 - b).natAbs ≠ 0 := by omega
    rw [wholeForm_zero, wholeForm_of_ne_zero z₂ hb0, wholeForm_of_ne_zero .positive hneg]
    simp only [UnpackedFloat.sub]
    simp only [Int.zero_sub, signOf_neg hb0, Int.natAbs_neg]
  · -- a number less zero is itself
    obtain rfl := Int.natAbs_eq_zero.1 hb0
    refine ⟨.positive, ?_⟩
    rw [wholeForm_zero, wholeForm_of_ne_zero z₁ ha0, Int.sub_zero, wholeForm_of_ne_zero .positive ha0]
    rfl
  · refine ⟨.positive, ?_⟩
    rw [wholeForm_of_ne_zero z₁ ha0, wholeForm_of_ne_zero z₂ hb0]
    simp only [UnpackedFloat.sub, decreaseExponent]
    exact normalize_combined (· - ·) (fun x y k => Int.sub_mul x y k) .positive ha0 hb0 ha hb hab

/-- **Addition is exact on whole numbers**, on the same terms. -/
theorem add_wholeForm (z₁ z₂ : Sign) (ha : a.natAbs ≤ 2 ^ 53) (hb : b.natAbs ≤ 2 ^ 53)
    (hab : (a + b).natAbs ≤ 2 ^ 53) :
    ∃ z, UnpackedFloat.add .binary64 (wholeForm z₁ a) (wholeForm z₂ b) = wholeForm z (a + b) := by
  by_cases ha0 : a.natAbs = 0 <;> by_cases hb0 : b.natAbs = 0
  · obtain rfl := Int.natAbs_eq_zero.1 ha0
    obtain rfl := Int.natAbs_eq_zero.1 hb0
    simp only [wholeForm_zero, UnpackedFloat.add]
    split
    · exact ⟨z₁, rfl⟩
    · exact ⟨.positive, rfl⟩
  · obtain rfl := Int.natAbs_eq_zero.1 ha0
    refine ⟨z₂, ?_⟩
    rw [wholeForm_zero, wholeForm_of_ne_zero z₂ hb0, Int.zero_add, wholeForm_of_ne_zero z₂ hb0]
    rfl
  · obtain rfl := Int.natAbs_eq_zero.1 hb0
    refine ⟨z₁, ?_⟩
    rw [wholeForm_zero, wholeForm_of_ne_zero z₁ ha0, Int.add_zero, wholeForm_of_ne_zero z₁ ha0]
    rfl
  · refine ⟨.positive, ?_⟩
    rw [wholeForm_of_ne_zero z₁ ha0, wholeForm_of_ne_zero z₂ hb0]
    simp only [UnpackedFloat.add, decreaseExponent]
    exact normalize_combined (· + ·) (fun x y k => Int.add_mul x y k) .positive ha0 hb0 ha hb hab

end Arithmetic

/-! ## Order -/

section Order

/-- An ordering that is `lt` and `gt` exactly when `x < y` and `y < x` compares them. -/
theorem eq_compare_of_iff {o : Ordering} {x y : Int} (hlt : o = .lt ↔ x < y)
    (hgt : o = .gt ↔ y < x) : o = compare x y := by
  rcases Int.lt_trichotomy x y with h | h | h
  · rw [Int.compare_eq_lt.2 h]
    exact hlt.2 h
  · rw [Int.compare_eq_eq.2 h]
    cases o
    · exact absurd (hlt.1 rfl) (by omega)
    · rfl
    · exact absurd (hgt.1 rfl) (by omega)
  · rw [Int.compare_eq_gt.2 h]
    exact hgt.2 h

theorem log2_le_log2 {v w : Nat} (hv0 : v ≠ 0) (hvw : v ≤ w) : v.log2 ≤ w.log2 := by
  refine Nat.not_lt.1 fun hlt => ?_
  have := (Nat.log2_lt (by omega)).1 hlt
  have := Nat.log2_self_le hv0
  omega

/-- Doubles of whole numbers compare as the numbers: first by binade, then by mantissa. -/
theorem compare_wholeMagnitude {v w : Nat} (hv0 : v ≠ 0) (hw0 : w ≠ 0) (hv : v ≤ 2 ^ 53)
    (hw : w ≤ 2 ^ 53) :
    (compare ((v.log2 : Int) - 52) ((w.log2 : Int) - 52)).then
      (compare (wholeMantissa v) (wholeMantissa w)) = compare v w := by
  -- in one binade the mantissas are the numbers, scaled alike
  have hsame : v.log2 = w.log2 → compare (wholeMantissa v) (wholeMantissa w) = compare v w := by
    intro hL
    have hv' := wholeMantissa_mul hv0 hv
    have hw' := wholeMantissa_mul hw0 hw
    rw [hL] at hv'
    rcases Nat.lt_trichotomy v w with h | h | h
    · rw [Nat.compare_eq_lt.2 h, Nat.compare_eq_lt]
      refine Nat.lt_of_mul_lt_mul_right (a := 2 ^ w.log2) ?_
      rw [hv', hw']
      exact Nat.mul_lt_mul_of_pos_right h (Nat.two_pow_pos _)
    · subst h
      rw [Nat.compare_eq_eq.2 rfl, Nat.compare_eq_eq.2 rfl]
    · rw [Nat.compare_eq_gt.2 h, Nat.compare_eq_gt]
      refine Nat.lt_of_mul_lt_mul_right (a := 2 ^ w.log2) ?_
      rw [hv', hw']
      exact Nat.mul_lt_mul_of_pos_right h (Nat.two_pow_pos _)
  rcases Nat.lt_trichotomy v.log2 w.log2 with hL | hL | hL
  · -- a lower binade holds smaller numbers
    have hvw : v < w := Nat.not_le.1 fun h => absurd (log2_le_log2 hw0 h) (by omega)
    rw [Int.compare_eq_lt.2 (by omega), Nat.compare_eq_lt.2 hvw]
    rfl
  · rw [Int.compare_eq_eq.2 (by omega), hsame hL]
    rfl
  · have hvw : w < v := Nat.not_le.1 fun h => absurd (log2_le_log2 hv0 h) (by omega)
    rw [Int.compare_eq_gt.2 (by omega), Nat.compare_eq_gt.2 hvw]
    rfl

/-- **Order is exact on whole numbers.** The doubles of two whole numbers of at most 53 bits
compare as the numbers; the sign of zero does not count. -/
theorem compare_wholeForm (z₁ z₂ : Sign) {a b : Int} (ha : a.natAbs ≤ 2 ^ 53)
    (hb : b.natAbs ≤ 2 ^ 53) :
    (wholeForm z₁ a).compare (wholeForm z₂ b) = some (compare a b) := by
  by_cases ha0 : a.natAbs = 0 <;> by_cases hb0 : b.natAbs = 0
  · obtain rfl := Int.natAbs_eq_zero.1 ha0
    obtain rfl := Int.natAbs_eq_zero.1 hb0
    rfl
  · obtain rfl := Int.natAbs_eq_zero.1 ha0
    rw [wholeForm_zero, wholeForm_of_ne_zero z₂ hb0]
    by_cases hneg : b < 0
    · rw [(signOf_negative b).2 hneg, Int.compare_eq_gt.2 hneg]
      rfl
    · have hs : signOf b = .positive := by unfold signOf; rw [if_neg hneg]
      rw [hs, Int.compare_eq_lt.2 (by omega)]
      rfl
  · obtain rfl := Int.natAbs_eq_zero.1 hb0
    rw [wholeForm_zero, wholeForm_of_ne_zero z₁ ha0]
    by_cases hneg : a < 0
    · rw [(signOf_negative a).2 hneg, Int.compare_eq_lt.2 hneg]
      rfl
    · have hs : signOf a = .positive := by unfold signOf; rw [if_neg hneg]
      rw [hs, Int.compare_eq_gt.2 (by omega)]
      rfl
  · rw [wholeForm_of_ne_zero z₁ ha0, wholeForm_of_ne_zero z₂ hb0]
    have hmag := compare_wholeMagnitude ha0 hb0 ha hb
    by_cases hna : a < 0 <;> by_cases hnb : b < 0
    · -- two negative numbers compare as their magnitudes the other way
      rw [(signOf_negative a).2 hna, (signOf_negative b).2 hnb]
      show some ((compare _ _).then (compare _ _)).swap = _
      rw [hmag]
      refine congrArg some (eq_compare_of_iff ?_ ?_)
      · rw [Ordering.swap_eq_lt, Nat.compare_eq_gt]; omega
      · rw [Ordering.swap_eq_gt, Nat.compare_eq_lt]; omega
    · have hs : signOf b = .positive := by unfold signOf; rw [if_neg hnb]
      rw [(signOf_negative a).2 hna, hs, Int.compare_eq_lt.2 (by omega)]
      rfl
    · have hs : signOf a = .positive := by unfold signOf; rw [if_neg hna]
      rw [hs, (signOf_negative b).2 hnb, Int.compare_eq_gt.2 (by omega)]
      rfl
    · have hsa : signOf a = .positive := by unfold signOf; rw [if_neg hna]
      have hsb : signOf b = .positive := by unfold signOf; rw [if_neg hnb]
      rw [hsa, hsb]
      show some ((compare _ _).then (compare _ _)) = _
      rw [hmag]
      refine congrArg some (eq_compare_of_iff ?_ ?_)
      · rw [Nat.compare_eq_lt]; omega
      · rw [Nat.compare_eq_gt]; omega

end Order

/-! ## Doubles that hold whole numbers -/

/-- The double `x` holds the whole number `n`, of at most 53 bits. -/
def HoldsWhole (x : Float) (n : Int) : Prop :=
  (Binary.ofFloat x).toInt? = some n ∧ n.natAbs ≤ 2 ^ 53

theorem holdsWhole_iff {x : Float} {n : Int} :
    HoldsWhole x n ↔ n.natAbs ≤ 2 ^ 53 ∧ ∃ z, x.toModel.unpack = wholeForm z n := by
  constructor
  · rintro ⟨h, hn⟩
    rw [Binary.ofFloat_eq_ofUnpacked] at h
    exact ⟨hn, unpack_eq_wholeForm h hn⟩
  · rintro ⟨hn, z, hz⟩
    refine ⟨?_, hn⟩
    rw [Binary.ofFloat_eq_ofUnpacked, hz]
    exact Binary.toInt?_wholeForm z hn

/-- The result of an operation of the model, repacked and read again. -/
theorem toModel_unpack_ofModel (u : UnpackedFloat) :
    (Float.ofModel (Float.Model.pack u)).toModel.unpack = unpack .binary64 (pack .binary64 u) := rfl

section Doubles

variable {x y : Float} {a b : Int}

theorem HoldsWhole.sub (hx : HoldsWhole x a) (hy : HoldsWhole y b) (hab : (a - b).natAbs ≤ 2 ^ 53) :
    HoldsWhole (x - y) (a - b) := by
  obtain ⟨ha, z₁, hz₁⟩ := holdsWhole_iff.1 hx
  obtain ⟨hb, z₂, hz₂⟩ := holdsWhole_iff.1 hy
  obtain ⟨z, hz⟩ := sub_wholeForm z₁ z₂ ha hb hab
  refine holdsWhole_iff.2 ⟨hab, z, ?_⟩
  show (Float.ofModel (Float.Model.pack
    (UnpackedFloat.sub .binary64 x.toModel.unpack y.toModel.unpack))).toModel.unpack = _
  rw [toModel_unpack_ofModel, hz₁, hz₂, hz, unpack_pack_wholeForm z hab]

theorem HoldsWhole.add (hx : HoldsWhole x a) (hy : HoldsWhole y b) (hab : (a + b).natAbs ≤ 2 ^ 53) :
    HoldsWhole (x + y) (a + b) := by
  obtain ⟨ha, z₁, hz₁⟩ := holdsWhole_iff.1 hx
  obtain ⟨hb, z₂, hz₂⟩ := holdsWhole_iff.1 hy
  obtain ⟨z, hz⟩ := add_wholeForm z₁ z₂ ha hb hab
  refine holdsWhole_iff.2 ⟨hab, z, ?_⟩
  show (Float.ofModel (Float.Model.pack
    (UnpackedFloat.add .binary64 x.toModel.unpack y.toModel.unpack))).toModel.unpack = _
  rw [toModel_unpack_ofModel, hz₁, hz₂, hz, unpack_pack_wholeForm z hab]

theorem HoldsWhole.compare (hx : HoldsWhole x a) (hy : HoldsWhole y b) :
    x.toModel.unpack.compare y.toModel.unpack = some (compare a b) := by
  obtain ⟨ha, z₁, hz₁⟩ := holdsWhole_iff.1 hx
  obtain ⟨hb, z₂, hz₂⟩ := holdsWhole_iff.1 hy
  rw [hz₁, hz₂, compare_wholeForm z₁ z₂ ha hb]

theorem HoldsWhole.lt (hx : HoldsWhole x a) (hy : HoldsWhole y b) : (x < y) ↔ a < b := by
  show decide ((x.toModel.unpack.compare y.toModel.unpack == some Ordering.lt) = true) = true ↔ _
  rw [hx.compare hy]
  simp [Int.compare_eq_lt]

theorem HoldsWhole.beq (hx : HoldsWhole x a) (hy : HoldsWhole y b) : (x == y) = decide (a = b) := by
  show (x.toModel.unpack.compare y.toModel.unpack == some .eq) = _
  rw [hx.compare hy, Bool.eq_iff_iff, beq_iff_eq, Option.some.injEq, decide_eq_true_iff,
    Int.compare_eq_eq]

end Doubles

theorem compare_mul_pos {a b P : Int} (hP : 0 < P) : compare (a * P) (b * P) = compare a b :=
  eq_compare_of_iff ((Int.compare_eq_lt).trans (Int.mul_lt_mul_right hP))
    ((Int.compare_eq_gt).trans (Int.mul_lt_mul_right hP))

/-- **A double that holds a whole number compares with every integer as that number does.** -/
theorem Binary.compareInt_of_toInt? {B : Binary} {a : Int} (h : B.toInt? = some a) (n : Int) :
    B.compareInt n = some (compare a n) := by
  cases B with
  | nan => cases h
  | infinite neg => cases h
  | finite neg m q =>
    simp only [Binary.toInt?, Nat.pow_eq, Option.map_eq_some_iff, Option.pure_def,
      Option.bind_eq_bind, Option.bind_eq_some_iff, Option.some.injEq] at h
    obtain ⟨k, ⟨c, hc, rfl⟩, ha⟩ := h
    simp only [Binary.compareInt, compareFiniteInt, Nat.pow_eq, Option.some.injEq]
    by_cases hq : q ≥ 0
    · rw [if_pos hq, Option.some.injEq] at hc
      subst hc
      rw [if_pos hq, if_pos hq, ← ha]
    · rw [if_neg hq] at hc
      by_cases hdiv : m % 2 ^ (-q).toNat = 0
      · rw [if_pos (beq_iff_eq.2 hdiv), Option.some.injEq] at hc
        subst hc
        -- both sides scaled by `2 ^ -q`, by which the mantissa divides exactly
        have hm : (m : Int) = ((m / 2 ^ (-q).toNat : Nat) : Int) * ((2 ^ (-q).toNat : Nat) : Int) := by
          rw [← Int.natCast_mul, Nat.div_mul_cancel (Nat.dvd_of_mod_eq_zero hdiv)]
        have hP : (0 : Int) < ((2 ^ (-q).toNat : Nat) : Int) := by
          have := Nat.two_pow_pos (-q).toNat
          omega
        have hsigned : (if neg = true then -(m : Int) else m) =
            (if neg = true then -((m / 2 ^ (-q).toNat : Nat) : Int) else ((m / 2 ^ (-q).toNat : Nat) : Int)) *
              ((2 ^ (-q).toNat : Nat) : Int) := by
          cases neg
          · exact hm
          · show -(m : Int) = -_ * _
            rw [Int.neg_mul, ← hm]
        rw [if_neg hq, if_neg hq, hsigned, compare_mul_pos hP, ha]
      · rw [if_neg (by simpa using hdiv)] at hc
        cases hc

/-! ## Whole numbers made doubles -/

theorem binaryExponent_whole {v : Nat} (h0 : v ≠ 0) : binaryExponent v 1 = v.log2 := by
  have hone : Nat.log2 1 = 0 := by decide
  simp only [binaryExponent, pow2Le, Nat.pow_eq, hone]
  have hz : ((v.log2 : Int) - ((0 : Nat) : Int)) = v.log2 := by omega
  have hle : 1 * 2 ^ v.log2 ≤ v := by
    rw [Nat.one_mul]
    exact Nat.log2_self_le h0
  rw [hz, if_pos (Int.natCast_nonneg _), Int.toNat_natCast, if_pos (decide_eq_true hle)]

/-- Rounding an exact quotient keeps it. -/
theorem roundHalfEven_of_dvd {num den : Nat} (hden : 0 < den) (h : den ∣ num) :
    roundHalfEven num den = num / den := by
  have hr : num % den = 0 := Nat.mod_eq_zero_of_dvd h
  simp only [roundHalfEven, hr]
  have : ¬(2 * 0 > den || (2 * 0 == den && num / den % 2 == 1)) = true := by
    simp only [Nat.mul_zero, Bool.or_eq_true, decide_eq_true_eq, Bool.and_eq_true, beq_iff_eq]
    omega
  rw [if_neg this]

/-- The bits of the double nearest to a whole number of at most 53 bits: the biased binade
`log₂ v + 1023` above the mantissa without its leading bit. -/
theorem nearestBits_whole {v : Nat} (h0 : v ≠ 0) (hv : v ≤ 2 ^ 53) :
    nearestBits v 1 =
      some (((v.log2 + 1023).toUInt64 <<< 52) ||| (wholeMantissa v - 2 ^ 52).toUInt64) := by
  have hL := log2_le_of_whole hv h0
  obtain ⟨hlo, hhi⟩ := wholeMantissa_bounds h0 hv
  have hs : max ((v.log2 : Int) - 52) (-1074) = (v.log2 : Int) - 52 := by omega
  -- the mantissa is found without rounding
  have hm : (if (v.log2 : Int) - 52 ≥ 0 then roundHalfEven v (1 * 2 ^ ((v.log2 : Int) - 52).toNat)
      else roundHalfEven (v * 2 ^ (-((v.log2 : Int) - 52)).toNat) 1) = wholeMantissa v := by
    split
    · rename_i hq
      have hk : ((v.log2 : Int) - 52).toNat = v.log2 - 52 := by omega
      have hmul := wholeMantissa_mul_of_le h0 hv (by omega)
      rw [hk, Nat.one_mul, roundHalfEven_of_dvd (Nat.two_pow_pos _) ⟨_, by rw [Nat.mul_comm]; exact hmul.symm⟩]
      exact Nat.div_eq_of_eq_mul_left (Nat.two_pow_pos _) hmul.symm
    · rename_i hq
      have hk : (-((v.log2 : Int) - 52)).toNat = 52 - v.log2 := by omega
      rw [hk, roundHalfEven_of_dvd (by decide) (Nat.one_dvd _), Nat.div_one,
        wholeMantissa_of_lt h0 hv (by omega)]
  have hfield : ((v.log2 : Int) - 52 + 1075).toNat = v.log2 + 1023 := by omega
  have hv0 : (v == 0 || 1 == 0) = false := by simp [h0]
  have hcarry : ¬wholeMantissa v ≥ 2 ^ 53 := by omega
  have hsub : ¬wholeMantissa v < 2 ^ 52 := by omega
  have hover : ¬(v.log2 : Int) - 52 + 1075 ≥ 2047 := by omega
  simp only [nearestBits, binaryExponent_whole h0, Nat.pow_eq, hs, hm, hv0, hcarry, hsub, hover,
    Bool.false_eq_true, if_false, hfield]

/-- A word laid out as a sign bit `S`, an exponent field `F` and a fraction `f`. -/
theorem toNat_fields {sign : UInt64} {F f : Nat} (hS : sign.toNat = 0 ∨ sign.toNat = 2 ^ 63)
    (hF : F < 2 ^ 11) (hf : f < 2 ^ 52) :
    (sign ||| ((F.toUInt64 <<< 52) ||| f.toUInt64)).toNat = sign.toNat + F * 2 ^ 52 + f := by
  have hlow : ((F.toUInt64 <<< 52) ||| f.toUInt64).toNat = F * 2 ^ 52 + f := by
    simp only [UInt64.toNat_or, UInt64.toNat_shiftLeft, Nat.toUInt64_eq, UInt64.toNat_ofNat']
    rw [Nat.mod_eq_of_lt (by omega : F < 2 ^ 64), Nat.mod_eq_of_lt (by omega : f < 2 ^ 64),
      show (52 : UInt64).toNat % 64 = 52 from rfl, Nat.mod_eq_of_lt (by rw [Nat.shiftLeft_eq]; omega),
      ← Nat.shiftLeft_add_eq_or_of_lt hf, Nat.shiftLeft_eq]
  rw [UInt64.toNat_or, hlow]
  rcases hS with hS | hS
  · rw [hS, Nat.zero_or, Nat.zero_add]
  · rw [hS, Nat.add_assoc, show 2 ^ 63 = 1 <<< 63 from rfl]
    exact (Nat.shiftLeft_add_eq_or_of_lt (by omega) 1).symm

/-- The bits made for a nonzero whole number of at most 53 bits, its sign bit put on, decode to
the number's double. -/
theorem Binary.ofBits_whole {n : Int} (h0 : n.natAbs ≠ 0) (hn : n.natAbs ≤ 2 ^ 53) :
    Binary.ofBits ((if n < 0 then (0x8000000000000000 : UInt64) else 0) |||
        (((n.natAbs.log2 + 1023).toUInt64 <<< 52) ||| (wholeMantissa n.natAbs - 2 ^ 52).toUInt64)) =
      Binary.ofUnpacked (wholeForm .positive n) := by
  have hL := log2_le_of_whole hn h0
  obtain ⟨hlo, hhi⟩ := wholeMantissa_bounds h0 hn
  have hS : (if n < 0 then (0x8000000000000000 : UInt64) else 0).toNat =
      if n < 0 then 2 ^ 63 else 0 := by
    split <;> rfl
  have hword := @toNat_fields (if n < 0 then 0x8000000000000000 else 0) (n.natAbs.log2 + 1023)
    (wholeMantissa n.natAbs - 2 ^ 52) (by rw [hS]; split <;> simp) (by omega) (by omega)
  rw [hS] at hword
  rw [wholeForm_of_ne_zero .positive h0]
  simp only [Binary.ofBits, signField_toNat, exponentField_toNat, fractionField_toNat, hword,
    Binary.ofUnpacked, Nat.pow_eq]
  have hsign : (((if n < 0 then 2 ^ 63 else 0) + (n.natAbs.log2 + 1023) * 2 ^ 52 +
      (wholeMantissa n.natAbs - 2 ^ 52)) / 2 ^ 63 == 1) = (signOf n == .negative) := by
    by_cases hneg : n < 0
    · rw [if_pos hneg, (Sign.beq_negative _).2 ((signOf_negative n).2 hneg)]
      simp only [beq_iff_eq]
      omega
    · rw [if_neg hneg]
      have : (signOf n == .negative) = false := by
        cases h : (signOf n == .negative)
        · rfl
        · exact absurd ((signOf_negative n).1 ((Sign.beq_negative _).1 h)) hneg
      rw [this]
      simp only [beq_eq_false_iff_ne]
      omega
  have hexp : ((if n < 0 then 2 ^ 63 else 0) + (n.natAbs.log2 + 1023) * 2 ^ 52 +
      (wholeMantissa n.natAbs - 2 ^ 52)) / 2 ^ 52 % 2 ^ 11 = n.natAbs.log2 + 1023 := by
    split <;> omega
  have hfrac : ((if n < 0 then 2 ^ 63 else 0) + (n.natAbs.log2 + 1023) * 2 ^ 52 +
      (wholeMantissa n.natAbs - 2 ^ 52)) % 2 ^ 52 = wholeMantissa n.natAbs - 2 ^ 52 := by
    split <;> omega
  have hnotInf : (n.natAbs.log2 + 1023 == 2047) = false := beq_eq_false_iff_ne.2 (by omega)
  have hnotSub : (n.natAbs.log2 + 1023 == 0) = false := beq_eq_false_iff_ne.2 (by omega)
  have hE : ((n.natAbs.log2 + 1023 : Nat) : Int) - 1075 = (n.natAbs.log2 : Int) - 52 := by omega
  rw [hsign, hexp, hfrac, hnotInf, hnotSub, if_neg Bool.false_ne_true, if_neg Bool.false_ne_true,
    Nat.sub_add_cancel hlo, hE]

/-- **A whole number of at most 53 bits becomes a double exactly.** -/
theorem Binary.ofInt?_whole {n : Int} (hn : n.natAbs ≤ 2 ^ 53) :
    ∃ x, Binary.ofInt? n = some x ∧ HoldsWhole x n := by
  by_cases h0 : n.natAbs = 0
  · obtain rfl := Int.natAbs_eq_zero.1 h0
    refine ⟨Float.ofBits 0, rfl, holdsWhole_iff.2 ⟨by decide, .positive, rfl⟩⟩
  · have hbits := nearestBits_whole h0 hn
    -- the word decodes to the number's double, so `unpack` gives it
    obtain ⟨z, hz⟩ := unpack_eq_wholeForm (b := ((if n < 0 then (0x8000000000000000 : UInt64) else 0) |||
        (((n.natAbs.log2 + 1023).toUInt64 <<< 52) ||| (wholeMantissa n.natAbs - 2 ^ 52).toUInt64)).toBitVec)
      (by rw [← Binary.ofBits_eq_ofUnpacked, Binary.ofBits_whole h0 hn]
          exact Binary.toInt?_wholeForm _ hn) hn
    refine ⟨_, by simp only [Binary.ofInt?, hbits, Option.map_some]; rfl, holdsWhole_iff.2 ⟨hn, z, ?_⟩⟩
    show unpack .binary64 (pack .binary64 (unpack .binary64 _)) = _
    rw [hz, unpack_pack_wholeForm z hn]

end VolumeLifecycle.Number
