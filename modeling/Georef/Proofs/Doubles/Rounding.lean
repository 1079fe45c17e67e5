import Georef.Proofs.Doubles.Words

/-!
# Rounding to 53 bits

The result of an operation is rounded to a significand of 53 bits. This module follows the rounding
for numbers far above the least exponent: a significand that is long enough is cut to 53 bits, and
what is cut off raises it by at most one.

The module introduces:

* `shift_mantissa`, `shift_exact`, `roundedMantissa_bounds` — the steps of rounding.
* `roundWithAccuracy_normal` — the result has a full significand and an exponent that is no less
  than that of the cut number.
* `roundWithAccuracy_exact` — a number of at most 53 bits is not changed.
-/

namespace Georef

open Float.Model (Format UnpackedFloat totalExponent)
open Float.Model.UnpackedFloat (Accuracy ExtendedMantissa Sign shiftToExponent
  shiftToTargetExponent roundWithAccuracy)

namespace Double

/-! ## The steps of rounding -/

theorem shift_succ (em : ExtendedMantissa) (count : Nat) :
    em >>> (count + 1) = (em >>> count).shiftRightOne := rfl

/-- Shifting a significand divides it by a power of two. -/
theorem shift_mantissa (em : ExtendedMantissa) (count : Nat) :
    (em >>> count).mantissa = em.mantissa / 2 ^ count := by
  induction count with
  | zero => exact (Nat.div_one _).symm
  | succ count ih =>
    rw [shift_succ, ExtendedMantissa.shiftRightOne, ih, Nat.div_div_eq_div_mul, Nat.pow_succ]

/-- Nothing is lost of a significand that ends in zeros. -/
theorem shift_exact (significand count : Nat) :
    (ExtendedMantissa.mk (significand * 2 ^ count) false false) >>> count =
      ExtendedMantissa.mk significand false false := by
  induction count generalizing significand with
  | zero =>
    rw [Nat.pow_zero, Nat.mul_one]
    rfl
  | succ count ih =>
    -- the last digit that goes is a zero, so neither of the two marks is set
    rw [shift_succ, Nat.pow_succ, Nat.mul_comm _ 2, ← Nat.mul_assoc, ih, Nat.mul_comm]
    simp [ExtendedMantissa.shiftRightOne]

/-- What has been cut off raises the significand by at most one. -/
theorem roundedMantissa_bounds (em : ExtendedMantissa) :
    em.mantissa ≤ em.roundedMantissa ∧ em.roundedMantissa ≤ em.mantissa + 1 := by
  obtain ⟨significand, round, sticky⟩ := em
  cases round <;> cases sticky <;>
    simp only [ExtendedMantissa.roundedMantissa, ExtendedMantissa.accuracy,
      Accuracy.roundToNearestEven] <;> omega

theorem ofMantissaAndAccuracy_exact (significand : Nat) :
    ExtendedMantissa.ofMantissaAndAccuracy significand .exact =
      ExtendedMantissa.mk significand false false := rfl

theorem mantissa_ofMantissaAndAccuracy (significand : Nat) (accuracy : Accuracy) :
    (ExtendedMantissa.ofMantissaAndAccuracy significand accuracy).mantissa = significand := by
  rcases accuracy with _ | ⟨_ | _ | _⟩ <;> rfl

/-- The exponent that a number above the least one is rounded to. -/
theorem targetExponent_eq {significand : Nat} {exponent : Int}
    (h : -1074 ≤ significand.log2 + exponent - 52) :
    Format.binary64.targetExponent (totalExponent significand exponent) =
      significand.log2 + exponent - 52 := by
  have hmin : Format.binary64.minExponent = -1074 := rfl
  have hbits : Format.binary64.mantissaBits = 53 := rfl
  rw [Format.targetExponent, hmin, hbits, totalExponent]
  omega

/-- A significand of more than 53 bits is cut to as many. -/
theorem shiftToTargetExponent_eq {significand : Nat} {exponent : Int} (accuracy : Accuracy)
    {cut : Nat} (hlog : significand.log2 = 52 + cut) (h : -1074 ≤ cut + exponent) :
    shiftToTargetExponent .binary64 significand exponent accuracy =
      (ExtendedMantissa.ofMantissaAndAccuracy significand accuracy >>> cut, exponent + cut) := by
  have htarget : Format.binary64.targetExponent (totalExponent significand exponent) =
      significand.log2 + exponent - 52 :=
    targetExponent_eq (by rw [hlog]; omega)
  rw [shiftToTargetExponent, htarget, shiftToExponent, hlog]
  have hcut : (((52 + cut : Nat) : Int) + exponent - 52 - exponent).toNat = cut := by omega
  simp only [hcut]

/-! ## Whole roundings -/

/-- Every factor of two is one more binary digit. -/
theorem log2_mul_two_pow {n : Nat} (hpos : 0 < n) (count : Nat) :
    (n * 2 ^ count).log2 = n.log2 + count := by
  induction count with
  | zero => rw [Nat.pow_zero, Nat.mul_one, Nat.add_zero]
  | succ count ih =>
    have hne : n * 2 ^ count ≠ 0 := Nat.ne_of_gt (Nat.mul_pos hpos (Nat.two_pow_pos count))
    rw [Nat.pow_succ, ← Nat.mul_assoc, Nat.mul_comm _ 2, Nat.log2_two_mul hne, ih, Nat.add_assoc]

theorem log2_eq_fifty_two {significand : Nat} (hlow : 2 ^ 52 ≤ significand)
    (hhigh : significand < 2 ^ 53) : significand.log2 = 52 := by
  rw [Nat.log2_eq_iff (by omega)]
  omega

/-- Cutting a significand to 53 bits leaves 53 of them. -/
theorem cut_bounds {significand cut : Nat} (hpos : significand ≠ 0)
    (hlog : significand.log2 = 52 + cut) :
    2 ^ 52 ≤ significand / 2 ^ cut ∧ significand / 2 ^ cut < 2 ^ 53 := by
  obtain ⟨hlow, hhigh⟩ := (Nat.log2_eq_iff hpos).1 hlog
  constructor
  · rwa [Nat.le_div_iff_mul_le (Nat.two_pow_pos cut), ← Nat.pow_add]
  · rwa [Nat.div_lt_iff_lt_mul (Nat.two_pow_pos cut), ← Nat.pow_add,
      show 53 + cut = 52 + cut + 1 by omega]

/-- Where rounding does not carry, the cut significand is the one of the result. -/
theorem roundWithAccuracy_of_rounded (sign : Sign) {significand rounded cut : Nat} {exponent : Int}
    {accuracy : Accuracy} (hlog : significand.log2 = 52 + cut) (h : -1074 ≤ cut + exponent)
    (hrounded : (ExtendedMantissa.ofMantissaAndAccuracy significand accuracy >>>
      cut).roundedMantissa = rounded)
    (hlow : 2 ^ 52 ≤ rounded) (hhigh : rounded < 2 ^ 53) :
    roundWithAccuracy .binary64 sign significand exponent accuracy =
      .finite sign rounded (exponent + cut) (Nat.lt_of_lt_of_le (by decide) hlow) := by
  have hfull : rounded.log2 = 52 + 0 := log2_eq_fifty_two hlow hhigh
  -- the second shift is there for carries, and does nothing without one
  have hagain : shiftToTargetExponent .binary64 rounded (exponent + cut) .exact =
      (ExtendedMantissa.mk rounded false false, exponent + cut) :=
    (shiftToTargetExponent_eq .exact hfull (by omega)).trans (Prod.ext rfl (Int.add_zero _))
  have hpos : rounded ≠ 0 := by omega
  rw [roundWithAccuracy, shiftToTargetExponent_eq accuracy hlog h]
  simp only [hrounded, hagain, dif_neg hpos]

/-- The result of rounding has a full significand, and an exponent that is no less than that of the
number after cutting. -/
theorem roundWithAccuracy_normal (sign : Sign) {significand : Nat} {exponent : Int}
    (accuracy : Accuracy) {cut : Nat} (hpos : significand ≠ 0)
    (hlog : significand.log2 = 52 + cut) (h : -1074 ≤ cut + exponent) :
    ∃ full raised, ∃ hfull : 0 < full,
      roundWithAccuracy .binary64 sign significand exponent accuracy =
        .finite sign full raised hfull ∧
      2 ^ 52 ≤ full ∧ full < 2 ^ 53 ∧ exponent + cut ≤ raised := by
  obtain ⟨hlow, hhigh⟩ := cut_bounds hpos hlog
  -- what is cut off counts only by the one that it may add
  generalize hem : ExtendedMantissa.ofMantissaAndAccuracy significand accuracy >>> cut = em
  have hmantissa : em.mantissa = significand / 2 ^ cut := by
    rw [← hem, shift_mantissa, mantissa_ofMantissaAndAccuracy]
  obtain ⟨hdown, hup⟩ := roundedMantissa_bounds em
  rw [hmantissa] at hdown hup
  by_cases hcarry : em.roundedMantissa < 2 ^ 53
  · have hround := roundWithAccuracy_of_rounded sign hlog h (congrArg _ hem) (by omega) hcarry
    exact ⟨_, _, _, hround, by omega, hcarry, by omega⟩
  · -- rounding up has carried into a bit of its own
    have hrounded : em.roundedMantissa = 2 ^ 52 * 2 ^ 1 := by omega
    have hfull : (2 ^ 52 * 2 ^ 1).log2 = 52 + 1 := by
      rw [← Nat.pow_add, Nat.log2_two_pow]
    have hagain : shiftToTargetExponent .binary64 (2 ^ 52 * 2 ^ 1) (exponent + cut) .exact =
        (ExtendedMantissa.mk (2 ^ 52) false false, exponent + cut + (1 : Nat)) := by
      rw [shiftToTargetExponent_eq .exact hfull (by omega), ofMantissaAndAccuracy_exact,
        shift_exact]
    refine ⟨2 ^ 52, exponent + cut + 1, by decide, ?_, by decide, by decide, by omega⟩
    rw [roundWithAccuracy, shiftToTargetExponent_eq accuracy hlog h]
    simp only [hem, hrounded, hagain]
    exact dif_neg (by decide)

/-- A number of 53 bits is not changed, however many zeros follow. -/
theorem roundWithAccuracy_exact (sign : Sign) {full cut : Nat} {exponent : Int} (hpos : 0 < full)
    (hlow : 2 ^ 52 ≤ full) (hhigh : full < 2 ^ 53) (h : -1074 ≤ cut + exponent) :
    roundWithAccuracy .binary64 sign (full * 2 ^ cut) exponent .exact =
      .finite sign full (exponent + cut) hpos := by
  have hlog : (full * 2 ^ cut).log2 = 52 + cut := by
    rw [log2_mul_two_pow hpos, log2_eq_fifty_two hlow hhigh]
  refine roundWithAccuracy_of_rounded sign hlog h ?_ hlow hhigh
  rw [ofMantissaAndAccuracy_exact, shift_exact]
  rfl

end Double

end Georef
