import Georef.Decimal.Layout
import Georef.Proofs.Doubles.Whole

/-!
# Rounding quotients

A quotient of natural numbers is rounded from its whole part and a mark for what the division
leaves. Nothing that counts is lost in that mark: the result is the double in whose interval the
quotient lies, also where the double is too small for a full significand.

The module introduces:

* `quotient num den` — the whole part of a quotient with the mark for its remainder.
* `lowGap`, `RoundsTo significand exponent x` — `x` lies in the interval of the numbers to which
  `significand * 2 ^ exponent` is the nearest double.
* `roundWithAccuracy_quotient` — a quotient in the interval of a double is rounded to this double.
-/

namespace Georef

open Float.Model (Format UnpackedFloat totalExponent)
open Float.Model.UnpackedFloat (Accuracy ExtendedMantissa Sign accuracyOfFraction shiftToExponent
  shiftToTargetExponent roundWithAccuracy)

namespace Double

/-! ## Whole parts and remainders -/

/-- The whole part of a quotient, with a mark for what the division leaves. -/
def quotient (num den : Nat) : ExtendedMantissa :=
  .ofMantissaAndAccuracy (num / den) (accuracyOfFraction (num % den) den)

/-- The two marks of a quotient: whether the remainder is at least one half, and whether it is
anything but a half or nothing. -/
theorem quotient_eq {num den : Nat} (hden : 0 < den) :
    quotient num den =
      ⟨num / den, decide (den ≤ 2 * (num % den)), decide (num % den ≠ 0 ∧ 2 * (num % den) ≠ den)⟩ := by
  rw [quotient, accuracyOfFraction]
  by_cases hzero : num % den = 0
  · simp [hzero, ExtendedMantissa.ofMantissaAndAccuracy]
    omega
  · rw [if_neg hzero]
    rcases Nat.lt_trichotomy (2 * (num % den)) den with hlt | heq | hgt
    · rw [Nat.compare_eq_lt.2 hlt]
      simp [ExtendedMantissa.ofMantissaAndAccuracy, hzero]
      omega
    · rw [Nat.compare_eq_eq.2 heq]
      simp [ExtendedMantissa.ofMantissaAndAccuracy, heq]
    · rw [Nat.compare_eq_gt.2 hgt]
      simp [ExtendedMantissa.ofMantissaAndAccuracy, hzero]
      omega

/-- Taking a digit off a quotient doubles its denominator. -/
theorem shiftRightOne_quotient {num den : Nat} (hden : 0 < den) :
    (quotient num den).shiftRightOne = quotient num (den * 2) := by
  have hlt := Nat.mod_lt num hden
  rw [quotient_eq hden, quotient_eq (Nat.mul_pos hden two_pos), ExtendedMantissa.shiftRightOne,
    Nat.div_div_eq_div_mul, Nat.mod_mul]
  generalize num % den = left at hlt ⊢
  -- the digit that goes says whether the new remainder is at least one half
  rcases Nat.mod_two_eq_zero_or_one (num / den) with heven | hodd
  · have hhalf : ¬den * 2 ≤ 2 * left := by omega
    have hmark : (den ≤ 2 * left ∨ left ≠ 0 ∧ 2 * left ≠ den) ↔ left ≠ 0 ∧ 2 * left ≠ den * 2 := by
      omega
    simp only [heven, Nat.mul_zero, Nat.add_zero, ← Bool.decide_or, hmark, hhalf]
    rfl
  · have hhalf : den * 2 ≤ 2 * (left + den) := by omega
    have hmark : (den ≤ 2 * left ∨ left ≠ 0 ∧ 2 * left ≠ den) ↔
        left + den ≠ 0 ∧ 2 * (left + den) ≠ den * 2 := by
      omega
    simp only [hodd, Nat.mul_one, ← Bool.decide_or, hmark, hhalf]
    rfl

/-- Cutting a quotient divides it by a power of two. -/
theorem shift_quotient {num den : Nat} (hden : 0 < den) (cut : Nat) :
    quotient num den >>> cut = quotient num (den * 2 ^ cut) := by
  induction cut with
  | zero => rw [Nat.pow_zero, Nat.mul_one]; rfl
  | succ cut ih =>
    rw [shift_succ, ih, shiftRightOne_quotient (Nat.mul_pos hden (Nat.two_pow_pos cut)),
      Nat.pow_succ, Nat.mul_assoc]

/-- A quotient is rounded to the nearest whole number, and a half to the even one. -/
theorem roundedMantissa_quotient {num den : Nat} (hden : 0 < den) :
    (quotient num den).roundedMantissa = Decimal.roundDiv num den := by
  rw [quotient_eq hden, Decimal.roundDiv]
  generalize num / den = whole
  generalize num % den = left
  by_cases hhalf : den ≤ 2 * left <;> by_cases hmark : left ≠ 0 ∧ 2 * left ≠ den
  · rw [decide_eq_true hhalf, decide_eq_true hmark, if_neg (by omega)]
    rfl
  · rw [decide_eq_true hhalf, decide_eq_false hmark]
    show whole + whole % 2 = _
    split <;> omega
  · rw [decide_eq_false hhalf, decide_eq_true hmark, if_pos (by omega)]
    rfl
  · rw [decide_eq_false hhalf, decide_eq_false hmark, if_pos (by omega)]
    rfl

/-- Rounding gives the whole number from which the quotient is no further than a half, and which is
even if it is as far as that. -/
theorem roundDiv_eq {num den whole : Nat} (hden : 0 < den)
    (hlow : (whole : ℚ) - 1 / 2 ≤ num / den) (hhigh : (num : ℚ) / den ≤ whole + 1 / 2)
    (hodd : whole % 2 ≠ 0 → (whole : ℚ) - 1 / 2 < num / den ∧ (num : ℚ) / den < whole + 1 / 2) :
    Decimal.roundDiv num den = whole := by
  have hdenPos : (0 : ℚ) < den := by exact_mod_cast hden
  have hnum := Nat.div_add_mod num den
  have hlt := Nat.mod_lt num hden
  rw [Decimal.roundDiv]
  generalize num / den = floor at hnum ⊢
  generalize num % den = left at hnum hlt ⊢
  -- the quotient is its whole part and a remainder, of which only the half counts
  have hquotient : (num : ℚ) / den = floor + left / den := by
    rw [← hnum]
    push_cast
    field_simp
  have hpart : (left : ℚ) / den < 1 := (div_lt_one hdenPos).2 (by exact_mod_cast hlt)
  have hpart' : (0 : ℚ) ≤ left / den := by positivity
  have hhalf : (1 / 2 : ℚ) ≤ left / den ↔ den ≤ 2 * left := by
    rw [div_le_div_iff₀ two_pos hdenPos, one_mul, mul_comm]
    exact_mod_cast Iff.rfl
  have hhalf' : (left / den : ℚ) ≤ 1 / 2 ↔ 2 * left ≤ den := by
    rw [div_le_div_iff₀ hdenPos two_pos, one_mul, mul_comm]
    exact_mod_cast Iff.rfl
  rw [hquotient] at hlow hhigh hodd
  have hcases : whole = floor ∨ whole = floor + 1 := by
    have hle : (floor : ℚ) < whole + 1 := by linarith
    have hge : (whole : ℚ) < floor + 2 := by linarith
    have : floor < whole + 1 := by exact_mod_cast hle
    have : whole < floor + 2 := by exact_mod_cast hge
    omega
  rcases hcases with rfl | rfl
  · have hle : 2 * left ≤ den := hhalf'.1 (by linarith)
    by_cases heven : whole % 2 = 0
    · rw [if_pos (by omega)]
    · have hlt : ¬den ≤ 2 * left := fun h => by linarith [hhalf.2 h, (hodd heven).2]
      rw [if_pos (by omega)]
  · push_cast at hlow hodd
    have hle : den ≤ 2 * left := hhalf.1 (by linarith)
    by_cases heven : (floor + 1) % 2 = 0
    · rw [if_neg (by omega)]
    · have hlt : ¬2 * left ≤ den := fun h => by linarith [hhalf'.2 h, (hodd heven).1]
      rw [if_neg (by omega)]

/-! ## Intervals -/

/-- The distance from a double to the lower end of its interval, in quarters of the unit of its last
place: below a power of two the doubles lie twice as close. -/
def lowGap (significand : Nat) (exponent : Int) : Nat :=
  if significand = 2 ^ 52 ∧ exponent ≠ -1074 then 1 else 2

/-- `RoundsTo significand exponent x`: `x` lies in the interval of the numbers to which
`significand * 2 ^ exponent` is the nearest double. The ends are half way to the next doubles, and
belong to the one that is even. -/
structure RoundsTo (significand : Nat) (exponent : Int) (x : ℚ) : Prop where
  low_le : (4 * significand - lowGap significand exponent) * 2 ^ (exponent - 2) ≤ x
  le_high : x ≤ (4 * significand + 2) * 2 ^ (exponent - 2)
  low_lt : significand % 2 ≠ 0 →
    (4 * significand - lowGap significand exponent) * 2 ^ (exponent - 2) < x
  lt_high : significand % 2 ≠ 0 → x < (4 * significand + 2) * 2 ^ (exponent - 2)

theorem lowGap_le (significand : Nat) (exponent : Int) : (lowGap significand exponent : ℚ) ≤ 2 := by
  rw [lowGap]
  split <;> norm_num

/-- The interval of a double in units of its last place. -/
theorem RoundsTo.units {significand : Nat} {exponent : Int} {unit : ℚ}
    (h : RoundsTo significand exponent (unit * 2 ^ exponent)) :
    significand - (lowGap significand exponent : ℚ) / 4 ≤ unit ∧
      unit ≤ significand + 1 / 2 ∧
      (significand % 2 ≠ 0 → significand - (lowGap significand exponent : ℚ) / 4 < unit ∧
        unit < significand + 1 / 2) := by
  have hpow : (0 : ℚ) < 2 ^ exponent := by positivity
  have hquarter : (2 : ℚ) ^ (exponent - 2) = 2 ^ exponent / 4 := by
    rw [zpow_sub₀ two_ne_zero]
    norm_num
  have hscale : ∀ a : ℚ, a * (2 ^ exponent / 4) = a / 4 * 2 ^ exponent := fun a => by ring
  obtain ⟨hlow, hhigh, hlow', hhigh'⟩ := h
  rw [hquarter] at hlow hhigh hlow' hhigh'
  simp only [hscale, mul_le_mul_iff_left₀ hpow, mul_lt_mul_iff_left₀ hpow] at hlow hhigh hlow' hhigh'
  refine ⟨by linarith, by linarith, fun hodd => ⟨?_, ?_⟩⟩
  · linarith [hlow' hodd]
  · linarith [hhigh' hodd]

/-- No number in the interval of a positive double is below half the least one. -/
theorem RoundsTo.least_le {significand : Nat} {exponent : Int} {x : ℚ}
    (h : RoundsTo significand exponent x) (hpos : 0 < significand) (hexponent : -1074 ≤ exponent) :
    1 / 2 ^ 1075 ≤ x := by
  have hgap := lowGap_le significand exponent
  have hone : (1 : ℚ) ≤ significand := by exact_mod_cast hpos
  calc (1 : ℚ) / 2 ^ 1075 = 2 * 2 ^ (-1076 : ℤ) := by
        rw [← zpow_one_add₀ two_ne_zero, one_div, ← zpow_natCast, ← zpow_neg]
        rfl
    _ ≤ 2 * 2 ^ (exponent - 2) :=
        mul_le_mul_of_nonneg_left (zpow_le_zpow_right₀ one_le_two (by omega)) zero_le_two
    _ ≤ (4 * significand - lowGap significand exponent) * 2 ^ (exponent - 2) :=
        mul_le_mul_of_nonneg_right (by linarith) (by positivity)
    _ ≤ x := h.low_le

/-- The numbers in the intervals of doubles are below `2 ^ 1024`. -/
theorem RoundsTo.lt_greatest {significand : Nat} {exponent : Int} {x : ℚ}
    (h : RoundsTo significand exponent x) (hshort : significand < 2 ^ 53)
    (hexponent : exponent ≤ 971) : x < 2 ^ 1024 := by
  have hone : (significand : ℚ) + 1 ≤ 2 ^ 53 := by exact_mod_cast hshort
  calc x ≤ (4 * significand + 2) * 2 ^ (exponent - 2) := h.le_high
    _ < 2 ^ 55 * 2 ^ (exponent - 2) := mul_lt_mul_of_pos_right (by linarith) (by positivity)
    _ ≤ 2 ^ 55 * 2 ^ (969 : ℤ) :=
        mul_le_mul_of_nonneg_left (zpow_le_zpow_right₀ one_le_two (by omega)) (by positivity)
    _ = 2 ^ 1024 := by rw [zpow_ofNat, ← pow_add]

/-! ## Roundings -/

/-- A significand that is short enough is not shifted. -/
theorem shiftToTargetExponent_short {significand : Nat} {exponent : Int} (h : significand < 2 ^ 53)
    (hexponent : -1074 ≤ exponent) :
    shiftToTargetExponent .binary64 significand exponent .exact =
      (⟨significand, false, false⟩, exponent) := by
  have hlog := log2_le h
  have hmin : Format.binary64.minExponent = -1074 := rfl
  have hbits : Format.binary64.mantissaBits = 53 := rfl
  have hshift : (Format.binary64.targetExponent (totalExponent significand exponent) -
      exponent).toNat = 0 := by
    rw [Format.targetExponent, hmin, hbits, totalExponent]
    omega
  rw [shiftToTargetExponent, shiftToExponent, hshift]
  exact Prod.ext rfl (Int.add_zero _)

section

variable {num den : Nat} {start exponent : Int}

/-- A quotient lies between its whole part and the next whole number. -/
theorem quotient_bounds (num : Nat) (start : Int) (hden : 0 < den) :
    ((num / den : Nat) : ℚ) * 2 ^ start ≤ num / den * 2 ^ start ∧
      (num / den : ℚ) * 2 ^ start < ((num / den : Nat) + 1) * 2 ^ start := by
  have hpow : (0 : ℚ) < 2 ^ start := by positivity
  have hdenPos : (0 : ℚ) < den := by exact_mod_cast hden
  refine ⟨mul_le_mul_of_nonneg_right Nat.cast_div_le hpow.le, mul_lt_mul_of_pos_right ?_ hpow⟩
  rw [div_lt_iff₀ hdenPos]
  exact_mod_cast Nat.lt_mul_of_div_lt (Nat.lt_succ_self _) hden

/-- The leading binary digit of a whole part is no higher than that of a bound above it. -/
theorem log2_lt_of_lt {whole : Nat} {top : Int} (hne : whole ≠ 0)
    (h : (whole : ℚ) * 2 ^ start < 2 ^ top) : (whole.log2 : Int) + start < top := by
  have hle : ((2 ^ whole.log2 : Nat) : ℚ) ≤ whole := by exact_mod_cast Nat.log2_self_le hne
  refine (zpow_lt_zpow_iff_right₀ one_lt_two).1 (lt_of_le_of_lt ?_ h)
  calc (2 : ℚ) ^ ((whole.log2 : Int) + start) = ((2 ^ whole.log2 : Nat) : ℚ) * 2 ^ start := by
        rw [zpow_add₀ two_ne_zero, zpow_natCast, Nat.cast_pow, Nat.cast_ofNat]
    _ ≤ whole * 2 ^ start := mul_le_mul_of_nonneg_right hle (by positivity)

/-- Nor is it lower than that of a bound below the next whole number. -/
theorem lt_log2_of_lt {whole : Nat} {bottom : Int}
    (h : (2 : ℚ) ^ bottom < (whole + 1) * 2 ^ start) :
    bottom < (whole.log2 : Int) + 1 + start := by
  have hle : ((whole + 1 : Nat) : ℚ) ≤ (2 ^ (whole.log2 + 1) : Nat) := by
    exact_mod_cast Nat.lt_log2_self
  refine (zpow_lt_zpow_iff_right₀ one_lt_two).1 (lt_of_lt_of_le h ?_)
  calc ((whole : ℚ) + 1) * 2 ^ start ≤ (2 ^ (whole.log2 + 1) : Nat) * 2 ^ start :=
        mul_le_mul_of_nonneg_right (by exact_mod_cast hle) (by positivity)
    _ = 2 ^ ((whole.log2 : Int) + 1 + start) := by
        rw [zpow_add₀ two_ne_zero, Nat.cast_pow, Nat.cast_ofNat, ← zpow_natCast]
        push_cast
        rfl

/-- A quotient is cut at the exponent of the doubles around it. -/
theorem targetExponent_quotient (hden : 0 < den) (hexponent : -1074 ≤ exponent)
    (hfine : start ≤ -1074 ∨ 2 ^ 52 ≤ num / den)
    (hhigh : (num / den : ℚ) * 2 ^ start < 2 ^ 53 * 2 ^ exponent)
    (hlow : exponent = -1074 ∨ (2 : ℚ) ^ 52 * 2 ^ exponent ≤ num / den * 2 ^ start) :
    Format.binary64.targetExponent (totalExponent (num / den) start) = exponent ∧
      start ≤ exponent := by
  have hmin : Format.binary64.minExponent = -1074 := rfl
  have hbits : Format.binary64.mantissaBits = 53 := rfl
  obtain ⟨hfloor, hceil⟩ := quotient_bounds num start hden
  rw [Format.targetExponent, hmin, hbits, totalExponent]
  have hbelow : num / den ≠ 0 → ((num / den).log2 : Int) + start < exponent + 53 := by
    intro hne
    refine log2_lt_of_lt hne (lt_of_le_of_lt hfloor (lt_of_lt_of_eq hhigh ?_))
    rw [zpow_add₀ two_ne_zero, zpow_ofNat, mul_comm]
  have habove : exponent = -1074 ∨ exponent + 52 < ((num / den).log2 : Int) + 1 + start := by
    refine hlow.imp id fun hle => lt_log2_of_lt (lt_of_le_of_lt (le_of_eq_of_le ?_ hle) hceil)
    rw [zpow_add₀ two_ne_zero, zpow_ofNat, mul_comm]
  by_cases hzero : num / den = 0
  · -- then the number is too small for a full significand
    rw [hzero, Nat.log2_zero] at habove ⊢
    omega
  · have hhigh := hbelow hzero
    have hlog : 2 ^ 52 ≤ num / den → 52 ≤ (num / den).log2 := (Nat.le_log2 hzero).2
    omega

/-- What is left of a quotient that is cut at an exponent. -/
theorem shiftToTargetExponent_quotient (hden : 0 < den)
    (htarget : Format.binary64.targetExponent (totalExponent (num / den) start) = exponent)
    (hstart : start ≤ exponent) :
    shiftToTargetExponent .binary64 (num / den) start (accuracyOfFraction (num % den) den) =
      (quotient num (den * 2 ^ (exponent - start).toNat), exponent) := by
  have hexponent : start + ((exponent - start).toNat : Int) = exponent := by omega
  rw [shiftToTargetExponent, htarget, shiftToExponent, ← shift_quotient hden]
  exact Prod.ext rfl hexponent

/-- The value of a quotient that is cut at an exponent. -/
theorem cut_quotient (hstart : start ≤ exponent) :
    (num : ℚ) / (den * 2 ^ (exponent - start).toNat : Nat) =
      num / den * 2 ^ start / 2 ^ exponent := by
  have hexponent : exponent = start + ((exponent - start).toNat : Int) := by omega
  have hpow : (2 : ℚ) ^ exponent = 2 ^ start * 2 ^ (exponent - start).toNat := by
    conv_lhs => rw [hexponent, zpow_add₀ two_ne_zero, zpow_natCast]
  rw [hpow]
  push_cast
  field_simp

/-- A quotient that is near to a number of at most 53 bits is rounded to that number. -/
theorem roundWithAccuracy_near (sign : Sign) {whole : Nat} (hden : 0 < den) (hpos : 0 < whole)
    (hshort : whole < 2 ^ 53) (hexponent : -1074 ≤ exponent)
    (htarget : Format.binary64.targetExponent (totalExponent (num / den) start) = exponent)
    (hstart : start ≤ exponent)
    (hrounded : Decimal.roundDiv num (den * 2 ^ (exponent - start).toNat) = whole) :
    roundWithAccuracy .binary64 sign (num / den) start (accuracyOfFraction (num % den) den) =
      .finite sign whole exponent hpos := by
  have hmantissa : (quotient num (den * 2 ^ (exponent - start).toNat)).roundedMantissa = whole := by
    rw [roundedMantissa_quotient (Nat.mul_pos hden (Nat.two_pow_pos _)), hrounded]
  rw [roundWithAccuracy, shiftToTargetExponent_quotient hden htarget hstart]
  simp only [hmantissa, shiftToTargetExponent_short hshort hexponent, dif_neg hpos.ne']

/-- A quotient that is near to a power of two with 54 bits is rounded to that power, and the last
digit is left out. -/
theorem roundWithAccuracy_near_carry (sign : Sign) (hden : 0 < den) (hexponent : -1074 ≤ exponent)
    (htarget : Format.binary64.targetExponent (totalExponent (num / den) start) = exponent)
    (hstart : start ≤ exponent)
    (hrounded : Decimal.roundDiv num (den * 2 ^ (exponent - start).toNat) = 2 ^ 53) :
    roundWithAccuracy .binary64 sign (num / den) start (accuracyOfFraction (num % den) den) =
      .finite sign (2 ^ 52) (exponent + 1) (by decide) := by
  have hmantissa : (quotient num (den * 2 ^ (exponent - start).toNat)).roundedMantissa =
      2 ^ 52 * 2 ^ 1 := by
    rw [roundedMantissa_quotient (Nat.mul_pos hden (Nat.two_pow_pos _)), hrounded]
    rfl
  have hlog : (2 ^ 52 * 2 ^ 1).log2 = 52 + 1 := by
    rw [← Nat.pow_add, Nat.log2_two_pow]
  have hagain : shiftToTargetExponent .binary64 (2 ^ 52 * 2 ^ 1) exponent .exact =
      (⟨2 ^ 52, false, false⟩, exponent + (1 : Nat)) := by
    rw [shiftToTargetExponent_eq .exact hlog (by omega), ofMantissaAndAccuracy_exact, shift_exact]
  rw [roundWithAccuracy, shiftToTargetExponent_quotient hden htarget hstart]
  simp only [hmantissa, hagain]
  exact dif_neg (by decide)

/-- A quotient that lies below a power of two is cut at a lower exponent than this power, and rounding
carries. -/
theorem roundWithAccuracy_below_power (sign : Sign) (hden : 0 < den) (hexponent : -1074 < exponent)
    (hfine : start ≤ -1074 ∨ 2 ^ 52 ≤ num / den) {unit : ℚ}
    (hunit : (num : ℚ) / den * 2 ^ start = unit * 2 ^ exponent)
    (hlow : 2 ^ 52 - 1 / 4 ≤ unit) (hhigh : unit < 2 ^ 52) :
    roundWithAccuracy .binary64 sign (num / den) start (accuracyOfFraction (num % den) den) =
      .finite sign (2 ^ 52) exponent (by decide) := by
  have hpow : (0 : ℚ) < 2 ^ exponent := by positivity
  have hpred : (2 : ℚ) ^ (exponent - 1) = 2 ^ exponent / 2 := by
    rw [zpow_sub_one₀ two_ne_zero, div_eq_mul_inv]
  have hhalf : (num : ℚ) / den * 2 ^ start = 2 * unit * (2 ^ exponent / 2) := by
    rw [hunit]
    ring
  have hpos : (0 : ℚ) < 2 ^ exponent / 2 := half_pos hpow
  obtain ⟨htarget, hstart⟩ :
      Format.binary64.targetExponent (totalExponent (num / den) start) = exponent - 1 ∧
        start ≤ exponent - 1 :=
    targetExponent_quotient hden (by omega) hfine
      (by rw [hhalf, hpred, mul_lt_mul_iff_left₀ hpos]; linarith)
      (.inr (by rw [hhalf, hpred, mul_le_mul_iff_left₀ hpos]; linarith))
  have hcut : (num : ℚ) / (den * 2 ^ (exponent - 1 - start).toNat : Nat) = 2 * unit := by
    rw [cut_quotient hstart, hhalf, hpred, mul_div_cancel_right₀ _ hpos.ne']
  have hrounded : Decimal.roundDiv num (den * 2 ^ (exponent - 1 - start).toNat) = 2 ^ 53 := by
    refine roundDiv_eq (Nat.mul_pos hden (Nat.two_pow_pos _)) ?_ ?_ fun hodd => absurd rfl hodd
    · rw [hcut]
      push_cast
      linarith
    · rw [hcut]
      push_cast
      linarith
  rw [roundWithAccuracy_near_carry sign hden (by omega) htarget hstart hrounded]
  congr 1
  omega

/-- Of the intervals of doubles with a full significand, only that of a power of two reaches below the
power, by a quarter of the unit of the last place. -/
theorem eq_two_pow_of_unit_lt {significand : Nat} {unit : ℚ} (hexponent : exponent ≠ -1074)
    (hfull : 2 ^ 52 ≤ significand)
    (hlow : significand - (lowGap significand exponent : ℚ) / 4 ≤ unit) (hunit : unit < 2 ^ 52) :
    significand = 2 ^ 52 ∧ 2 ^ 52 - 1 / 4 ≤ unit := by
  have hpower : significand = 2 ^ 52 := by
    by_contra hother
    have hle : 2 ^ 52 + 1 ≤ significand := by omega
    have : ((2 ^ 52 + 1 : Nat) : ℚ) ≤ significand := by exact_mod_cast hle
    have hgap := lowGap_le significand exponent
    push_cast at this
    linarith
  subst hpower
  have hone : lowGap (2 ^ 52) exponent = 1 := if_pos ⟨rfl, hexponent⟩
  rw [hone] at hlow
  push_cast at hlow
  exact ⟨rfl, hlow⟩

/-- A quotient in the interval of a double is rounded to that double. -/
theorem roundWithAccuracy_quotient (sign : Sign) {significand : Nat} (hden : 0 < den)
    (hpos : 0 < significand) (hcanonical : Canonical (.finite sign significand exponent hpos))
    (hfine : start ≤ -1074 ∨ 2 ^ 52 ≤ num / den)
    (hx : RoundsTo significand exponent (num / den * 2 ^ start)) :
    roundWithAccuracy .binary64 sign (num / den) start (accuracyOfFraction (num % den) den) =
      .finite sign significand exponent hpos := by
  obtain ⟨hshort, hexponent, hfull⟩ := hcanonical
  have hpow : (0 : ℚ) < 2 ^ exponent := by positivity
  -- in units of the last place
  obtain ⟨unit, hunit⟩ : ∃ unit : ℚ, (num : ℚ) / den * 2 ^ start = unit * 2 ^ exponent :=
    ⟨_, (div_mul_cancel₀ _ hpow.ne').symm⟩
  obtain ⟨hlow, hhigh, hodd⟩ := RoundsTo.units (hunit ▸ hx)
  by_cases hbelow : exponent ≠ -1074 ∧ unit < 2 ^ 52
  · obtain ⟨hne, hbelow⟩ := hbelow
    obtain ⟨rfl, hclose⟩ := eq_two_pow_of_unit_lt hne (hfull.resolve_left hne) hlow hbelow
    exact roundWithAccuracy_below_power sign hden (by omega) hfine hunit hclose hbelow
  · have hshort' : (significand : ℚ) + 1 ≤ 2 ^ 53 := by exact_mod_cast hshort
    have hgap := lowGap_le significand exponent
    have hfull' : exponent = -1074 ∨ (2 : ℚ) ^ 52 ≤ unit := by
      by_cases hne : exponent = -1074
      · exact .inl hne
      · exact .inr (not_lt.1 fun h => hbelow ⟨hne, h⟩)
    obtain ⟨htarget, hstart⟩ := targetExponent_quotient hden hexponent hfine
      (by rw [hunit, mul_lt_mul_iff_left₀ hpow]; linarith)
      (hfull'.imp id fun h => by rwa [hunit, mul_le_mul_iff_left₀ hpow])
    have hcut : (num : ℚ) / (den * 2 ^ (exponent - start).toNat : Nat) = unit := by
      rw [cut_quotient hstart, hunit, mul_div_cancel_right₀ _ hpow.ne']
    refine roundWithAccuracy_near sign hden hpos hshort hexponent htarget hstart
      (roundDiv_eq (Nat.mul_pos hden (Nat.two_pow_pos _)) ?_ ?_ fun hne => ?_)
    · rw [hcut]
      linarith
    · rwa [hcut]
    · obtain ⟨hlt, hlt'⟩ := hodd hne
      rw [hcut]
      exact ⟨by linarith, hlt'⟩

end

end Double

end Georef
