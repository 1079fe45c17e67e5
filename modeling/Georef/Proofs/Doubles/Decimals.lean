import Georef.Proofs.Doubles.Quotients

/-!
# Decimals as doubles

A decimal number becomes the double in whose interval it lies, whether it is divided as a whole
number by a power of ten, both of them being doubles, or is rounded from the exact quotient.

The module introduces:

* `mul_of_roundsTo`, `div_of_roundsTo` — products and quotients are rounded once.
* `ofScientific_whole`, `ofScientific_places` — the double of a whole number, and of one with digits
  behind the point.
-/

namespace Georef

open Float.Model (Format UnpackedFloat totalExponent)
open Float.Model.UnpackedFloat (Accuracy accuracyOfFraction roundWithAccuracy)

namespace Double

variable {significand : Nat} {exponent : Int}

/-! ## Products and quotients -/

section

variable {m m' : Nat} {e e' : Int}

/-- The product of two numbers becomes the double in whose interval it lies. -/
theorem mul_of_roundsTo (hpos : 0 < significand)
    (hcanonical : Canonical (.finite .positive significand exponent hpos)) (hm : 0 < m)
    (hm' : 0 < m') (hfull : 2 ^ 52 ≤ m * m')
    (hx : RoundsTo significand exponent (m * 2 ^ e * (m' * 2 ^ e'))) :
    UnpackedFloat.mul .binary64 (.finite .positive m e hm) (.finite .positive m' e' hm') =
      .finite .positive significand exponent hpos := by
  have hvalue : ((m * m' : Nat) : ℚ) / (1 : Nat) * 2 ^ (e + e') = m * 2 ^ e * (m' * 2 ^ e') := by
    rw [zpow_add₀ two_ne_zero]
    push_cast
    ring
  have hround : roundWithAccuracy .binary64 .positive (m * m' / 1) (e + e')
      (accuracyOfFraction (m * m' % 1) 1) = .finite .positive significand exponent hpos :=
    roundWithAccuracy_quotient .positive one_pos hpos hcanonical (.inr (by rwa [Nat.div_one]))
      (hvalue ▸ hx)
  rw [Nat.div_one, Nat.mod_one] at hround
  exact hround

/-- The quotient of two numbers becomes the double in whose interval it lies. -/
theorem div_of_roundsTo (hpos : 0 < significand)
    (hcanonical : Canonical (.finite .positive significand exponent hpos)) (hm : 0 < m)
    (hm' : 0 < m') (hx : RoundsTo significand exponent (m * 2 ^ e / (m' * 2 ^ e'))) :
    UnpackedFloat.div .binary64 (.finite .positive m e hm) (.finite .positive m' e' hm') =
      .finite .positive significand exponent hpos := by
  have hmin : Format.binary64.minExponent = -1074 := rfl
  have hbits : Format.binary64.mantissaBits = 53 := rfl
  -- the exponent of the quotient before it is rounded
  obtain ⟨start, hstart⟩ : ∃ start, start = min (e - e')
      (Format.binary64.targetExponent (totalExponent m e - totalExponent m' e')) := ⟨_, rfl⟩
  have hvalue : ((m * 2 ^ (e - e' - start).toNat : Nat) : ℚ) / m' * 2 ^ start =
      m * 2 ^ e / (m' * 2 ^ e') := by
    have hsum : e = ((e - e' - start).toNat : Int) + start + e' := by omega
    conv_rhs => rw [hsum, zpow_add₀ two_ne_zero, zpow_add₀ two_ne_zero, zpow_natCast]
    push_cast
    field_simp
  have hfine : start ≤ -1074 ∨ 2 ^ 52 ≤ m * 2 ^ (e - e' - start).toNat / m' := by
    by_cases hlow : start ≤ -1074
    · exact .inl hlow
    · refine .inr ((Nat.le_div_iff_mul_le hm').2 ?_)
      rw [Format.targetExponent, hmin, hbits, totalExponent, totalExponent] at hstart
      calc 2 ^ 52 * m' ≤ 2 ^ 52 * 2 ^ (m'.log2 + 1) :=
            Nat.mul_le_mul_left _ Nat.lt_log2_self.le
        _ = 2 ^ (m'.log2 + 53) := by rw [← Nat.pow_add]; congr 1; omega
        _ ≤ 2 ^ (m.log2 + (e - e' - start).toNat) :=
            Nat.pow_le_pow_right two_pos (by omega)
        _ = 2 ^ m.log2 * 2 ^ (e - e' - start).toNat := Nat.pow_add ..
        _ ≤ m * 2 ^ (e - e' - start).toNat :=
            Nat.mul_le_mul_right _ (Nat.log2_self_le hm.ne')
  have hround := roundWithAccuracy_quotient .positive hm' hpos hcanonical hfine (hvalue ▸ hx)
  rw [UnpackedFloat.div, UnpackedFloat.divCore, ← hstart]
  simp only [Nat.shiftLeft_eq]
  exact hround

end

/-! ## Powers of ten -/

/-- Whether a double is `10 ^ places`. -/
def isTenPower (places : Nat) : UnpackedFloat → Bool
  | .finite .positive full raised _ =>
    -52 ≤ raised && full * 2 ^ (raised + 52).toNat == 10 ^ places * 2 ^ 52
  | _ => false

/-- Up to `10 ^ 22` the powers of ten are doubles. -/
theorem isTenPower_parts :
    ∀ places : Fin 23, isTenPower places (parts Float.exactlyRepresentablePowersOfTen[places]) := by
  decide +kernel

theorem value_of_isTenPower {places : Nat} {u : UnpackedFloat} (h : isTenPower places u) :
    ∃ full raised, ∃ hfull : 0 < full, u = .finite .positive full raised hfull ∧
      (full : ℚ) * 2 ^ raised = 10 ^ places := by
  match u, h with
  | .finite .positive full raised hfull, h =>
    rw [isTenPower, Bool.and_eq_true, decide_eq_true_eq, beq_iff_eq] at h
    refine ⟨full, raised, hfull, rfl, ?_⟩
    have hraised : raised = ((raised + 52).toNat : Int) - 52 := by omega
    have hvalue : (full : ℚ) * 2 ^ (raised + 52).toNat = 10 ^ places * 2 ^ 52 := by
      exact_mod_cast h.2
    rw [hraised, zpow_sub₀ two_ne_zero, zpow_natCast, zpow_ofNat, ← mul_div_assoc, hvalue,
      mul_div_cancel_right₀ _ (by norm_num)]

/-! ## Whole numbers -/

/-- The value of a whole number that is taken apart. -/
theorem value_fullSignificand {n : Nat} (h : n < 2 ^ 53) :
    (fullSignificand n : ℚ) * 2 ^ ((n.log2 : Int) - 52) = n := by
  have hlog := log2_le h
  have hexponent : (n.log2 : Int) - 52 = -((52 - n.log2 : Nat) : Int) := by omega
  rw [fullSignificand, hexponent, zpow_neg, zpow_natCast]
  push_cast
  field_simp

theorem mul_eq (x y : Float) :
    x * y = .ofModel (.pack (.mul .binary64 (parts x) (parts y))) := rfl

theorem div_eq (x y : Float) :
    x / y = .ofModel (.pack (.div .binary64 (parts x) (parts y))) := rfl

/-- A whole number becomes the double in whose interval it lies. -/
theorem ofScientific_whole (hpos : 0 < significand)
    (hcanonical : Canonical (.finite .positive significand exponent hpos)) {number : Nat}
    (hnumber : 0 < number) (hx : RoundsTo significand exponent number) :
    Float.ofScientific number false 0 =
      .ofModel (.pack (.finite .positive significand exponent hpos)) := by
  rw [Float.ofScientific]
  split
  · -- a short number is multiplied by one
    rename_i h
    obtain ⟨full, raised, hfull, hten, hvalue⟩ := value_of_isTenPower (isTenPower_parts 0)
    have hlow := (fullSignificand_bounds hnumber h.1).1
    have hx' : RoundsTo significand exponent
        (fullSignificand number * 2 ^ ((number.log2 : Int) - 52) * (full * 2 ^ raised)) := by
      rw [value_fullSignificand h.1, hvalue]
      simpa using hx
    have hproduct := mul_of_roundsTo hpos hcanonical (fullSignificand_pos hnumber) hfull
      (Nat.le_trans hlow (Nat.le_mul_of_pos_right _ hfull)) hx'
    show number.toUInt64.toFloat * Float.exactlyRepresentablePowersOfTen[(0 : Fin 23)] = _
    rw [mul_eq, parts_toFloat h.1, hten, whole_of_pos hnumber, hproduct]
  · have hx' : RoundsTo significand exponent
        ((number <<< 53 : Nat) * 2 ^ (-(53 : Nat) : Int) * ((10 ^ 0 : Nat) * 2 ^ (0 : Int))) := by
      have hvalue : ((number <<< 53 : Nat) : ℚ) * 2 ^ (-(53 : Nat) : Int) *
          ((10 ^ 0 : Nat) * 2 ^ (0 : Int)) = number := by
        rw [Nat.shiftLeft_eq, zpow_neg, zpow_natCast, Nat.cast_mul, Nat.cast_pow, Nat.cast_ofNat,
          pow_zero, Nat.cast_one, zpow_zero, mul_one, mul_one,
          mul_inv_cancel_right₀ (by norm_num)]
      rwa [hvalue]
    have hlow : 2 ^ 52 ≤ (number <<< 53) * 10 ^ 0 := by
      rw [Nat.shiftLeft_eq]
      omega
    have hproduct := mul_of_roundsTo hpos hcanonical (by rw [Nat.shiftLeft_eq]; omega) (by decide)
      hlow hx'
    have hcut : ¬(0 : Int) < -(2 ^ 11 + (number.log2 : Int)) := by omega
    show Float.ofModel (.pack (UnpackedFloat.ofScientific .binary64 number 0)) = _
    rw [UnpackedFloat.ofScientific, dif_neg hnumber.ne', if_neg (by decide), if_neg hcut,
      if_pos le_rfl]
    exact congrArg (fun u => Float.ofModel (.pack u)) hproduct

/-- A decimal that is not too small has no more places than its digits need. -/
theorem places_le_of_le {number places bound : Nat}
    (h : (1 : ℚ) / 2 ^ bound ≤ number / 10 ^ places) : places ≤ number.log2 + 1 + bound := by
  rw [div_le_div_iff₀ (by positivity) (by positivity), one_mul] at h
  have hle : 10 ^ places ≤ number * 2 ^ bound := by exact_mod_cast h
  refine (Nat.pow_le_pow_iff_right (by decide : 1 < 10)).1 ?_
  calc 10 ^ places ≤ number * 2 ^ bound := hle
    _ ≤ 2 ^ (number.log2 + 1) * 2 ^ bound := Nat.mul_le_mul_right _ Nat.lt_log2_self.le
    _ = 2 ^ (number.log2 + 1 + bound) := (Nat.pow_add ..).symm
    _ ≤ 10 ^ (number.log2 + 1 + bound) := Nat.pow_le_pow_left (by decide) _

/-- A number with digits behind the point becomes the double in whose interval it lies. -/
theorem ofScientific_places (hpos : 0 < significand)
    (hcanonical : Canonical (.finite .positive significand exponent hpos)) {number places : Nat}
    (hnumber : 0 < number) (hplaces : 0 < places)
    (hx : RoundsTo significand exponent (number / 10 ^ places)) :
    Float.ofScientific number true places =
      .ofModel (.pack (.finite .positive significand exponent hpos)) := by
  rw [Float.ofScientific]
  split
  · rename_i h
    obtain ⟨full, raised, hfull, hten, hvalue⟩ :=
      value_of_isTenPower (isTenPower_parts ⟨places, by omega⟩)
    have hx' : RoundsTo significand exponent
        (fullSignificand number * 2 ^ ((number.log2 : Int) - 52) / (full * 2 ^ raised)) := by
      rwa [value_fullSignificand h.1, hvalue]
    have hquotient := div_of_roundsTo hpos hcanonical (fullSignificand_pos hnumber) hfull hx'
    show number.toUInt64.toFloat /
      Float.exactlyRepresentablePowersOfTen[(⟨places, by omega⟩ : Fin 23)] = _
    rw [div_eq, parts_toFloat h.1, hten, whole_of_pos hnumber, hquotient]
  · have hx' : RoundsTo significand exponent
        (number * 2 ^ (0 : Int) / ((10 ^ places : Nat) * 2 ^ (0 : Int))) := by
      simpa using hx
    have hquotient := div_of_roundsTo hpos hcanonical hnumber (Nat.pow_pos (by decide)) hx'
    have hbound := places_le_of_le (hx.least_le hpos hcanonical.2.1)
    obtain ⟨below, rfl⟩ : ∃ below, places = below + 1 := ⟨places - 1, by omega⟩
    have hsign : Int.negSucc below = -((below + 1 : Nat) : Int) := rfl
    have hcut : ¬Int.negSucc below < -(2 ^ 11 + (number.log2 : Int)) := by omega
    have hlarge : ¬Int.negSucc below > 2 ^ 11 := by omega
    show Float.ofModel (.pack (UnpackedFloat.ofScientific .binary64 number (Int.negSucc below))) = _
    rw [UnpackedFloat.ofScientific, dif_neg hnumber.ne', if_neg hlarge, if_neg hcut,
      if_neg (by omega)]
    exact congrArg (fun u => Float.ofModel (.pack u)) hquotient

end Double

end Georef
