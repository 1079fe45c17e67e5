import Georef.Proofs.Decimal.WrittenDigits
import Georef.Proofs.Doubles.Decimals
import Georef.Proofs.Doubles.Values

/-!
# Written doubles are read back

Whatever the layout is, the text of a double is read as the same double: of a finite one the decimal
lies in its interval, the digits are found again, and the nearest double to them is taken. Infinities
have words, both zeros have their signs, and undefined values become the one that is computed.

The module introduces:

* `scale_of_roundsTo` — a decimal in the interval of a double is scaled to it.
* `readDouble?_write` — the text of a word is read as its double, in every layout.
-/

namespace Georef.Decimal

open Float.Model (UnpackedFloat)
open Double (Canonical RoundsTo ofValue signOf parts stored stored_of_canonical stored_infinity
  stored_zero toFloat_eq bounds_of_value)

/-! ## Scaling -/

/-- The short cuts for large and small powers of ten are behind the bounds of doubles. -/
theorem two_pow_le_ten_pow : (2 : ℚ) ^ (3 * 400) ≤ 10 ^ 400 := by
  rw [pow_mul]
  exact pow_le_pow_left₀ (by norm_num) (by norm_num) 400

/-- A number below the bound of doubles has no large power of ten. -/
theorem power_le_of_lt {number : Nat} {power : Int} (hnumber : number ≠ 0)
    (h : (number : ℚ) * 10 ^ power < 2 ^ 1024) : power ≤ 400 := by
  by_contra hlarge
  have hone : (1 : ℚ) ≤ number := by exact_mod_cast Nat.pos_of_ne_zero hnumber
  refine absurd h (not_lt.2 ?_)
  calc (2 : ℚ) ^ 1024 ≤ 2 ^ (3 * 400) := pow_le_pow_right₀ one_le_two (by decide)
    _ ≤ 10 ^ 400 := two_pow_le_ten_pow
    _ = 10 ^ (400 : Int) := (zpow_ofNat _ _).symm
    _ ≤ 10 ^ power := zpow_le_zpow_right₀ (by norm_num) (not_le.1 hlarge).le
    _ ≤ number * 10 ^ power := le_mul_of_one_le_left (by positivity) hone

/-- A number that is no less than half the least double has its digits not far behind the point. -/
theorem le_power_of_le {number count : Nat} {power : Int} (hcount : number < 10 ^ count)
    (h : 1 / 2 ^ 1075 ≤ (number : ℚ) * 10 ^ power) : -400 ≤ (count : Int) + power := by
  by_contra hsmall
  refine absurd h (not_le.2 ?_)
  calc (number : ℚ) * 10 ^ power < 10 ^ count * 10 ^ power :=
        mul_lt_mul_of_pos_right (by exact_mod_cast hcount) (by positivity)
    _ = 10 ^ ((count : Int) + power) := by rw [zpow_add₀ (by norm_num), zpow_natCast]
    _ ≤ 10 ^ (-400 : Int) := zpow_le_zpow_right₀ (by norm_num) (not_le.1 hsmall).le
    _ = 1 / 10 ^ 400 := by rw [zpow_neg, zpow_ofNat, one_div]
    _ ≤ 1 / 2 ^ (3 * 400) := one_div_le_one_div_of_le (by positivity) two_pow_le_ten_pow
    _ ≤ 1 / 2 ^ 1075 :=
        one_div_le_one_div_of_le (by positivity) (pow_le_pow_right₀ one_le_two (by decide))

/-- A decimal in the interval of a double is scaled to it. -/
theorem scale_of_roundsTo {significand : Nat} {exponent : Int} (hpos : 0 < significand)
    (hcanonical : Canonical (.finite .positive significand exponent hpos))
    (hexponent : exponent ≤ 971) {number count : Nat} {power : Int} (hcount : number < 10 ^ count)
    (hx : RoundsTo significand exponent (number * 10 ^ power)) :
    scale number count power = .ofModel (.pack (.finite .positive significand exponent hpos)) := by
  have hleast := hx.least_le hpos hcanonical.2.1
  have hnumber : number ≠ 0 := by
    rintro rfl
    rw [Nat.cast_zero, zero_mul] at hleast
    exact absurd hleast (not_le.2 (by positivity))
  -- so neither of the short cuts is taken
  have hlarge := power_le_of_lt hnumber (hx.lt_greatest hcanonical.1 hexponent)
  have hsmall := le_power_of_le hcount hleast
  rw [scale, if_neg hnumber, if_neg (not_lt.2 hlarge), if_neg (not_lt.2 hsmall)]
  split
  · obtain ⟨n, rfl⟩ := Int.eq_ofNat_of_zero_le ‹0 ≤ power›
    have hvalue : (number : ℚ) * 10 ^ (n : Int) = (number * Nat.pow 10 n : Nat) := by
      rw [zpow_natCast, Nat.cast_mul]
      exact congrArg _ (Nat.cast_pow 10 n).symm
    rw [hvalue] at hx
    exact Double.ofScientific_whole hpos hcanonical
      (Nat.mul_pos (Nat.pos_of_ne_zero hnumber) (Nat.pow_pos (by decide))) hx
  · obtain ⟨places, hplaces⟩ := Int.eq_ofNat_of_zero_le (show 0 ≤ -power by omega)
    obtain rfl : power = -places := by omega
    rw [zpow_neg, zpow_natCast, ← div_eq_mul_inv] at hx
    have hnat : (-(-(places : Int))).toNat = places := by omega
    rw [hnat]
    exact Double.ofScientific_places hpos hcanonical (Nat.pos_of_ne_zero hnumber) (by omega) hx

/-! ## Signs -/

theorem neg_eq (x : Float) : -x = .ofModel (.pack (parts x).neg) := rfl

/-- A text that begins with a digit has no sign. -/
theorem ReadAs.readDouble? {text : List Char} {x : ℚ} (h : ReadAs text x) :
    readDouble? (String.ofList text) = readUnsigned? text ∧
      readDouble? (String.ofList ('-' :: text)) = (readUnsigned? text).map fun x => -x := by
  obtain ⟨c, rest, rfl, hc⟩ := h.head
  rw [Decimal.readDouble?, Decimal.readDouble?, String.toList_ofList, String.toList_ofList]
  refine ⟨?_, rfl⟩
  split
  · rename_i heq
    rw [(List.cons.inj heq).1] at hc
    cases hc
  · rename_i heq
    rw [(List.cons.inj heq).1] at hc
    cases hc
  · rfl

/-! ## Whole texts -/

/-- The text of a number is read as that number, whether it has a sign or not. -/
theorem readDouble?_of_readAs {text : List Char} {negative : Bool} {significand : Nat}
    {exponent : Int} (hpos : 0 < significand)
    (hcanonical : Canonical (.finite .positive significand exponent hpos))
    (hexponent : exponent ≤ 971) {x : ℚ} (htext : ReadAs text x)
    (hx : RoundsTo significand exponent x) :
    readDouble? (String.ofList (if negative then '-' :: text else text)) =
      some (.ofModel (.pack (.finite (signOf negative) significand exponent hpos))) := by
  obtain ⟨number, count, power, hread, hcount, rfl⟩ := htext.scaled
  rw [scale_of_roundsTo hpos hcanonical hexponent hcount hx] at hread
  cases negative with
  | false => exact htext.readDouble?.1.trans hread
  | true =>
    have hparts : parts (.ofModel (.pack (.finite .positive significand exponent hpos))) =
        .finite .positive significand exponent hpos :=
      stored_of_canonical .positive hpos hcanonical hexponent
    refine htext.readDouble?.2.trans ?_
    rw [hread, Option.map_some, neg_eq, hparts]
    rfl

/-- The text of a zero is read as that zero. -/
theorem readDouble?_zero {text : List Char} (negative : Bool) (htext : ReadAs text 0) :
    readDouble? (String.ofList (if negative then '-' :: text else text)) =
      some (.ofModel (.pack (.zero (signOf negative)))) := by
  have hplus : (0.0 : Float) = .ofModel (.pack (.zero .positive)) := by decide +kernel
  obtain ⟨number, count, power, hread, hcount, hzero⟩ := htext.scaled
  have hnumber : number = 0 := by
    have hpower : (10 : ℚ) ^ power ≠ 0 := zpow_ne_zero _ (by norm_num)
    exact_mod_cast (mul_eq_zero.1 hzero).resolve_right hpower
  rw [hnumber, scale, if_pos rfl, hplus] at hread
  cases negative with
  | false => exact htext.readDouble?.1.trans hread
  | true =>
    have hparts : parts (.ofModel (.pack (.zero .positive))) = .zero .positive := stored_zero _
    refine htext.readDouble?.2.trans ?_
    rw [hread, Option.map_some, neg_eq, hparts]
    rfl

/-- The text of a double is read as the same double, in every layout. -/
theorem readDouble?_write (layout : Layout) (x : Binary64) :
    readDouble? (layout.write x) = some x.toFloat := by
  rw [toFloat_eq, Layout.write]
  cases hvalue : x.value with
  | undefined =>
    show readDouble? "NaN" = some (.ofModel (.pack .notANumber))
    decide +kernel
  | infinite negative =>
    cases negative with
    | false =>
      show readDouble? "inf" = some (.ofModel (.pack (.infinity .positive)))
      decide +kernel
    | true =>
      show readDouble? "-inf" = some (.ofModel (.pack (.infinity .negative)))
      decide +kernel
  | finite negative significand exponent =>
    have htext : ReadAs
        (if (shortest layout.tie significand exponent).number = 0 ∨
            layout.positional ((shortest layout.tie significand exponent).power +
              ((natDigits (shortest layout.tie significand exponent).number).length - 1 : Nat)) then
          positionalText layout.keepsPoint (shortest layout.tie significand exponent)
        else exponentText (shortest layout.tie significand exponent))
        (shortest layout.tie significand exponent).value := by
      split
      · exact readAs_positionalText _ _
      · exact readAs_exponentText _
    obtain ⟨hshort, hlow, hhigh, hfull⟩ := bounds_of_value hvalue
    by_cases hzero : significand = 0
    · subst hzero
      have hnone : (shortest layout.tie 0 exponent).value = 0 := by
        rw [shortest, if_pos rfl, Digits.value, Nat.cast_zero, zero_mul]
      rw [hnone] at htext
      exact readDouble?_zero negative htext
    · have hpos : 0 < significand := Nat.pos_of_ne_zero hzero
      rw [ofValue, dif_pos hpos]
      exact readDouble?_of_readAs hpos ⟨hshort, hlow, hfull⟩ hhigh htext
        (shortest_roundsTo layout.tie hpos hshort hlow hhigh)

end Georef.Decimal
