import Georef.Proofs.Doubles.Whole

/-!
# Integers as doubles

The double of an integer is the one nearest to it. Integers that fit 32 bits are converted by their
magnitude and given their sign afterwards, which makes no difference: rounding knows no sign.

The module introduces:

* `nearest i` — the double nearest to an integer, halves going to the even significand.
* `ofNat_eq_nearest`, `ofInt_eq_nearest` — the conversions of words give the nearest doubles.
-/

namespace Georef

open Float.Model (UnpackedFloat)
open Float.Model.UnpackedFloat (roundWithAccuracy)

namespace Double

/-- The double nearest to an integer; of two that are equally near, the one with an even
significand. -/
def nearest (i : Int) : Float :=
  .ofModel (.ofInt i)

/-! ## Signs -/

/-- Rounding a negative number gives the negative of what rounding the positive one gives. -/
theorem neg_roundWithAccuracy (spec : Float.Model.Format) (significand : Nat) (exponent : Int)
    (accuracy : UnpackedFloat.Accuracy) :
    (roundWithAccuracy spec .positive significand exponent accuracy).neg =
      roundWithAccuracy spec .negative significand exponent accuracy := by
  unfold roundWithAccuracy
  dsimp only
  split <;> rfl

/-- The nearest of the negative number, before it is put together. -/
theorem ofInt_neg {n : Nat} (hpos : 0 < n) :
    UnpackedFloat.ofInt .binary64 (-n) = (UnpackedFloat.ofInt .binary64 n).neg := by
  have hlt : compare (-(n : Int)) 0 = .lt := Int.compare_eq_lt.2 (by omega)
  have hnat : (- -(n : Int)).toNat = n := by omega
  rw [UnpackedFloat.ofInt, UnpackedFloat.ofInt, normalize_natCast hpos, UnpackedFloat.normalize,
    hlt]
  dsimp only
  rw [hnat, UnpackedFloat.round, UnpackedFloat.round, neg_roundWithAccuracy]

/-! ## Conversions -/

/-- A word of 64 bits becomes the nearest double. -/
theorem toFloat_eq_nearest {n : Nat} (h : n < 2 ^ 64) : n.toUInt64.toFloat = nearest n := by
  have hnat : n.toUInt64.toNat = n := UInt64.toNat_ofNat_of_lt h
  show Float.ofModel (.ofInt (n.toUInt64.toNat : Int)) = nearest n
  rw [hnat, nearest]

/-- Below `2 ^ 53` the sign may be changed after the conversion. -/
theorem neg_nearest {n : Nat} (hpos : 0 < n) (h : n < 2 ^ 53) : -nearest n = nearest (-n) := by
  -- nothing is lost when the positive double is put together, so its sign is all that changes
  have hstored : parts (nearest n) = UnpackedFloat.ofInt .binary64 n := by
    rw [← toFloat_eq_nearest (Nat.lt_trans h (by decide)), parts_toFloat h, UnpackedFloat.ofInt,
      normalize_natCast hpos, round_natural hpos h]
  show Float.ofModel (.pack (parts (nearest n)).neg) = Float.ofModel (.ofInt (-n))
  rw [hstored, ← ofInt_neg hpos]
  rfl

end Double

namespace Scalar

open Double (nearest)

theorem ofNat_eq_nearest {n : Nat} (h : n < 2 ^ 64) : (ofNat n : Float) = nearest n :=
  Double.toFloat_eq_nearest h

theorem ofInt_eq_nearest {i : Int} (hlow : -2 ^ 53 < i) (hhigh : i < 2 ^ 53) :
    (ofInt i : Float) = nearest i := by
  cases i with
  | ofNat n =>
    have hn : (n : Int) < 2 ^ 53 := hhigh
    exact Double.toFloat_eq_nearest (by omega)
  | negSucc n =>
    -- the magnitude is converted first
    show -(n + 1).toUInt64.toFloat = nearest (-((n + 1 : Nat) : Int))
    rw [Double.toFloat_eq_nearest (by omega), Double.neg_nearest (Nat.succ_pos n) (by omega)]

theorem undefined_eq_nan : (undefined : Float) = Float.nan := by
  decide +kernel

end Scalar

end Georef
