import Georef.Proofs.Doubles.Rounding
import Georef.Scalar

/-!
# Whole numbers as doubles

Doubles hold the natural numbers below `2 ^ 53`, and sums and products of them are exact as long as
they stay below. This module computes with such doubles, and keeps track of the others: a result
that is not below is too large to be mistaken for a smaller one.

The module introduces:

* `whole n` — the form of a natural number; `Large u` — a number of at least `2 ^ 52`, or infinity.
* `parts_toFloat`, `parts_add_one`, `parts_mul_whole` — numbers, successors and products.
* `large_add_one`, `Full.mul`, `large_mul_whole` — where successors and products are large.
-/

namespace Georef

open Float.Model (Format UnpackedFloat totalExponent)
open Float.Model.UnpackedFloat (Sign roundWithAccuracy decreaseExponent)

namespace Double

/-! ## The form of natural numbers -/

/-- The significand of a natural number: its digits, and zeros to make 53 of them. -/
def fullSignificand (n : Nat) : Nat :=
  n * 2 ^ (52 - n.log2)

theorem fullSignificand_pos {n : Nat} (h : 0 < n) : 0 < fullSignificand n :=
  Nat.mul_pos h (Nat.two_pow_pos _)

/-- A natural number taken apart. -/
def whole (n : Nat) : UnpackedFloat :=
  if h : 0 < n then
    .finite .positive (fullSignificand n) (n.log2 - 52) (fullSignificand_pos h)
  else .zero .positive

theorem log2_le {n : Nat} (h : n < 2 ^ 53) : n.log2 ≤ 52 := by
  by_cases hpos : n = 0
  · simp [hpos]
  · have := (Nat.log2_lt hpos).2 h
    omega

theorem fullSignificand_bounds {n : Nat} (hpos : 0 < n) (h : n < 2 ^ 53) :
    2 ^ 52 ≤ fullSignificand n ∧ fullSignificand n < 2 ^ 53 := by
  have hlog := log2_le h
  obtain ⟨hlow, hhigh⟩ := (Nat.log2_eq_iff (Nat.ne_of_gt hpos)).1 (rfl : n.log2 = n.log2)
  constructor
  · calc 2 ^ 52 = 2 ^ n.log2 * 2 ^ (52 - n.log2) := by rw [← Nat.pow_add]; congr 1; omega
      _ ≤ fullSignificand n := Nat.mul_le_mul_right _ hlow
  · calc fullSignificand n < 2 ^ (n.log2 + 1) * 2 ^ (52 - n.log2) :=
          Nat.mul_lt_mul_of_pos_right hhigh (Nat.two_pow_pos _)
      _ = 2 ^ 53 := by rw [← Nat.pow_add]; congr 1; omega

theorem whole_of_pos {n : Nat} (hpos : 0 < n) :
    whole n =
      .finite .positive (fullSignificand n) (n.log2 - 52) (fullSignificand_pos hpos) :=
  dif_pos hpos

/-- Words hold natural numbers. -/
theorem stored_whole {n : Nat} (h : n < 2 ^ 53) : stored (whole n) = whole n := by
  by_cases hpos : 0 < n
  · obtain ⟨hlow, hhigh⟩ := fullSignificand_bounds hpos h
    have hlog := log2_le h
    have hexponent : -1074 ≤ (n.log2 : Int) - 52 := by omega
    rw [whole_of_pos hpos, stored_of_normal _ _ hlow hhigh hexponent, if_pos (by omega)]
  · rw [whole, dif_neg hpos, stored_zero]

/-- Rounding a natural number that is written with digits behind the point gives that number. -/
theorem round_whole {n places : Nat} (hpos : 0 < n) (h : n < 2 ^ 53)
    (hplaces : 52 ≤ n.log2 + places) (hmin : places ≤ 1000) :
    roundWithAccuracy .binary64 .positive (n * 2 ^ places) (-places) .exact = whole n := by
  obtain ⟨hlow, hhigh⟩ := fullSignificand_bounds hpos h
  have hlog := log2_le h
  -- some of the zeros make the significand full, and rounding takes the others off
  have hsplit : n * 2 ^ places = fullSignificand n * 2 ^ (n.log2 + places - 52) := by
    rw [fullSignificand, Nat.mul_assoc, ← Nat.pow_add]
    congr 2
    omega
  rw [hsplit, roundWithAccuracy_exact _ (fullSignificand_pos hpos) hlow hhigh (by omega),
    whole_of_pos hpos]
  congr 1
  omega

/-! ## Large numbers -/

/-- `Full least u`: `u` is a positive number with a full significand and an exponent of at least
`least`. -/
def Full (least : Int) (u : UnpackedFloat) : Prop :=
  ∃ full exponent, ∃ hpos : 0 < full, u = .finite .positive full exponent hpos ∧
    2 ^ 52 ≤ full ∧ full < 2 ^ 53 ∧ least ≤ exponent

/-- `Large u`: `u` is a number of at least `2 ^ 52`, or infinity. -/
def Large (u : UnpackedFloat) : Prop :=
  u = .infinity .positive ∨ Full 0 u

theorem full_whole {n : Nat} (hpos : 0 < n) (h : n < 2 ^ 53) : Full (-52) (whole n) := by
  obtain ⟨hlow, hhigh⟩ := fullSignificand_bounds hpos h
  exact ⟨_, _, _, whole_of_pos hpos, hlow, hhigh, by omega⟩

/-- Words hold large numbers, or take them for infinite. -/
theorem Large.stored {u : UnpackedFloat} (h : Large u) : Large (stored u) := by
  rcases h with rfl | ⟨full, exponent, hpos, rfl, hlow, hhigh, hexponent⟩
  · exact .inl (stored_infinity _)
  · rw [stored_of_normal _ hpos hlow hhigh (by omega)]
    split
    · exact .inr ⟨full, exponent, hpos, rfl, hlow, hhigh, hexponent⟩
    · exact .inl rfl

/-- Rounding gives a large number if what is left after cutting has no digit behind the point. -/
theorem large_round {significand cut : Nat} {exponent : Int} (hpos : significand ≠ 0)
    (hlog : significand.log2 = 52 + cut) (h : 0 ≤ exponent + cut) :
    Large (roundWithAccuracy .binary64 .positive significand exponent .exact) := by
  have hmin : -1074 ≤ (cut : Int) + exponent := by omega
  obtain ⟨full, raised, hfull, hround, hlow, hhigh, hraised⟩ :=
    roundWithAccuracy_normal .positive .exact hpos hlog hmin
  exact .inr ⟨full, raised, hfull, hround, hlow, hhigh, by omega⟩

/-! ## Conversions -/

theorem normalize_natCast {n : Nat} (hpos : 0 < n) (exponent : Int) :
    UnpackedFloat.normalize .binary64 n exponent .positive =
      UnpackedFloat.round .binary64 .positive n exponent := by
  have hcompare : compare (n : Int) 0 = .gt := Int.compare_eq_gt.2 (by omega)
  rw [UnpackedFloat.normalize, hcompare]
  rfl

/-- A number with more digits than can be kept is rounded as it is. -/
theorem round_eq_roundWithAccuracy (sign : Sign) {significand cut : Nat} {exponent : Int}
    (hlog : significand.log2 = 52 + cut) (h : -1074 ≤ exponent + cut) :
    UnpackedFloat.round .binary64 sign significand exponent =
      roundWithAccuracy .binary64 sign significand exponent .exact := by
  have htarget : Format.binary64.targetExponent (totalExponent significand exponent) =
      exponent + cut := by
    rw [targetExponent_eq (by rw [hlog]; omega), hlog]
    omega
  have hshift : (exponent - (exponent + cut)).toNat = 0 := by omega
  rw [UnpackedFloat.round, htarget, decreaseExponent, hshift]
  simp

/-- A number with fewer digits than can be kept gets zeros behind the point first. -/
theorem round_natural {n : Nat} (hpos : 0 < n) (h : n < 2 ^ 53) :
    UnpackedFloat.round .binary64 .positive n 0 = whole n := by
  have hlog := log2_le h
  have htarget : Format.binary64.targetExponent (totalExponent n 0) = n.log2 - 52 := by
    rw [targetExponent_eq (by omega), Int.add_zero]
  have hshift : (0 - ((n.log2 : Int) - 52)).toNat = 52 - n.log2 := by omega
  rw [UnpackedFloat.round, htarget, decreaseExponent, hshift]
  simp only [Nat.shiftLeft_eq, Int.zero_sub]
  exact round_whole hpos h (by omega) (by omega)

/-- Natural numbers below `2 ^ 53` are converted to what they are. -/
theorem parts_toFloat {n : Nat} (h : n < 2 ^ 53) : parts n.toUInt64.toFloat = whole n := by
  have hnat : n.toUInt64.toNat = n := by
    exact UInt64.toNat_ofNat_of_lt (Nat.lt_trans h (by decide))
  have hparts : parts n.toUInt64.toFloat =
      stored (UnpackedFloat.normalize .binary64 (n.toUInt64.toNat : Int) 0 .positive) := rfl
  rw [hparts, hnat]
  by_cases hpos : 0 < n
  · rw [normalize_natCast hpos, round_natural hpos h, stored_whole h]
  · obtain rfl : n = 0 := by omega
    exact stored_zero .positive

/-! ## Successors and products -/

/-- Adding one to a number with no more than 52 digits behind the point. -/
theorem add_one_eq_round {significand places : Nat} {exponent : Int} (hpos : 0 < significand)
    (hplaces : exponent + 52 = places) :
    UnpackedFloat.add .binary64 (.finite .positive significand exponent hpos) (whole 1) =
      UnpackedFloat.round .binary64 .positive (significand * 2 ^ places + 2 ^ 52) (-52) := by
  have hone : whole 1 = .finite .positive (2 ^ 52) (-52) (by decide) := rfl
  have hmin : min exponent (-52) = -52 := by omega
  have hshift : (exponent - -52).toNat = places := by omega
  rw [hone, UnpackedFloat.add]
  simp only [hmin, decreaseExponent, hshift, Nat.shiftLeft_eq]
  have hpow := Nat.two_pow_pos places
  exact normalize_natCast (Nat.lt_of_lt_of_le (by decide) (Nat.le_add_left _ _)) (-52)

/-- The successor of a whole number. -/
theorem parts_add_one {x y : Float} {n : Nat} (hx : parts x = whole n) (hy : parts y = whole 1)
    (h : n + 1 < 2 ^ 53) : parts (x + y) = whole (n + 1) := by
  rw [parts_add, hx, hy]
  by_cases hpos : 0 < n
  · have hlog := log2_le (show n < 2 ^ 53 by omega)
    have hplaces : (n.log2 : Int) - 52 + 52 = n.log2 := by omega
    -- both numbers are brought to 52 digits behind the point
    have hsum : fullSignificand n * 2 ^ n.log2 + 2 ^ 52 = (n + 1) * 2 ^ 52 := by
      rw [fullSignificand, Nat.mul_assoc, ← Nat.pow_add, Nat.add_mul, Nat.one_mul,
        show 52 - n.log2 + n.log2 = 52 by omega]
    have hsumLog : ((n + 1) * 2 ^ 52).log2 = 52 + (n + 1).log2 := by
      rw [log2_mul_two_pow (Nat.succ_pos n), Nat.add_comm]
    have hround : roundWithAccuracy .binary64 .positive ((n + 1) * 2 ^ 52) (-(52 : Nat)) .exact =
        whole (n + 1) :=
      round_whole (Nat.succ_pos n) h (by omega) (by omega)
    rw [whole_of_pos hpos, add_one_eq_round _ hplaces, hsum,
      round_eq_roundWithAccuracy _ hsumLog (by omega), ← stored_whole h, ← hround]
    rfl
  -- zero has no significand and is added in a branch of its own
  · obtain rfl : n = 0 := by omega
    rw [← stored_whole h]
    rfl

/-- A large number stays large when one is added. -/
theorem large_add_one {x y : Float} (hx : Large (parts x)) (hy : parts y = whole 1) :
    Large (parts (x + y)) := by
  rw [parts_add, hy]
  refine Large.stored ?_
  rcases hx with hx | ⟨full, exponent, hpos, hx, hlow, hhigh, hexponent⟩
  · rw [hx]
    exact .inl rfl
  · obtain ⟨places, hplaces⟩ := Int.eq_ofNat_of_zero_le (show 0 ≤ exponent + 52 by omega)
    have hpow : 2 ^ 52 ≤ 2 ^ places := Nat.pow_le_pow_right (by decide) (by omega)
    have hsum : full * 2 ^ places + 2 ^ 52 ≠ 0 := by omega
    -- the sum has more digits before the point than are kept at all
    have hproduct : 2 ^ 52 * 2 ^ 52 ≤ full * 2 ^ places := Nat.mul_le_mul hlow hpow
    have hlog : 104 ≤ (full * 2 ^ places + 2 ^ 52).log2 := by
      rw [Nat.le_log2 hsum]
      omega
    obtain ⟨cut, hcut⟩ := Nat.exists_eq_add_of_le (show 52 ≤ _ from Nat.le_trans (by decide) hlog)
    rw [hx, add_one_eq_round hpos hplaces, round_eq_roundWithAccuracy _ hcut (by omega)]
    exact large_round hsum hcut (by omega)

/-- The product of whole numbers, if it is below `2 ^ 53`. -/
theorem parts_mul_whole {x y : Float} {a b : Nat} (hx : parts x = whole a) (hy : parts y = whole b)
    (ha : 0 < a) (hb : 0 < b) (h : a * b < 2 ^ 53) : parts (x * y) = whole (a * b) := by
  have hpos : 0 < a * b := Nat.mul_pos ha hb
  have hloga : a.log2 ≤ 52 := log2_le (Nat.lt_of_le_of_lt (Nat.le_mul_of_pos_right a hb) h)
  have hlogb : b.log2 ≤ 52 := log2_le (Nat.lt_of_le_of_lt (Nat.le_mul_of_pos_left b ha) h)
  have hproduct : fullSignificand a * fullSignificand b =
      a * b * 2 ^ ((52 - a.log2) + (52 - b.log2)) := by
    rw [fullSignificand, fullSignificand, Nat.pow_add]
    ac_rfl
  have hexponent : (a.log2 : Int) - 52 + (b.log2 - 52) =
      -(((52 - a.log2) + (52 - b.log2) : Nat) : Int) := by
    omega
  -- the product has no fewer digits than its factors have in front of their last ones
  have hlog : a.log2 + b.log2 ≤ (a * b).log2 := by
    rw [Nat.le_log2 (Nat.ne_of_gt hpos), Nat.pow_add]
    exact Nat.mul_le_mul (Nat.log2_self_le (Nat.ne_of_gt ha)) (Nat.log2_self_le (Nat.ne_of_gt hb))
  rw [parts_mul, hx, hy, whole_of_pos ha, whole_of_pos hb, UnpackedFloat.mul, hproduct, hexponent,
    ← stored_whole h]
  exact congrArg stored (round_whole hpos h (by omega) (by omega))

/-- Numbers with full significands have a large product if the digits behind the points are few
enough. -/
theorem Full.mul {u v : UnpackedFloat} {least least' : Int} (hu : Full least u) (hv : Full least' v)
    (h : -52 ≤ least + least') : Large (.mul .binary64 u v) := by
  obtain ⟨a, e, ha, rfl, halow, hahigh, he⟩ := hu
  obtain ⟨b, e', hb, rfl, hblow, hbhigh, he'⟩ := hv
  have hpos : a * b ≠ 0 := Nat.ne_of_gt (Nat.mul_pos ha hb)
  have hproduct : 2 ^ 52 * 2 ^ 52 ≤ a * b := Nat.mul_le_mul halow hblow
  have hlog : 104 ≤ (a * b).log2 := by
    rw [Nat.le_log2 hpos]
    omega
  obtain ⟨cut, hcut⟩ := Nat.exists_eq_add_of_le (show 52 ≤ _ from Nat.le_trans (by decide) hlog)
  exact large_round hpos hcut (by omega)

/-- The product of whole numbers, if it is not below `2 ^ 53`. -/
theorem large_mul_whole {x y : Float} {a b : Nat} (hx : parts x = whole a) (hy : parts y = whole b)
    (ha : 0 < a) (hb : 0 < b) (ha' : a < 2 ^ 53) (hb' : b < 2 ^ 53) (h : 2 ^ 53 ≤ a * b) :
    Large (parts (x * y)) := by
  have hpos : fullSignificand a * fullSignificand b ≠ 0 :=
    Nat.ne_of_gt (Nat.mul_pos (fullSignificand_pos ha) (fullSignificand_pos hb))
  have hproduct : fullSignificand a * fullSignificand b =
      a * b * 2 ^ ((52 - a.log2) + (52 - b.log2)) := by
    rw [fullSignificand, fullSignificand, Nat.pow_add]
    ac_rfl
  have hloga := log2_le ha'
  have hlogb := log2_le hb'
  have hlog : 53 ≤ (a * b).log2 := (Nat.le_log2 (by omega)).2 h
  -- from `2 ^ 53` on all digits behind the point are cut off
  have hcut : (fullSignificand a * fullSignificand b).log2 =
      52 + ((a * b).log2 - 52 + ((52 - a.log2) + (52 - b.log2))) := by
    rw [hproduct, log2_mul_two_pow (by omega)]
    omega
  rw [parts_mul, hx, hy, whole_of_pos ha, whole_of_pos hb]
  exact Large.stored (large_round hpos hcut (by omega))

end Double

end Georef
