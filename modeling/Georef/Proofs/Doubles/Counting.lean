import Georef.Proofs.Doubles.Whole

/-!
# Counting with doubles

Counts that were computed with doubles are compared with natural numbers. They are right as long as
they are small, and the others stay too large to be mistaken for small ones.

The module introduces:

* `le_eq`, `gt_eq` — comparisons of doubles are those of their parts.
* `equal_whole`, `not_equal_large` — when a double is equal to a natural number.
* `floorNat_whole`, `le_floorNat_large` — the natural number at most a double.
* `Counts x` — `x` is a whole number from one on, or large.
* `Counts.equal_mul_iff` — doubles that count have a given number as their product exactly if the
  numbers they stand for have.
-/

namespace Georef

open Float.Model (Format UnpackedFloat totalExponent)
open Float.Model.UnpackedFloat (Sign roundWithAccuracy decreaseExponent)

namespace Double

/-! ## Comparisons -/

theorem le_eq (x y : Float) : Scalar.le x y = (parts x).le (parts y) := by
  show decide (decide ((parts x).le (parts y) = true) = true) = _
  rw [Bool.decide_eq_true, Bool.decide_eq_true]

theorem gt_eq (x y : Float) : Scalar.gt x y = (parts y).lt (parts x) := by
  show decide (decide ((parts y).lt (parts x) = true) = true) = _
  rw [Bool.decide_eq_true, Bool.decide_eq_true]

/-- Different natural numbers have different digits, or a different number of them. -/
theorem eq_of_fullSignificand_eq {a b : Nat} (hlog : a.log2 = b.log2)
    (h : fullSignificand a = fullSignificand b) : a = b := by
  rw [fullSignificand, fullSignificand, hlog] at h
  exact Nat.eq_of_mul_eq_mul_right (Nat.two_pow_pos _) h

/-- Natural numbers are at most each other only if they are the same. -/
theorem eq_of_le_whole {a b : Nat} (h : (whole a).le (whole b)) (h' : (whole b).le (whole a)) :
    a = b := by
  by_cases ha : 0 < a <;> by_cases hb : 0 < b
  · rw [whole_of_pos ha, whole_of_pos hb, UnpackedFloat.le, UnpackedFloat.compare] at h h'
    -- canonical forms are compared by exponent first and by significand then
    have horder := Ordering.eq_eq_of_isLE_of_isLE_swap h (by
      rw [Ordering.swap_then, Int.compare_swap, Nat.compare_swap]
      exact h')
    rw [Ordering.then_eq_eq, Int.compare_eq_eq, Nat.compare_eq_eq] at horder
    obtain ⟨hexponent, hfull⟩ := horder
    exact eq_of_fullSignificand_eq (by omega) hfull
  · rw [whole_of_pos ha, whole, dif_neg hb] at h
    cases h
  · rw [whole_of_pos hb, whole, dif_neg ha] at h'
    cases h'
  · omega

theorem le_whole_self (a : Nat) : (whole a).le (whole a) := by
  by_cases ha : 0 < a
  · rw [whole_of_pos ha, UnpackedFloat.le, UnpackedFloat.compare]
    simp
  · rw [whole, dif_neg ha]
    rfl

/-- Doubles that are natural numbers are equal if the numbers are. -/
theorem equal_whole {x y : Float} {a b : Nat} (hx : parts x = whole a) (hy : parts y = whole b) :
    Scalar.equal x y ↔ a = b := by
  rw [Scalar.equal, le_eq, le_eq, hx, hy, Bool.and_eq_true]
  refine ⟨fun h => eq_of_le_whole h.1 h.2, ?_⟩
  rintro rfl
  exact ⟨le_whole_self a, le_whole_self a⟩

/-- A large number is equal to no natural number below `2 ^ 52`. -/
theorem not_equal_large {x y : Float} {n : Nat} (hx : Large (parts x)) (hy : parts y = whole n)
    (h : n < 2 ^ 52) : ¬Scalar.equal x y := by
  intro hequal
  rw [Scalar.equal, le_eq, Bool.and_eq_true, hy] at hequal
  have hle := hequal.1
  rcases hx with hx | ⟨full, exponent, hpos, hx, -, -, hexponent⟩
  · rw [hx] at hle
    by_cases hn : 0 < n
    · rw [whole_of_pos hn] at hle
      cases hle
    · rw [whole, dif_neg hn] at hle
      cases hle
  · rw [hx] at hle
    -- a natural number below `2 ^ 52` has a negative exponent, a large number has not
    by_cases hn : 0 < n
    · have hlog : n.log2 < 52 := (Nat.log2_lt (Nat.ne_of_gt hn)).2 h
      have hcompare : compare exponent ((n.log2 : Int) - 52) = .gt :=
        Int.compare_eq_gt.2 (by omega)
      rw [whole_of_pos hn, UnpackedFloat.le, UnpackedFloat.compare, hcompare] at hle
      cases hle
    · rw [whole, dif_neg hn] at hle
      cases hle

/-! ## Truncation -/

theorem toNat_ofNatClamp (n : Nat) : (UInt64.ofNatClamp n).toNat = min n (2 ^ 64 - 1) := by
  rw [UInt64.ofNatClamp]
  split
  · rename_i h
    have : n < 2 ^ 64 := h
    simp only [UInt64.toNat_ofNatLT]
    omega
  · rename_i h
    have : ¬n < 2 ^ 64 := h
    simp only [UInt64.toNat_ofNatLT]
    show 2 ^ 64 - 1 = _
    omega

theorem floorNat_eq (x : Float) :
    Scalar.floorNat x = min ((parts x).toInt 0 (2 ^ 64 - 1)).toNat (2 ^ 64 - 1) :=
  toNat_ofNatClamp _

/-- A natural number is at most itself. -/
theorem floorNat_whole {x : Float} {n : Nat} (hx : parts x = whole n) (h : n < 2 ^ 53) :
    Scalar.floorNat x = n := by
  rw [floorNat_eq, hx]
  by_cases hpos : 0 < n
  -- the digits behind the point are zeros, so nothing is truncated
  · have hlog := log2_le h
    have hraise : ((n.log2 : Int) - 52 - 0).toNat = 0 := by omega
    have hcut : (0 - ((n.log2 : Int) - 52 - (0 : Nat))).toNat = 52 - n.log2 := by omega
    have hint : UnpackedFloat.toInt 0 (2 ^ 64 - 1) (whole n) = n := by
      rw [whole_of_pos hpos, UnpackedFloat.toInt, UnpackedFloat.roundToInt, decreaseExponent,
        hraise]
      simp only [UnpackedFloat.shiftToExponent, hcut, shift_mantissa,
        mantissa_ofMantissaAndAccuracy, Nat.shiftLeft_zero, fullSignificand,
        Nat.mul_div_cancel _ (Nat.two_pow_pos _), Sign.apply]
    rw [hint, Int.toNat_natCast]
    omega
  · obtain rfl : n = 0 := by omega
    rfl

/-- The natural numbers at most a large number reach `2 ^ 52`. -/
theorem le_floorNat_large {x : Float} (hx : Large (parts x)) : 2 ^ 52 ≤ Scalar.floorNat x := by
  rw [floorNat_eq]
  rcases hx with hx | ⟨full, exponent, hpos, hx, hlow, -, hexponent⟩
  · rw [hx]
    decide
  · have hraise : (exponent - 0).toNat = exponent.toNat := by omega
    have hcut : (0 - (exponent - (exponent.toNat : Int))).toNat = 0 := by omega
    have hint : UnpackedFloat.toInt 0 (2 ^ 64 - 1) (parts x) =
        (full * 2 ^ exponent.toNat : Nat) := by
      rw [hx, UnpackedFloat.toInt, UnpackedFloat.roundToInt, decreaseExponent, hraise]
      simp only [UnpackedFloat.shiftToExponent, hcut, shift_mantissa,
        mantissa_ofMantissaAndAccuracy, Nat.shiftLeft_eq, Nat.pow_zero, Nat.div_one, Sign.apply]
    have hfull : full ≤ full * 2 ^ exponent.toNat :=
      Nat.le_mul_of_pos_right _ (Nat.two_pow_pos _)
    rw [hint, Int.toNat_natCast]
    omega

/-! ## Doubles that count -/

/-- `Counts x`: the double `x` is a whole number from one on, or large. -/
def Counts (x : Float) : Prop :=
  (∃ n, 0 < n ∧ n < 2 ^ 53 ∧ parts x = whole n) ∨ Large (parts x)

/-- What counts is infinite or has a full significand. -/
theorem Counts.full {x : Float} (h : Counts x) :
    parts x = .infinity .positive ∨ Full (-52) (parts x) := by
  rcases h with ⟨n, hpos, hn, hx⟩ | hx | ⟨full, exponent, hpos, hx, hlow, hhigh, hexponent⟩
  · exact .inr (hx ▸ full_whole hpos hn)
  · exact .inl hx
  · exact .inr ⟨full, exponent, hpos, hx, hlow, hhigh, by omega⟩

/-- A product with a large number is large. -/
theorem Counts.large_mul {x y : Float} (hx : Large (parts x)) (hy : Counts y) :
    Large (parts (x * y)) ∧ Large (parts (y * x)) := by
  rw [parts_mul, parts_mul]
  -- infinity absorbs every factor that counts; numbers have full significands
  rcases hx with hx | hx <;> rcases hy.full with hy | hy
  · rw [hx, hy]
    exact ⟨Large.stored (.inl rfl), Large.stored (.inl rfl)⟩
  · obtain ⟨_, _, _, hy, -⟩ := hy
    rw [hx, hy]
    exact ⟨Large.stored (.inl rfl), Large.stored (.inl rfl)⟩
  · obtain ⟨_, _, _, hx, -⟩ := hx
    rw [hx, hy]
    exact ⟨Large.stored (.inl rfl), Large.stored (.inl rfl)⟩
  · exact ⟨Large.stored (hx.mul hy (by decide)), Large.stored (hy.mul hx (by decide))⟩

/-- The least natural number that a count stands for is one. -/
theorem Counts.floorNat_pos {x : Float} (h : Counts x) : 0 < Scalar.floorNat x := by
  rcases h with ⟨n, hpos, hn, hx⟩ | hx
  · rwa [floorNat_whole hx hn]
  · exact Nat.lt_of_lt_of_le (by decide) (le_floorNat_large hx)

/-- Doubles that count have a small number as their product exactly if the numbers they stand for
have. -/
theorem Counts.equal_mul_iff {x y : Float} (hx : Counts x) (hy : Counts y) {count : Nat}
    (h : count < 2 ^ 52) :
    Scalar.equal (x * y) (Scalar.ofInt count) ↔
      Scalar.floorNat x * Scalar.floorNat y = count := by
  have hcount : parts (Scalar.ofInt (count : Int) : Float) = whole count :=
    parts_toFloat (Nat.lt_trans h (by decide))
  -- a large product is not the number, and no number has such a product
  have hlarge : Large (parts (x * y)) → 2 ^ 52 ≤ Scalar.floorNat x * Scalar.floorNat y →
      (Scalar.equal (x * y) (Scalar.ofInt count) ↔
        Scalar.floorNat x * Scalar.floorNat y = count) := fun hproduct hbound =>
    iff_of_false (not_equal_large hproduct hcount h) (by omega)
  rcases hx with ⟨a, ha, ha', hxa⟩ | hxl
  · rcases hy with ⟨b, hb, hb', hyb⟩ | hyl
    · have hfloor : Scalar.floorNat x * Scalar.floorNat y = a * b := by
        rw [floorNat_whole hxa ha', floorNat_whole hyb hb']
      by_cases hab : a * b < 2 ^ 53
      · rw [hfloor]
        exact equal_whole (parts_mul_whole hxa hyb ha hb hab) hcount
      · exact hlarge (large_mul_whole hxa hyb ha hb ha' hb' (by omega)) (by omega)
    · have hx : Counts x := .inl ⟨a, ha, ha', hxa⟩
      have hbound : 2 ^ 52 ≤ Scalar.floorNat x * Scalar.floorNat y :=
        Nat.le_trans (le_floorNat_large hyl) (Nat.le_mul_of_pos_left _ hx.floorNat_pos)
      exact hlarge (Counts.large_mul hyl hx).2 hbound
  · have hbound : 2 ^ 52 ≤ Scalar.floorNat x * Scalar.floorNat y :=
      Nat.le_trans (le_floorNat_large hxl) (Nat.le_mul_of_pos_right _ hy.floorNat_pos)
    exact hlarge (Counts.large_mul hxl hy).1 hbound

end Double

end Georef
