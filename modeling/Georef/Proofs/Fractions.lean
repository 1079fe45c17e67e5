import Georef.Scalar
import Mathlib.Algebra.Order.Field.Rat
import Mathlib.Algebra.Order.Group.Abs
import Mathlib.Data.Rat.Floor
import Mathlib.Tactic.Linarith
import Mathlib.Tactic.NormNum

/-!
# Exact fractions

The operations on exact fractions are those of an ordered field: the absolute value, the greatest
natural number below a fraction and the one next to it, decimal fractions, and the least and the
greatest of a list.
-/

namespace Georef

namespace Scalar

theorem abs_rat (a : Rat) : Scalar.abs a = |a| := by
  show (if a < 0 then -a else a) = |a|
  rcases lt_or_ge a 0 with hneg | hnonneg
  · rw [if_pos hneg, abs_of_neg hneg]
  · rw [if_neg (not_lt.2 hnonneg), abs_of_nonneg hnonneg]

theorem gt_rat {a b : Rat} : Scalar.gt a b ↔ b < a :=
  decide_eq_true_iff

theorem floorNat_rat (a : Rat) : Scalar.floorNat a = ⌊a⌋₊ := rfl

theorem decimal_rat (digits places : Nat) :
    (Scalar.decimal digits places : Rat) = digits / 10 ^ places := by
  show mkRat digits (10 ^ places) = _
  rw [Rat.mkRat_eq_div]
  push_cast
  rfl

/-- The least of some numbers is one of them, and none of them is less. -/
theorem least_rat {values : List Rat} (h : values ≠ []) :
    Scalar.least values ∈ values ∧ ∀ a ∈ values, Scalar.least values ≤ a := by
  obtain ⟨a, rest, rfl⟩ := List.exists_cons_of_ne_nil h
  have hmin : (fun a b : Rat => if b < a then b else a) = min := by
    funext a b
    rw [min_comm, min_def_lt]
  rw [← List.min?_eq_some_iff, List.min?_cons', ← hmin]
  rfl

/-- The greatest of some numbers is one of them, and none of them is greater. -/
theorem greatest_rat {values : List Rat} (h : values ≠ []) :
    Scalar.greatest values ∈ values ∧ ∀ a ∈ values, a ≤ Scalar.greatest values := by
  obtain ⟨a, rest, rfl⟩ := List.exists_cons_of_ne_nil h
  have hmax : (fun a b : Rat => if b > a then b else a) = max := by
    funext a b
    exact (max_def_lt a b).symm
  rw [← List.max?_eq_some_iff, List.max?_cons', ← hmax]
  rfl

end Scalar

theorem roundRat_of_nonneg {a : Rat} (h : 0 ≤ a) : roundRat a = (⌊a + 1 / 2⌋₊ : Rat) := by
  have hhalf : mkRat 1 2 = 1 / 2 := by norm_num [Rat.mkRat_eq_div]
  rw [roundRat, if_neg (not_lt.2 h), hhalf]
  rw [natCast_floor_eq_intCast_floor (by linarith)]
  rfl

theorem roundRat_natCast (n : Nat) : roundRat n = n := by
  have hfloor : ⌊(n : Rat) + 1 / 2⌋₊ = n := by
    rw [Nat.floor_eq_iff (by positivity)]
    constructor <;> norm_num
  rw [roundRat_of_nonneg n.cast_nonneg, hfloor]

end Georef
