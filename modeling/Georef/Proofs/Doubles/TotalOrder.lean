import Georef.Scalar

/-!
# The total order of doubles

Comparisons say nothing about undefined values and do not tell the zeros apart, so doubles are
sorted by the total order of IEEE 754. It is one of words: those with a sign come before those
without, and each sort is ordered by magnitude, the greatest foremost where there is a sign.

An operation without a result leaves an undefined value with the sign set. This is the only
undefined value that computed numbers can be, so it comes before all of them, even before negative
infinity.

The module introduces:

* `Binary64.TotalLe x y` — the total order of IEEE 754.
* `Binary64.ofResult x` — the word that is left of a computed double.
* `precedes_iff` — doubles precede each other as their words are ordered; `precedes_trans`,
  `precedes_total` — so they can be sorted.
-/

namespace Georef

namespace Binary64

/-- Whether the sign is set. -/
def Negative (x : Binary64) : Prop :=
  0x8000000000000000 ≤ x.bits

/-- The total order of IEEE 754. -/
inductive TotalLe (x y : Binary64) : Prop where
  | signs (left : x.Negative) (right : ¬y.Negative)
  | negative (left : x.Negative) (right : y.Negative) (bits : y.bits ≤ x.bits)
  | positive (left : ¬x.Negative) (right : ¬y.Negative) (bits : x.bits ≤ y.bits)

/-- The word that is left of a computed double: where there is no result, the first undefined value
with the sign set. -/
def ofResult (x : Float) : Binary64 :=
  match (ofFloat x).value with
  | .undefined => ⟨0xFFF8000000000000⟩
  | _ => ofFloat x

/-! ## Places in the order -/

/-- The word read as sign and magnitude, with a place for each of the zeros. -/
def key (x : Binary64) : Int :=
  if 0x8000000000000000 ≤ x.bits.toNat then -(x.bits.toNat - 0x8000000000000000 : Nat) - 1
  else x.bits.toNat

theorem negative_iff {x : Binary64} : x.Negative ↔ 0x8000000000000000 ≤ x.bits.toNat :=
  UInt64.le_iff_toNat_le

/-- The order of words is that of their places. -/
theorem totalLe_iff {x y : Binary64} : x.TotalLe y ↔ x.key ≤ y.key := by
  have hx := x.bits.toNat_lt
  have hy := y.bits.toNat_lt
  rw [key, key]
  constructor
  · rintro (⟨hleft, hright⟩ | ⟨hleft, hright, hbits⟩ | ⟨hleft, hright, hbits⟩)
    all_goals rw [negative_iff] at hleft hright
    · rw [if_pos hleft, if_neg hright]
      omega
    · rw [if_pos hleft, if_pos hright]
      have := UInt64.le_iff_toNat_le.1 hbits
      omega
    · rw [if_neg hleft, if_neg hright]
      have := UInt64.le_iff_toNat_le.1 hbits
      omega
  · intro hle
    by_cases hleft : 0x8000000000000000 ≤ x.bits.toNat <;>
      by_cases hright : 0x8000000000000000 ≤ y.bits.toNat
    · rw [if_pos hleft, if_pos hright] at hle
      exact .negative (negative_iff.2 hleft) (negative_iff.2 hright)
        (UInt64.le_iff_toNat_le.2 (by omega))
    · exact .signs (negative_iff.2 hleft) (mt negative_iff.1 hright)
    · rw [if_neg hleft, if_pos hright] at hle
      omega
    · rw [if_neg hleft, if_neg hright] at hle
      exact .positive (mt negative_iff.1 hleft) (mt negative_iff.1 hright)
        (UInt64.le_iff_toNat_le.2 (by omega))

/-- Only undefined values have a sign and more than the magnitude of an infinity. -/
theorem le_key_of_value_ne {x : Binary64} (h : x.value ≠ .undefined) :
    -0x7FF0000000000001 ≤ x.key := by
  have hx := x.bits.toNat_lt
  rw [key]
  split
  · refine Int.not_lt.1 fun hlow => h ?_
    -- the field of the exponent is all ones, and that of the significand is not zero
    have hexponent : x.bits.toNat >>> 52 % (2047 + 1) = 2047 := by
      rw [Nat.shiftRight_eq_div_pow]
      omega
    have hfield : x.bits.toNat % (1 <<< 52) ≠ 0 := by
      rw [Nat.shiftLeft_eq]
      omega
    rw [value]
    simp only [FloatValue.ofWord]
    rw [if_pos hexponent, if_neg hfield]
  · omega

/-! ## Ranks -/

/-- The rank of a defined value is its place, and the one of an undefined value is below all of
them. -/
theorem rank_eq (x : Binary64) :
    x.rank = if x.value = .undefined then -0x10000000000000000 else x.key := by
  rw [rank, key]
  split
  · rename_i hundefined
    exact (if_pos hundefined).symm
  · rename_i hdefined
    exact (if_neg hdefined).symm

theorem rank_le_iff (x y : Float) :
    (ofFloat x).rank ≤ (ofFloat y).rank ↔ (ofResult x).key ≤ (ofResult y).key := by
  have hnone : key ⟨0xFFF8000000000000⟩ = -0x7FF8000000000001 := by decide
  have hword : ∀ z : Float, (ofResult z).key =
      if (ofFloat z).value = .undefined then -0x7FF8000000000001 else (ofFloat z).key := by
    intro z
    rw [ofResult, ← hnone]
    split
    · rename_i hundefined
      rw [if_pos hundefined]
    · rename_i hdefined
      rw [if_neg hdefined]
  rw [rank_eq, rank_eq, hword, hword]
  by_cases hx : (ofFloat x).value = .undefined <;> by_cases hy : (ofFloat y).value = .undefined
  · simp [hx, hy]
  · have hleast := le_key_of_value_ne hy
    simp only [hx, hy, if_true, if_false]
    omega
  · have hleast := le_key_of_value_ne hx
    simp only [hx, hy, if_true, if_false]
    omega
  · simp [hx, hy]

end Binary64

/-! ## Sorting -/

namespace Double

open Binary64

/-- Doubles precede each other as their words are ordered. -/
theorem precedes_iff {x y : Float} :
    Scalar.precedes x y ↔ (ofResult x).TotalLe (ofResult y) := by
  rw [totalLe_iff, ← rank_le_iff]
  exact decide_eq_true_iff

theorem precedes_trans {x y z : Float} (hxy : Scalar.precedes x y) (hyz : Scalar.precedes y z) :
    Scalar.precedes x z := by
  rw [precedes_iff, totalLe_iff] at hxy hyz ⊢
  exact Int.le_trans hxy hyz

theorem precedes_total (x y : Float) : Scalar.precedes x y ∨ Scalar.precedes y x := by
  simp only [precedes_iff, totalLe_iff]
  exact Int.le_total _ _

end Double

end Georef
