import Mathlib

/-!
# Words of doubles

A double is stored as a word of 64 bits, and every operation takes such words apart, computes, and
puts a word together again. This module says what is found when a word is taken apart again.

The module introduces:

* `parts x` — a double taken apart; `stored u` — what is found of `u` after it was put together.
* `stored_of_normal`, `stored_infinity`, `stored_zero` — nothing is lost of a number with a full
  significand unless it is too large.
* `Positive u` — `u` has no negative sign, which putting together keeps.
* `Canonical u` — the form in which words come apart.
-/

namespace Georef

open Float.Model (Format UnpackedFloat)
open Float.Model.UnpackedFloat (Sign unpackSign_packComponents)

namespace Double

/-- A double taken apart. -/
def parts (x : Float) : UnpackedFloat :=
  x.toModel.unpack

/-- What is found of parts after they were put together in a word. -/
def stored (u : UnpackedFloat) : UnpackedFloat :=
  (Float.Model.pack u).unpack

theorem parts_mul (x y : Float) :
    parts (x * y) = stored (.mul .binary64 (parts x) (parts y)) := rfl

theorem parts_add (x y : Float) :
    parts (x + y) = stored (.add .binary64 (parts x) (parts y)) := rfl

theorem parts_sub (x y : Float) :
    parts (x - y) = stored (.sub .binary64 (parts x) (parts y)) := rfl

theorem parts_div (x y : Float) :
    parts (x / y) = stored (.div .binary64 (parts x) (parts y)) := rfl

/-! ## Putting together and taking apart -/

theorem stored_eq (u : UnpackedFloat) :
    stored u = UnpackedFloat.unpack .binary64 (UnpackedFloat.pack .binary64 u) := rfl

@[simp]
theorem stored_zero (sign : Sign) : stored (.zero sign) = .zero sign :=
  UnpackedFloat.unpack_packedZero

@[simp]
theorem stored_infinity (sign : Sign) : stored (.infinity sign) = .infinity sign := by
  rw [stored_eq, UnpackedFloat.pack, UnpackedFloat.packedInfinity, UnpackedFloat.unpack]
  simp

/-- The significand with its leading one. -/
theorem toNat_leading_append (field : BitVec 52) :
    (1#1 ++ field).toNat = 2 ^ 52 + field.toNat := by
  rw [BitVec.toNat_append, ← Nat.shiftLeft_add_eq_or_of_lt field.isLt, Nat.shiftLeft_eq]
  rfl

/-- A number with a full significand is found again, unless it is too large. -/
theorem stored_of_normal (sign : Sign) {significand : Nat} {exponent : Int}
    (hpos : 0 < significand) (hlow : 2 ^ 52 ≤ significand) (hhigh : significand < 2 ^ 53)
    (hexponent : -1074 ≤ exponent) :
    stored (.finite sign significand exponent hpos) =
      if exponent ≤ 971 then .finite sign significand exponent hpos else .infinity sign := by
  -- a full significand leaves no digit of the word unused
  have hlog : significand.log2 = 52 := by
    rw [Nat.log2_eq_iff (by omega)]
    omega
  have hbias : Format.binary64.exponentBias = 1023 := rfl
  rw [stored_eq, UnpackedFloat.pack]
  simp only [hbias, hlog, Format.mantissaBits]
  generalize hfield : (exponent + (1023 : Nat) + (52 : Nat)).toNat = field
  by_cases hsmall : exponent ≤ 971
  · rw [if_pos hsmall, if_neg (by omega), if_pos trivial, UnpackedFloat.unpack]
    have hnat : (BitVec.ofNat 11 field).toNat = field := by
      rw [BitVec.toNat_ofNat]
      omega
    -- the field of the exponent is that of a number: neither all ones nor all zeros
    have htop : BitVec.ofNat 11 field ≠ 2047#11 := fun h => by
      have := congrArg BitVec.toNat h
      rw [hnat] at this
      simp at this
      omega
    have hzero : BitVec.ofNat 11 field ≠ 0#11 := fun h => by
      have := congrArg BitVec.toNat h
      rw [hnat] at this
      simp at this
      omega
    simp only [unpackSign_packComponents, Sign.ofBitVec_toBitVec,
      UnpackedFloat.unpackExponent_packComponents, UnpackedFloat.unpackMantissa_packComponents]
    -- the leading one is not stored, and found again as it is always there
    have hsignificand : (1#1 ++ BitVec.ofNat 52 significand).toNat = significand := by
      rw [toNat_leading_append, BitVec.toNat_ofNat]
      omega
    simp [htop, hzero, hsignificand, hnat, hbias]
    omega
  · rw [if_neg hsmall, if_pos (by omega)]
    exact stored_infinity sign

/-! ## Signs -/

/-- `Positive u`: what `u` stands for has no negative sign. -/
def Positive : UnpackedFloat → Prop
  | .notANumber => True
  | .infinity sign => sign = .positive
  | .zero sign => sign = .positive
  | .finite sign _ _ _ => sign = .positive

/-- The sign of parts is that of the word. -/
theorem positive_unpack {word : BitVec 64}
    (h : @UnpackedFloat.unpackSign .binary64 word = Sign.toBitVec .positive) :
    Positive (UnpackedFloat.unpack .binary64 word) := by
  rw [UnpackedFloat.unpack]
  split
  · split
    · simp [Positive, h]
    · trivial
  · split
    · split <;> simp [Positive, h]
    · simp [Positive, h]

/-- Putting together and taking apart keeps the sign. -/
theorem Positive.stored {u : UnpackedFloat} (h : Positive u) : Positive (stored u) := by
  refine positive_unpack ?_
  cases u with
  | notANumber => exact unpackSign_packComponents .positive _ _
  | infinity sign =>
    obtain rfl : sign = .positive := h
    exact unpackSign_packComponents .positive _ _
  | zero sign =>
    obtain rfl : sign = .positive := h
    exact unpackSign_packComponents .positive _ _
  | finite sign significand exponent hpos =>
    obtain rfl : sign = .positive := h
    show UnpackedFloat.unpackSign (UnpackedFloat.pack .binary64 _) = _
    rw [UnpackedFloat.pack]
    simp only [UnpackedFloat.packedInfinity]
    split
    · exact unpackSign_packComponents .positive _ _
    · split <;> exact unpackSign_packComponents .positive _ _

/-! ## The form of parts -/

/-- `Canonical u`: the significand of a number is full, or its exponent is the least one. -/
def Canonical : UnpackedFloat → Prop
  | .finite _ significand exponent _ =>
    significand < 2 ^ 53 ∧ -1074 ≤ exponent ∧ (exponent = -1074 ∨ 2 ^ 52 ≤ significand)
  | _ => True

/-- Words come apart in canonical form. -/
theorem canonical_unpack (word : BitVec 64) :
    Canonical (UnpackedFloat.unpack .binary64 word) := by
  have hbias : Format.binary64.exponentBias = 1023 := rfl
  let field : BitVec 52 := @UnpackedFloat.unpackMantissa .binary64 word
  let exponentField : BitVec 11 := @UnpackedFloat.unpackExponent .binary64 word
  have hfield : field.toNat < 2 ^ 52 := field.isLt
  rw [UnpackedFloat.unpack]
  split
  · split <;> trivial
  · split
    · rename_i hexponent
      split
      · trivial
      · refine ⟨Nat.lt_trans hfield (by decide), ?_, .inl ?_⟩ <;> rw [hexponent, hbias] <;> decide
    · rename_i hexponent
      -- an exponent above the least one comes with a leading one
      have hleading : (1#1 ++ field).toNat = 2 ^ 52 + field.toNat := toNat_leading_append field
      have hnonzero : exponentField.toNat ≠ 0 := fun h => hexponent (BitVec.eq_of_toNat_eq h)
      refine ⟨?_, ?_, .inr ?_⟩
      · show (1#1 ++ field).toNat < 2 ^ 53
        omega
      · show -1074 ≤ (exponentField.toNat : Int) - (((1023 : Nat) : Int) + ((52 : Nat) : Int))
        omega
      · show 2 ^ 52 ≤ (1#1 ++ field).toNat
        omega

end Double

end Georef
