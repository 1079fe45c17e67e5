import Georef.Proofs.Doubles.Words
import Georef.Word

/-!
# Values of doubles

What a stored word stands for is what it comes apart into, and nothing of it is lost when it is put
together again, whether its significand is full or not.

The module introduces:

* `ofValue` — what a value comes apart into.
* `unpack_eq_ofValue`, `toFloat_eq` — words come apart into their values; `toFloat_ofFloat` — a
  computed double is found again from its word.
* `canonical_of_value`, `stored_of_canonical` — values have the form that words can hold.
-/

namespace Georef

open Float.Model (Format UnpackedFloat)
open Float.Model.UnpackedFloat (Sign unpackSign_packComponents)

namespace Double

/-- The sign of a number. -/
def signOf (negative : Bool) : Sign :=
  if negative then .negative else .positive

/-- What a value comes apart into. -/
def ofValue : FloatValue → UnpackedFloat
  | .undefined => .notANumber
  | .infinite negative => .infinity (signOf negative)
  | .finite negative significand exponent =>
    if h : 0 < significand then .finite (signOf negative) significand exponent h
    else .zero (signOf negative)

/-! ## Fields of words -/

section

variable (word : UInt64)

theorem toNat_unpackMantissa :
    (@UnpackedFloat.unpackMantissa .binary64 word.toBitVec).toNat = word.toNat % 2 ^ 52 := by
  rw [UnpackedFloat.unpackMantissa_def, BitVec.extractLsb'_toNat, Nat.shiftRight_zero]
  rfl

theorem toNat_unpackExponent :
    (@UnpackedFloat.unpackExponent .binary64 word.toBitVec).toNat =
      word.toNat / 2 ^ 52 % 2048 := by
  rw [UnpackedFloat.unpackExponent_def, BitVec.extractLsb'_toNat, Nat.shiftRight_eq_div_pow]
  rfl

theorem ofBitVec_unpackSign :
    Sign.ofBitVec (@UnpackedFloat.unpackSign .binary64 word.toBitVec) =
      signOf (decide (0x8000000000000000 ≤ word.toNat)) := by
  have hlt := word.toNat_lt
  have htoNat : (@UnpackedFloat.unpackSign .binary64 word.toBitVec).toNat =
      word.toNat / 2 ^ 63 % 2 := by
    rw [UnpackedFloat.unpackSign_def, BitVec.extractLsb'_toNat, Nat.shiftRight_eq_div_pow]
    rfl
  generalize @UnpackedFloat.unpackSign .binary64 word.toBitVec = bit at htoNat ⊢
  by_cases hnegative : 0x8000000000000000 ≤ word.toNat
  · have hone : bit ≠ 0#1 := by
      rintro rfl
      rw [BitVec.toNat_ofNat] at htoNat
      omega
    rw [Sign.ofBitVec, if_neg hone, decide_eq_true hnegative]
    rfl
  · have hzero : bit = 0#1 := by
      refine BitVec.eq_of_toNat_eq ?_
      rw [htoNat, BitVec.toNat_ofNat]
      omega
    rw [Sign.ofBitVec, if_pos hzero, decide_eq_false hnegative]
    rfl

end

/-! ## Words come apart into their values -/

theorem unpack_eq_ofValue (x : Binary64) :
    UnpackedFloat.unpack .binary64 x.bits.toBitVec = ofValue x.value := by
  let field : BitVec 52 := @UnpackedFloat.unpackMantissa .binary64 x.bits.toBitVec
  let exponentField : BitVec 11 := @UnpackedFloat.unpackExponent .binary64 x.bits.toBitVec
  have hbias : Format.binary64.exponentBias = 1023 := rfl
  have htop : exponentField = -1#11 ↔ exponentField.toNat = 2047 :=
    BitVec.toNat_inj.symm
  have hleast : exponentField = 0#11 ↔ exponentField.toNat = 0 :=
    BitVec.toNat_inj.symm
  have hzero : field = 0#52 ↔ field.toNat = 0 :=
    BitVec.toNat_inj.symm
  have hleading : (1#1 ++ field).toNat = 2 ^ 52 + field.toNat := toNat_leading_append field
  rw [UnpackedFloat.unpack, ofBitVec_unpackSign, Binary64.value]
  simp only [FloatValue.ofWord, Nat.shiftRight_eq_div_pow, Nat.shiftLeft_eq, Nat.one_mul]
  rw [← toNat_unpackMantissa, ← toNat_unpackExponent]
  by_cases hexponent : exponentField.toNat = 2047
  · rw [if_pos hexponent, if_pos (htop.2 hexponent)]
    by_cases hfield : field.toNat = 0
    · rw [if_pos hfield, if_pos (hzero.2 hfield)]
      rfl
    · rw [if_neg hfield, if_neg (mt hzero.1 hfield)]
      rfl
  · rw [if_neg hexponent, if_neg (mt htop.1 hexponent)]
    by_cases hnone : exponentField.toNat = 0
    · rw [if_pos hnone, if_pos (hleast.2 hnone), ofValue]
      by_cases hfield : field.toNat = 0
      · rw [dif_pos (hzero.2 hfield), dif_neg fun h => h.ne' hfield]
      · rw [dif_pos (Nat.pos_of_ne_zero hfield), dif_neg (mt hzero.1 hfield), hbias]
        have hexponent : ((exponentField.toNat : Nat) : Int) = 0 := by exact_mod_cast hnone
        congr 1
        show (exponentField.toNat : Int) - _ + 1 = _
        rw [hexponent]
        rfl
    · rw [if_neg hnone, if_neg (mt hleast.1 hnone), ofValue, dif_pos (by omega), hbias]
      congr 1

theorem toFloat_eq (x : Binary64) : x.toFloat = .ofModel (.pack (ofValue x.value)) := by
  rw [← unpack_eq_ofValue]
  rfl

/-- A computed double is found again from its word. -/
theorem toFloat_ofFloat (x : Float) : (Binary64.ofFloat x).toFloat = x := by
  obtain ⟨⟨bits, valid⟩⟩ := x
  have hpack : UnpackedFloat.pack .binary64 (UnpackedFloat.unpack .binary64 bits.toBitVec) =
      bits.toBitVec := UnpackedFloat.pack_unpack_of_valid valid
  show Float.ofModel (.pack (UnpackedFloat.unpack .binary64 bits.toBitVec)) = _
  simp only [Float.Model.pack, hpack]

/-! ## The form of values -/

/-- The numbers that words stand for. -/
theorem bounds_of_value {x : Binary64} {negative : Bool} {significand : Nat} {exponent : Int}
    (h : x.value = .finite negative significand exponent) :
    significand < 2 ^ 53 ∧ -1074 ≤ exponent ∧ exponent ≤ 971 ∧
      (exponent = -1074 ∨ 2 ^ 52 ≤ significand) := by
  have hword := x.bits.toNat_lt
  rw [Binary64.value] at h
  simp only [FloatValue.ofWord, Nat.shiftRight_eq_div_pow, Nat.shiftLeft_eq, Nat.one_mul] at h
  split at h
  · split at h <;> cases h
  · split at h
    · obtain ⟨-, rfl, rfl⟩ := FloatValue.finite.inj h
      omega
    · obtain ⟨-, rfl, rfl⟩ := FloatValue.finite.inj h
      omega

/-- A number with less than a full significand is found again. -/
theorem stored_of_subnormal (sign : Sign) {significand : Nat} (hpos : 0 < significand)
    (hshort : significand < 2 ^ 52) :
    stored (.finite sign significand (-1074) hpos) = .finite sign significand (-1074) hpos := by
  have hlog : significand.log2 < 52 := (Nat.log2_lt hpos.ne').2 hshort
  have hbias : Format.binary64.exponentBias = 1023 := rfl
  have hnat : (BitVec.ofNat 52 significand).toNat = significand := by
    rw [BitVec.toNat_ofNat]
    omega
  have hfield : BitVec.ofNat 52 significand ≠ 0#52 := fun h => by
    have := congrArg BitVec.toNat h
    rw [hnat] at this
    exact hpos.ne' this
  rw [stored_eq, UnpackedFloat.pack]
  simp only [hbias, Format.mantissaBits]
  rw [if_neg (by decide), if_neg (by omega), UnpackedFloat.unpack]
  simp only [unpackSign_packComponents, Sign.ofBitVec_toBitVec,
    UnpackedFloat.unpackExponent_packComponents, UnpackedFloat.unpackMantissa_packComponents]
  simp [hfield, hnat, hbias]

/-- A number in canonical form is found again, unless it is too large. -/
theorem stored_of_canonical (sign : Sign) {significand : Nat} {exponent : Int}
    (hpos : 0 < significand) (hcanonical : Canonical (.finite sign significand exponent hpos))
    (hexponent : exponent ≤ 971) :
    stored (.finite sign significand exponent hpos) = .finite sign significand exponent hpos := by
  obtain ⟨hshort, hlow, hfull⟩ := hcanonical
  by_cases hsubnormal : significand < 2 ^ 52
  · obtain rfl : exponent = -1074 := hfull.resolve_right (by omega)
    exact stored_of_subnormal sign hpos hsubnormal
  · rw [stored_of_normal sign hpos (by omega) hshort hlow, if_pos hexponent]

end Double

end Georef
