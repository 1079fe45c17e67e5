import Georef.Proofs.Tiff.StoredValues
import Georef.Tiff.Writing

/-!
# Values that are read back as they were written

The bytes of an entry are those of its values, one after the other. Values of every known type are
found again in them, whatever the byte order, as long as the type has room for them: a text is
written one byte for each character, and positions may have to fit four bytes.

The module introduces:

* `Value.OfType type value` — the values are of a known type, which has room for them.
* `storedElements_encodeAll` — values of one fixed-width type are read back.
* `Value.length_encode`, `Value.ofStored_encode` — the same for the values of an entry: the number
  of their bytes, and what the bytes hold.
-/

namespace Georef

/-- A text under the policy that drops nothing. -/
@[simp]
theorem Terminator.trim_preserve (text : String) : Terminator.preserve.trim text = text := by
  have hkept : text.toList.reverse.dropWhile Terminator.preserve.drops = text.toList.reverse := by
    cases text.toList.reverse <;> rfl
  rw [trim, Text.trimEnd, hkept, List.reverse_reverse, String.ofList_toList]

/-- A text of characters that take one byte each is found again in their bytes. -/
theorem Text.ofLatin1_of_lt {text : String} (h : ∀ c ∈ text.toList, c.toNat < 256) :
    Text.ofLatin1 (text.toList.map fun c => UInt8.ofNat c.toNat) = text := by
  have hread : ∀ c ∈ text.toList, Char.ofNat (UInt8.ofNat c.toNat).toNat = c := by
    intro c hc
    rw [UInt8.toNat_ofNat_of_lt' (h c hc), Char.ofNat_toNat]
  rw [ofLatin1, List.map_map]
  calc String.ofList (text.toList.map fun c => Char.ofNat (UInt8.ofNat c.toNat).toNat)
      = String.ofList (text.toList.map id) := by rw [List.map_congr_left hread]; rfl
    _ = text := by simp

namespace Tiff

/-! ## Values of a fixed width -/

section Elements

variable {α : Type} [FixedWidth α] (order : ByteOrder)

@[simp]
theorem encodeAll_cons (value : α) (rest : List α) :
    encodeAll order (value :: rest) = FixedWidth.encode order value ++ encodeAll order rest := rfl

@[simp]
theorem length_encodeAll (values : List α) :
    (encodeAll order values).length = FixedWidth.width α * values.length := by
  induction values with
  | nil => rfl
  | cons value rest ih =>
    rw [encodeAll_cons, List.length_append, FixedWidth.length_encode, ih, List.length_cons,
      Nat.mul_succ, Nat.add_comm]

/-- The value at a place among values that were written one after the other. -/
theorem slice_encodeAll {values : List α} {i : Nat} (hi : i < values.length) :
    (Bytes.slice (encodeAll order values).toArray (FixedWidth.width α * i)
      (FixedWidth.width α)).toList = FixedWidth.encode order values[i] := by
  rw [Bytes.toList_slice]
  induction values generalizing i with
  | nil => exact absurd hi (Nat.not_lt_zero i)
  | cons value rest ih =>
    have hlength : (FixedWidth.encode order value).length = FixedWidth.width α :=
      FixedWidth.length_encode order value
    simp only [encodeAll_cons]
    cases i with
    | zero =>
      rw [Nat.mul_zero, List.drop_zero, ← hlength]
      exact List.take_left
    | succ i =>
      -- the first value is in front of all others
      have hdrop : FixedWidth.width α * (i + 1) =
          (FixedWidth.encode order value).length + FixedWidth.width α * i := by
        rw [hlength, Nat.mul_succ, Nat.add_comm]
      rw [hdrop, ← List.drop_drop, List.drop_left]
      exact ih (Nat.lt_of_succ_lt_succ hi)

/-- Values that were written one after the other are read back. -/
theorem storedElements_encodeAll (values : List α) :
    storedElements α order values.length (encodeAll order values).toArray = values := by
  apply List.ext_getElem
  · simp
  · intro i hi hi'
    simp only [storedElements, List.getElem_map, List.getElem_range, slice_encodeAll order hi',
      FixedWidth.decode_encode]

end Elements

/-! ## The values of an entry -/

namespace Value

/-- `OfType type value`: the values are of the known type, and the type has room for them. -/
inductive OfType : ElementType → Value → Prop
  | byte (values : List UInt8) : OfType .byte (.bytes values)
  /-- A character of a text takes one byte. -/
  | ascii (text : String) (h : ∀ c ∈ text.toList, c.toNat < 256) : OfType .ascii (.ascii text)
  | short (values : List UInt16) : OfType .short (.shorts values)
  | long (values : List UInt32) : OfType .long (.longs values)
  | rational (values : List (Fraction UInt32)) : OfType .rational (.rationals values)
  | signedByte (values : List Int8) : OfType .signedByte (.signedBytes values)
  | undefined (values : List UInt8) : OfType .undefined (.undefined values)
  | signedShort (values : List Int16) : OfType .signedShort (.signedShorts values)
  | signedLong (values : List Int32) : OfType .signedLong (.signedLongs values)
  | signedRational (values : List (Fraction Int32)) :
    OfType .signedRational (.signedRationals values)
  | float (values : List Binary32) : OfType .float (.floats values)
  | double (values : List Binary64) : OfType .double (.doubles values)
  /-- A position takes four bytes in this type. -/
  | ifd (values : List UInt64) (h : ∀ value ∈ values, value.toNat < byteBound 4) :
    OfType .ifd (.offsets values)
  | long8 (values : List UInt64) : OfType .long8 (.long8s values)
  | signedLong8 (values : List Int64) : OfType .signedLong8 (.signedLong8s values)
  | ifd8 (values : List UInt64) : OfType .ifd8 (.offsets values)

variable {type : ElementType} {value : Value} (order : ByteOrder)

/-- The bytes of values, counted. -/
theorem length_encode (h : value.OfType type) :
    (value.encode order (.known type)).length = type.width * value.length := by
  cases h with
  | byte values => exact (Nat.one_mul _).symm
  | undefined values => exact (Nat.one_mul _).symm
  | ascii text h =>
    show (text.toList.map _).length = 1 * text.length
    rw [List.length_map, String.length_toList, Nat.one_mul]
  | ifd values h =>
    show (encodeAll order (values.map UInt64.toUInt32)).length = _
    rw [length_encodeAll, List.length_map]
    rfl
  | _ values => exact length_encodeAll order values

/-- Positions that fit four bytes are read back from them. -/
theorem map_toUInt64_toUInt32 {values : List UInt64}
    (h : ∀ value ∈ values, value.toNat < byteBound 4) :
    (values.map UInt64.toUInt32).map UInt32.toUInt64 = values := by
  rw [List.map_map]
  have hread : ∀ value ∈ values, (UInt32.toUInt64 ∘ UInt64.toUInt32) value = id value := by
    intro value hvalue
    apply UInt64.toNat_inj.1
    simp only [Function.comp, UInt32.toNat_toUInt64, UInt64.toNat_toUInt32, id]
    exact Nat.mod_eq_of_lt (h value hvalue)
  rw [List.map_congr_left hread, List.map_id]

/-- The values of a known type are read back from their bytes. -/
theorem ofStored_encode (h : value.OfType type) :
    ofStored .preserve order value.length (value.encode order (.known type)).toArray type =
      value := by
  cases h with
  | byte values => rfl
  | undefined values => rfl
  | ascii text h =>
    show ascii (Terminator.preserve.trim (Text.ofLatin1 (text.toList.map _))) = ascii text
    rw [Terminator.trim_preserve, Text.ofLatin1_of_lt h]
  | ifd values h =>
    have hread := storedElements_encodeAll order (values.map UInt64.toUInt32)
    rw [List.length_map] at hread
    have hvalues : (storedElements UInt32 order values.length
        (encodeAll order (values.map UInt64.toUInt32)).toArray).map UInt32.toUInt64 = values := by
      rw [hread, map_toUInt64_toUInt32 h]
    exact congrArg offsets hvalues
  | short values => exact congrArg shorts (storedElements_encodeAll order values)
  | long values => exact congrArg longs (storedElements_encodeAll order values)
  | rational values => exact congrArg rationals (storedElements_encodeAll order values)
  | signedByte values => exact congrArg signedBytes (storedElements_encodeAll order values)
  | signedShort values => exact congrArg signedShorts (storedElements_encodeAll order values)
  | signedLong values => exact congrArg signedLongs (storedElements_encodeAll order values)
  | signedRational values =>
    exact congrArg signedRationals (storedElements_encodeAll order values)
  | float values => exact congrArg floats (storedElements_encodeAll order values)
  | double values => exact congrArg doubles (storedElements_encodeAll order values)
  | long8 values => exact congrArg long8s (storedElements_encodeAll order values)
  | signedLong8 values => exact congrArg signedLong8s (storedElements_encodeAll order values)
  | ifd8 values => exact congrArg offsets (storedElements_encodeAll order values)

end Value

end Tiff

end Georef
