/-!
# Bytes and the numbers they spell

A stored run of bytes is an array, so that a byte can be fetched at any position. A number becomes
exactly `width` bytes, least significant first, and a list of bytes becomes a number; the other
byte order is the reverse of this one.

* `Bytes`, `Bytes.slice`: stored bytes, and a part of them.
* `littleEndian`, `ofLittleEndian`: the encoder and the decoder, with the two round-trip laws
  `ofLittleEndian_littleEndian` and `littleEndian_ofLittleEndian`.
-/

namespace Georef

/-- A stored run of bytes. -/
abbrev Bytes := Array UInt8

namespace Bytes

/-- At most `count` bytes from `start` on; fewer, or none, where the run ends earlier. -/
def slice (bytes : Bytes) (start count : Nat) : Bytes :=
  bytes.extract start (start + count)

/-- The bytes of a text in UTF-8. -/
def ofText (text : String) : Bytes :=
  text.toUTF8.data

@[simp]
theorem size_slice (bytes : Bytes) (start count : Nat) :
    (bytes.slice start count).size = min count (bytes.size - start) := by
  simp only [slice, Array.size_extract]
  omega

/-- A slice is what remains after dropping `start` bytes, cut after `count`. -/
theorem toList_slice (bytes : Bytes) (start count : Nat) :
    (bytes.slice start count).toList = (bytes.toList.drop start).take count := by
  simp [slice, List.extract_eq_take_drop]

end Bytes

/-! ## Numbers -/

/-- The `width` bytes of a number, least significant first; higher digits are dropped. -/
def littleEndian : (width number : Nat) → List UInt8
  | 0, _ => []
  | width + 1, number => UInt8.ofNat (number % 256) :: littleEndian width (number / 256)

/-- The number that the bytes spell, least significant first. -/
def ofLittleEndian : List UInt8 → Nat
  | [] => 0
  | byte :: rest => byte.toNat + 256 * ofLittleEndian rest

/-- The least number that takes more than `width` bytes. -/
def byteBound : (width : Nat) → Nat
  | 0 => 1
  | width + 1 => 256 * byteBound width

@[simp]
theorem length_littleEndian (width number : Nat) : (littleEndian width number).length = width := by
  induction width generalizing number with
  | zero => rfl
  | succ width ih => simp [littleEndian, ih]

/-- Reading back the bytes of a number gives its lowest `width` digits. -/
theorem ofLittleEndian_littleEndian (width number : Nat) :
    ofLittleEndian (littleEndian width number) = number % byteBound width := by
  induction width generalizing number with
  | zero => simp [littleEndian, ofLittleEndian, byteBound, Nat.mod_one]
  | succ width ih =>
    have h : (UInt8.ofNat (number % 256)).toNat = number % 256 := by
      simp
    rw [littleEndian, ofLittleEndian, ih, h, byteBound, Nat.mod_mul]

/-- What bytes spell takes no more bytes. -/
theorem ofLittleEndian_lt (bytes : List UInt8) :
    ofLittleEndian bytes < byteBound bytes.length := by
  induction bytes with
  | nil => simp [ofLittleEndian, byteBound]
  | cons byte rest ih =>
    have := byte.toNat_lt
    rw [ofLittleEndian, List.length_cons, byteBound]
    omega

/-- Writing what bytes spell gives the same bytes. -/
theorem littleEndian_ofLittleEndian (bytes : List UInt8) :
    littleEndian bytes.length (ofLittleEndian bytes) = bytes := by
  induction bytes with
  | nil => rfl
  | cons byte rest ih =>
    have h : byte.toNat < 256 := byte.toNat_lt
    rw [List.length_cons, ofLittleEndian, littleEndian, Nat.add_mul_mod_self_left,
      Nat.mod_eq_of_lt h, UInt8.ofNat_toNat, Nat.add_mul_div_left _ _ (by decide),
      Nat.div_eq_of_lt h, Nat.zero_add, ih]

end Georef
