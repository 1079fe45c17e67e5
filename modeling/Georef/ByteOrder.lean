import Georef.Bytes

/-!
# Byte order

Grid files and tagged directories come in both byte orders. A directory says so with a two-byte
marker; a grid file is recognised by an integer whose value is known beforehand.

* `ByteOrder.decode`, `ByteOrder.encode`: a number from and to bytes in an order, inverse to each
  other on numbers that fit (`decode_encode`) and on byte lists of the width (`encode_decode`).
* `ByteOrder.ofMarker?`, `ByteOrder.ofKnown?`: the two ways an order is recognised.
-/

namespace Georef

/-- Which end of a number comes first. -/
inductive ByteOrder where
  /-- Least significant byte first. -/
  | little
  /-- Most significant byte first. -/
  | big
  deriving DecidableEq, Repr, Inhabited

namespace ByteOrder

/-- The two letters that mark the order in a file header. -/
def label : ByteOrder → String
  | little => "II"
  | big => "MM"

/-- The two bytes that mark the order: `II` or `MM`. -/
def marker : ByteOrder → List UInt8
  | little => [0x49, 0x49]
  | big => [0x4D, 0x4D]

/-- The order that bytes mark, if they are one of the two markers. -/
def ofMarker? (bytes : List UInt8) : Option ByteOrder :=
  if bytes = marker little then some little
  else if bytes = marker big then some big
  else none

/-- The number that bytes spell in this order. -/
def decode : ByteOrder → List UInt8 → Nat
  | little, bytes => ofLittleEndian bytes
  | big, bytes => ofLittleEndian bytes.reverse

/-- The `width` bytes of a number in this order. -/
def encode : ByteOrder → (width number : Nat) → List UInt8
  | little, width, number => littleEndian width number
  | big, width, number => (littleEndian width number).reverse

/-- The order in which the bytes spell the number `expected`; little-endian where both do. -/
def ofKnown? (bytes : List UInt8) (expected : Nat) : Option ByteOrder :=
  if little.decode bytes = expected then some little
  else if big.decode bytes = expected then some big
  else none

@[simp]
theorem length_encode (order : ByteOrder) (width number : Nat) :
    (order.encode width number).length = width := by
  cases order <;> simp [encode]

theorem decode_lt (order : ByteOrder) (bytes : List UInt8) :
    order.decode bytes < byteBound bytes.length := by
  cases order
  · exact ofLittleEndian_lt bytes
  · simpa [decode] using ofLittleEndian_lt bytes.reverse

/-- A number that fits the width is read back as written. -/
theorem decode_encode (order : ByteOrder) {width number : Nat} (h : number < byteBound width) :
    order.decode (order.encode width number) = number := by
  cases order <;> simp [decode, encode, ofLittleEndian_littleEndian, Nat.mod_eq_of_lt h]

/-- Bytes are the only writing of the number they spell. -/
theorem encode_decode (order : ByteOrder) (bytes : List UInt8) :
    order.encode bytes.length (order.decode bytes) = bytes := by
  cases order
  · exact littleEndian_ofLittleEndian bytes
  · have h := littleEndian_ofLittleEndian bytes.reverse
    rw [List.length_reverse] at h
    simp [decode, encode, h]

/-- The two-byte units that bytes hold; a byte left over at the end is ignored. -/
def units16 (order : ByteOrder) : List UInt8 → List UInt16
  | first :: second :: rest =>
    UInt16.ofNat (order.decode [first, second]) :: order.units16 rest
  | _ => []

end ByteOrder

end Georef
