import Georef.Source.Inflate

/-!
# Gzip files

A member consists of a header, a compressed stream, and the checksum and length of the inflated
bytes. Only the first member of a file is read.

* `Gzip.checksum`: the cyclic checksum of 32 bits.
* `Gzip.gunzip`: the inflated bytes of a file.
-/

namespace Georef.Gzip

/-- One step of the checksum for each of the eight bits of a byte. -/
def shiftByte : (fuel : Nat) → UInt32 → UInt32
  | 0, state => state
  | fuel + 1, state =>
    let shifted := state >>> 1
    shiftByte fuel (if state &&& 1 = 1 then shifted ^^^ 0xEDB88320 else shifted)

/-- The cyclic checksum of bytes. -/
def checksum (bytes : Bytes) : UInt32 :=
  bytes.foldl (fun state byte => shiftByte 8 (state ^^^ byte.toUInt32)) 0xFFFFFFFF ^^^ 0xFFFFFFFF

/-- The most bytes of a header field, its NUL byte included. -/
def fieldLimit : Nat := 0x10000

/-- The position behind the NUL byte that ends a header field, which has to be among the next
`limit` bytes. -/
def behindNul (bytes : Bytes) : (limit start : Nat) → Except IoFault Nat
  | 0, _ => .error .badGzipHeader
  | limit + 1, start =>
    match bytes[start]? with
    | none => .error .truncated
    | some 0 => .ok (start + 1)
    | some _ => behindNul bytes limit (start + 1)

/-- The position behind `count` more bytes. -/
def behind (bytes : Bytes) (start count : Nat) : Except IoFault Nat :=
  if start + count ≤ bytes.size then .ok (start + count) else .error .truncated

/-- The number in `count` bytes, least significant first. -/
def numberAt (bytes : Bytes) (start count : Nat) : Nat :=
  ofLittleEndian (bytes.slice start count).toList

/-- Whether a bit of the header flags is set. -/
def flagged (flags weight : Nat) : Bool :=
  flags / weight % 2 == 1

/-- The position behind the header. -/
def behindHeader (bytes : Bytes) : Except IoFault Nat := do
  let _ ← behind bytes 0 10
  if numberAt bytes 0 3 ≠ 0x088B1F then throw .badGzipHeader
  let flags := numberAt bytes 3 1
  if 32 ≤ flags then throw .badGzipHeader
  -- the optional fields follow in this order, whatever the order of their flags
  let mut position := 10
  if flagged flags 4 then
    let counted ← behind bytes position 2
    position ← behind bytes counted (numberAt bytes position 2)
  if flagged flags 8 then
    position ← behindNul bytes fieldLimit position
  if flagged flags 16 then
    position ← behindNul bytes fieldLimit position
  if flagged flags 2 then
    let stored ← behind bytes position 2
    -- the header has a checksum of its own: the lower half of the usual one
    if numberAt bytes position 2 ≠ (checksum (bytes.slice 0 position)).toNat % 0x10000 then
      throw .badChecksum
    position := stored
  return position

/-- The inflated bytes of the first member. -/
def gunzip (bytes : Bytes) : Except IoFault Bytes := do
  let (out, position) ← Inflate.inflate bytes (← behindHeader bytes)
  let _ ← behind bytes position 8
  if numberAt bytes position 4 ≠ (checksum out).toNat ∨
      numberAt bytes (position + 4) 4 ≠ out.size % 0x100000000 then
    throw .badChecksum
  return out

end Georef.Gzip
