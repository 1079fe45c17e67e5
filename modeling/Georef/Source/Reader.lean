import Georef.Error
import Georef.Word

/-!
# Readers that can be moved

A reader hands out the bytes of a source from a position on and can be moved to another one. A read
may return fewer bytes than asked for; none means that the source has ended.

* `Reader`: the two operations, and what is built from them: reading an exact number of bytes,
  single values, the position, the length of the source.
* `MemoryReader`: a reader over bytes in memory.
* `StreamReader`: a reader that hands out only part of what is asked for, at its own pace.
-/

namespace Georef

/-- Where to move a reader. -/
inductive SeekTarget where
  /-- To a distance from the start. -/
  | fromStart (offset : Nat)
  /-- By a distance from the current position. -/
  | fromCurrent (delta : Int)
  /-- To a distance from the end. -/
  | fromEnd (delta : Int)
  deriving DecidableEq, Repr

/-- Positions are counted below this bound. -/
def positionBound : Nat := 0x10000000000000000

/-- The position at a signed distance from another one, if it can be counted. -/
def shiftPosition? (position : Nat) (delta : Int) : Option Nat :=
  let target := (position : Int) + delta
  if 0 ≤ target ∧ target < positionBound then some target.toNat else none

/-- Readers. A refused move leaves the reader as it was. -/
class Reader (ρ : Type) where
  /-- At most `count` of the next bytes, and the reader behind them. -/
  read : (count : Nat) → ρ → Bytes × ρ
  /-- The position moved to, and the reader there. -/
  seek : SeekTarget → ρ → Except IoFault (Nat × ρ)

namespace Reader

variable {ρ : Type} [Reader ρ]

/-- The next `count` bytes after those in `got`. -/
def readRest (count : Nat) (got : Bytes) (reader : ρ) : Except IoFault Bytes × ρ :=
  if count = 0 then (.ok got, reader)
  else
    let (chunk, reader) := read count reader
    -- a read may give less than asked for, but gives nothing only at the end
    if chunk.size = 0 then (.error .truncated, reader)
    else readRest (count - chunk.size) (got ++ chunk) reader
termination_by count
decreasing_by omega

/-- The next `count` bytes. Where the source ends earlier the read fails, and the reader stands at
the end. -/
def readExact (count : Nat) (reader : ρ) : Except IoFault Bytes × ρ :=
  readRest count #[] reader

/-- The current position. Asking counts as a move by no distance. -/
def position (reader : ρ) : Except IoFault (Nat × ρ) :=
  seek (.fromCurrent 0) reader

/-- The length of the source. The reader is moved to the end and, if that was another place, back
again. -/
def sourceLength (reader : ρ) : Except IoFault (Nat × ρ) := do
  let (current, reader) ← position reader
  let (length, reader) ← seek (.fromEnd 0) reader
  if current = length then return (length, reader)
  let (_, reader) ← seek (.fromStart current) reader
  return (length, reader)

/-- The next value of a fixed-width type. -/
def next (α : Type) [FixedWidth α] (order : ByteOrder) (reader : ρ) : Except IoFault α × ρ :=
  let (outcome, reader) := readExact (FixedWidth.width α) reader
  (outcome.map fun bytes => FixedWidth.decode order bytes.toList, reader)

/-- The byte order that the next two bytes mark. -/
def markedOrder (reader : ρ) : Except Error ByteOrder × ρ :=
  let (outcome, reader) := readExact 2 reader
  let order := do
    let marker := (← outcome.mapError .io).toList
    match ByteOrder.ofMarker? marker with
    | some order => return order
    | none => throw (.byteOrder (FixedWidth.decode .big marker))
  (order, reader)

end Reader

/-- The position that a move leads to in a source of `length` bytes. Positions beyond the end are
allowed; those before the start or out of count are refused. -/
def SeekTarget.resolve (length position : Nat) : SeekTarget → Except IoFault Nat
  | fromStart offset => .ok offset
  | fromCurrent delta => ((shiftPosition? position delta).map .ok).getD (.error .badPosition)
  | fromEnd delta => ((shiftPosition? length delta).map .ok).getD (.error .badPosition)

/-! ## Bytes in memory -/

/-- A reader over bytes in memory. -/
structure MemoryReader where
  data : Bytes
  /-- The position, which may lie beyond the end. -/
  position : Nat := 0

instance : Reader MemoryReader where
  read count reader :=
    let chunk := reader.data.slice reader.position count
    (chunk, { reader with position := reader.position + chunk.size })
  seek target reader := do
    let position ← target.resolve reader.data.size reader.position
    return (position, { reader with position })

/-! ## Files read at their own pace -/

/-- A reader over a stored file that may hand out less than it is asked for. -/
structure StreamReader where
  data : Bytes
  /-- How many bytes the n-th read is ready to hand out; at least one is. -/
  pace : Nat → Nat
  /-- The number of reads so far. -/
  turn : Nat := 0
  position : Nat := 0

instance : Reader StreamReader where
  read count reader :=
    let granted := min count (max 1 (reader.pace reader.turn))
    let chunk := reader.data.slice reader.position granted
    (chunk, { reader with
      turn := reader.turn + 1
      position := reader.position + chunk.size })
  seek target reader := do
    let position ← target.resolve reader.data.size reader.position
    return (position, { reader with position })

end Georef
