import Georef.Tiff.Directory

/-!
# Reading a directory

A stored directory is the number of its entries, a record for each of them, and the position of the
next directory. A record ends in a field that holds the values themselves if they fit, and else the
position where they are stored. Counts, positions and the field are four bytes wide in the classic
layout and eight bytes in the large one.

Records are read first and their values afterwards, so values may be stored anywhere, also inside
the directory. At the end the cursor stands behind the position of the next directory, or behind
the last record where the source ends before it.

* `Layout`: the two layouts and their widths.
* `Record.read`, `Directory.addRecord`: reading a record, and adding what it says to a directory.
* `Directory.read`: reading a whole directory.
-/

namespace Georef.Tiff

/-- How wide the parts of a directory are. -/
inductive Layout where
  | classic
  | large
  deriving DecidableEq, Repr

namespace Layout

/-- The width of the number of entries. -/
def countWidth : Layout → Nat
  | classic => 2
  | large => 8

/-- The width of a position, of a number of values, and of the field at the end of a record. -/
def fieldWidth : Layout → Nat
  | classic => 4
  | large => 8

/-- The width of a record. -/
def recordWidth (layout : Layout) : Nat :=
  4 + 2 * layout.fieldWidth

end Layout

/-- How a directory is read. -/
structure Options where
  layout : Layout := .classic
  /-- What is done with the end of texts. -/
  policy : Terminator := .preserve
  deriving DecidableEq, Repr

/-- An entry as it is stored. -/
structure Record where
  tag : UInt16
  /-- The code of the type. -/
  code : UInt16
  count : Nat
  /-- The values, or the position where they are stored. -/
  field : Bytes
  deriving DecidableEq, Repr

/-- The most entries that a directory may have. -/
def maxEntries : Nat := 65535

/-- Sizes and positions are counted below this bound. -/
def sizeBound : Nat := 0x10000000000000000

variable {ρ : Type} [Reader ρ]

/-- The next natural number of a given width. -/
def natural (width : Nat) : Cursor.Action ρ Nat := do
  let chunk ← Cursor.bytes width
  return (← get).order.decode chunk.toList

/-- The outcome of an action on a cursor of its own over some bytes. -/
def within {α : Type} (data : Bytes) (action : Cursor.Action MemoryReader α) :
    Cursor.Action ρ α := do
  let order := (← get).order
  let cursor : Cursor MemoryReader :=
    { reader := { data }, order, position := 0, length := data.size }
  MonadExcept.ofExcept (Cursor.run action cursor).1

/-- The next record. -/
def Record.read (layout : Layout) : Cursor.Action ρ Record := do
  let tag ← Cursor.next UInt16
  let code ← Cursor.next UInt16
  let count ← natural layout.fieldWidth
  let field ← Cursor.bytes layout.fieldWidth
  return { tag, code, count, field }

/-- The values of a record of known type, and their position if they are stored elsewhere. -/
def Record.value (options : Options) (type : ElementType) (record : Record) :
    Cursor.Action ρ (Value × Option Nat) := do
  let total := type.width * record.count
  -- counts come from the file, so the size is checked before anything is compared with it
  if sizeBound ≤ total then throw (.format (.valueTooLarge record.tag))
  if total ≤ record.field.size then
    return (← within record.field (Value.load record.count options.policy type), none)
  let offset := (← get).order.decode record.field.toList
  Cursor.ensureRange offset total
  let value ← Cursor.atOffset offset (Value.load record.count options.policy type)
  return (value, some offset)

namespace Directory

/-- The directory with the entry of a record. -/
def addRecord (options : Options) (directory : Directory) (record : Record) :
    Cursor.Action ρ Directory := do
  match FieldType.ofCode record.code with
  | .unknown code =>
    let value := Value.raw code record.field.toList
    let warned := directory.warn (.unsupportedType record.tag code)
    return (warned.insert
      { tag := record.tag, type := .unknown code, count := record.count, value }).1
  | .known type =>
    let (value, valueOffset) ← record.value options type
    return (directory.insert
      { tag := record.tag, type := .known type, count := record.count, valueOffset, value }).1

/-- The directory at the cursor. -/
def read (options : Options) (number : Nat) : Cursor.Action ρ Directory := do
  let offset ← Cursor.here
  let count ← natural options.layout.countWidth
  if maxEntries < count then throw (.format (.directoryTooLong offset count))
  Cursor.ensureRange (← Cursor.here) (count * options.layout.recordWidth)
  -- values are not read before all records are, since they may be stored in between
  let records ← Cursor.times count (Record.read options.layout)
  let width := options.layout.fieldWidth
  let next ← if width ≤ (← get).remaining then natural width else pure 0
  let behind ← Cursor.here
  let directory ← records.foldlM (addRecord options) { number, offset, next }
  Cursor.seek behind
  return directory

end Directory

end Georef.Tiff
