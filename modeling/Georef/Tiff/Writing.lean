import Georef.Tiff.Decoding

/-!
# Writing a directory

The bytes of a directory: the number of entries, a record for each of them, the position of the next
directory, and then the values that do not fit into their records, one after the other in the order
of the entries. Values that fit are filled up with zeros.

* `Value.encode`: the bytes of values, in the width of their type.
* `Entry.placed`: entries with the positions at which their values are stored.
* `Directory.encode`: the bytes of a directory that starts at a given position.
-/

namespace Georef.Tiff

/-! ## Values -/

/-- The bytes of values one after the other. -/
def encodeAll {α : Type} [FixedWidth α] (order : ByteOrder) (values : List α) : List UInt8 :=
  values.flatMap (FixedWidth.encode order)

/-- The bytes of values. Positions take four bytes or eight, as their type says; a character takes
one byte. -/
def Value.encode (order : ByteOrder) (type : FieldType) : Value → List UInt8
  | bytes values => values
  | undefined values => values
  | raw _ stored => stored
  | ascii text => text.toList.map fun c => UInt8.ofNat c.toNat
  | shorts values => encodeAll order values
  | longs values => encodeAll order values
  | rationals values => encodeAll order values
  | signedBytes values => encodeAll order values
  | signedShorts values => encodeAll order values
  | signedLongs values => encodeAll order values
  | signedRationals values => encodeAll order values
  | floats values => encodeAll order values
  | doubles values => encodeAll order values
  | long8s values => encodeAll order values
  | signedLong8s values => encodeAll order values
  | offsets values =>
    match type with
    | .known .ifd => encodeAll order (values.map UInt64.toUInt32)
    | _ => encodeAll order values

/-! ## Entries -/

namespace Entry

/-- The bytes of the values of an entry. -/
def data (order : ByteOrder) (entry : Entry) : List UInt8 :=
  entry.value.encode order entry.type

/-- Whether the values of an entry fit into its record. -/
def fits (layout : Layout) (order : ByteOrder) (entry : Entry) : Bool :=
  (entry.data order).length ≤ layout.fieldWidth

/-- Entries with the positions at which their values are stored, given that of the first values
that do not fit into their record. -/
def placed (layout : Layout) (order : ByteOrder) : (position : Nat) → List Entry → List Entry
  | _, [] => []
  | position, entry :: rest =>
    if entry.fits layout order then
      { entry with valueOffset := none } :: placed layout order position rest
    else
      { entry with valueOffset := some position } ::
        placed layout order (position + (entry.data order).length) rest

/-- The field at the end of the record of an entry: the position of the values, or else the values
themselves. -/
def field (layout : Layout) (order : ByteOrder) (entry : Entry) : List UInt8 :=
  match entry.valueOffset with
  | some position => order.encode layout.fieldWidth position
  | none =>
    let data := entry.data order
    data ++ List.replicate (layout.fieldWidth - data.length) 0

/-- The record of an entry. -/
def record (layout : Layout) (order : ByteOrder) (entry : Entry) : List UInt8 :=
  FixedWidth.encode order entry.tag ++ FixedWidth.encode order entry.type.code ++
  order.encode layout.fieldWidth entry.count ++ entry.field layout order

/-- The bytes that an entry takes behind the directory. -/
def behind (order : ByteOrder) (entry : Entry) : List UInt8 :=
  if entry.valueOffset.isSome then entry.data order else []

end Entry

/-! ## Directories -/

/-- The bytes that a directory takes, without the values behind it. -/
def Layout.directoryWidth (layout : Layout) (entryCount : Nat) : Nat :=
  layout.countWidth + entryCount * layout.recordWidth + layout.fieldWidth

namespace Directory

/-- The bytes of a directory with entries as they were placed. -/
def encodePlaced (layout : Layout) (order : ByteOrder) (next : Nat) (entries : List Entry) :
    List UInt8 :=
  order.encode layout.countWidth entries.length ++
  entries.flatMap (Entry.record layout order) ++
  order.encode layout.fieldWidth next ++
  entries.flatMap (Entry.behind order)

/-- The bytes of a directory that starts at `offset`. -/
def encode (layout : Layout) (order : ByteOrder) (offset next : Nat) (entries : List Entry) :
    List UInt8 :=
  encodePlaced layout order next
    (Entry.placed layout order (offset + layout.directoryWidth entries.length) entries)

end Directory

end Georef.Tiff
