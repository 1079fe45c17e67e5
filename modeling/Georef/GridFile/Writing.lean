import Georef.GridFile.SubGrid

/-!
# Writing grid files

The bytes of a grid file: the header, the sub-grids with their nodes, and the label that ends the
file. Labels and texts are padded with spaces to eight bytes; a longer one is cut. What is left of
an integer record is filled up with zeros, and so is the record of the last label.

* `StoredFile`, `StoredSubGrid`: what is written.
* `StoredFile.encode`: the bytes of a file.
-/

namespace Georef.GridFile

/-! ## Records -/

/-- A label or a text in the bytes that it takes. -/
def textField (text : String) : List UInt8 :=
  -- bytes are counted, not characters
  let bytes := (Bytes.ofText text).toList.take fieldLength
  bytes ++ List.replicate (fieldLength - bytes.length) 0x20

/-- A record with a text. -/
def textRecord (label text : String) : List UInt8 :=
  textField label ++ textField text

/-- A record with an integer. -/
def integerRecord (order : ByteOrder) (label : String) (value : Int32) : List UInt8 :=
  textField label ++ FixedWidth.encode order value ++ List.replicate 4 0

/-- A record with a double. -/
def doubleRecord (order : ByteOrder) (label : String) (value : Binary64) : List UInt8 :=
  textField label ++ FixedWidth.encode order value

/-! ## Sub-grids -/

/-- A sub-grid as it is stored, in the unit of its file. -/
structure StoredSubGrid where
  header : SubGridHeader
  /-- The nodes, row by row from south to north and in a row from east to west. -/
  nodes : List (ShiftValue Binary32)
  deriving DecidableEq, Repr

/-- The records of the header of a sub-grid. -/
def SubGridHeader.encode (order : ByteOrder) (header : SubGridHeader) : List UInt8 :=
  textRecord "SUB_NAME" header.name ++
  textRecord "PARENT" header.parent ++
  textRecord "CREATED" header.created ++
  textRecord "UPDATED" header.updated ++
  doubleRecord order "S_LAT" header.south ++
  doubleRecord order "N_LAT" header.north ++
  doubleRecord order "E_LONG" header.east ++
  doubleRecord order "W_LONG" header.west ++
  doubleRecord order "LAT_INC" header.latStep ++
  doubleRecord order "LONG_INC" header.lonStep ++
  integerRecord order "GS_COUNT" (Int32.ofInt header.count)

/-- A node as it is stored. -/
def ShiftValue.encode (order : ByteOrder) (node : ShiftValue Binary32) : List UInt8 :=
  FixedWidth.encode order node.lat ++ FixedWidth.encode order node.lon ++
  FixedWidth.encode order node.latAccuracy ++ FixedWidth.encode order node.lonAccuracy

/-- The header of a sub-grid with the nodes behind it. -/
def StoredSubGrid.encode (order : ByteOrder) (grid : StoredSubGrid) : List UInt8 :=
  grid.header.encode order ++ grid.nodes.flatMap (ShiftValue.encode order)

/-! ## Files -/

/-- A grid file as it is stored. -/
structure StoredFile where
  /-- The declared number of sub-grids. -/
  fileCount : Int32
  unitName : String
  version : String
  source : String
  target : String
  sourceMajor : Binary64
  sourceMinor : Binary64
  targetMajor : Binary64
  targetMinor : Binary64
  grids : List StoredSubGrid
  deriving DecidableEq, Repr

namespace StoredFile

/-- The records of the header. -/
def header (order : ByteOrder) (file : StoredFile) : List UInt8 :=
  integerRecord order "NUM_OREC" (Int32.ofNat headerRecords) ++
  integerRecord order "NUM_SREC" (Int32.ofNat headerRecords) ++
  integerRecord order "NUM_FILE" file.fileCount ++
  textRecord "GS_TYPE" file.unitName ++
  textRecord "VERSION" file.version ++
  textRecord "SYSTEM_F" file.source ++
  textRecord "SYSTEM_T" file.target ++
  doubleRecord order "MAJOR_F" file.sourceMajor ++
  doubleRecord order "MINOR_F" file.sourceMinor ++
  doubleRecord order "MAJOR_T" file.targetMajor ++
  doubleRecord order "MINOR_T" file.targetMinor

/-- The record that ends a file. -/
def ending : List UInt8 :=
  textField "END" ++ List.replicate fieldLength 0

/-- The bytes of a file. -/
def encode (order : ByteOrder) (file : StoredFile) : List UInt8 :=
  file.header order ++ file.grids.flatMap (StoredSubGrid.encode order) ++ ending

end StoredFile

end Georef.GridFile
