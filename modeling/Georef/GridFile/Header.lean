import Georef.Json.Document
import Georef.Source.Cursor

/-!
# Headers of grid files

A header is a sequence of records of sixteen bytes: a label of eight characters, padded with spaces
or NUL characters, and a value of eight bytes. The value is an integer of four bytes with four more
to fill it up, a text, or a double. Records stand in a fixed order.

* `Units`: the unit of angles in a file.
* `Overview`, `Overview.read`: the header of a file.
* `SubGridHeader`, `SubGridHeader.read`: the header of a sub-grid.
* `SubGridHeader.dimensions`: the rows and columns that the header of a sub-grid implies.
-/

namespace Georef.GridFile

variable {ρ : Type} [Reader ρ]

/-! ## Records -/

/-- The length of labels and values. -/
def fieldLength : Nat := 8

/-- The number of records in each header. -/
def headerRecords : Nat := 11

/-- A text of eight characters without its padding. -/
def readName : Cursor.Action ρ String :=
  Cursor.text fieldLength .latin1 .trimPadding

/-- Reads the label of a record, which has to be the expected one. -/
def expectLabel (expected : String) : Cursor.Action ρ Unit := do
  let offset ← Cursor.here
  let label ← readName
  if label ≠ expected then throw (.grid (.unexpectedRecord expected offset label))

/-- Reads an integer record. -/
def readInteger (label : String) : Cursor.Action ρ Int := do
  expectLabel label
  let value ← Cursor.next Int32
  Cursor.skip 4
  return value.toInt

/-- Reads a text record. -/
def readText (label : String) : Cursor.Action ρ String := do
  expectLabel label
  readName

/-- Reads a record with a double. -/
def readDouble (label : String) : Cursor.Action ρ Binary64 := do
  expectLabel label
  Cursor.next Binary64

/-! ## Units -/

/-- The unit of angles in a file. -/
inductive Units where
  | seconds
  | minutes
  | degrees
  deriving DecidableEq, Repr

namespace Units

/-- The unit of a name, in any letter case. -/
def ofName (name : String) : Except Error Units :=
  let upper := String.ofList (name.toList.map Char.toUpper)
  if upper = "SECONDS" then .ok seconds
  else if upper = "MINUTES" then .ok minutes
  else if upper = "DEGREES" then .ok degrees
  else .error (.grid (.unknownUnits upper))

/-- The number of arc-seconds in a unit. -/
def inSeconds : Units → Nat
  | seconds => 1
  | minutes => 60
  | degrees => 3600

def name : Units → String
  | seconds => "Seconds"
  | minutes => "Minutes"
  | degrees => "Degrees"

instance : Json.ToDocument Units := ⟨fun units => .text units.name⟩

end Units

/-! ## The header of a file -/

/-- The header of a file. -/
structure Overview where
  /-- The declared number of sub-grids. -/
  fileCount : Nat
  /-- The unit as it is named in the file. -/
  unitName : String
  units : Units
  version : String
  /-- The datum that points are shifted from. -/
  source : String
  /-- The datum that points are shifted to. -/
  target : String
  sourceMajor : Binary64
  sourceMinor : Binary64
  targetMajor : Binary64
  targetMinor : Binary64
  deriving DecidableEq, Repr

namespace Overview

/-- Reads a record that tells the number of records in a header. -/
def readHeaderLength (label : String) : Cursor.Action ρ Unit := do
  let found ← readInteger label
  if found ≠ headerRecords then throw (.grid (.headerLength label found))

/-- Reads the header of a file. -/
def read : Cursor.Action ρ Overview := do
  readHeaderLength "NUM_OREC"
  readHeaderLength "NUM_SREC"
  let fileCount ← readInteger "NUM_FILE"
  if fileCount < 0 then throw (.grid (.negativeFileCount fileCount))
  let unitName ← readText "GS_TYPE"
  let units ← MonadExcept.ofExcept (Units.ofName unitName)
  return {
    fileCount := fileCount.toNat
    unitName
    units
    version := ← readText "VERSION"
    source := ← readText "SYSTEM_F"
    target := ← readText "SYSTEM_T"
    sourceMajor := ← readDouble "MAJOR_F"
    sourceMinor := ← readDouble "MINOR_F"
    targetMajor := ← readDouble "MAJOR_T"
    targetMinor := ← readDouble "MINOR_T" }

instance : Json.ToDocument Overview where
  document overview := .object [
    ("num_orec", Json.document headerRecords),
    ("num_srec", Json.document headerRecords),
    ("num_file", Json.document overview.fileCount),
    ("gs_type", .text overview.unitName),
    ("units", Json.document overview.units),
    ("version", .text overview.version),
    ("system_from", .text overview.source),
    ("system_to", .text overview.target),
    ("major_from", .double overview.sourceMajor),
    ("minor_from", .double overview.sourceMinor),
    ("major_to", .double overview.targetMajor),
    ("minor_to", .double overview.targetMinor)]

end Overview

/-! ## The header of a sub-grid -/

/-- The header of a sub-grid, with bounds and steps in the unit of the file and longitudes positive
to the west. -/
structure SubGridHeader where
  name : String
  parent : String
  created : String
  updated : String
  south : Binary64
  north : Binary64
  east : Binary64
  west : Binary64
  latStep : Binary64
  lonStep : Binary64
  /-- The declared number of nodes. -/
  count : Int
  deriving DecidableEq, Repr

namespace SubGridHeader

/-- Reads the header of a sub-grid behind its first label. -/
def read : Cursor.Action ρ SubGridHeader := do
  return {
    name := ← readName
    parent := ← readText "PARENT"
    created := ← readText "CREATED"
    updated := ← readText "UPDATED"
    south := ← readDouble "S_LAT"
    north := ← readDouble "N_LAT"
    east := ← readDouble "E_LONG"
    west := ← readDouble "W_LONG"
    latStep := ← readDouble "LAT_INC"
    lonStep := ← readDouble "LONG_INC"
    count := ← readInteger "GS_COUNT" }

variable (α : Type) [Scalar α]

/-- How far a number of steps may be from a whole number. -/
def stepTolerance : α :=
  Scalar.decimal 1 6

variable {α}

/-- Whether a number of steps is whole but for rounding noise. -/
def isWhole (steps : α) : Bool :=
  Scalar.isFinite steps && Scalar.le (Scalar.abs (steps - Scalar.round steps)) (stepTolerance α)

variable (α)

/-- The number of rows and columns. Steps have to be positive, bounds apart and a whole number of
steps from each other, and the nodes as many as declared. -/
def dimensions (header : SubGridHeader) : Except GridFault (Nat × Nat) := do
  let value : Binary64 → α := Scalar.ofDouble
  let zero : α := Scalar.ofNat 0
  if !Scalar.gt (value header.latStep) zero || !Scalar.gt (value header.lonStep) zero then
    throw (.nonPositiveIncrements header.name header.latStep header.lonStep)
  if !Scalar.gt (value header.north) (value header.south) ||
      !Scalar.gt (value header.west) (value header.east) then
    throw (.emptyExtent header.name)
  let latSteps := (value header.north - value header.south) / value header.latStep
  let lonSteps := (value header.west - value header.east) / value header.lonStep
  if !isWhole latSteps || !isWhole lonSteps then
    throw (.notWholeSteps header.name (Scalar.toDouble latSteps) (Scalar.toDouble lonSteps))
  let rows := Scalar.round latSteps + Scalar.ofNat 1
  let cols := Scalar.round lonSteps + Scalar.ofNat 1
  if !Scalar.equal (rows * cols) (Scalar.ofInt header.count) then
    throw (.nodeCount header.name header.count (Scalar.toDouble rows) (Scalar.toDouble cols))
  return (Scalar.floorNat rows, Scalar.floorNat cols)

end SubGridHeader

end Georef.GridFile
