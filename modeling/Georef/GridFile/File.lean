import Georef.GridFile.Parents
import Georef.Source.Resource

/-!
# Grid files

A file is a header, sub-grids with their nodes, and a label that ends it. The byte order is not
marked; it is the one in which the first integer, the number of records in the header, is read as
eleven.

A sub-grid may refine another one of the file, its parent. The sub-grid to use at a point is the
smallest one that contains it, the first in the file among equally small ones.

* `GridFile`, `GridFile.ofResource`: a file, and reading one.
* `GridFile.subGridAt?`, `GridFile.interpolate?`: the sub-grid and the shift at a point.
-/

namespace Georef.GridFile

/-! ## Reading -/

/-- The name that stands for no parent, in any letter case. -/
def noParent : String := "NONE"

/-- Whether two texts are equal but for the case of the letters of the alphabet. -/
def sameLetters (a b : String) : Bool :=
  a.toList.map Char.toLower == b.toList.map Char.toLower

variable {ρ : Type} [Reader ρ]

/-- Tells the byte order by the number of header records. -/
def detectOrder : Cursor.Action ρ ByteOrder := do
  let start ← Cursor.here
  let stored ← Cursor.atOffset (start + fieldLength) (Cursor.bytes 4)
  match ByteOrder.ofKnown? stored.toList headerRecords with
  | some order => return order
  | none => throw (.grid .noByteOrder)

variable (α : Type) [Scalar α]

/-- The next single as a shift in arc-seconds. -/
def readShift (scale : α) : Cursor.Action ρ α := do
  return Scalar.ofSingle (← Cursor.next Binary32) * scale

/-- The next node. -/
def readNode (scale : α) : Cursor.Action ρ (ShiftValue α) := do
  return {
    lat := ← readShift α scale
    lon := ← readShift α scale
    latAccuracy := ← readShift α scale
    lonAccuracy := ← readShift α scale }

/-- The length of a stored node. -/
def nodeLength : Nat := 16

/-- Reads a sub-grid behind its first label. -/
def readSubGrid (units : Units) : Cursor.Action ρ (SubGrid α) := do
  let header ← SubGridHeader.read
  let (rows, cols) ← MonadExcept.ofExcept ((header.dimensions α).mapError .grid)
  -- all nodes have to be there before the first one is read
  Cursor.ensureRange (← Cursor.here) (rows * cols * nodeLength)
  let scale : α := Scalar.ofNat units.inSeconds
  let nodes ← Cursor.repeatOnto (readNode α scale) (rows * cols) #[]
  return {
    name := header.name
    parent := if sameLetters header.parent noParent then none else some header.parent
    created := header.created
    updated := header.updated
    south := Scalar.ofDouble header.south * scale
    north := Scalar.ofDouble header.north * scale
    east := Scalar.ofDouble header.east * scale
    west := Scalar.ofDouble header.west * scale
    latStep := Scalar.ofDouble header.latStep * scale
    lonStep := Scalar.ofDouble header.lonStep * scale
    rows
    cols
    nodes }

/-- Reads sub-grids up to the label that ends the file. Each one takes more than one byte, so there
are at most as many as bytes left. -/
def readSubGrids (units : Units) : (fuel : Nat) → (done : List (SubGrid α)) →
    Cursor.Action ρ (List (SubGrid α))
  | 0, done => return done.reverse
  | fuel + 1, done => do
    let offset ← Cursor.here
    let label ← readName
    -- the rest of the last record, and whatever follows it, is not looked at
    if label = "END" then return done.reverse
    if label ≠ "SUB_NAME" then throw (.grid (.unexpectedSection offset label))
    let grid ← readSubGrid α units
    readSubGrids units fuel (grid :: done)

end GridFile

/-! ## Files -/

/-- A grid file. -/
structure GridFile (α : Type) where
  name : String
  order : ByteOrder
  overview : GridFile.Overview
  /-- The sub-grids in the order of the file. -/
  grids : Array (GridFile.SubGrid α)
  /-- The places of the sub-grids by area, the smallest first and equal ones in order. -/
  precedence : List Nat

namespace GridFile

variable {ρ : Type} [Reader ρ] {α : Type} [Scalar α]

/-- The places of sub-grids by area. -/
def precedenceOf (grids : List (SubGrid α)) : List Nat :=
  (grids.zipIdx.mergeSort fun a b => Scalar.precedes a.1.area b.1.area).map Prod.snd

/-- The sub-grids of a file with their parents and children, if they are as many as declared. -/
def linkDeclared (overview : Overview) (found : List (SubGrid α)) :
    Except GridFault (List (SubGrid α)) := do
  -- the declared number is checked at the end, since sub-grids are read up to the last label
  if found.length ≠ overview.fileCount then
    throw (.fileCount overview.fileCount found.length)
  linkParents found

/-- Reads a file behind its header. -/
def readBody (name : String) (order : ByteOrder) (overview : Overview) :
    Cursor.Action ρ (GridFile α) := do
  let found ← readSubGrids α overview.units ((← get).length + 1) []
  let grids ← MonadExcept.ofExcept ((linkDeclared overview found).mapError .grid)
  return { name, order, overview, grids := grids.toArray, precedence := precedenceOf grids }

/-- Reads a file from its start. -/
def read (name : String) : Cursor.Action ρ (GridFile α) := do
  let order ← detectOrder
  Cursor.setOrder order
  readBody name order (← Overview.read)

/-- Reads a file. -/
def ofResource (resource : Resource) : Except Error (GridFile α) := do
  let cursor ← resource.cursor .little
  (Cursor.run (read resource.name) cursor).1

/-- Reads the file at a path. -/
def ofPath (files : Files) (access : Access) (path : String) : Except Error (GridFile α) :=
  ofResource (Resource.ofPath files access path)

/-- The sub-grids, the smallest first. -/
def byPrecedence (file : GridFile α) : List (SubGrid α) :=
  file.precedence.filterMap fun place => file.grids[place]?

/-- The sub-grids without a parent. -/
def roots (file : GridFile α) : List (SubGrid α) :=
  file.grids.toList.filter fun grid => grid.parentIndex.isNone

/-- The smallest sub-grid that contains a point. -/
def subGridAt? (file : GridFile α) (point : ArcPoint α) : Option (SubGrid α) :=
  file.byPrecedence.find? fun grid => grid.contains point

/-- The shift at a point. -/
def interpolate? (file : GridFile α) (point : ArcPoint α) : Option (ShiftValue α) :=
  (file.subGridAt? point).bind fun grid => grid.interpolate? point

instance : Json.ToDocument (GridFile α) where
  document file := .object [
    ("name", .text file.name),
    ("byte_order", .text (match file.order with
      | .little => "LittleEndian"
      | .big => "BigEndian")),
    ("header", Json.document file.overview),
    ("grids", Json.document file.grids.toList),
    ("precedence", Json.document file.precedence)]

end GridFile

end Georef
