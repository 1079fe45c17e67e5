import Georef.GridFile.Header
import Georef.Point

/-!
# Sub-grids

A sub-grid is a rectangular lattice of nodes with a shift at each of them. Bounds and shifts are
arc-seconds with longitudes positive to the west; rows run from south to north and nodes in a row
from east to west.

Between the nodes the shift is the bilinear blend of the four corners of a cell. Points on the
northern and the western edge belong to the last cell; a lattice with a single row or column is flat
in that direction.

* `ShiftValue`: a shift with its accuracy.
* `SubGrid`, `SubGrid.contains`, `SubGrid.node?`: the lattice.
* `SubGrid.cell`, `SubGrid.interpolate?`: the cell of a point, and the shift there.
-/

namespace Georef.GridFile

/-- A shift in arc-seconds, the longitude positive to the west, and its accuracy. -/
structure ShiftValue (α : Type) where
  lat : α
  lon : α
  latAccuracy : α
  lonAccuracy : α
  deriving DecidableEq, Repr

/-- A rectangular lattice of shifts. -/
structure SubGrid (α : Type) where
  name : String
  /-- The name of the sub-grid that this one refines. -/
  parent : Option String
  created : String
  updated : String
  south : α
  north : α
  east : α
  west : α
  latStep : α
  lonStep : α
  rows : Nat
  cols : Nat
  /-- The place of the parent in the file. -/
  parentIndex : Option Nat := none
  /-- The places of the sub-grids that refine this one. -/
  children : List Nat := []
  /-- The shifts, row by row. -/
  nodes : Array (ShiftValue α)

/-- The place of a point in a lattice: the corners of a cell, and the distances from the first of
them in steps. -/
structure Cell (α : Type) where
  row : Nat
  col : Nat
  nextRow : Nat
  nextCol : Nat
  dx : α
  dy : α
  deriving DecidableEq, Repr

namespace SubGrid

variable {α : Type}

/-- The number of nodes. -/
def nodeCount (grid : SubGrid α) : Nat :=
  grid.rows * grid.cols

/-- The shift at a node. -/
def node? (grid : SubGrid α) (row col : Nat) : Option (ShiftValue α) :=
  if row < grid.rows ∧ col < grid.cols then grid.nodes[row * grid.cols + col]? else none

variable [Scalar α]

/-- Whether a point lies in the rectangle of the lattice; the sides belong to it. -/
def contains (grid : SubGrid α) (point : ArcPoint α) : Bool :=
  Scalar.between grid.south grid.north point.lat && Scalar.between grid.east grid.west point.lon

/-- The area of the rectangle in square arc-seconds. -/
def area (grid : SubGrid α) : α :=
  (grid.north - grid.south) * (grid.west - grid.east)

/-- The cell of a point. -/
def cell (grid : SubGrid α) (point : ArcPoint α) : Cell α :=
  let x := (point.lon - grid.east) / grid.lonStep
  let y := (point.lat - grid.south) / grid.latStep
  -- points on the last row or column are put into the cell before it
  let col := min (Scalar.floorNat x) (grid.cols - 2)
  let row := min (Scalar.floorNat y) (grid.rows - 2)
  let nextCol := min (col + 1) (grid.cols - 1)
  let nextRow := min (row + 1) (grid.rows - 1)
  { row, col, nextRow, nextCol
    dx := if nextCol = col then Scalar.ofNat 0 else x - Scalar.ofNat col
    dy := if nextRow = row then Scalar.ofNat 0 else y - Scalar.ofNat row }

end SubGrid

namespace Cell

variable {α : Type} [Scalar α]

/-- The weights of the four corners: the first one, its neighbour to the west, its neighbour to the
north, and the opposite one. -/
def weights (cell : Cell α) : α × α × α × α :=
  let one : α := Scalar.ofNat 1
  ((one - cell.dx) * (one - cell.dy), cell.dx * (one - cell.dy), (one - cell.dx) * cell.dy,
    cell.dx * cell.dy)

/-- The weighted sum of the values at the corners. -/
def blend (cell : Cell α) (first west north opposite : α) : α :=
  let (w₀, w₁, w₂, w₃) := cell.weights
  w₀ * first + w₁ * west + w₂ * north + w₃ * opposite

/-- The weighted sum of the shifts at the corners. -/
def blendShifts (cell : Cell α) (first west north opposite : ShiftValue α) : ShiftValue α where
  lat := cell.blend first.lat west.lat north.lat opposite.lat
  lon := cell.blend first.lon west.lon north.lon opposite.lon
  latAccuracy := cell.blend first.latAccuracy west.latAccuracy north.latAccuracy
    opposite.latAccuracy
  lonAccuracy := cell.blend first.lonAccuracy west.lonAccuracy north.lonAccuracy
    opposite.lonAccuracy

end Cell

/-- The shift at a point; none outside of the rectangle. -/
def SubGrid.interpolate? {α : Type} [Scalar α] (grid : SubGrid α) (point : ArcPoint α) :
    Option (ShiftValue α) := do
  if !grid.contains point then none
  let cell := grid.cell point
  return cell.blendShifts (← grid.node? cell.row cell.col) (← grid.node? cell.row cell.nextCol)
    (← grid.node? cell.nextRow cell.col) (← grid.node? cell.nextRow cell.nextCol)

instance {α : Type} [Scalar α] : Json.ToDocument (SubGrid α) where
  document grid := .object [
    ("name", .text grid.name),
    ("parent", Json.document grid.parent),
    ("created", .text grid.created),
    ("updated", .text grid.updated),
    ("south", Json.ofScalar grid.south),
    ("north", Json.ofScalar grid.north),
    ("east", Json.ofScalar grid.east),
    ("west", Json.ofScalar grid.west),
    ("lat_inc", Json.ofScalar grid.latStep),
    ("lon_inc", Json.ofScalar grid.lonStep),
    ("rows", Json.document grid.rows),
    ("cols", Json.document grid.cols),
    ("parent_index", Json.document grid.parentIndex),
    ("children", Json.document grid.children)]

end Georef.GridFile
