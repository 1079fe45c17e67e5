import Georef.Proofs.GridFile.Lattices

/-!
# The corners of a cell

The cell of a point is found on each axis alone: the number of steps to the point is rounded down,
and the last point of the axis is put into the stretch before it. Whatever number the rounding
gives, the two ends of the stretch are points of the axis, also where there is only one. So in a
full lattice the corners of the cell are nodes, and there is a shift at every point of the
rectangle.

To say that no step of this goes wrong, the shift is computed once more with steps that may: a
difference of natural numbers is refused below zero, and a place is refused behind the end of an
array. Each component of the shifts has an array of its own there.

The module introduces:

* `SubGrid.Covers grid point` — the point lies in the rectangle, with comparisons as propositions.
* `Stretch.of` — what is found on one axis; `SubGrid.cell_eq` — a cell is two of them.
* `SubGrid.CornersOf grid cell` — the shifts at the corners of a cell.
* `SubGrid.interpolateChecked` — the shift by steps that may go wrong.
* `interpolateChecked_of_ofResource` — none of them does, in any file that is accepted.
-/

namespace Georef.GridFile

variable {α : Type}

/-! ## Points of a rectangle -/

/-- `grid.Covers point`: the point lies between the bounds, which belong to the rectangle. -/
structure SubGrid.Covers [LE α] (grid : SubGrid α) (point : ArcPoint α) : Prop where
  south_le : grid.south ≤ point.lat
  le_north : point.lat ≤ grid.north
  east_le : grid.east ≤ point.lon
  le_west : point.lon ≤ grid.west

theorem SubGrid.contains_iff [LE α] [Scalar α] (hle : ∀ a b : α, Scalar.le a b ↔ a ≤ b)
    {grid : SubGrid α} {point : ArcPoint α} : grid.contains point ↔ grid.Covers point := by
  simp only [SubGrid.contains, Scalar.between, Scalar.ge, Bool.and_eq_true, hle]
  constructor
  · rintro ⟨⟨hsouth, hnorth⟩, heast, hwest⟩
    exact ⟨hsouth, hnorth, heast, hwest⟩
  · rintro ⟨hsouth, hnorth, heast, hwest⟩
    exact ⟨⟨hsouth, hnorth⟩, heast, hwest⟩

/-- Undefined coordinates and bounds do not compare, so nothing covers them and they cover nothing.
-/
theorem SubGrid.contains_iff_double {grid : SubGrid Float} {point : ArcPoint Float} :
    grid.contains point ↔ grid.Covers point :=
  SubGrid.contains_iff fun _ _ => decide_eq_true_iff

/-! ## One axis -/

/-- What is found on an axis: the two ends of a stretch between points of the axis, and a distance
from the first one in steps. -/
structure Stretch (α : Type) where
  first : Nat
  next : Nat
  offset : α

section Axes

variable [Scalar α]

/-- The stretch for `steps` from the first of `count` points, of which `whole` are taken to be whole
ones. -/
def Stretch.of (count : Nat) (steps : α) (whole : Nat) : Stretch α :=
  let first := min whole (count - 2)
  let next := min (first + 1) (count - 1)
  { first, next, offset := if next = first then Scalar.ofNat 0 else steps - Scalar.ofNat first }

/-- The cell between a stretch of rows and one of columns. -/
def Cell.ofStretches (rows cols : Stretch α) : Cell α where
  row := rows.first
  col := cols.first
  nextRow := rows.next
  nextCol := cols.next
  dx := cols.offset
  dy := rows.offset

/-- The steps from the south to a point. -/
def SubGrid.stepsNorth (grid : SubGrid α) (point : ArcPoint α) : α :=
  (point.lat - grid.south) / grid.latStep

/-- The steps from the east to a point. -/
def SubGrid.stepsWest (grid : SubGrid α) (point : ArcPoint α) : α :=
  (point.lon - grid.east) / grid.lonStep

/-- The cell for a point, where the steps to the point are taken to have given numbers of whole
ones. -/
def SubGrid.cellFor (grid : SubGrid α) (point : ArcPoint α) (wholeNorth wholeWest : Nat) : Cell α :=
  .ofStretches (.of grid.rows (grid.stepsNorth point) wholeNorth)
    (.of grid.cols (grid.stepsWest point) wholeWest)

theorem SubGrid.cell_eq (grid : SubGrid α) (point : ArcPoint α) :
    grid.cell point = grid.cellFor point (Scalar.floorNat (grid.stepsNorth point))
      (Scalar.floorNat (grid.stepsWest point)) := rfl

namespace Stretch

variable {count : Nat} (steps : α) (whole : Nat)

/-- A stretch begins at a point of the axis, even at the only one. -/
theorem first_lt (h : 1 ≤ count) : (of count steps whole).first < count := by
  show min whole (count - 2) < count
  omega

theorem next_lt (h : 1 ≤ count) : (of count steps whole).next < count := by
  show min _ (count - 1) < count
  omega

end Stretch

end Axes

/-! ## Corners -/

/-- The shifts at four corners. -/
structure Corners (α : Type) where
  first : ShiftValue α
  west : ShiftValue α
  north : ShiftValue α
  opposite : ShiftValue α

/-- `grid.CornersOf cell corners`: the shifts are those at the corners of the cell. -/
structure SubGrid.CornersOf {β : Type} (grid : SubGrid α) (cell : Cell β) (corners : Corners α) :
    Prop where
  first : grid.node? cell.row cell.col = some corners.first
  west : grid.node? cell.row cell.nextCol = some corners.west
  north : grid.node? cell.nextRow cell.col = some corners.north
  opposite : grid.node? cell.nextRow cell.nextCol = some corners.opposite

theorem mem_nodes_of_node? {grid : SubGrid α} {row col : Nat} {node : ShiftValue α}
    (h : grid.node? row col = some node) : node ∈ grid.nodes := by
  rw [SubGrid.node?] at h
  split at h
  · exact Array.mem_of_getElem? h
  · cases h

/-- What all nodes have in common, the corners have. -/
theorem SubGrid.CornersOf.forall_of_nodes {β : Type} {grid : SubGrid α} {cell : Cell β}
    {corners : Corners α} (h : grid.CornersOf cell corners) {p : ShiftValue α → Prop}
    (hnodes : ∀ node ∈ grid.nodes, p node) :
    p corners.first ∧ p corners.west ∧ p corners.north ∧ p corners.opposite :=
  ⟨hnodes _ (mem_nodes_of_node? h.first), hnodes _ (mem_nodes_of_node? h.west),
    hnodes _ (mem_nodes_of_node? h.north), hnodes _ (mem_nodes_of_node? h.opposite)⟩

section Shifts

variable [Scalar α] {grid : SubGrid α} {point : ArcPoint α}

/-- The shift of a cell with given corners. -/
def Cell.blendCorners (cell : Cell α) (corners : Corners α) : ShiftValue α :=
  cell.blendShifts corners.first corners.west corners.north corners.opposite

/-- Between rows and columns that are there, all corners are nodes. -/
theorem SubGrid.Full.exists_cornersOf (h : grid.Full) (point : ArcPoint α)
    (wholeNorth wholeWest : Nat) :
    ∃ corners, grid.CornersOf (grid.cellFor point wholeNorth wholeWest) corners := by
  have hrow := Stretch.first_lt (grid.stepsNorth point) wholeNorth h.rows_pos
  have hnextRow := Stretch.next_lt (grid.stepsNorth point) wholeNorth h.rows_pos
  have hcol := Stretch.first_lt (grid.stepsWest point) wholeWest h.cols_pos
  have hnextCol := Stretch.next_lt (grid.stepsWest point) wholeWest h.cols_pos
  obtain ⟨first, hfirst⟩ := h.exists_node? hrow hcol
  obtain ⟨west, hwest⟩ := h.exists_node? hrow hnextCol
  obtain ⟨north, hnorth⟩ := h.exists_node? hnextRow hcol
  obtain ⟨opposite, hopposite⟩ := h.exists_node? hnextRow hnextCol
  exact ⟨⟨first, west, north, opposite⟩, hfirst, hwest, hnorth, hopposite⟩

/-- At a point of the rectangle there is the shift of its cell. -/
theorem SubGrid.CornersOf.interpolate?_eq {corners : Corners α}
    (h : grid.CornersOf (grid.cell point) corners) (hcontains : grid.contains point) :
    grid.interpolate? point = some ((grid.cell point).blendCorners corners) := by
  rw [SubGrid.interpolate?, hcontains]
  simp only [Bool.not_true, Bool.false_eq_true, if_false, h.first, h.west, h.north, h.opposite]
  rfl

/-- The shift at a point is that of its cell, whose corners are nodes. -/
theorem SubGrid.exists_cornersOf_of_interpolate? {found : ShiftValue α}
    (h : grid.interpolate? point = some found) :
    ∃ corners, grid.CornersOf (grid.cell point) corners ∧
      found = (grid.cell point).blendCorners corners := by
  rw [SubGrid.interpolate?] at h
  split at h
  · cases h
  · obtain ⟨first, hfirst, h⟩ := Option.bind_eq_some_iff.1 h
    obtain ⟨west, hwest, h⟩ := Option.bind_eq_some_iff.1 h
    obtain ⟨north, hnorth, h⟩ := Option.bind_eq_some_iff.1 h
    obtain ⟨opposite, hopposite, h⟩ := Option.bind_eq_some_iff.1 h
    exact ⟨⟨first, west, north, opposite⟩, ⟨hfirst, hwest, hnorth, hopposite⟩,
      (Option.some.inj h).symm⟩

/-- At other points there is none. -/
theorem SubGrid.interpolate?_eq_none (h : ¬grid.contains point) :
    grid.interpolate? point = none := by
  rw [SubGrid.interpolate?, Bool.eq_false_iff.2 h]
  rfl

/-- A full lattice has a shift at all points of its rectangle and at no others. -/
theorem SubGrid.Full.isSome_interpolate? (h : grid.Full) :
    (grid.interpolate? point).isSome ↔ grid.contains point := by
  by_cases hcontains : grid.contains point
  · obtain ⟨corners, hcorners⟩ := h.exists_cornersOf point _ _
    rw [SubGrid.CornersOf.interpolate?_eq hcorners hcontains]
    simp [hcontains]
  · rw [SubGrid.interpolate?_eq_none hcontains]
    simp [hcontains]

end Shifts

/-! ## Steps that may go wrong -/

/-- What can go wrong when places are computed and looked up. -/
inductive PlaceFault where
  /-- A difference is below zero. -/
  | belowZero (a b : Nat)
  /-- A place is behind the end of an array. -/
  | behindEnd (place size : Nat)
  deriving DecidableEq, Repr

/-- A difference of natural numbers. -/
def difference (a b : Nat) : Except PlaceFault Nat :=
  if b ≤ a then .ok (a - b) else .error (.belowZero a b)

/-- The value at a place. -/
def fetch {β : Type} (values : Array β) (place : Nat) : Except PlaceFault β :=
  match values[place]? with
  | some value => .ok value
  | none => .error (.behindEnd place values.size)

/-- A node is found in the array of each component. -/
theorem fetch_map {β : Type} {grid : SubGrid α} {row col : Nat} {node : ShiftValue α}
    (h : grid.node? row col = some node) (part : ShiftValue α → β) :
    fetch (grid.nodes.map part) (row * grid.cols + col) = .ok (part node) := by
  rw [SubGrid.node?] at h
  split at h
  · rw [fetch, Array.getElem?_map, h]
    rfl
  · cases h

section Checked

variable [Scalar α]

/-- The stretch for `steps`; only the first of the two differences is cut off at zero. -/
def Stretch.check (count : Nat) (steps : α) (whole : Nat) : Except PlaceFault (Stretch α) := do
  let first := min whole (count - 2)
  let next := min (first + 1) (← difference count 1)
  return {
    first, next, offset := if next = first then Scalar.ofNat 0 else steps - Scalar.ofNat first }

/-- The weighted sum of the values at the corners, out of an array with `cols` values in a row. -/
def Cell.blendFrom (cell : Cell α) (cols : Nat) (values : Array α) : Except PlaceFault α := do
  return cell.blend (← fetch values (cell.row * cols + cell.col))
    (← fetch values (cell.row * cols + cell.nextCol))
    (← fetch values (cell.nextRow * cols + cell.col))
    (← fetch values (cell.nextRow * cols + cell.nextCol))

/-- The shift of a cell, out of an array for each component. -/
def SubGrid.blendChecked (grid : SubGrid α) (cell : Cell α) : Except PlaceFault (ShiftValue α) := do
  return {
    lat := ← cell.blendFrom grid.cols (grid.nodes.map ShiftValue.lat)
    lon := ← cell.blendFrom grid.cols (grid.nodes.map ShiftValue.lon)
    latAccuracy := ← cell.blendFrom grid.cols (grid.nodes.map ShiftValue.latAccuracy)
    lonAccuracy := ← cell.blendFrom grid.cols (grid.nodes.map ShiftValue.lonAccuracy) }

/-- The shift at a point by steps that may go wrong, where the steps to the point are taken to have
given numbers of whole ones. -/
def SubGrid.interpolateChecked (grid : SubGrid α) (point : ArcPoint α)
    (wholeNorth wholeWest : Nat) : Except PlaceFault (Option (ShiftValue α)) := do
  if !grid.contains point then return none
  let cols ← Stretch.check grid.cols (grid.stepsWest point) wholeWest
  let rows ← Stretch.check grid.rows (grid.stepsNorth point) wholeNorth
  return some (← grid.blendChecked (.ofStretches rows cols))

theorem Stretch.check_eq {count : Nat} (h : 1 ≤ count) (steps : α) (whole : Nat) :
    check count steps whole = .ok (of count steps whole) := by
  rw [check, difference, if_pos h]
  rfl

variable {grid : SubGrid α}

theorem SubGrid.CornersOf.blendFrom_eq {cell : Cell α} {corners : Corners α}
    (h : grid.CornersOf cell corners) (part : ShiftValue α → α) :
    cell.blendFrom grid.cols (grid.nodes.map part) = .ok (cell.blend (part corners.first)
      (part corners.west) (part corners.north) (part corners.opposite)) := by
  rw [Cell.blendFrom, fetch_map h.first, fetch_map h.west, fetch_map h.north, fetch_map h.opposite]
  rfl

theorem SubGrid.CornersOf.blendChecked_eq {cell : Cell α} {corners : Corners α}
    (h : grid.CornersOf cell corners) :
    grid.blendChecked cell = .ok (cell.blendCorners corners) := by
  rw [SubGrid.blendChecked, h.blendFrom_eq, h.blendFrom_eq, h.blendFrom_eq, h.blendFrom_eq]
  rfl

/-- In a full lattice nothing goes wrong, whatever the numbers of whole steps are taken to be. -/
theorem SubGrid.Full.exists_interpolateChecked (h : grid.Full) (point : ArcPoint α)
    (wholeNorth wholeWest : Nat) :
    ∃ corners, grid.CornersOf (grid.cellFor point wholeNorth wholeWest) corners ∧
      grid.interpolateChecked point wholeNorth wholeWest =
        .ok (if grid.contains point then
          some ((grid.cellFor point wholeNorth wholeWest).blendCorners corners) else none) := by
  obtain ⟨corners, hcorners⟩ := h.exists_cornersOf point wholeNorth wholeWest
  refine ⟨corners, hcorners, ?_⟩
  rw [SubGrid.interpolateChecked, Stretch.check_eq h.cols_pos, Stretch.check_eq h.rows_pos]
  by_cases hcontains : grid.contains point
  · rw [if_pos hcontains, hcontains]
    show (do return some (← grid.blendChecked (grid.cellFor point wholeNorth wholeWest))) = _
    rw [hcorners.blendChecked_eq]
    rfl
  · rw [if_neg hcontains, Bool.eq_false_iff.2 hcontains]
    rfl

end Checked

/-! ## Files that are accepted -/

/-- In a file that is accepted nothing goes wrong when the shift at a point is computed, whatever
numbers the steps to the point are rounded to, and there is a shift exactly at the points of the
rectangle. With the numbers of whole steps that the coordinates have, it is the one that is given.
-/
theorem interpolateChecked_of_ofResource {resource : Resource} {file : GridFile Float}
    (h : ofResource resource = .ok file) {grid : SubGrid Float} (hgrid : grid ∈ file.grids)
    (point : ArcPoint Float) :
    (∀ wholeNorth wholeWest, ∃ found,
      grid.interpolateChecked point wholeNorth wholeWest = .ok found ∧
        (found.isSome ↔ grid.Covers point)) ∧
    grid.interpolateChecked point (Scalar.floorNat (grid.stepsNorth point))
      (Scalar.floorNat (grid.stepsWest point)) = .ok (grid.interpolate? point) ∧
    ((grid.interpolate? point).isSome ↔ grid.Covers point) := by
  have hfull : grid.Full := full_of_ofResource h hgrid
  simp only [← SubGrid.contains_iff_double]
  refine ⟨fun wholeNorth wholeWest => ?_, ?_, hfull.isSome_interpolate?⟩
  · obtain ⟨corners, -, hchecked⟩ := hfull.exists_interpolateChecked point wholeNorth wholeWest
    refine ⟨_, hchecked, ?_⟩
    split <;> simp [*]
  · obtain ⟨corners, hcorners, hchecked⟩ := hfull.exists_interpolateChecked point
      (Scalar.floorNat (grid.stepsNorth point)) (Scalar.floorNat (grid.stepsWest point))
    rw [hchecked]
    split
    · rename_i hcontains
      rw [SubGrid.CornersOf.interpolate?_eq hcorners hcontains, SubGrid.cell_eq]
    · rename_i hcontains
      rw [SubGrid.interpolate?_eq_none hcontains]

/-- A file with a sub-grid of two columns and a single row: from south to north it is less than a
millionth of an increment. -/
def stripFile : StoredFile :=
  { sampleFile with
    fileCount := 1
    unitName := "Seconds"
    grids := [
      { header := { sampleFile.sampleHeader "STRIP" "NONE" ⟨0x3FF0000000000000⟩ 2 with
          latStep := ⟨0x4130000000000000⟩ }
        nodes := [⟨⟨0x3F800000⟩, ⟨0⟩, ⟨0⟩, ⟨0⟩⟩, ⟨⟨0x40400000⟩, ⟨0⟩, ⟨0⟩, ⟨0⟩⟩] }] }

/-- At the northern edge of a single row, with numbers of whole steps far behind its end. -/
theorem interpolateChecked_of_ofResource_strip :
    ∃ (file : GridFile Float) (grid : SubGrid Float) (found : Option (ShiftValue Float)),
      ofResource (.memory "strip" (stripFile.encode .little).toArray) = .ok file ∧
        grid ∈ file.grids ∧ grid.rows = 1 ∧ grid.cols = 2 ∧
        grid.interpolateChecked ⟨0.75, 1⟩ (2 ^ 64 - 1) (2 ^ 64 - 1) = .ok found ∧ found.isSome := by
  have hread : (ofResource (.memory "strip" (stripFile.encode .little).toArray)).toOption.any
      fun file : GridFile Float => file.grids[0]?.any fun grid =>
        grid.rows = 1 ∧ grid.cols = 2 ∧ grid.contains ⟨0.75, 1⟩ := by
    decide +kernel
  obtain ⟨file, hfile, hread⟩ := Except.exists_of_any_toOption hread
  obtain ⟨grid, hplace, hread⟩ := (Option.any_eq_true _ _).1 hread
  obtain ⟨hrows, hcols, hcontains⟩ := of_decide_eq_true hread
  have hgrid : grid ∈ file.grids := Array.mem_of_getElem? hplace
  obtain ⟨hchecked, -, -⟩ := interpolateChecked_of_ofResource hfile hgrid ⟨0.75, 1⟩
  obtain ⟨found, hfound, hsome⟩ := hchecked (2 ^ 64 - 1) (2 ^ 64 - 1)
  have hcovers := SubGrid.contains_iff_double.1 hcontains
  exact ⟨file, grid, found, hfile, hgrid, hrows, hcols, hfound, hsome.2 hcovers⟩

end Georef.GridFile
