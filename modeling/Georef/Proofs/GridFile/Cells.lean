import Georef.Proofs.GridFile.Blending

/-!
# Shifts in the cells of a lattice

A point on a border lies in two cells of a lattice, or in four. Which of them is used is a matter of
how the steps to the point are rounded down, and of the clamp at the last row and column. With exact
numbers it does not matter: the blend is the same in all of them. So the shift at a node is the one
that is stored there, and the northern and the western edge are those of the last cells.

The lattice is one that fills its rectangle, with two rows and two columns at least.

The module introduces:

* `SubGrid.Exact grid` — the lattice fills its rectangle.
* `SubGrid.InCell grid row col point` — a point lies in a cell, whose border belongs to it.
* `SubGrid.BlendsIn grid row col point found` — a shift is the bilinear blend of the corners of a
  cell, by the place of the point in this cell.

`interpolate?_blendsIn` says that a shift is such a blend in every cell of its point.
-/

namespace Georef.GridFile

open ShiftValue (components)

/-! ## One axis -/

section Axis

variable {low high step value : Rat} {count index : Nat}

/-- A value lies between two neighbours as its steps lie between their numbers. -/
theorem mem_Icc_iff_steps (hstep : 0 < step) :
    value ∈ Set.Icc (low + index * step) (low + (index + 1) * step) ↔
      (index : Rat) ≤ (value - low) / step ∧ (value - low) / step ≤ index + 1 := by
  rw [Set.mem_Icc, le_div_iff₀ hstep, div_le_iff₀ hstep, le_sub_iff_add_le', sub_le_iff_le_add']

theorem sub_add_mul_div (hstep : 0 < step) :
    (value - (low + index * step)) / step = (value - low) / step - index := by
  rw [← sub_sub, sub_div, mul_div_cancel_right₀ _ hstep.ne']

/-- The end of an axis is the end of its last stretch, and of no other one. -/
theorem last_of_mem_Icc (hstep : 0 < step) (hhigh : high = low + (count - 1) * step)
    (hindex : index + 1 < count)
    (hmem : high ∈ Set.Icc (low + index * step) (low + (index + 1) * step)) :
    index + 2 = count ∧ (high - (low + index * step)) / step = 1 := by
  have hsteps : (high - low) / step = count - 1 := by
    rw [hhigh, add_sub_cancel_left, mul_div_cancel_right₀ _ hstep.ne']
  -- the steps to the end are too many for a stretch before the last one
  obtain ⟨-, hle⟩ := (mem_Icc_iff_steps hstep).1 hmem
  rw [hsteps, sub_le_iff_le_add] at hle
  have hcount : count ≤ index + 1 + 1 := by exact_mod_cast hle
  obtain rfl : count = index + 2 := by omega
  refine ⟨rfl, ?_⟩
  rw [sub_add_mul_div hstep, hsteps]
  push_cast
  ring

/-- The stretch that is found for steps along the axis is one in which they end. -/
theorem Stretch.mem_reach {steps : Rat} (hcount : 2 ≤ count) (hsteps : 0 ≤ steps)
    (hle : steps ≤ count - 1) :
    (reach count steps).first + 1 < count ∧ (reach count steps).first ≤ steps ∧
      steps ≤ (reach count steps).first + 1 := by
  obtain ⟨first, hreach, hfirst, hbegin, hend⟩ := exists_reach hcount hsteps
  rw [hreach]
  refine ⟨hfirst, hbegin, ?_⟩
  rcases hend with hlt | rfl
  · exact hlt.le
  · push_cast at hle
    linarith

end Axis

/-! ## Cells -/

namespace SubGrid

variable {grid : SubGrid Rat} {point : ArcPoint Rat} {row col : Nat}

/-- `grid.Exact`: there are two rows and two columns at least, with positive steps between them, the
rectangle ends at the last row and the last column, and all nodes are there. -/
structure Exact (grid : SubGrid Rat) : Prop where
  two_le_rows : 2 ≤ grid.rows
  two_le_cols : 2 ≤ grid.cols
  latStep_pos : 0 < grid.latStep
  lonStep_pos : 0 < grid.lonStep
  north_eq : grid.north = grid.south + (grid.rows - 1) * grid.latStep
  west_eq : grid.west = grid.east + (grid.cols - 1) * grid.lonStep
  size_nodes : grid.nodes.size = grid.rows * grid.cols

/-- `grid.InCell row col point`: the point lies in the cell to the north and the west of a node, or
on its border. -/
structure InCell (grid : SubGrid Rat) (row col : Nat) (point : ArcPoint Rat) : Prop where
  row_lt : row + 1 < grid.rows
  col_lt : col + 1 < grid.cols
  lat_mem : point.lat ∈
    Set.Icc (grid.south + row * grid.latStep) (grid.south + (row + 1) * grid.latStep)
  lon_mem : point.lon ∈
    Set.Icc (grid.east + col * grid.lonStep) (grid.east + (col + 1) * grid.lonStep)

/-- The place of a node. -/
def place (grid : SubGrid Rat) (row col : Nat) : ArcPoint Rat where
  lat := grid.south + row * grid.latStep
  lon := grid.east + col * grid.lonStep

/-- The distance from a row to a point, in steps to the north. -/
def northOf (grid : SubGrid Rat) (row : Nat) (point : ArcPoint Rat) : Rat :=
  (point.lat - (grid.south + row * grid.latStep)) / grid.latStep

/-- The distance from a column to a point, in steps to the west. -/
def westOf (grid : SubGrid Rat) (col : Nat) (point : ArcPoint Rat) : Rat :=
  (point.lon - (grid.east + col * grid.lonStep)) / grid.lonStep

/-- `grid.BlendsIn row col point found`: the corners of a cell are nodes, and the shift is their
bilinear blend for the point, component by component. -/
def BlendsIn (grid : SubGrid Rat) (row col : Nat) (point : ArcPoint Rat)
    (found : ShiftValue Rat) : Prop :=
  ∃ first west north opposite : ShiftValue Rat,
    grid.node? row col = some first ∧ grid.node? row (col + 1) = some west ∧
    grid.node? (row + 1) col = some north ∧ grid.node? (row + 1) (col + 1) = some opposite ∧
    ∀ part ∈ components, part found = bilinear (grid.westOf col point) (grid.northOf row point)
      (part first) (part west) (part north) (part opposite)

namespace Exact

variable (h : grid.Exact)

include h

theorem fits : grid.Fits 0 where
  rows_pos := Nat.one_le_of_lt h.two_le_rows
  cols_pos := Nat.one_le_of_lt h.two_le_cols
  size_nodes := h.size_nodes
  latStep_pos := h.latStep_pos
  lonStep_pos := h.lonStep_pos
  north_le := by rw [add_zero, h.north_eq]
  west_le := by rw [add_zero, h.west_eq]

/-- A point lies in a cell as its steps end between rows and between columns. -/
theorem inCell_iff : grid.InCell row col point ↔
    (row + 1 < grid.rows ∧ row ≤ grid.stepsNorth point ∧ grid.stepsNorth point ≤ row + 1) ∧
      col + 1 < grid.cols ∧ col ≤ grid.stepsWest point ∧ grid.stepsWest point ≤ col + 1 := by
  constructor
  · rintro ⟨hrow, hcol, hlat, hlon⟩
    exact ⟨⟨hrow, (mem_Icc_iff_steps h.latStep_pos).1 hlat⟩, hcol,
      (mem_Icc_iff_steps h.lonStep_pos).1 hlon⟩
  · rintro ⟨⟨hrow, hlat⟩, hcol, hlon⟩
    exact ⟨hrow, hcol, (mem_Icc_iff_steps h.latStep_pos).2 hlat,
      (mem_Icc_iff_steps h.lonStep_pos).2 hlon⟩

/-- The cell that is used is one in which the point lies. -/
theorem inCell_cell (hcovers : grid.Covers point) :
    grid.InCell (grid.cell point).row (grid.cell point).col point := by
  obtain ⟨hsouth, hnorth⟩ := h.fits.stepsNorth_mem hcovers
  obtain ⟨heast, hwest⟩ := h.fits.stepsWest_mem hcovers
  rw [add_zero] at hnorth hwest
  rw [cell_eq_reach]
  exact h.inCell_iff.2 ⟨Stretch.mem_reach h.two_le_rows hsouth hnorth,
    Stretch.mem_reach h.two_le_cols heast hwest⟩

/-- The blend at a point is that of any cell in which it lies. -/
theorem blendAt_eq (hcell : grid.InCell row col point) (part : ShiftValue Rat → Rat) :
    grid.blendAt part point = bilinear (grid.westOf col point) (grid.northOf row point)
      (part (grid.nodeAt row col)) (part (grid.nodeAt row (col + 1)))
      (part (grid.nodeAt (row + 1) col)) (part (grid.nodeAt (row + 1) (col + 1))) := by
  obtain ⟨⟨hrow, hsouth, hnorth⟩, hcol, heast, hwest⟩ := h.inCell_iff.1 hcell
  -- the rows are replaced first; then the columns, which are blended for both of the two rows
  rw [blendAt, Stretch.blend_reach hrow hsouth hnorth, Stretch.blend_reach hcol heast hwest,
    Stretch.blend_reach hcol heast hwest, bilinear, westOf, northOf,
    sub_add_mul_div h.lonStep_pos, sub_add_mul_div h.latStep_pos]
  rfl

theorem blendsIn (hcell : grid.InCell row col point) {found : ShiftValue Rat}
    (hfound : ∀ part ∈ components, part found = grid.blendAt part point) :
    grid.BlendsIn row col point found := by
  have hfull := h.fits.toFull
  have hnextRow := hcell.row_lt
  have hnextCol := hcell.col_lt
  have hrow : row < grid.rows := Nat.lt_of_succ_lt hnextRow
  have hcol : col < grid.cols := Nat.lt_of_succ_lt hnextCol
  refine ⟨_, _, _, _, hfull.node?_nodeAt hrow hcol, hfull.node?_nodeAt hrow hnextCol,
    hfull.node?_nodeAt hnextRow hcol, hfull.node?_nodeAt hnextRow hnextCol, fun part hpart => ?_⟩
  rw [hfound part hpart, h.blendAt_eq hcell]

/-- The nodes lie in the rectangle. -/
theorem covers_place (hrow : row < grid.rows) (hcol : col < grid.cols) :
    grid.Covers (grid.place row col) := by
  have hrow : (row : Rat) ≤ grid.rows - 1 := by
    rw [le_sub_iff_add_le]
    exact_mod_cast hrow
  have hcol : (col : Rat) ≤ grid.cols - 1 := by
    rw [le_sub_iff_add_le]
    exact_mod_cast hcol
  have hlat := h.latStep_pos
  have hlon := h.lonStep_pos
  constructor
  · exact le_add_of_nonneg_right (by positivity)
  · rw [h.north_eq]
    exact add_le_add_right (mul_le_mul_of_nonneg_right hrow hlat.le) _
  · exact le_add_of_nonneg_right (by positivity)
  · rw [h.west_eq]
    exact add_le_add_right (mul_le_mul_of_nonneg_right hcol hlon.le) _

/-- At a node there is the shift of the node. -/
theorem interpolate?_place (hrow : row < grid.rows) (hcol : col < grid.cols) :
    grid.interpolate? (grid.place row col) = some (grid.nodeAt row col) := by
  obtain ⟨found, hfound, hparts⟩ := h.fits.toFull.exists_interpolate? (h.covers_place hrow hcol)
  have hnorth : grid.stepsNorth (grid.place row col) = row := by
    rw [stepsNorth, place, add_sub_cancel_left, mul_div_cancel_right₀ _ h.latStep_pos.ne']
  have hwest : grid.stepsWest (grid.place row col) = col := by
    rw [stepsWest, place, add_sub_cancel_left, mul_div_cancel_right₀ _ h.lonStep_pos.ne']
  rw [hfound, Option.some.injEq]
  refine ShiftValue.ext_components fun part hpart => ?_
  rw [hparts part hpart, blendAt, hnorth, hwest, Stretch.blend_reach_natCast h.two_le_rows hrow,
    Stretch.blend_reach_natCast h.two_le_cols hcol]

end Exact

end SubGrid

/-! ## Shifts -/

/-- At every point of its rectangle a lattice has a shift, which is the bilinear blend of the
corners of the cell that is used, and of any other cell in which the point lies. On the northern
edge these are cells of the last row, at whose end the point is, and on the western edge cells of
the last column. At a node there is the shift that is stored. -/
theorem interpolate?_blendsIn {grid : SubGrid Rat} (h : grid.Exact) :
    (∀ point, grid.Covers point → ∃ found, grid.interpolate? point = some found ∧
      grid.InCell (grid.cell point).row (grid.cell point).col point ∧
      (∀ row col, grid.InCell row col point → grid.BlendsIn row col point found) ∧
      (point.lat = grid.north → ∀ row col, grid.InCell row col point →
        row + 2 = grid.rows ∧ grid.northOf row point = 1) ∧
      (point.lon = grid.west → ∀ row col, grid.InCell row col point →
        col + 2 = grid.cols ∧ grid.westOf col point = 1)) ∧
    ∀ row col, row < grid.rows → col < grid.cols →
      ∃ node, grid.node? row col = some node ∧
        grid.interpolate? (grid.place row col) = some node := by
  refine ⟨fun point hcovers => ?_, fun row col hrow hcol => ?_⟩
  · obtain ⟨found, hfound, hparts⟩ := h.fits.toFull.exists_interpolate? hcovers
    refine ⟨found, hfound, h.inCell_cell hcovers, fun row col hcell => h.blendsIn hcell hparts,
      fun hedge row col hcell => ?_, fun hedge row col hcell => ?_⟩
    · rw [SubGrid.northOf, hedge]
      exact last_of_mem_Icc h.latStep_pos h.north_eq hcell.row_lt (hedge ▸ hcell.lat_mem)
    · rw [SubGrid.westOf, hedge]
      exact last_of_mem_Icc h.lonStep_pos h.west_eq hcell.col_lt (hedge ▸ hcell.lon_mem)
  · exact ⟨_, h.fits.toFull.node?_nodeAt hrow hcol, h.interpolate?_place hrow hcol⟩

/-- Three rows and four columns, with a shift to the north that doubles from node to node. -/
def doubling : SubGrid Rat where
  name := "DOUBLING"
  parent := none
  created := ""
  updated := ""
  south := -1
  north := 1
  east := 10
  west := 16
  latStep := 1
  lonStep := 2
  rows := 3
  cols := 4
  nodes := (Array.range 12).map fun place : Nat => ⟨2 ^ place, place, 0, 0⟩

/-- The node in the second row and the third column is a corner of four cells. -/
theorem interpolate?_blendsIn_doubling :
    doubling.Exact ∧ doubling.Covers ⟨14, 0⟩ ∧ doubling.interpolate? ⟨14, 0⟩ = some ⟨64, 6, 0, 0⟩ ∧
      ∀ row ∈ [0, 1], ∀ col ∈ [1, 2], doubling.InCell row col ⟨14, 0⟩ ∧
        doubling.BlendsIn row col ⟨14, 0⟩ ⟨64, 6, 0, 0⟩ := by
  have hexact : doubling.Exact := by
    constructor <;> decide +kernel
  have hcovers : doubling.Covers ⟨14, 0⟩ := by
    constructor <;> decide +kernel
  have hvalue : doubling.interpolate? ⟨14, 0⟩ = some ⟨64, 6, 0, 0⟩ := by
    decide +kernel
  obtain ⟨hcells, -⟩ := interpolate?_blendsIn hexact
  obtain ⟨found, hfound, -, hblends, -, -⟩ := hcells ⟨14, 0⟩ hcovers
  obtain rfl : found = ⟨64, 6, 0, 0⟩ := Option.some.inj (hfound.symm.trans hvalue)
  have hsteps : ∀ row ∈ [0, 1], ∀ col ∈ [1, 2],
      (row + 1 < doubling.rows ∧ row ≤ doubling.stepsNorth ⟨14, 0⟩ ∧
        doubling.stepsNorth ⟨14, 0⟩ ≤ row + 1) ∧
      col + 1 < doubling.cols ∧ col ≤ doubling.stepsWest ⟨14, 0⟩ ∧
        doubling.stepsWest ⟨14, 0⟩ ≤ col + 1 := by
    decide +kernel
  refine ⟨hexact, hcovers, hvalue, fun row hrow col hcol => ?_⟩
  have hcell := hexact.inCell_iff.2 (hsteps row hrow col hcol)
  exact ⟨hcell, hblends row col hcell⟩

end Georef.GridFile
