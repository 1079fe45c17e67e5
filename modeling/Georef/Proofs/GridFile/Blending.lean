import Georef.Proofs.Fractions
import Georef.Proofs.GridFile.Corners
import Mathlib.LinearAlgebra.AffineSpace.Ordered

/-!
# Blends on one axis after the other

The weights of a cell make up the bilinear blend of its corners: along the two rows first, and from
the one to the other afterwards. So what can be said of a shift follows from what can be said of a
single axis, used once for the columns and once for the rows. On an axis the steps to a point are
rounded down and kept before the last point, which `Stretch.exists_reach` describes; all that
follows is taken from there. Numbers are exact here.

The module introduces:

* `bilinear` — the blend of four values; `ShiftValue.components` — what is blended of a shift.
* `Stretch.reach count steps` — the stretch that is found for a number of steps; `Stretch.blend` —
  what the values at its ends make there.
* `SubGrid.Fits grid tolerance` — the rectangle of a full lattice reaches over it by at most so many
  steps.
* `SubGrid.blendAt` — the blend of a component at a point, on one axis after the other;
  `SubGrid.Full.exists_interpolate?` — shifts are made up of such blends.
-/

namespace Georef.GridFile

open AffineMap (lineMap lineMap_apply_one lineMap_apply_ring lineMap_apply_zero)

/-! ## Four corners -/

/-- The bilinear blend of four values: first from east to west on both rows, then from the southern
row to the northern one. -/
def bilinear (x y first west north opposite : Rat) : Rat :=
  lineMap (lineMap first west x) (lineMap north opposite x) y

theorem Cell.blend_eq (cell : Cell Rat) (first west north opposite : Rat) :
    cell.blend first west north opposite =
      bilinear cell.dx cell.dy first west north opposite := by
  show (1 - cell.dx) * (1 - cell.dy) * first + cell.dx * (1 - cell.dy) * west +
    (1 - cell.dx) * cell.dy * north + cell.dx * cell.dy * opposite = _
  simp only [bilinear, lineMap_apply_ring]
  ring

theorem bilinear_self (x y value : Rat) : bilinear x y value value value value = value := by
  simp [bilinear]

namespace ShiftValue

/-- What a shift is made up of. -/
def components {α : Type} : List (ShiftValue α → α) :=
  [lat, lon, latAccuracy, lonAccuracy]

theorem ext_components {α : Type} {a b : ShiftValue α} (h : ∀ part ∈ components, part a = part b) :
    a = b := by
  simp only [components, List.forall_mem_cons] at h
  obtain ⟨hlat, hlon, hlatAccuracy, hlonAccuracy, -⟩ := h
  cases a
  cases b
  simp_all

end ShiftValue

open ShiftValue (components)

/-- Each component is blended on its own. -/
theorem Cell.component_blendCorners {α : Type} [Scalar α] {part : ShiftValue α → α}
    (hpart : part ∈ components) (cell : Cell α) (corners : Corners α) :
    part (cell.blendCorners corners) = cell.blend (part corners.first) (part corners.west)
      (part corners.north) (part corners.opposite) := by
  simp only [components, List.mem_cons, List.not_mem_nil, or_false] at hpart
  rcases hpart with rfl | rfl | rfl | rfl <;> rfl

/-! ## One axis -/

namespace Stretch

/-- The stretch for a number of steps, of which the whole ones are rounded down. -/
def reach (count : Nat) (steps : Rat) : Stretch Rat :=
  of count steps ⌊steps⌋₊

theorem reach_one (steps : Rat) : reach 1 steps = ⟨0, 0, 0⟩ := by
  simp [reach, of]
  rfl

/-- Between two points or more, the stretch begins at a point that the steps reach. They end before
its end, unless it is the last one. -/
theorem exists_reach {count : Nat} {steps : Rat} (hcount : 2 ≤ count) (hsteps : 0 ≤ steps) :
    ∃ first : Nat, reach count steps = ⟨first, first + 1, steps - first⟩ ∧ first + 1 < count ∧
      first ≤ steps ∧ (steps < first + 1 ∨ first + 2 = count) := by
  -- the stretch never begins at the last point, so there is always one behind it
  have hnext : min (min ⌊steps⌋₊ (count - 2) + 1) (count - 1) = min ⌊steps⌋₊ (count - 2) + 1 := by
    omega
  refine ⟨min ⌊steps⌋₊ (count - 2), ?_, by omega, ?_, ?_⟩
  · rw [reach, of, hnext]
    simp only [Nat.succ_ne_self, if_false]
    rfl
  · have hfirst : min ⌊steps⌋₊ (count - 2) ≤ ⌊steps⌋₊ := min_le_left _ _
    exact (Nat.le_floor_iff hsteps).1 hfirst
  · rcases le_total ⌊steps⌋₊ (count - 2) with hinside | hbehind
    · rw [min_eq_left hinside]
      exact .inl (Nat.lt_floor_add_one steps)
    · rw [min_eq_right hbehind]
      exact .inr (by omega)

/-- The blend of the values at the two ends of a stretch. -/
def blend (stretch : Stretch Rat) (values : Nat → Rat) : Rat :=
  lineMap (values stretch.first) (values stretch.next) stretch.offset

/-- Between two neighbours it is the blend of their values, although at a point of the axis the
stretch may be the one behind it. -/
theorem blend_reach {count index : Nat} {steps : Rat} (hindex : index + 1 < count)
    (hle : index ≤ steps) (hle' : steps ≤ index + 1) (values : Nat → Rat) :
    (reach count steps).blend values =
      lineMap (values index) (values (index + 1)) (steps - index) := by
  have hsteps : 0 ≤ steps := (Nat.cast_nonneg index).trans hle
  obtain ⟨first, hreach, hfirst, hbegin, hend⟩ := exists_reach (by omega : 2 ≤ count) hsteps
  have hupper : first ≤ index + 1 := by exact_mod_cast hbegin.trans hle'
  have hlower : index ≤ first := by
    rcases hend with hlt | hlast
    · exact Nat.lt_succ_iff.1 (by exact_mod_cast hle.trans_lt hlt)
    · omega
  rw [hreach, blend]
  -- it begins at one of the two, and at the second one only if the steps end right there
  obtain rfl | rfl : first = index ∨ first = index + 1 := by omega
  · rfl
  · have hwhole : steps = index + 1 := le_antisymm hle' (by exact_mod_cast hbegin)
    simp [hwhole]

/-- At a point of the axis it is the value of this point. -/
theorem blend_reach_natCast {count index : Nat} (hcount : 2 ≤ count) (hindex : index < count)
    (values : Nat → Rat) : (reach count index).blend values = values index := by
  rcases Nat.lt_or_ge (index + 1) count with hlt | hlast
  · rw [blend_reach hlt le_rfl (by linarith), sub_self, lineMap_apply_zero]
  · -- the last point is the end of the stretch before it
    obtain ⟨before, rfl⟩ : ∃ before, index = before + 1 := ⟨index - 1, by omega⟩
    rw [blend_reach hindex (by push_cast; linarith) (by push_cast; exact le_rfl)]
    push_cast
    rw [add_sub_cancel_left, lineMap_apply_one]

/-- Values on a straight line are continued by it, also behind the last point. -/
theorem blend_reach_linear {count : Nat} {steps start rise : Rat} (hcount : 2 ≤ count)
    (hsteps : 0 ≤ steps) {values : Nat → Rat}
    (hvalues : ∀ index < count, values index = start + index * rise) :
    (reach count steps).blend values = start + steps * rise := by
  obtain ⟨first, hreach, hfirst, -, -⟩ := exists_reach hcount hsteps
  rw [hreach, blend, hvalues first (by omega), hvalues (first + 1) hfirst, lineMap_apply_ring]
  push_cast
  ring

/-- The steps end before the end of the stretch, or behind the last one by as much as they are
behind the axis. -/
theorem offset_mem_Icc {count : Nat} {steps tolerance : Rat} (hcount : 1 ≤ count)
    (htolerance : 0 ≤ tolerance) (hsteps : 0 ≤ steps) (hle : steps ≤ count - 1 + tolerance) :
    (reach count steps).offset ∈ Set.Icc 0 (1 + tolerance) := by
  rcases hcount.eq_or_lt with rfl | hmore
  · -- a single point has no stretch, and no offset from it
    rw [reach_one]
    exact ⟨le_rfl, by linarith⟩
  · obtain ⟨first, hreach, -, hbegin, hend⟩ := exists_reach hmore hsteps
    rw [hreach]
    refine ⟨sub_nonneg.2 hbegin, ?_⟩
    show steps - first ≤ 1 + tolerance
    rcases hend with hlt | rfl
    · linarith
    · push_cast at hle
      linarith

end Stretch

/-! ## Sub-grids whose rectangle ends near the lattice -/

namespace SubGrid

variable {grid : SubGrid Rat} {point : ArcPoint Rat} {tolerance : Rat}

theorem contains_iff_rat : grid.contains point ↔ grid.Covers point :=
  contains_iff fun _ _ => decide_eq_true_iff

/-- `grid.Fits tolerance`: the lattice is full and has positive steps, and the rectangle ends at
most `tolerance` steps behind the last row and the last column. -/
structure Fits (grid : SubGrid Rat) (tolerance : Rat) : Prop extends grid.Full where
  latStep_pos : 0 < grid.latStep
  lonStep_pos : 0 < grid.lonStep
  north_le : grid.north ≤ grid.south + (grid.rows - 1 + tolerance) * grid.latStep
  west_le : grid.west ≤ grid.east + (grid.cols - 1 + tolerance) * grid.lonStep

/-- The steps to a value between two bounds. -/
theorem steps_mem {low high step value bound : Rat} (hstep : 0 < step)
    (hhigh : high ≤ low + bound * step) (hlow : low ≤ value) (hvalue : value ≤ high) :
    0 ≤ (value - low) / step ∧ (value - low) / step ≤ bound := by
  rw [le_div_iff₀ hstep, div_le_iff₀ hstep]
  constructor <;> linarith

namespace Fits

variable (h : grid.Fits tolerance) (hcovers : grid.Covers point)

include h hcovers

theorem stepsNorth_mem :
    0 ≤ grid.stepsNorth point ∧ grid.stepsNorth point ≤ grid.rows - 1 + tolerance :=
  steps_mem h.latStep_pos h.north_le hcovers.south_le hcovers.le_north

theorem stepsWest_mem :
    0 ≤ grid.stepsWest point ∧ grid.stepsWest point ≤ grid.cols - 1 + tolerance :=
  steps_mem h.lonStep_pos h.west_le hcovers.east_le hcovers.le_west

end Fits

/-! ## Shifts -/

/-- The cell of a point is found on each axis alone. -/
theorem cell_eq_reach (grid : SubGrid Rat) (point : ArcPoint Rat) :
    grid.cell point = .ofStretches (.reach grid.rows (grid.stepsNorth point))
      (.reach grid.cols (grid.stepsWest point)) := rfl

/-- The shift at a node; off the lattice it does not matter. -/
def nodeAt (grid : SubGrid Rat) (row col : Nat) : ShiftValue Rat :=
  (grid.node? row col).getD ⟨0, 0, 0, 0⟩

theorem nodeAt_eq {row col : Nat} {node : ShiftValue Rat} (h : grid.node? row col = some node) :
    grid.nodeAt row col = node := by
  rw [nodeAt, h, Option.getD_some]

theorem Full.node?_nodeAt (h : grid.Full) {row col : Nat} (hrow : row < grid.rows)
    (hcol : col < grid.cols) : grid.node? row col = some (grid.nodeAt row col) := by
  obtain ⟨node, hnode⟩ := h.exists_node? hrow hcol
  rw [hnode, nodeAt_eq hnode]

/-- The blend of a component at a point, on one axis after the other. -/
def blendAt (grid : SubGrid Rat) (part : ShiftValue Rat → Rat) (point : ArcPoint Rat) : Rat :=
  (Stretch.reach grid.rows (grid.stepsNorth point)).blend fun row =>
    (Stretch.reach grid.cols (grid.stepsWest point)).blend fun col => part (grid.nodeAt row col)

/-- Where the nodes grow by as much from row to row and from column to column, so do the points
between them. -/
theorem blendAt_linear {part : ShiftValue Rat → Rat} {start rise lift : Rat}
    (hrows : 2 ≤ grid.rows) (hcols : 2 ≤ grid.cols) (hnorth : 0 ≤ grid.stepsNorth point)
    (hwest : 0 ≤ grid.stepsWest point)
    (hnodes : ∀ row < grid.rows, ∀ col < grid.cols,
      part (grid.nodeAt row col) = start + row * rise + col * lift) :
    grid.blendAt part point =
      start + grid.stepsNorth point * rise + grid.stepsWest point * lift := by
  have hrow : ∀ row < grid.rows,
      (Stretch.reach grid.cols (grid.stepsWest point)).blend
        (fun col => part (grid.nodeAt row col)) =
          (start + grid.stepsWest point * lift) + row * rise := by
    intro row hrow
    rw [Stretch.blend_reach_linear hcols hwest (hnodes row hrow)]
    ring
  rw [blendAt, Stretch.blend_reach_linear hrows hnorth hrow]
  ring

/-- The shift at a point is the blend of each component. -/
theorem Full.exists_interpolate? (h : grid.Full) (hcovers : grid.Covers point) :
    ∃ found, grid.interpolate? point = some found ∧
      ∀ part ∈ components, part found = grid.blendAt part point := by
  obtain ⟨corners, hcorners⟩ := h.exists_cornersOf point _ _
  refine ⟨_, SubGrid.CornersOf.interpolate?_eq hcorners (contains_iff_rat.2 hcovers), ?_⟩
  intro part hpart
  rw [Cell.component_blendCorners hpart, Cell.blend_eq, ← nodeAt_eq hcorners.first,
    ← nodeAt_eq hcorners.west, ← nodeAt_eq hcorners.north, ← nodeAt_eq hcorners.opposite]
  rfl

/-- Where all nodes agree in a component, so do the points between them. -/
theorem component_eq_of_nodes {part : ShiftValue Rat → Rat} (hpart : part ∈ components)
    {value : Rat} (hnodes : ∀ node ∈ grid.nodes, part node = value) {found : ShiftValue Rat}
    (hfound : grid.interpolate? point = some found) : part found = value := by
  obtain ⟨corners, hcorners, rfl⟩ := exists_cornersOf_of_interpolate? hfound
  obtain ⟨hfirst, hwest, hnorth, hopposite⟩ := hcorners.forall_of_nodes hnodes
  rw [Cell.component_blendCorners hpart, Cell.blend_eq, hfirst, hwest, hnorth, hopposite,
    bilinear_self]

end SubGrid

end Georef.GridFile
