import Georef.Proofs.GridFile.Blending

/-!
# Shifts at the edge of a lattice

The extent of a sub-grid is accepted if it is a whole number of steps long but for a millionth of a
step, so that the rectangle may reach over its lattice. A point on the northern or the western edge
is then behind the last row or column, and its shift is not between those of the corners any more:
it goes on beyond them with the same slope. As the point is that near to the corners, the shift is
near to theirs, in proportion to how much they differ. Numbers are exact here.

The module introduces:

* `overhang` — the millionth of a step; `SubGrid.Ruled grid` — the extents have been checked.
* `widened low high tolerance` — an interval that is longer on both sides, by a part of its length.
* `Corners.least`, `Corners.greatest` — the range of the corners.

`interpolate?_mem_widened` says where the shifts of accepted files are.
-/

namespace Georef.GridFile

open AffineMap (lineMap lineMap_apply_ring)
open ShiftValue (components)

/-! ## Extents -/

/-- How far a rectangle may reach over its lattice, in steps. -/
def overhang : Rat :=
  1 / 10 ^ 6

theorem overhang_pos : 0 < overhang := by
  norm_num [overhang]

namespace SubGridHeader

theorem stepTolerance_rat : stepTolerance Rat = overhang := by
  rw [stepTolerance, Scalar.decimal_rat, overhang, Nat.cast_one]

theorem isWhole_rat {steps : Rat} (h : isWhole steps) : |steps - roundRat steps| ≤ overhang := by
  rw [← stepTolerance_rat, ← Scalar.abs_rat]
  exact of_decide_eq_true (Bool.and_eq_true_iff.1 h).2

namespace Spaced

variable {low high step scale : Rat} {count : Nat}

theorem zero_lt_step (h : Spaced low high step count) : 0 < step :=
  Scalar.gt_rat.1 h.step_pos

theorem low_lt (h : Spaced low high step count) : low < high :=
  Scalar.gt_rat.1 h.low_lt_high

/-- The unit of an extent does not matter. -/
theorem scaled (h : Spaced low high step count) (hscale : 0 < scale) :
    Spaced (low * scale) (high * scale) (step * scale) count := by
  have hsteps : (high * scale - low * scale) / (step * scale) = (high - low) / step := by
    rw [← sub_mul, mul_div_mul_right _ _ hscale.ne']
  refine ⟨Scalar.gt_rat.2 (mul_pos h.zero_lt_step hscale),
    Scalar.gt_rat.2 (mul_lt_mul_of_pos_right h.low_lt hscale), ?_, ?_⟩
  · rw [hsteps]
    exact h.steps_whole
  · rw [hsteps]
    exact h.count_eq

/-- The points of an extent are one more than its steps. -/
theorem exists_steps (h : Spaced low high step count) :
    ∃ steps : Nat, count = steps + 1 ∧ roundRat ((high - low) / step) = steps := by
  have hsteps : 0 ≤ (high - low) / step :=
    div_nonneg (sub_nonneg.2 h.low_lt.le) h.zero_lt_step.le
  have hround := roundRat_of_nonneg hsteps
  refine ⟨_, ?_, hround⟩
  have hcount : count = Scalar.floorNat (roundRat ((high - low) / step) + 1) := h.count_eq
  -- what is rounded is a natural number already, so one more is found when it is rounded down
  rw [hcount, hround, Scalar.floorNat_rat]
  exact_mod_cast Nat.floor_natCast _

/-- An extent ends near its last point. -/
theorem high_le (h : Spaced low high step count) :
    high ≤ low + (count - 1 + overhang) * step := by
  obtain ⟨steps, rfl, hround⟩ := h.exists_steps
  have hnoise := (abs_le.1 (isWhole_rat h.steps_whole)).2
  rw [hround, sub_le_iff_le_add, div_le_iff₀ h.zero_lt_step] at hnoise
  push_cast
  linarith

/-- An extent of whole steps ends at its last point. -/
theorem high_le_of_eq (h : Spaced low high step count) {steps : Nat}
    (hextent : high - low = steps * step) : high ≤ low + (count - 1 + 0) * step := by
  obtain ⟨found, rfl, hround⟩ := h.exists_steps
  rw [hextent, mul_div_cancel_right₀ _ h.zero_lt_step.ne', roundRat_natCast] at hround
  push_cast
  rw [add_sub_cancel_right, add_zero, ← hround, ← hextent]
  exact (add_sub_cancel low high).ge

end Spaced

end SubGridHeader

open SubGridHeader (Spaced)

namespace SubGrid

variable {grid : SubGrid Rat} {point : ArcPoint Rat}

/-- `grid.Ruled`: the extents of the rectangle are checked ones, with as many points as there are
rows and columns, and all nodes are there. -/
structure Ruled (grid : SubGrid Rat) : Prop where
  lat : Spaced grid.south grid.north grid.latStep grid.rows
  lon : Spaced grid.east grid.west grid.lonStep grid.cols
  size_nodes : grid.nodes.size = grid.rows * grid.cols

namespace Ruled

variable (h : grid.Ruled)

include h

theorem full : grid.Full := by
  obtain ⟨latSteps, hrows, -⟩ := h.lat.exists_steps
  obtain ⟨lonSteps, hcols, -⟩ := h.lon.exists_steps
  exact ⟨by omega, by omega, h.size_nodes⟩

theorem fits_of_le {tolerance : Rat}
    (hnorth : grid.north ≤ grid.south + (grid.rows - 1 + tolerance) * grid.latStep)
    (hwest : grid.west ≤ grid.east + (grid.cols - 1 + tolerance) * grid.lonStep) :
    grid.Fits tolerance where
  toFull := h.full
  latStep_pos := h.lat.zero_lt_step
  lonStep_pos := h.lon.zero_lt_step
  north_le := hnorth
  west_le := hwest

/-- A rectangle that is checked ends at most an overhang behind the lattice. -/
theorem fits : grid.Fits overhang :=
  h.fits_of_le h.lat.high_le h.lon.high_le

/-- A rectangle of whole steps ends at the last row and the last column. -/
theorem fits_zero {latSteps lonSteps : Nat}
    (hlat : grid.north - grid.south = latSteps * grid.latStep)
    (hlon : grid.west - grid.east = lonSteps * grid.lonStep) : grid.Fits 0 :=
  h.fits_of_le (h.lat.high_le_of_eq hlat) (h.lon.high_le_of_eq hlon)

end Ruled

end SubGrid

/-- The extents of the sub-grids of an accepted file have been checked. -/
theorem ruled_of_ofResource {resource : Resource} {file : GridFile Rat}
    (h : ofResource resource = .ok file) {grid : SubGrid Rat} (hgrid : grid ∈ file.grids) :
    grid.Ruled := by
  obtain ⟨header, hheader⟩ := exists_describes_of_ofResource h hgrid
  have hscale : 0 < (Scalar.ofNat file.overview.units.inSeconds : Rat) := by
    cases file.overview.units <;> decide +kernel
  obtain ⟨hlat, hlon⟩ := SubGridHeader.spaced_of_dimensions hheader.dimensions_eq
  refine ⟨?_, ?_, hheader.size_nodes⟩
  · rw [hheader.south_eq, hheader.north_eq, hheader.latStep_eq]
    exact hlat.scaled hscale
  · rw [hheader.east_eq, hheader.west_eq, hheader.lonStep_eq]
    exact hlon.scaled hscale

/-! ## Bounds of blends -/

section Bounds

variable {low high tolerance : Rat}

/-- Behind the second of two values by a part of their distance, the line through them has risen by
that part at most. -/
theorem lineMap_mem_Icc {a b offset : Rat} (ha : a ∈ Set.Icc low high) (hb : b ∈ Set.Icc low high)
    (htolerance : 0 ≤ tolerance) (hoffset : offset ∈ Set.Icc 0 (1 + tolerance)) :
    lineMap a b offset ∈
      Set.Icc (low - tolerance * (high - low)) (high + tolerance * (high - low)) := by
  obtain ⟨hlowa, hahigh⟩ := ha
  obtain ⟨hlowb, hbhigh⟩ := hb
  obtain ⟨hnonneg, hle⟩ := hoffset
  -- the weight of the first value may be negative, but not by more than the tolerance
  have hweight : -tolerance ≤ 1 - offset := by linarith
  rw [lineMap_apply_ring]
  constructor
  · have hfar : 0 ≤ offset * (b - low) := mul_nonneg hnonneg (sub_nonneg.2 hlowb)
    have hnear : -tolerance * (a - low) ≤ (1 - offset) * (a - low) :=
      mul_le_mul_of_nonneg_right hweight (sub_nonneg.2 hlowa)
    have hspread : tolerance * (a - low) ≤ tolerance * (high - low) :=
      mul_le_mul_of_nonneg_left (by linarith) htolerance
    linarith
  · have hfar : 0 ≤ offset * (high - b) := mul_nonneg hnonneg (sub_nonneg.2 hbhigh)
    have hnear : -tolerance * (high - a) ≤ (1 - offset) * (high - a) :=
      mul_le_mul_of_nonneg_right hweight (sub_nonneg.2 hahigh)
    have hspread : tolerance * (high - a) ≤ tolerance * (high - low) :=
      mul_le_mul_of_nonneg_left (by linarith) htolerance
    linarith

/-- The interval that is longer on both sides, by what two lines one after the other can rise over
it. -/
def widened (low high tolerance : Rat) : Set Rat :=
  Set.Icc (low - (2 * tolerance + 2 * tolerance ^ 2) * (high - low))
    (high + (2 * tolerance + 2 * tolerance ^ 2) * (high - low))

theorem widened_zero (low high : Rat) : widened low high 0 = Set.Icc low high := by
  simp [widened]

/-- The rows are blended first, and their blends may be behind the range already. -/
theorem bilinear_mem_widened {x y first west north opposite : Rat} (htolerance : 0 ≤ tolerance)
    (hx : x ∈ Set.Icc 0 (1 + tolerance)) (hy : y ∈ Set.Icc 0 (1 + tolerance))
    (hfirst : first ∈ Set.Icc low high) (hwest : west ∈ Set.Icc low high)
    (hnorth : north ∈ Set.Icc low high) (hopposite : opposite ∈ Set.Icc low high) :
    bilinear x y first west north opposite ∈ widened low high tolerance := by
  have hsouthern := lineMap_mem_Icc hfirst hwest htolerance hx
  have hnorthern := lineMap_mem_Icc hnorth hopposite htolerance hx
  -- the second blend starts from the range that the first one has made longer
  obtain ⟨hlow, hhigh⟩ := lineMap_mem_Icc hsouthern hnorthern htolerance hy
  constructor
  · refine le_trans (le_of_eq ?_) hlow
    ring
  · refine hhigh.trans (le_of_eq ?_)
    ring

end Bounds

namespace Corners

variable (corners : Corners Rat) (part : ShiftValue Rat → Rat)

/-- The least of the four corners in a component. -/
def least : Rat :=
  min (min (part corners.first) (part corners.west))
    (min (part corners.north) (part corners.opposite))

/-- The greatest of the four corners in a component. -/
def greatest : Rat :=
  max (max (part corners.first) (part corners.west))
    (max (part corners.north) (part corners.opposite))

theorem mem_Icc :
    part corners.first ∈ Set.Icc (corners.least part) (corners.greatest part) ∧
      part corners.west ∈ Set.Icc (corners.least part) (corners.greatest part) ∧
      part corners.north ∈ Set.Icc (corners.least part) (corners.greatest part) ∧
      part corners.opposite ∈ Set.Icc (corners.least part) (corners.greatest part) := by
  simp [least, greatest]

end Corners

/-- The weights of the corners make up a whole. -/
theorem Cell.sum_weights (cell : Cell Rat) :
    cell.weights.1 + cell.weights.2.1 + cell.weights.2.2.1 + cell.weights.2.2.2 = 1 := by
  show (1 - cell.dx) * (1 - cell.dy) + cell.dx * (1 - cell.dy) + (1 - cell.dx) * cell.dy +
    cell.dx * cell.dy = 1
  ring

namespace SubGrid.Fits

variable {grid : SubGrid Rat} {point : ArcPoint Rat} {tolerance : Rat} (h : grid.Fits tolerance)
  (htolerance : 0 ≤ tolerance) (hcovers : grid.Covers point)

include h htolerance hcovers

/-- The place in a cell is between its corners, or not far behind the last ones. -/
theorem offsets_mem_Icc :
    (grid.cell point).dx ∈ Set.Icc 0 (1 + tolerance) ∧
      (grid.cell point).dy ∈ Set.Icc 0 (1 + tolerance) := by
  obtain ⟨hsouth, hnorth⟩ := h.stepsNorth_mem hcovers
  obtain ⟨heast, hwest⟩ := h.stepsWest_mem hcovers
  rw [cell_eq_reach]
  exact ⟨Stretch.offset_mem_Icc h.cols_pos htolerance heast hwest,
    Stretch.offset_mem_Icc h.rows_pos htolerance hsouth hnorth⟩

theorem component_mem_widened (corners : Corners Rat) {part : ShiftValue Rat → Rat}
    (hpart : part ∈ components) :
    part ((grid.cell point).blendCorners corners) ∈
      widened (corners.least part) (corners.greatest part) tolerance := by
  obtain ⟨hx, hy⟩ := h.offsets_mem_Icc htolerance hcovers
  obtain ⟨hfirst, hwest, hnorth, hopposite⟩ := corners.mem_Icc part
  rw [Cell.component_blendCorners hpart, Cell.blend_eq]
  exact bilinear_mem_widened htolerance hx hy hfirst hwest hnorth hopposite

end SubGrid.Fits

/-- At every point of the rectangle of a sub-grid of an accepted file, the place in the cell is at
most an overhang behind the corners. The weights of the corners make up a whole. So each component
of the shift is in the range of the corners, widened by the overhang; it is within the range if the
rectangle is a whole number of steps long and wide, and the same as at the nodes if they all
agree. -/
theorem interpolate?_mem_widened {resource : Resource} {file : GridFile Rat}
    (h : ofResource resource = .ok file) {grid : SubGrid Rat} (hgrid : grid ∈ file.grids)
    {point : ArcPoint Rat} (hcovers : grid.Covers point) :
    ((grid.cell point).dx ∈ Set.Icc 0 (1 + overhang) ∧
      (grid.cell point).dy ∈ Set.Icc 0 (1 + overhang)) ∧
    (grid.cell point).weights.1 + (grid.cell point).weights.2.1 +
      (grid.cell point).weights.2.2.1 + (grid.cell point).weights.2.2.2 = 1 ∧
    ∃ corners found, grid.CornersOf (grid.cell point) corners ∧
      grid.interpolate? point = some found ∧
      ∀ part ∈ components,
        part found ∈ widened (corners.least part) (corners.greatest part) overhang ∧
        (∀ latSteps lonSteps : Nat, grid.north - grid.south = latSteps * grid.latStep →
          grid.west - grid.east = lonSteps * grid.lonStep →
          part found ∈ Set.Icc (corners.least part) (corners.greatest part)) ∧
        ∀ value, (∀ node ∈ grid.nodes, part node = value) → part found = value := by
  have hruled := ruled_of_ofResource h hgrid
  obtain ⟨corners, hcorners⟩ := hruled.full.exists_cornersOf point _ _
  have hfound := SubGrid.CornersOf.interpolate?_eq hcorners (SubGrid.contains_iff_rat.2 hcovers)
  refine ⟨hruled.fits.offsets_mem_Icc overhang_pos.le hcovers, Cell.sum_weights _, corners, _,
    hcorners, hfound, fun part hpart => ⟨?_, fun latSteps lonSteps hlat hlon => ?_, ?_⟩⟩
  · exact hruled.fits.component_mem_widened overhang_pos.le hcovers corners hpart
  · -- a rectangle of whole steps has no overhang, and nothing is widened by none
    rw [← widened_zero]
    exact (hruled.fits_zero hlat hlon).component_mem_widened le_rfl hcovers corners hpart
  · exact fun value hnodes => SubGrid.component_eq_of_nodes hpart hnodes hfound

/-- A file with a sub-grid of one cell, whose rectangle ends less than a millionth of an increment
behind the second row. The shift to the north grows by one from row to row. -/
def overhangFile : StoredFile :=
  { sampleFile with
    fileCount := 1
    unitName := "Seconds"
    grids := [
      { header := sampleFile.sampleHeader "OVER" "NONE" ⟨0x3FF0000100000000⟩ 4
        nodes := [⟨⟨0⟩, ⟨0⟩, ⟨0⟩, ⟨0⟩⟩, ⟨⟨0⟩, ⟨0⟩, ⟨0⟩, ⟨0⟩⟩,
          ⟨⟨0x3F800000⟩, ⟨0⟩, ⟨0⟩, ⟨0⟩⟩, ⟨⟨0x3F800000⟩, ⟨0⟩, ⟨0⟩, ⟨0⟩⟩] }] }

/-- On the northern edge the shift is greater than at any corner, but only a little. -/
theorem interpolate?_mem_widened_overhang :
    ∃ (file : GridFile Rat) (grid : SubGrid Rat) (corners : Corners Rat) (found : ShiftValue Rat),
      ofResource (.memory "over" (overhangFile.encode .little).toArray) = .ok file ∧
        grid ∈ file.grids ∧ grid.CornersOf (grid.cell ⟨1 / 2, 1 + 1 / 2 ^ 20⟩) corners ∧
        grid.interpolate? ⟨1 / 2, 1 + 1 / 2 ^ 20⟩ = some found ∧ found.lat = 1 + 1 / 2 ^ 20 ∧
        found.lat ∈
          widened (corners.least ShiftValue.lat) (corners.greatest ShiftValue.lat) overhang := by
  have hread : (ofResource (.memory "over" (overhangFile.encode .little).toArray)).toOption.any
      fun file : GridFile Rat => file.grids[0]?.any fun grid => decide (
        grid.contains ⟨1 / 2, 1 + 1 / 2 ^ 20⟩ ∧
          (grid.interpolate? ⟨1 / 2, 1 + 1 / 2 ^ 20⟩).map ShiftValue.lat =
            some (1 + 1 / 2 ^ 20)) := by
    decide +kernel
  obtain ⟨file, hfile, hread⟩ := Except.exists_of_any_toOption hread
  obtain ⟨grid, hplace, hread⟩ := (Option.any_eq_true _ _).1 hread
  obtain ⟨hcontains, hlat⟩ := of_decide_eq_true hread
  have hgrid : grid ∈ file.grids := Array.mem_of_getElem? hplace
  have hcovers := SubGrid.contains_iff_rat.1 hcontains
  obtain ⟨-, -, corners, found, hcorners, hfound, hparts⟩ :=
    interpolate?_mem_widened hfile hgrid hcovers
  rw [hfound, Option.map_some, Option.some.injEq] at hlat
  obtain ⟨hmem, -, -⟩ := hparts ShiftValue.lat List.mem_cons_self
  exact ⟨file, grid, corners, found, hfile, hgrid, hcorners, hfound, hlat, hmem⟩

end Georef.GridFile
