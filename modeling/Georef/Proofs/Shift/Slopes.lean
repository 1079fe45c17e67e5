import Georef.Proofs.Shift.Inverse

/-!
# Shifts that grow to the north

A file with a single sub-grid of one square degree, on which the shift to the north is an eighth of
a degree on the equator and grows from there with the latitude. There is no shift to the west. All
displacements on such a file are known: they differ by a fixed part of what the latitudes differ by,
and are the same along a parallel.

The module introduces:

* `GridShift.risingSource north` — the file with a shift that grows to `north`;
  `GridShift.rising growth` — the file as it is read, by the growth in arc-seconds.
* `displacement_rising`, `displacementLipschitz_rising` — the displacements, and how they differ.
* `slope` and `gentle` — files on which they differ by a half and by an eighth of the latitudes.
-/

namespace Georef

deriving instance DecidableEq for GridFile.SubGrid, GridFile

namespace GridShift

open GridFile (ShiftValue SubGrid)

/-! ## The files -/

/-- A sub-grid of one square degree, to the north of the equator and the west of the first meridian,
with a shift to the north that grows from an eighth of a degree on the equator to a given one. -/
def risingFile (north : Binary32) : GridFile.StoredFile :=
  { halfDegreeFile with
    grids := [
      { header := GridFile.sampleFile.sampleHeader "ALL" "NONE" ⟨0x3FF0000000000000⟩ 4
        nodes := [node ⟨0x3E000000⟩, node ⟨0x3E000000⟩, node north, node north] }] }
where
  /-- A shift to the north. -/
  node (lat : Binary32) : GridFile.ShiftValue Binary32 := ⟨lat, ⟨0⟩, ⟨0⟩, ⟨0⟩⟩

/-- The file in memory. -/
def risingSource (north : Binary32) : Resource :=
  .memory "slope" ((risingFile north).encode .little).toArray

/-- The sub-grid as it is read, in arc-seconds. -/
def risingGrid (growth : Rat) : SubGrid Rat where
  name := "ALL"
  parent := none
  created := "20260101"
  updated := "20260102"
  south := 0
  north := 3600
  east := 0
  west := 3600
  latStep := 3600
  lonStep := 3600
  rows := 2
  cols := 2
  nodes := #[⟨450, 0, 0, 0⟩, ⟨450, 0, 0, 0⟩, ⟨450 + growth, 0, 0, 0⟩, ⟨450 + growth, 0, 0, 0⟩]

/-- The file as it is read. -/
def rising (growth : Rat) : GridFile Rat where
  name := "slope"
  order := .little
  overview := halfDegreeFile.overview .degrees
  grids := #[risingGrid growth]
  precedence := [0]

/-! ## Displacements -/

section Displacements

variable {growth : Rat}

theorem full_risingGrid : (risingGrid growth).Full :=
  ⟨one_le_two, one_le_two, rfl⟩

/-- The shift at a point is that of the sub-grid. -/
theorem value?_rising (s : Point Rat) :
    (ofFile (rising growth)).value? s = (risingGrid growth).interpolate? s.toArc := by
  have hfile : (ofFile (rising growth)).value? s = (rising growth).interpolate? s.toArc := by
    rw [value?, valueAt?, ofFile, List.findSome?_singleton]
  have hgrids : (rising growth).byPrecedence = [risingGrid growth] := rfl
  rw [hfile, GridFile.interpolate?, GridFile.subGridAt?, hgrids, List.find?_singleton]
  split
  · rfl
  · rw [SubGrid.interpolate?_eq_none ‹_›]
    rfl

/-- All points of the square are shifted. -/
theorem forward?_rising_ne_none {s : Point Rat} (hx : -1 ≤ s.x ∧ s.x ≤ 0)
    (hy : 0 ≤ s.y ∧ s.y ≤ 1) : (ofFile (rising growth)).forward? s ≠ none := by
  have hcovers : (risingGrid growth).Covers s.toArc := by
    refine ⟨?_, ?_, ?_, ?_⟩
    · show 0 ≤ s.y * 3600
      linarith
    · show s.y * 3600 ≤ 3600
      linarith
    · show 0 ≤ -s.x * 3600
      linarith
    · show -s.x * 3600 ≤ 3600
      linarith
  rw [Ne, ← value?_eq_none_iff, value?_rising, ← Ne, ← Option.isSome_iff_ne_none,
    full_risingGrid.isSome_interpolate?]
  exact SubGrid.contains_iff_rat.2 hcovers

/-- Shifts grow with the latitude alone. -/
theorem interpolate?_risingGrid {arc : ArcPoint Rat} {value : ShiftValue Rat}
    (h : (risingGrid growth).interpolate? arc = some value) :
    value.lat = 450 + arc.lat / 3600 * growth ∧ value.lon = 0 := by
  have hcovers : (risingGrid growth).Covers arc := by
    rw [← SubGrid.contains_iff_rat, ← full_risingGrid.isSome_interpolate?, h]
    rfl
  obtain ⟨found, hfound, hparts⟩ := full_risingGrid.exists_interpolate? hcovers
  obtain rfl := Option.some.inj (h.symm.trans hfound)
  have hzero : ∀ node ∈ (risingGrid growth).nodes, node.lon = 0 := by
    simp [risingGrid]
  have hnodes : ∀ row < 2, ∀ col < 2,
      ((risingGrid growth).nodeAt row col).lat = 450 + row * growth + col * 0 := by
    intro row hrow col hcol
    interval_cases row <;> interval_cases col <;>
      simp [SubGrid.nodeAt, SubGrid.node?, risingGrid]
  have hnorth : (risingGrid growth).stepsNorth arc = arc.lat / 3600 :=
    congrArg (· / 3600) (sub_zero arc.lat)
  have hwest : (risingGrid growth).stepsWest arc = arc.lon / 3600 :=
    congrArg (· / 3600) (sub_zero arc.lon)
  have hlat : 0 ≤ arc.lat := hcovers.south_le
  have hlon : 0 ≤ arc.lon := hcovers.east_le
  refine ⟨?_, SubGrid.component_eq_of_nodes (by simp [ShiftValue.components]) hzero h⟩
  rw [hparts ShiftValue.lat (by simp [ShiftValue.components]),
    SubGrid.blendAt_linear Nat.le.refl Nat.le.refl (by rw [hnorth]; positivity)
      (by rw [hwest]; positivity) hnodes, hnorth, mul_zero, add_zero]

/-- A point on the sub-grid is moved by an eighth of a degree and by its part of the growth. -/
theorem displacement_rising {s landed : Point Rat}
    (h : (ofFile (rising growth)).forward? s = some landed) :
    landed - s = ⟨0, 1 / 8 + s.y * (growth / 3600)⟩ := by
  obtain ⟨value, hvalue, hx, hy⟩ := exists_value_of_forward? h
  rw [value?_rising] at hvalue
  obtain ⟨hlat, hlon⟩ := interpolate?_risingGrid hvalue
  have hsouth : s.toArc.lat = s.y * 3600 := rfl
  ext
  · rw [Point.x_sub, hx, hlon]
    ring
  · rw [Point.y_sub, hy, hlat, hsouth]
    ring

/-- Displacements differ by as much of what the latitudes differ by as the shift grows in a
degree. -/
theorem displacementLipschitz_rising (hgrowth : 0 ≤ growth) :
    (ofFile (rising growth)).DisplacementLipschitz (growth / 3600) := by
  intro p q moved moved' hmoved hmoved'
  obtain ⟨-, hlat⟩ := Point.span_le_iff.1 (le_refl (p - q).span)
  rw [Point.y_sub, abs_sub_comm] at hlat
  have hfactor : 0 ≤ growth / 3600 := by positivity
  have hdiffer : (moved' - q) - (moved - p) = ⟨0, growth / 3600 * (q.y - p.y)⟩ := by
    rw [displacement_rising hmoved, displacement_rising hmoved']
    ext
    · exact sub_zero 0
    · rw [Point.y_sub]
      ring
  rw [hdiffer, Point.span_le_iff]
  constructor
  · rw [abs_zero]
    exact mul_nonneg hfactor (Point.span_nonneg _)
  · rw [abs_mul, abs_of_nonneg hfactor]
    exact mul_le_mul_of_nonneg_left hlat hfactor

end Displacements

/-! ## A steep and a gentle slope -/

/-- A file with a shift that grows to five eighths of a degree. -/
def slopeSource : Resource :=
  risingSource ⟨0x3F200000⟩

/-- The file as it is read. -/
def slope : GridFile Rat :=
  rising 1800

theorem ofResource_slope : GridFile.ofResource slopeSource = .ok slope := by
  have hread : (GridFile.ofResource slopeSource).toOption.any fun file => file = slope := by
    decide +kernel
  obtain ⟨file, hfile, hslope⟩ := Except.exists_of_any_toOption hread
  rw [hfile, of_decide_eq_true hslope]

/-- A file with a shift that grows to a quarter of a degree. -/
def gentleSource : Resource :=
  risingSource ⟨0x3E800000⟩

/-- The file as it is read. -/
def gentle : GridFile Rat :=
  rising 450

theorem ofResource_gentle : GridFile.ofResource gentleSource = .ok gentle := by
  have hread : (GridFile.ofResource gentleSource).toOption.any fun file => file = gentle := by
    decide +kernel
  obtain ⟨file, hfile, hgentle⟩ := Except.exists_of_any_toOption hread
  rw [hfile, of_decide_eq_true hgentle]

end GridShift

end Georef
