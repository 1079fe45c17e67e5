import Georef.GridFile.Header
import Georef.Proofs.Doubles.Signs
import Georef.Proofs.Outcome

/-!
# The dimensions of a sub-grid

The header of a sub-grid tells bounds and increments, from which the rows and columns are computed
with doubles. Doubles round, and those that are large round to neighbours of what they stand for;
but a sub-grid has as many nodes as its header declares only if the product of the rows and columns,
as natural numbers, is the declared number.

The module introduces:

* `latSteps`, `lonSteps` — the extent in increments; `rows`, `cols` — the rows and columns.
* `Spaced low high step count` — what is asked of an extent and its points;
  `spaced_of_dimensions` — dimensions are counted so.
* `Regular header` — what is asked of the header of a sub-grid.
* `dimensions_cases` — these headers have dimensions, and the others are refused.
-/

namespace Georef.GridFile.SubGridHeader

open Double (Counts)

/-- The extent from south to north in increments. -/
def latSteps (header : SubGridHeader) : Float :=
  (Scalar.ofDouble header.north - Scalar.ofDouble header.south) / Scalar.ofDouble header.latStep

/-- The extent from east to west in increments. -/
def lonSteps (header : SubGridHeader) : Float :=
  (Scalar.ofDouble header.west - Scalar.ofDouble header.east) / Scalar.ofDouble header.lonStep

/-- The number of lattice points on an extent, both ends included. -/
def points (steps : Float) : Float :=
  Scalar.round steps + Scalar.ofNat 1

/-- The number of rows. -/
def rows (header : SubGridHeader) : Nat :=
  Scalar.floorNat (points header.latSteps)

/-- The number of columns. -/
def cols (header : SubGridHeader) : Nat :=
  Scalar.floorNat (points header.lonSteps)

/-- `Regular header`: increments are positive, bounds are apart and a whole number of increments
from each other, and the rows and columns have as many nodes as are declared. -/
structure Regular (header : SubGridHeader) : Prop where
  latStep_pos : Scalar.gt (Scalar.ofDouble header.latStep : Float) (Scalar.ofNat 0)
  lonStep_pos : Scalar.gt (Scalar.ofDouble header.lonStep : Float) (Scalar.ofNat 0)
  south_lt_north : Scalar.gt (Scalar.ofDouble header.north : Float) (Scalar.ofDouble header.south)
  east_lt_west : Scalar.gt (Scalar.ofDouble header.west : Float) (Scalar.ofDouble header.east)
  latSteps_whole : isWhole header.latSteps
  lonSteps_whole : isWhole header.lonSteps
  count_eq : header.count = header.rows * header.cols

variable {header : SubGridHeader}

/-- The lattice points between bounds that are apart count, whatever their number is. -/
theorem counts_points {low high step : Float} (hstep : Scalar.gt step (Scalar.ofNat 0))
    (hbounds : Scalar.gt high low) (hwhole : isWhole ((high - low) / step)) :
    Counts (points ((high - low) / step)) := by
  have hfinite : Scalar.isFinite ((high - low) / step) := (Bool.and_eq_true_iff.1 hwhole).1
  have hpos := Double.positive_div (Double.positive_sub hbounds) (Double.positive_of_gt_zero hstep)
  exact Double.counts_round_add_one hpos hfinite

/-- `Spaced low high step count`: an extent has positive steps, as many as a whole number but for
rounding noise, and the points between them are counted, both ends included. -/
structure Spaced {α : Type} [Scalar α] (low high step : α) (count : Nat) : Prop where
  step_pos : Scalar.gt step (Scalar.ofNat 0)
  low_lt_high : Scalar.gt high low
  steps_whole : isWhole ((high - low) / step)
  count_eq : count = Scalar.floorNat (Scalar.round ((high - low) / step) + Scalar.ofNat 1)

/-- The rows and columns are counted on extents that have been checked. -/
theorem spaced_of_dimensions {α : Type} [Scalar α] {rows cols : Nat}
    (h : header.dimensions α = .ok (rows, cols)) :
    Spaced (Scalar.ofDouble header.south : α) (Scalar.ofDouble header.north)
        (Scalar.ofDouble header.latStep) rows ∧
      Spaced (Scalar.ofDouble header.east : α) (Scalar.ofDouble header.west)
        (Scalar.ofDouble header.lonStep) cols := by
  rw [dimensions] at h
  split at h
  · cases h
  rename_i hsteps
  split at h
  · cases h
  rename_i hbounds
  dsimp only at h
  split at h
  · cases h
  rename_i hwhole
  split at h
  · cases h
  simp only [Bool.or_eq_true, Bool.not_eq_true', not_or, Bool.not_eq_false] at hsteps hbounds hwhole
  obtain ⟨rfl, rfl⟩ := Prod.mk.inj (Except.ok.inj h)
  exact ⟨⟨hsteps.1, hbounds.1, hwhole.1, rfl⟩, ⟨hsteps.2, hbounds.2, hwhole.2, rfl⟩⟩

theorem Spaced.count_pos {low high step : Float} {count : Nat} (h : Spaced low high step count) :
    0 < count := by
  rw [h.count_eq]
  exact (counts_points h.step_pos h.low_lt_high h.steps_whole).floorNat_pos

/-- A sub-grid has a row and a column, however many nodes it declares. -/
theorem dimensions_pos {rows cols : Nat} (h : header.dimensions Float = .ok (rows, cols)) :
    0 < rows ∧ 0 < cols := by
  obtain ⟨hrows, hcols⟩ := spaced_of_dimensions h
  exact ⟨hrows.count_pos, hcols.count_pos⟩

/-- A header that is regular has dimensions, and one that is not is refused. -/
theorem dimensions_cases (hnonneg : 0 ≤ header.count) (hlt : header.count < 2 ^ 31) :
    (header.Regular ∧ header.dimensions Float = .ok (header.rows, header.cols)) ∨
      (¬header.Regular ∧ ∃ fault, header.dimensions Float = .error fault) := by
  -- one check after the other; what is refused lacks the part of `Regular` that is checked
  rw [dimensions]
  split
  · rename_i hsteps
    refine .inr ⟨fun h => ?_, _, rfl⟩
    simp [h.latStep_pos, h.lonStep_pos] at hsteps
  rename_i hsteps
  split
  · rename_i hbounds
    refine .inr ⟨fun h => ?_, _, rfl⟩
    simp [h.south_lt_north, h.east_lt_west] at hbounds
  rename_i hbounds
  dsimp only
  split
  · rename_i hwhole
    refine .inr ⟨fun h => ?_, _, rfl⟩
    have hlat := h.latSteps_whole
    have hlon := h.lonSteps_whole
    rw [latSteps] at hlat
    rw [lonSteps] at hlon
    simp [hlat, hlon] at hwhole
  rename_i hwhole
  simp only [Bool.or_eq_true, Bool.not_eq_true', not_or, Bool.not_eq_false] at hsteps hbounds hwhole
  -- with the other checks passed, the comparison of doubles is one of natural numbers
  have hrows : Counts (points header.latSteps) := counts_points hsteps.1 hbounds.1 hwhole.1
  have hcols : Counts (points header.lonSteps) := counts_points hsteps.2 hbounds.2 hwhole.2
  obtain ⟨count, hcount⟩ := Int.eq_ofNat_of_zero_le hnonneg
  have hequal : Scalar.equal (points header.latSteps * points header.lonSteps)
      (Scalar.ofInt header.count) ↔ header.count = header.rows * header.cols := by
    rw [hcount, hrows.equal_mul_iff hcols (by omega), eq_comm, ← Int.natCast_inj, Int.natCast_mul]
    rfl
  split
  · rename_i hdiffer
    refine .inr ⟨fun h => ?_, _, rfl⟩
    have hproduct := hequal.2 h.count_eq
    rw [points, points, latSteps, lonSteps] at hproduct
    simp [hproduct] at hdiffer
  · rename_i hsame
    rw [Bool.not_eq_true', Bool.not_eq_false] at hsame
    exact .inl ⟨⟨hsteps.1, hsteps.2, hbounds.1, hbounds.2, hwhole.1, hwhole.2, hequal.1 hsame⟩, rfl⟩

end Georef.GridFile.SubGridHeader
