import Georef.Proofs.GridFile.Ancestry

/-!
# The lattices of grid files that are accepted

A sub-grid is read from its header and the nodes behind it: its bounds and steps are those of the
header in arc-seconds, its rows and columns are the dimensions of the header, and all of its nodes
are there. Linking does not change any of this. So every sub-grid of an accepted file has a header,
and what holds of dimensions holds of its rows and columns. All of it is so for any numbers that
files are read with.

The module introduces:

* `SubGridHeader.Describes header units grid` — what a sub-grid has of its header.
* `SubGrid.Full grid` — there is a row and a column, and a node wherever they meet.
* `exists_describes_of_ofResource` — the sub-grids of an accepted file have headers;
  `full_of_ofResource` — read with doubles, they are full.
-/

namespace Georef.GridFile

open Cursor (Place Runs Action)

variable {α : Type} {data : Bytes} {place : Place} {cursor : Cursor ResourceReader} {units : Units}

/-- `header.Describes units grid`: the sub-grid has the name and the parent in the header, the
bounds and steps of the header in arc-seconds, and the rows, columns and nodes that the header
tells. -/
structure SubGridHeader.Describes [Scalar α] (header : SubGridHeader) (units : Units)
    (grid : SubGrid α) : Prop where
  name_eq : grid.name = header.name
  parent_eq : grid.parent = header.parentName?
  south_eq : grid.south = Scalar.ofDouble header.south * Scalar.ofNat units.inSeconds
  north_eq : grid.north = Scalar.ofDouble header.north * Scalar.ofNat units.inSeconds
  east_eq : grid.east = Scalar.ofDouble header.east * Scalar.ofNat units.inSeconds
  west_eq : grid.west = Scalar.ofDouble header.west * Scalar.ofNat units.inSeconds
  latStep_eq : grid.latStep = Scalar.ofDouble header.latStep * Scalar.ofNat units.inSeconds
  lonStep_eq : grid.lonStep = Scalar.ofDouble header.lonStep * Scalar.ofNat units.inSeconds
  dimensions_eq : header.dimensions α = .ok (grid.rows, grid.cols)
  size_nodes : grid.nodes.size = grid.rows * grid.cols

/-- `grid.Full`: the lattice has a row and a column, and a node wherever they meet. -/
structure SubGrid.Full (grid : SubGrid α) : Prop where
  rows_pos : 1 ≤ grid.rows
  cols_pos : 1 ≤ grid.cols
  size_nodes : grid.nodes.size = grid.rows * grid.cols

/-! ## Nodes of full lattices -/

namespace SubGrid.Full

variable {grid : SubGrid α} {row col : Nat}

theorem index_lt_size (h : grid.Full) (hrow : row < grid.rows) (hcol : col < grid.cols) :
    row * grid.cols + col < grid.nodes.size := by
  rw [h.size_nodes]
  exact index_lt hrow hcol

/-- A row and a column meet at a node. -/
theorem exists_node? (h : grid.Full) (hrow : row < grid.rows) (hcol : col < grid.cols) :
    ∃ node, grid.node? row col = some node := by
  rw [SubGrid.node?, if_pos ⟨hrow, hcol⟩]
  exact ⟨_, Array.getElem?_eq_getElem (h.index_lt_size hrow hcol)⟩

end SubGrid.Full

/-! ## Sub-grids that are read -/

variable [Scalar α]

/-- A sub-grid that is read has a header in the bytes, and its nodes behind it. -/
theorem exists_of_run_readSubGrid {β : Type} {rest : SubGrid α → Action ResourceReader β} {b : β}
    (hcursor : cursor.Stands data place) (hplace : place.position ≤ data.size)
    (h : (cursor.run (readSubGrid α units >>= rest)).1 = .ok b) :
    ∃ (header : SubGridHeader) (grid : SubGrid α) (cursor' : Cursor ResourceReader),
      Runs (ρ := ResourceReader) data place SubGridHeader.read (.ok header)
          (place.advance (fieldLength + 10 * recordLength)) ∧
        header.Describes units grid ∧
        cursor'.Stands data (place.advance
          (fieldLength + 10 * recordLength + nodeLength * (grid.rows * grid.cols))) ∧
        (place.advance
          (fieldLength + 10 * recordLength + nodeLength * (grid.rows * grid.cols))).position ≤
            data.size ∧
        (cursor'.run (rest grid)).1 = .ok b := by
  simp only [readSubGrid, bind_assoc, pure_bind] at h
  obtain ⟨header, cursor₁, hheader, hfit₁, h₁, h⟩ :=
    SubGridHeader.spans_read.exists_of_run_bind hcursor hplace h
  -- the dimensions are checked, and the room for the nodes, before the first node is read
  obtain ⟨⟨rows, cols⟩, cursor₂, hrun, h⟩ := Cursor.exists_of_run_bind h
  rw [Cursor.run_ofExcept] at hrun
  obtain ⟨hdimensions, rfl⟩ := Prod.mk.inj hrun
  obtain ⟨_, cursor₂, -, hfit₂, h₂, h⟩ := Cursor.Spans.here.exists_of_run_bind h₁ hfit₁ h
  obtain ⟨_, cursor₃, -, hfit₃, h₃, h⟩ :=
    (Cursor.Spans.ensureRange _ _).exists_of_run_bind h₂ hfit₂ h
  obtain ⟨nodes, cursor₄, hnodes, hfit₄, h₄, h⟩ :=
    ((spans_readNode α _).repeatOnto _ _).exists_of_run_bind h₃ hfit₃ h
  obtain ⟨_, hread, -⟩ := hnodes cursor₃ h₃
  have hsize : nodes.size = rows * cols := by
    rw [Cursor.size_of_run_repeatOnto (congrArg Prod.fst hread), Array.size_empty, Nat.zero_add]
  have hdimensions := Except.mapError_eq_ok_iff.1 hdimensions
  simp only [Place.advance_advance, Place.position_advance, Nat.add_zero] at h₄ hfit₄
  refine ⟨header, _, cursor₄, hheader,
    ⟨rfl, rfl, rfl, rfl, rfl, rfl, rfl, rfl, hdimensions, hsize⟩, h₄, ?_, h⟩
  rw [Place.position_advance, ← Nat.add_assoc]
  exact hfit₄

/-- All sub-grids that are read have headers. -/
theorem exists_describes_of_run_readSubGrids {fuel : Nat} {done found : List (SubGrid α)}
    (hcursor : cursor.Stands data place) (hplace : place.position ≤ data.size)
    (hdone : ∀ grid ∈ done, ∃ header : SubGridHeader, header.Describes units grid)
    (h : (cursor.run (readSubGrids α units fuel done)).1 = .ok found) :
    ∀ grid ∈ found, ∃ header : SubGridHeader, header.Describes units grid := by
  have hreverse : ∀ grid ∈ done.reverse, ∃ header : SubGridHeader, header.Describes units grid :=
    fun grid hgrid => hdone grid (List.mem_reverse.1 hgrid)
  induction fuel generalizing done place cursor with
  | zero =>
    cases h
    exact hreverse
  | succ fuel ih =>
    rw [readSubGrids] at h
    obtain ⟨_, cursor₁, -, hfit₁, h₁, h⟩ := Cursor.Spans.here.exists_of_run_bind hcursor hplace h
    obtain ⟨label, cursor₂, -, hfit₂, h₂, h⟩ := spans_readName.exists_of_run_bind h₁ hfit₁ h
    split at h
    · cases h
      exact hreverse
    split at h
    · cases h
    obtain ⟨header, grid, cursor₃, -, hgrid, h₃, hfit₃, h⟩ := exists_of_run_readSubGrid h₂ hfit₂ h
    have hmore := List.forall_mem_cons.2 ⟨⟨header, hgrid⟩, hdone⟩
    exact ih h₃ hfit₃ hmore h fun grid hgrid => hmore grid (List.mem_reverse.1 hgrid)

/-! ## Sub-grids of files -/

variable {file : GridFile α} {resource : Resource}

/-- Every sub-grid of an accepted file has a header. -/
theorem exists_describes_of_ofResource (h : ofResource resource = .ok file) {grid : SubGrid α}
    (hgrid : grid ∈ file.grids) :
    ∃ header : SubGridHeader, header.Describes file.overview.units grid := by
  obtain ⟨data, cursor, found, -, -, hfit, hstands, hfound, -, -, hgrids, -⟩ :=
    exists_found_of_ofResource h
  have hdescribes :=
    exists_describes_of_run_readSubGrids hstands hfit (List.forall_mem_nil _) hfound
  -- linking enters the relatives of a sub-grid and nothing else
  rw [hgrids, List.mem_toArray, linked] at hgrid
  obtain ⟨⟨before, place⟩, hbefore, rfl⟩ := List.mem_map.1 hgrid
  obtain ⟨header, hheader⟩ := hdescribes before (List.fst_mem_of_mem_zipIdx hbefore)
  exact ⟨header, { hheader with }⟩

/-- The sub-grids of an accepted file are full. -/
theorem full_of_ofResource {file : GridFile Float} (h : ofResource resource = .ok file)
    {grid : SubGrid Float} (hgrid : grid ∈ file.grids) : grid.Full := by
  obtain ⟨header, hheader⟩ := exists_describes_of_ofResource h hgrid
  obtain ⟨hrows, hcols⟩ := SubGridHeader.dimensions_pos hheader.dimensions_eq
  exact ⟨hrows, hcols, hheader.size_nodes⟩

end Georef.GridFile
