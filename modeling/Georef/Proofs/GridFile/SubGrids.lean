import Georef.GridFile.File
import Georef.Proofs.GridFile.Dimensions
import Georef.Proofs.GridFile.Headers

/-!
# Sub-grids that are read as they were written

Sub-grids stand one after the other, each with its nodes behind its header, and a label ends them.
They are read in order as long as their headers are regular.

The module introduces:

* `StoredSubGrid.loaded` — what is found of a written sub-grid.
* `takes_readSubGrid`, `refuses_readSubGrid` — it is found if its header is regular, and refused if
  not.
* `takes_readSubGrids`, `refuses_readSubGrids` — the same for all the sub-grids of a file.
-/

namespace Georef.GridFile

open Cursor (Takes Refuses)

/-! ## What is found -/

/-- The number of arc-seconds in a unit, as a double. -/
def Units.scale (units : Units) : Float :=
  Scalar.ofNat units.inSeconds

/-- A written shift as it is found. -/
def ShiftValue.loaded (units : Units) (node : ShiftValue Binary32) : ShiftValue Float where
  lat := Scalar.ofSingle node.lat * units.scale
  lon := Scalar.ofSingle node.lon * units.scale
  latAccuracy := Scalar.ofSingle node.latAccuracy * units.scale
  lonAccuracy := Scalar.ofSingle node.lonAccuracy * units.scale

/-- The name of the parent in a header; none if there is no parent. -/
def SubGridHeader.parentName? (header : SubGridHeader) : Option String :=
  if sameLetters header.parent noParent then none else some header.parent

/-- A written sub-grid as it is found, before it is linked to the others. -/
def StoredSubGrid.loaded (units : Units) (grid : StoredSubGrid) : SubGrid Float where
  name := grid.header.name
  parent := grid.header.parentName?
  created := grid.header.created
  updated := grid.header.updated
  south := Scalar.ofDouble grid.header.south * units.scale
  north := Scalar.ofDouble grid.header.north * units.scale
  east := Scalar.ofDouble grid.header.east * units.scale
  west := Scalar.ofDouble grid.header.west * units.scale
  latStep := Scalar.ofDouble grid.header.latStep * units.scale
  lonStep := Scalar.ofDouble grid.header.lonStep * units.scale
  rows := grid.header.rows
  cols := grid.header.cols
  nodes := (grid.nodes.map (ShiftValue.loaded units)).toArray

/-- The nodes stand row by row: the rows before this one are full, and this one ends behind the
column. -/
theorem SubGrid.index_lt {rows cols row col : Nat} (hrow : row < rows) (hcol : col < cols) :
    row * cols + col < rows * cols := by
  calc row * cols + col < row * cols + cols := Nat.add_lt_add_left hcol _
    _ = (row + 1) * cols := (Nat.succ_mul _ _).symm
    _ ≤ rows * cols := Nat.mul_le_mul_right _ hrow

/-! ## One sub-grid -/

variable {ρ : Type} [Reader ρ] [LawfulReader ρ] {order : ByteOrder} {units : Units}

theorem takes_readShift (scale : Float) (value : Binary32) :
    Takes (ρ := ρ) order (FixedWidth.encode order value) (readShift Float scale)
      (Scalar.ofSingle value * scale) :=
  (Takes.next value).bind_end (Takes.pure _)

theorem takes_readNode (node : ShiftValue Binary32) :
    Takes (ρ := ρ) order (node.encode order) (readNode Float units.scale) (node.loaded units) := by
  rw [ShiftValue.encode, List.append_assoc, List.append_assoc]
  refine (takes_readShift _ _).bind ?_
  refine (takes_readShift _ _).bind ?_
  refine (takes_readShift _ _).bind ?_
  exact (takes_readShift _ _).bind_end (Takes.pure _)

theorem length_encode_node (node : ShiftValue Binary32) :
    (node.encode order).length = nodeLength := by
  have hlength : ∀ value : Binary32, (FixedWidth.encode order value).length = 4 :=
    FixedWidth.length_encode order
  simp only [ShiftValue.encode, List.length_append, hlength, nodeLength]

theorem length_encode_nodes (nodes : List (ShiftValue Binary32)) :
    (nodes.flatMap (ShiftValue.encode order)).length = nodes.length * nodeLength := by
  induction nodes with
  | nil => rfl
  | cons node rest ih =>
    rw [List.flatMap_cons, List.length_append, length_encode_node, ih, List.length_cons,
      Nat.succ_mul, Nat.add_comm]

/-- The bytes of a sub-grid behind its first label. -/
def StoredSubGrid.encodeValues (order : ByteOrder) (grid : StoredSubGrid) : List UInt8 :=
  grid.header.encodeValues order ++ grid.nodes.flatMap (ShiftValue.encode order)

theorem StoredSubGrid.encode_eq (order : ByteOrder) (grid : StoredSubGrid) :
    grid.encode order = textField "SUB_NAME" ++ grid.encodeValues order := by
  rw [encode, SubGridHeader.encode_eq, List.append_assoc]
  rfl

variable {grid : StoredSubGrid}

theorem StoredSubGrid.Writable.dimensions_cases (h : grid.Writable) :
    (grid.header.Regular ∧
        grid.header.dimensions Float = .ok (grid.header.rows, grid.header.cols)) ∨
      (¬grid.header.Regular ∧ ∃ fault, grid.header.dimensions Float = .error fault) :=
  SubGridHeader.dimensions_cases (by rw [h.count_eq]; omega) h.header.count_lt

/-- A sub-grid with a regular header is found as it was written. -/
theorem takes_readSubGrid (h : grid.Writable) (hregular : grid.header.Regular) :
    Takes (ρ := ρ) order (grid.encodeValues order) (readSubGrid Float units)
      (grid.loaded units) := by
  have hdimensions : grid.header.dimensions Float = .ok (grid.header.rows, grid.header.cols) := by
    rcases h.dimensions_cases with ⟨-, hdimensions⟩ | ⟨hnot, -⟩
    · exact hdimensions
    · exact absurd hregular hnot
  -- as many nodes are read as the dimensions tell, which are as many as were written
  have hcount : grid.header.rows * grid.header.cols = grid.nodes.length := by
    have hcount := hregular.count_eq
    rw [h.count_eq, ← Int.natCast_mul, Int.natCast_inj] at hcount
    exact hcount.symm
  refine (takes_header h.header).bind ?_
  rw [hdimensions]
  refine (Takes.ofExcept rfl).bind_nil (Takes.ensureRange_bind ?_ ?_)
  · have hnodes := Takes.repeatOnto (ρ := ρ) (ShiftValue.encode order) (ShiftValue.loaded units)
      takes_readNode grid.nodes #[]
    rw [Array.empty_append, ← hcount] at hnodes
    exact hnodes.bind_end (Takes.pure _)
  · exact Nat.le_of_eq (by rw [length_encode_nodes, hcount])

/-- A sub-grid with another header is refused. -/
theorem refuses_readSubGrid (h : grid.Writable) (hirregular : ¬grid.header.Regular) :
    ∃ fault, Refuses (ρ := ρ) order (grid.encodeValues order) (readSubGrid Float units)
      (.grid fault) := by
  have hfault : ∃ fault, grid.header.dimensions Float = .error fault := by
    rcases h.dimensions_cases with ⟨hregular, -⟩ | ⟨-, hfault⟩
    · exact absurd hregular hirregular
    · exact hfault
  obtain ⟨fault, hfault⟩ := hfault
  refine ⟨fault, ?_⟩
  -- what is read is the header that was written, whose dimensions are at fault
  have hnodes : ∀ header, header = grid.header → Refuses (ρ := ρ) order
      (grid.nodes.flatMap (ShiftValue.encode order))
      (MonadExcept.ofExcept ((SubGridHeader.dimensions Float header).mapError Error.grid) :
        Cursor.Action ρ (Nat × Nat)) (.grid fault) := by
    rintro _ rfl
    exact Refuses.ofExcept (by rw [hfault]; rfl)
  exact (takes_header h.header).bind_refuses (hnodes _ rfl).bind

/-! ## All sub-grids -/

section List

variable {grids : List StoredSubGrid} {done : List (SubGrid Float)} {fuel : Nat}

/-- The label that ends the file ends the sub-grids. -/
theorem takes_readSubGrids_end :
    Takes (ρ := ρ) order (textField "END") (readSubGrids Float units (fuel + 1) done)
      done.reverse := by
  refine Takes.here_bind fun _ => (takes_readName (by decide)).bind_end ?_
  rw [if_pos rfl]
  exact Takes.pure _

/-- The other label begins a sub-grid. -/
theorem takes_readSubGrids_step {written : List UInt8} {found : List (SubGrid Float)}
    (h : Takes (ρ := ρ) order written (readSubGrid Float units >>= fun grid =>
      readSubGrids Float units fuel (grid :: done)) found) :
    Takes (ρ := ρ) order (textField "SUB_NAME" ++ written)
      (readSubGrids Float units (fuel + 1) done) found := by
  refine Takes.here_bind fun _ => (takes_readName (by decide)).bind ?_
  -- this is not the label that ends the file, and it is the one that is asked for
  rw [if_neg (by decide), if_neg (by decide)]
  exact h

theorem refuses_readSubGrids_step {written : List UInt8} {fault : Error}
    (h : Refuses (ρ := ρ) order written (readSubGrid Float units >>= fun grid =>
      readSubGrids Float units fuel (grid :: done)) fault) :
    Refuses (ρ := ρ) order (textField "SUB_NAME" ++ written)
      (readSubGrids Float units (fuel + 1) done) fault := by
  refine Refuses.here_bind fun _ => (takes_readName (by decide)).bind_refuses ?_
  rw [if_neg (by decide), if_neg (by decide)]
  exact h

/-- Regular sub-grids are found in order. -/
theorem takes_readSubGrids (h : ∀ grid ∈ grids, grid.Writable)
    (hregular : ∀ grid ∈ grids, grid.header.Regular) (hfuel : grids.length < fuel) :
    Takes (ρ := ρ) order (grids.flatMap (StoredSubGrid.encode order) ++ textField "END")
      (readSubGrids Float units fuel done)
      (done.reverse ++ grids.map (StoredSubGrid.loaded units)) := by
  induction grids generalizing fuel done with
  | nil =>
    obtain ⟨fuel, rfl⟩ := Nat.exists_eq_succ_of_ne_zero (Nat.ne_zero_of_lt hfuel)
    rw [List.map_nil, List.append_nil]
    exact takes_readSubGrids_end
  | cons grid rest ih =>
    obtain ⟨fuel, rfl⟩ := Nat.exists_eq_succ_of_ne_zero (Nat.ne_zero_of_lt hfuel)
    obtain ⟨hgrid, hrest⟩ := List.forall_mem_cons.1 h
    obtain ⟨hregularGrid, hregularRest⟩ := List.forall_mem_cons.1 hregular
    -- what is found so far is kept in reverse
    have hread := @ih (grid.loaded units :: done) fuel hrest hregularRest
      (Nat.lt_of_succ_lt_succ hfuel)
    rw [List.reverse_cons, List.append_assoc, List.singleton_append] at hread
    rw [List.flatMap_cons, StoredSubGrid.encode_eq, List.append_assoc, List.append_assoc,
      List.map_cons]
    exact takes_readSubGrids_step ((takes_readSubGrid hgrid hregularGrid).bind hread)

/-- A sub-grid that is not regular is refused, whatever stands before it and behind it. -/
theorem refuses_readSubGrids (h : ∀ grid ∈ grids, grid.Writable)
    (hirregular : ¬∀ grid ∈ grids, grid.header.Regular) :
    ∃ fault, ∀ fuel done, grids.length < fuel →
      Refuses (ρ := ρ) order (grids.flatMap (StoredSubGrid.encode order))
        (readSubGrids Float units fuel done) (.grid fault) := by
  induction grids with
  | nil => exact absurd (fun _ hmem => absurd hmem List.not_mem_nil) hirregular
  | cons grid rest ih =>
    obtain ⟨hgrid, hrest⟩ := List.forall_mem_cons.1 h
    rw [List.flatMap_cons, StoredSubGrid.encode_eq, List.append_assoc]
    -- the first sub-grid that is not regular decides, so the fault does not depend on the fuel
    by_cases hregular : grid.header.Regular
    · have hirregularRest : ¬∀ grid ∈ rest, grid.header.Regular := fun hall =>
        hirregular (List.forall_mem_cons.2 ⟨hregular, hall⟩)
      obtain ⟨fault, hfault⟩ := ih hrest hirregularRest
      refine ⟨fault, fun fuel done hfuel => ?_⟩
      obtain ⟨fuel, rfl⟩ := Nat.exists_eq_succ_of_ne_zero (Nat.ne_zero_of_lt hfuel)
      exact refuses_readSubGrids_step ((takes_readSubGrid hgrid hregular).bind_refuses
        (hfault fuel (grid.loaded units :: done) (Nat.lt_of_succ_lt_succ hfuel)))
    · obtain ⟨fault, hfault⟩ :=
        (refuses_readSubGrid hgrid hregular : ∃ fault, Refuses (ρ := ρ) order
          (grid.encodeValues order) (readSubGrid Float units) (.grid fault))
      refine ⟨fault, fun fuel done hfuel => ?_⟩
      obtain ⟨fuel, rfl⟩ := Nat.exists_eq_succ_of_ne_zero (Nat.ne_zero_of_lt hfuel)
      exact refuses_readSubGrids_step (hfault.append _).bind

end List

end Georef.GridFile
