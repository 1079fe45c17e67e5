import Georef.Proofs.GridFile.Linking
import Georef.Proofs.GridFile.SubGrids

/-!
# Grid files that are read as they were written

A written file is found again, in the byte order in which it was written, if its sub-grids are as
many as it declares, their names and parents can be linked, and their headers are regular. Any other
written file is refused as a grid file.

The module introduces:

* `Loadable file` — what is asked of a written file; `StoredFile.loaded` — what is found of it.
* `detects_order` — the byte order is recognised by the first integer.
* `ofResource_encode` — loadable files are found as they were written, and no others.
-/

namespace Georef.GridFile

open Cursor (Holds Place Runs Takes Refuses)

/-- `Loadable file`: the sub-grids are as many as declared, their names are different from each
other, each parent is the name of another sub-grid, and their headers are regular. -/
structure Loadable (file : StoredFile) : Prop where
  fileCount_eq : file.fileCount.toInt = file.grids.length
  nodup : (file.grids.map fun grid => grid.header.name).Nodup
  parents : ∀ grid ∈ file.grids, ¬sameLetters grid.header.parent noParent →
    ∃ other ∈ file.grids, other.header.name = grid.header.parent ∧
      other.header.name ≠ grid.header.name
  regular : ∀ grid ∈ file.grids, grid.header.Regular

/-- The sub-grids of a written file as they are found. -/
def StoredFile.loadedGrids (file : StoredFile) (units : Units) : List (SubGrid Float) :=
  linked (file.grids.map (StoredSubGrid.loaded units))

/-- A written file as it is found. -/
def StoredFile.loaded (file : StoredFile) (name : String) (order : ByteOrder) (units : Units) :
    GridFile Float where
  name := name
  order := order
  overview := file.overview units
  grids := (file.loadedGrids units).toArray
  precedence := precedenceOf (file.loadedGrids units)

/-! ## Linking -/

variable {file : StoredFile} {units : Units}

theorem parentName?_eq_some_iff {header : SubGridHeader} {parent : String} :
    header.parentName? = some parent ↔
      ¬sameLetters header.parent noParent ∧ header.parent = parent := by
  rw [SubGridHeader.parentName?]
  split <;> simp_all

/-- The sub-grids can be linked if their names and parents are as asked for. -/
theorem linkable_loaded_iff :
    Linkable (file.grids.map (StoredSubGrid.loaded units)) ↔
      (file.grids.map fun grid => grid.header.name).Nodup ∧
      ∀ grid ∈ file.grids, ¬sameLetters grid.header.parent noParent →
        ∃ other ∈ file.grids, other.header.name = grid.header.parent ∧
          other.header.name ≠ grid.header.name := by
  have hnames : (file.grids.map (StoredSubGrid.loaded units)).map SubGrid.name =
      file.grids.map fun grid => grid.header.name := by
    rw [List.map_map]
    rfl
  constructor
  · intro h
    refine ⟨hnames ▸ h.nodup, fun grid hgrid hparent => ?_⟩
    obtain ⟨hmem, hne⟩ := h.parents (grid.loaded units) (List.mem_map_of_mem hgrid)
      grid.header.parent (parentName?_eq_some_iff.2 ⟨hparent, rfl⟩)
    rw [hnames] at hmem
    obtain ⟨other, hother, hname⟩ := List.mem_map.1 hmem
    exact ⟨other, hother, hname, fun heq => hne (hname.symm.trans heq)⟩
  · rintro ⟨hnodup, hparents⟩
    refine ⟨hnames ▸ hnodup, fun found hfound parent hparent => ?_⟩
    obtain ⟨grid, hgrid, rfl⟩ := List.mem_map.1 hfound
    -- a parent that is found is one that was written, and not the name for none
    obtain ⟨hsome, rfl⟩ := parentName?_eq_some_iff.1 hparent
    obtain ⟨other, hother, hname, hne⟩ := hparents grid hgrid hsome
    exact ⟨hnames ▸ List.mem_map.2 ⟨other, hother, hname⟩, fun heq => hne (hname.trans heq)⟩

/-! ## The byte order -/

variable {ρ : Type} [Reader ρ] [LawfulReader ρ] {order : ByteOrder} {data : Bytes}

/-- The first integer is read as eleven in one byte order only. -/
theorem ofKnown?_encode (order : ByteOrder) :
    ByteOrder.ofKnown? (FixedWidth.encode order (Int32.ofNat headerRecords)) headerRecords =
      some order := by
  -- eleven read from the wrong end is another number
  cases order <;> decide

/-- The byte order is recognised by the first integer. -/
theorem detects_order (h : Holds data 0 (file.header order)) :
    Runs (ρ := ρ) data ⟨.little, 0⟩ detectOrder (.ok order) ⟨.little, 0⟩ := by
  have hlabel : (textField "NUM_OREC").length = fieldLength :=
    Storable.length_textField (by decide)
  -- the first integer is behind its label
  have hinteger : Holds data fieldLength
      (FixedWidth.encode order (Int32.ofNat headerRecords)) := by
    simp only [StoredFile.header, integerRecord, List.append_assoc] at h
    have hright := h.right.left
    rwa [hlabel, Nat.zero_add] at hright
  have hlength : (FixedWidth.encode order (Int32.ofNat headerRecords)).length = 4 :=
    FixedWidth.length_encode order _
  have hfits := hinteger.fits
  have hslice := hinteger.slice_eq
  rw [hlength] at hfits hslice
  have hbytes : Runs (ρ := ρ) data ⟨.little, 0 + fieldLength⟩ (Cursor.bytes 4)
      (.ok (data.slice (0 + fieldLength) 4)) ((⟨.little, 0 + fieldLength⟩ : Place).advance 4) :=
    Runs.bytes (by rw [Nat.zero_add]; exact hfits)
  have hoffset : 0 + fieldLength ≤ data.size := by omega
  refine Runs.here.bind ((Runs.atOffset (Nat.zero_le _) hoffset hbytes).bind ?_)
  rw [Nat.zero_add, hslice, ofKnown?_encode]
  exact Runs.pure order

/-! ## Whole files -/

/-- Every sub-grid takes bytes. -/
theorem length_le_length_flatMap (order : ByteOrder) (grids : List StoredSubGrid) :
    grids.length ≤ (grids.flatMap (StoredSubGrid.encode order)).length := by
  induction grids with
  | nil => exact Nat.le_refl _
  | cons grid rest ih =>
    have hlabel : (textField "SUB_NAME").length = fieldLength :=
      Storable.length_textField (by decide)
    rw [List.flatMap_cons, List.length_append, StoredSubGrid.encode_eq, List.length_append, hlabel,
      List.length_cons, fieldLength]
    omega

/-- What stands where in a written file. -/
theorem holds_parts (h : Holds data 0 (file.encode order)) :
    Holds data 0 (file.header order) ∧
      Holds data (file.header order).length
        (file.grids.flatMap (StoredSubGrid.encode order) ++ textField "END") := by
  rw [StoredFile.encode, StoredFile.ending, ← List.append_assoc] at h
  have hparts := h.left
  rw [List.append_assoc] at hparts
  have hbody := hparts.right
  rw [Nat.zero_add] at hbody
  exact ⟨hparts.left, hbody⟩

/-- Regular sub-grids can be linked if the file is loadable, and not if it is not. -/
theorem linkDeclared_cases (hcount : 0 ≤ file.fileCount.toInt)
    (hregular : ∀ grid ∈ file.grids, grid.header.Regular) :
    (Loadable file ∧ linkDeclared (file.overview units)
        (file.grids.map (StoredSubGrid.loaded units)) = .ok (file.loadedGrids units)) ∨
      (¬Loadable file ∧ ∃ fault, linkDeclared (file.overview units)
        (file.grids.map (StoredSubGrid.loaded units)) = .error fault) := by
  have hdeclared : (file.overview units).fileCount = file.fileCount.toInt.toNat := rfl
  rw [linkDeclared, List.length_map, hdeclared]
  by_cases heq : file.grids.length = file.fileCount.toInt.toNat
  · rw [if_neg (not_not_intro heq)]
    by_cases hlinkable : Linkable (file.grids.map (StoredSubGrid.loaded units))
    · obtain ⟨hnodup, hparents⟩ := linkable_loaded_iff.1 hlinkable
      exact .inl ⟨⟨by omega, hnodup, hparents, hregular⟩, linkParents_of_linkable hlinkable⟩
    · refine .inr ⟨fun h => hlinkable ?_, exists_linkParents_fault hlinkable⟩
      exact linkable_loaded_iff.2 ⟨h.nodup, h.parents⟩
  · rw [if_pos heq]
    refine .inr ⟨fun h => heq ?_, _, rfl⟩
    rw [h.fileCount_eq, Int.toNat_natCast]

/-- What stands behind the header of a file is found as it was written if the file is loadable, and
refused if it is not. -/
theorem readBody_cases (name : String) (hfile : file.Writable units)
    (hcount : 0 ≤ file.fileCount.toInt) :
    (Loadable file ∧ Takes (ρ := ρ) order
        (file.grids.flatMap (StoredSubGrid.encode order) ++ textField "END")
        (readBody name order (file.overview units)) (file.loaded name order units)) ∨
      (¬Loadable file ∧ ∃ fault, Refuses (ρ := ρ) order
        (file.grids.flatMap (StoredSubGrid.encode order) ++ textField "END")
        (readBody (α := Float) name order (file.overview units)) (.grid fault)) := by
  have hlength := length_le_length_flatMap order file.grids
  -- sub-grids are refused while they are read, numbers and names only after the last one
  by_cases hregular : ∀ grid ∈ file.grids, grid.header.Regular
  · have hgrids : ∀ length, (file.grids.flatMap (StoredSubGrid.encode order) ++
        textField "END").length ≤ length → Takes (ρ := ρ) order
          (file.grids.flatMap (StoredSubGrid.encode order) ++ textField "END")
          (readSubGrids Float units (length + 1) [])
          (file.grids.map (StoredSubGrid.loaded units)) := by
      intro length hfits
      rw [List.length_append] at hfits
      exact takes_readSubGrids hfile.grids hregular (by omega)
    rcases linkDeclared_cases hcount hregular with ⟨h, hlinked⟩ | ⟨h, fault, hfault⟩
    · refine .inl ⟨h, Takes.get_bind fun cursor hfits => (hgrids _ hfits).bind_end ?_⟩
      have hlinked := congrArg (Except.mapError Error.grid) hlinked
      exact (Takes.ofExcept hlinked).bind_end (Takes.pure _)
    · refine .inr ⟨h, fault, Refuses.get_bind fun cursor hfits =>
        (hgrids _ hfits).bind_end_refuses ?_⟩
      have hfault := congrArg (Except.mapError Error.grid) hfault
      exact (Refuses.ofExcept hfault).bind
  · obtain ⟨fault, hfault⟩ : ∃ fault, ∀ fuel done, file.grids.length < fuel →
        Refuses (ρ := ρ) order (file.grids.flatMap (StoredSubGrid.encode order))
          (readSubGrids Float units fuel done) (.grid fault) :=
      refuses_readSubGrids hfile.grids hregular
    refine .inr ⟨fun h => hregular h.regular, fault, Refuses.get_bind fun cursor hfits => ?_⟩
    rw [List.length_append] at hfits
    exact ((hfault _ [] (by omega)).append _).bind

/-- A written file is found as it was written if it is loadable, and refused if it is not. -/
theorem read_cases (name : String) (hfile : file.Writable units)
    (hholds : Holds data 0 (file.encode order)) {cursor : Cursor ρ}
    (hcursor : cursor.Stands data ⟨.little, 0⟩) :
    (Loadable file ∧ (cursor.run (read name)).1 = .ok (file.loaded name order units)) ∨
      (¬Loadable file ∧
        ∃ fault, (cursor.run (read (α := Float) name)).1 = .error (.grid fault)) := by
  obtain ⟨hheader, hbody⟩ := holds_parts hholds
  obtain ⟨cursor₁, hrun₁, hcursor₁⟩ := detects_order hheader cursor hcursor
  obtain ⟨cursor₂, hrun₂, hcursor₂⟩ := Runs.setOrder order cursor₁ hcursor₁
  rw [read, Cursor.run_bind_of_ok hrun₁, Cursor.run_bind_of_ok hrun₂]
  -- a negative number is refused in the header, before any sub-grid is read
  by_cases hcount : file.fileCount.toInt < 0
  · refine .inr ⟨fun h => ?_, _, (refuses_overview hcount).bind data _ rfl hheader cursor₂ hcursor₂⟩
    have := h.fileCount_eq
    omega
  · have hcount : 0 ≤ file.fileCount.toInt := Int.not_lt.1 hcount
    obtain ⟨cursor₃, hrun₃, hcursor₃⟩ :=
      takes_overview hfile hcount data ⟨order, 0⟩ rfl hheader cursor₂ hcursor₂
    have hplace : (⟨order, 0⟩ : Place).advance (file.header order).length =
        ⟨order, (file.header order).length⟩ := by
      rw [Place.advance, Nat.zero_add]
    rw [hplace] at hcursor₃
    rw [Cursor.run_bind_of_ok hrun₃]
    rcases @readBody_cases file units ρ _ _ order name hfile hcount with
      ⟨h, htakes⟩ | ⟨h, fault, hrefuses⟩
    · obtain ⟨cursor₄, hrun₄, -⟩ := htakes data _ rfl hbody cursor₃ hcursor₃
      exact .inl ⟨h, congrArg Prod.fst hrun₄⟩
    · exact .inr ⟨h, fault, hrefuses data _ rfl hbody cursor₃ hcursor₃⟩

/-! ## Nodes -/

/-- The nodes of a written sub-grid are found row by row, in the order in which they were
written. -/
theorem node?_loaded {grid : StoredSubGrid} (hgrid : grid.Writable)
    (hregular : grid.header.Regular) {row col : Nat} (hrow : row < grid.header.rows)
    (hcol : col < grid.header.cols) :
    ∃ node, grid.nodes[row * grid.header.cols + col]? = some node ∧
      (grid.loaded units).node? row col = some (node.loaded units) := by
  have hcount : grid.nodes.length = grid.header.rows * grid.header.cols := by
    have hcount := hregular.count_eq
    rwa [hgrid.count_eq, ← Int.natCast_mul, Int.natCast_inj] at hcount
  have hplace : row * grid.header.cols + col < grid.nodes.length := by
    rw [hcount]
    exact SubGrid.index_lt hrow hcol
  refine ⟨grid.nodes[row * grid.header.cols + col], List.getElem?_eq_getElem hplace, ?_⟩
  have hinside : row < (grid.loaded units).rows ∧ col < (grid.loaded units).cols := ⟨hrow, hcol⟩
  rw [SubGrid.node?, if_pos hinside]
  show (grid.nodes.map (ShiftValue.loaded units)).toArray[row * grid.header.cols + col]? = _
  rw [List.getElem?_toArray, List.getElem?_map, List.getElem?_eq_getElem hplace]
  rfl

/-- The nodes of the sub-grids of a written file are found in their order. -/
theorem exists_node?_loadedGrids (hfile : file.Writable units) (h : Loadable file) {place : Nat}
    {grid : StoredSubGrid} (hgrid : file.grids[place]? = some grid) {row col : Nat}
    (hrow : row < grid.header.rows) (hcol : col < grid.header.cols) :
    ∃ found node, (file.loadedGrids units)[place]? = some found ∧
      grid.nodes[row * grid.header.cols + col]? = some node ∧
      found.node? row col = some (node.loaded units) := by
  have hmem : grid ∈ file.grids := List.mem_of_getElem? hgrid
  obtain ⟨node, hnode, hloaded⟩ : ∃ node, grid.nodes[row * grid.header.cols + col]? = some node ∧
      (grid.loaded units).node? row col = some (node.loaded units) :=
    node?_loaded (hfile.grids grid hmem) (h.regular grid hmem) hrow hcol
  have hplace : (file.grids.map (StoredSubGrid.loaded units))[place]? =
      some (grid.loaded units) := by
    rw [List.getElem?_map, hgrid]
    rfl
  exact ⟨_, node, getElem?_linked hplace, hnode, hloaded⟩

/-! ## Files in resources -/

/-- `ofResource` succeeds exactly on the loadable ones among the written files, whatever bytes
follow. It then gives the file as it was written, each sub-grid with its nodes at their rows and
columns; the others are refused as grid files. Positions have 64 bits, so the source is shorter than
they can count. -/
theorem ofResource_encode (hfile : file.Writable units) (order : ByteOrder)
    (trailing : List UInt8) {resource : Resource}
    (hbytes : resource.bytes = .ok (file.encode order ++ trailing).toArray)
    (hsize : (file.encode order ++ trailing).length < positionBound) :
    ((∃ found : GridFile Float, ofResource resource = .ok found) ↔ Loadable file) ∧
    (Loadable file → ofResource resource = .ok (file.loaded resource.name order units) ∧
      ∀ (place : Nat) (grid : StoredSubGrid) (row col : Nat), file.grids[place]? = some grid →
        row < grid.header.rows → col < grid.header.cols →
        ∃ (found : SubGrid Float) (node : ShiftValue Binary32),
          (file.loadedGrids units)[place]? = some found ∧
          grid.nodes[row * grid.header.cols + col]? = some node ∧
          found.node? row col = some (node.loaded units)) ∧
    (¬Loadable file →
      ∃ fault, (ofResource resource : Except Error (GridFile Float)) = .error (.grid fault)) := by
  have hholds : Holds (file.encode order ++ trailing).toArray 0 (file.encode order) :=
    Cursor.holds_start _ trailing
  -- only the bytes of the resource matter, not how they are read
  obtain ⟨reader, hreader, hserves⟩ := Resource.exists_reader_serves hbytes
  obtain ⟨cursor, hcursor, hstands⟩ :=
    Cursor.exists_ofReader_stands hserves (by decide) hsize .little
  have hopen : resource.cursor .little = .ok cursor := by
    rw [Resource.cursor, hreader]
    exact hcursor
  have hload : (ofResource resource : Except Error (GridFile Float)) =
      (cursor.run (read resource.name)).1 := by
    rw [ofResource, hopen]
    rfl
  rw [hload]
  rcases read_cases resource.name hfile hholds hstands with ⟨h, hrun⟩ | ⟨h, fault, hrun⟩
  · rw [hrun]
    refine ⟨⟨fun _ => h, fun _ => ⟨_, rfl⟩⟩, fun _ => ⟨rfl, ?_⟩, fun hnot => absurd h hnot⟩
    intro place grid row col hgrid hrow hcol
    exact exists_node?_loadedGrids hfile h hgrid hrow hcol
  · rw [hrun]
    refine ⟨⟨fun hfound => ?_, fun hload => absurd hload h⟩, fun hload => absurd hload h,
      fun _ => ⟨fault, rfl⟩⟩
    obtain ⟨_, hfound⟩ := hfound
    cases hfound

/-- A file in minutes with a sub-grid of three rows and two columns, and one that refines it. -/
def sampleFile : StoredFile where
  fileCount := 2
  unitName := "Minutes"
  version := "NTv2.0"
  source := "NAD27"
  target := "NAD83"
  sourceMajor := ⟨0x415854A59999999A⟩
  sourceMinor := ⟨0x41583FA73999999A⟩
  targetMajor := ⟨0x415854A640000000⟩
  targetMinor := ⟨0x41583FC41D4FDF3B⟩
  grids := [
    { header := sampleHeader "ALL" "none" ⟨0x4000000000000000⟩ 6
      nodes := List.replicate 6 ⟨⟨0x3F800000⟩, ⟨0xBF800000⟩, ⟨0⟩, ⟨0⟩⟩ },
    { header := sampleHeader "PART" "ALL" ⟨0x3FF0000000000000⟩ 4
      nodes := List.replicate 4 ⟨⟨0x40000000⟩, ⟨0xC0000000⟩, ⟨0⟩, ⟨0⟩⟩ }]
where
  /-- A header with one increment between columns. -/
  sampleHeader (name parent : String) (north : Binary64) (count : Int) : SubGridHeader :=
    { name, parent, created := "20260101", updated := "20260102"
      south := ⟨0⟩, north, east := ⟨0⟩, west := ⟨0x3FF0000000000000⟩
      latStep := ⟨0x3FF0000000000000⟩, lonStep := ⟨0x3FF0000000000000⟩, count }

theorem sampleFile.writable : sampleFile.Writable .minutes := by
  refine ⟨by decide, by decide, by decide, by decide, fun grid hgrid => ?_⟩
  rcases List.mem_cons.1 hgrid with rfl | hgrid
  · exact ⟨⟨by decide, by decide, by decide, by decide, by decide, by decide⟩, rfl⟩
  · obtain rfl := List.mem_singleton.1 hgrid
    exact ⟨⟨by decide, by decide, by decide, by decide, by decide, by decide⟩, rfl⟩

theorem sampleFile.loadable : Loadable sampleFile := by
  refine ⟨by decide, by decide, by decide, fun grid hgrid => ?_⟩
  rcases List.mem_cons.1 hgrid with rfl | hgrid
  · constructor <;> decide +kernel
  · obtain rfl := List.mem_singleton.1 hgrid
    constructor <;> decide +kernel

/-- The sample is found as it was written, with three bytes behind it. -/
theorem ofResource_encode_sample :
    sampleFile.Writable .minutes ∧ Loadable sampleFile ∧
      ofResource (.memory "sample" (sampleFile.encode .big ++ [1, 2, 3]).toArray) =
        .ok (sampleFile.loaded "sample" .big .minutes) ∧
      (sampleFile.loadedGrids .minutes).map
          (fun grid => (grid.name, grid.parentIndex, grid.children, grid.rows, grid.cols)) =
        [("ALL", none, [1], 3, 2), ("PART", some 0, [], 2, 2)] := by
  have hsize : (sampleFile.encode .big ++ [1, 2, 3]).length < positionBound := by
    decide +kernel
  exact ⟨sampleFile.writable, sampleFile.loadable,
    ((ofResource_encode sampleFile.writable .big [1, 2, 3] rfl hsize).2.1 sampleFile.loadable).1,
    by decide +kernel⟩

end Georef.GridFile
