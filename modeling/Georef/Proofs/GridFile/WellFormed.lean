import Georef.Proofs.GridFile.Lattices

/-!
# Grid files that are accepted are well formed

Whatever bytes a grid file is read from, if it is accepted, then it has as many sub-grids as it
declares, each with a name of its own and a full lattice of nodes, and the places of parents,
children and precedence fit together. So they can be followed without further checks.

What the links have to say is told by the headers in the bytes, which are found again: sub-grids
stand one behind the other, each with its header in front of its nodes.

The module introduces:

* `Listed data place headers` — what stands in the bytes from a place on.
* `ReadFrom header grid` — what a sub-grid has of its header.
* `WellFormed file headers` — what holds of a file that is accepted; `wellFormed_of_ofResource` says
  that it does.
-/

namespace Georef.GridFile

open Cursor (Place Runs)

/-! ## Sub-grids in the bytes -/

/-- `Listed data place headers`: from the place on, sub-grids with these headers stand one behind the
other, each with its label, its header and its nodes, up to the label that ends the file. -/
inductive Listed (data : Bytes) : Place → List SubGridHeader → Prop where
  | ending {place : Place}
      (label : Runs (ρ := ResourceReader) data place readName (.ok "END")
        (place.advance fieldLength)) :
      Listed data place []
  | subGrid {place : Place} {header : SubGridHeader} {rows cols : Nat}
      {rest : List SubGridHeader}
      (label : Runs (ρ := ResourceReader) data place readName (.ok "SUB_NAME")
        (place.advance fieldLength))
      (header_read : Runs (ρ := ResourceReader) data (place.advance fieldLength)
        SubGridHeader.read (.ok header) (place.advance (headerRecords * recordLength)))
      (dimensions : header.dimensions Float = .ok (rows, cols))
      (behind : Listed data
        (place.advance (headerRecords * recordLength + nodeLength * (rows * cols))) rest) :
      Listed data place (header :: rest)

/-- `ReadFrom header grid`: the sub-grid has the name and the parent in the header, and the rows,
columns and nodes that the header tells. -/
structure ReadFrom (header : SubGridHeader) (grid : SubGrid Float) : Prop where
  name_eq : grid.name = header.name
  parent_eq : grid.parent = header.parentName?
  dimensions_eq : header.dimensions Float = .ok (grid.rows, grid.cols)
  size_nodes : grid.nodes.size = grid.rows * grid.cols

variable {data : Bytes} {place : Place} {cursor : Cursor ResourceReader} {units : Units}

/-- A sub-grid that is described by a header has been read from it. -/
theorem SubGridHeader.Describes.readFrom {header : SubGridHeader} {grid : SubGrid Float}
    (h : header.Describes units grid) : ReadFrom header grid :=
  ⟨h.name_eq, h.parent_eq, h.dimensions_eq, h.size_nodes⟩

/-- The sub-grids that are read are those that are listed in the bytes. Each of them takes bytes, so
that there is fuel for all of them. -/
theorem exists_listed {fuel : Nat} {done found : List (SubGrid Float)}
    (hcursor : cursor.Stands data place) (hplace : place.position ≤ data.size)
    (hfuel : data.size < place.position + fuel)
    (h : (cursor.run (readSubGrids Float units fuel done)).1 = .ok found) :
    ∃ headers grids, found = done.reverse ++ grids ∧ Listed data place headers ∧
      List.Forall₂ ReadFrom headers grids := by
  induction fuel generalizing done place cursor with
  | zero => omega
  | succ fuel ih =>
    rw [readSubGrids] at h
    obtain ⟨_, cursor₁, -, hfit₁, h₁, h⟩ := Cursor.Spans.here.exists_of_run_bind hcursor hplace h
    obtain ⟨label, cursor₂, hlabel, hfit₂, h₂, h⟩ :=
      spans_readName.exists_of_run_bind h₁ hfit₁ h
    split at h
    · rename_i hending
      rw [hending] at hlabel
      cases h
      exact ⟨[], [], (List.append_nil _).symm, .ending hlabel, .nil⟩
    split at h
    · cases h
    rename_i hsection
    rw [not_not.1 hsection] at hlabel
    obtain ⟨header, grid, cursor₃, hheader, hgrid, h₃, hfit₃, h⟩ :=
      exists_of_run_readSubGrid h₂ hfit₂ h
    have hroom : data.size < (place.advance (fieldLength + (fieldLength + 10 * recordLength +
        nodeLength * (grid.rows * grid.cols)))).position + fuel := by
      have hlength : 0 < fieldLength := by decide
      rw [Place.position_advance]
      omega
    simp only [Place.advance_advance, Nat.zero_add] at hheader h₃ hfit₃
    obtain ⟨headers, grids, rfl, hlisted, hgrids⟩ := ih h₃ hfit₃ hroom h
    refine ⟨header :: headers, grid :: grids, ?_, ?_, .cons hgrid.readFrom hgrids⟩
    · rw [List.reverse_cons, List.append_assoc, List.singleton_append]
    · -- the label and what is behind it are a header
      have hlength : headerRecords * recordLength =
          fieldLength + (fieldLength + 10 * recordLength) := rfl
      rw [← Nat.add_assoc] at hlisted
      exact .subGrid hlabel (hlength ▸ hheader) hgrid.dimensions_eq (hlength ▸ hlisted)

/-! ## Links -/

section Links

variable {α : Type} {file : GridFile α}

/-- Where names are different from each other, the place of a parent is the only one of its name. -/
theorem WellLinked.parentIndex_eq_some_iff (h : file.WellLinked)
    (hnodup : (file.grids.toList.map SubGrid.name).Nodup) {index place : Nat} {grid : SubGrid α}
    (hgrid : file.grids[place]? = some grid) :
    grid.parentIndex = some index ↔
      index ≠ place ∧ ∃ holder, file.grids[index]? = some holder ∧ grid.parent = some holder.name := by
  constructor
  · exact h.parent place grid index hgrid
  rintro ⟨-, holder, hholder, hname⟩
  cases hindex : grid.parentIndex with
  | none =>
    rw [(h.root place grid hgrid).1 hindex] at hname
    cases hname
  | some found =>
    obtain ⟨-, other, hother, hname'⟩ := h.parent place grid found hgrid hindex
    -- both places have the name of the parent
    have hnameAt : ∀ {place : Nat} {grid : SubGrid α}, file.grids[place]? = some grid →
        (file.grids.toList.map SubGrid.name)[place]? = some grid.name := by
      intro place grid hgrid
      rw [List.getElem?_map, Array.getElem?_toList, hgrid]
      rfl
    have hsame : holder.name = other.name := Option.some.inj (hname.symm.trans hname')
    have hfound : found = index := by
      obtain ⟨hlt, -⟩ := List.getElem?_eq_some_iff.1 (hnameAt hother)
      exact (List.getElem?_inj hlt hnodup).1 (by rw [hnameAt hother, hnameAt hholder, hsame])
    rw [hfound]

/-- The children of linked sub-grids are those that have them as their parents, in order. -/
theorem children_of_linked {grids : List (SubGrid α)} (hfile : file.grids = (linked grids).toArray)
    {place : Nat} {found : SubGrid α} (hfound : file.grids[place]? = some found) :
    found.children.Pairwise (· < ·) ∧
      ∀ child, child ∈ found.children ↔ file.parentOf child = some place := by
  have hplace := hfound
  rw [hfile, List.getElem?_toArray] at hplace
  obtain ⟨-, -, -, -, -, hchildren⟩ := exists_of_getElem?_linked hplace
  rw [hchildren]
  refine ⟨pairwise_childrenOf .., fun child => ?_⟩
  rw [mem_childrenOf, ← map_parentIndex_linked, List.getElem?_map, parentOf, hfile,
    List.getElem?_toArray]
  cases (linked grids)[child]? <;> simp

/-- The order of precedence has every place once. -/
theorem precedenceOf_perm [Scalar α] (grids : List (SubGrid α)) :
    (precedenceOf grids).Perm (List.range grids.length) := by
  have hperm := (List.mergeSort_perm grids.zipIdx
    fun a b => Scalar.precedes a.1.area b.1.area).map Prod.snd
  rwa [List.zipIdx_map_snd, ← List.range_eq_range'] at hperm

end Links

/-! ## Files -/

/-- `WellFormed file headers`: the sub-grids are as many as declared and have the given headers, names
of their own, at least one row and one column, and all of their nodes; the places of parents, of
children and of precedence are those that the names and the sub-grids tell. -/
structure WellFormed (file : GridFile Float) (headers : List SubGridHeader) : Prop where
  fileCount_eq : file.grids.size = file.overview.fileCount
  read_from : List.Forall₂ ReadFrom headers file.grids.toList
  nodup : (file.grids.toList.map SubGrid.name).Nodup
  rows_pos : ∀ grid ∈ file.grids, 1 ≤ grid.rows
  cols_pos : ∀ grid ∈ file.grids, 1 ≤ grid.cols
  size_nodes : ∀ grid ∈ file.grids, grid.nodes.size = grid.rows * grid.cols
  parentIndex_iff : ∀ (place index : Nat) (header : SubGridHeader) (grid : SubGrid Float),
    headers[place]? = some header → file.grids[place]? = some grid →
      (grid.parentIndex = some index ↔
        ¬sameLetters header.parent noParent ∧ index ≠ place ∧
          ∃ holder, file.grids[index]? = some holder ∧ holder.name = header.parent)
  children_sorted : ∀ grid ∈ file.grids, grid.children.Pairwise (· < ·)
  mem_children_iff : ∀ (place child : Nat) (grid : SubGrid Float), file.grids[place]? = some grid →
    (child ∈ grid.children ↔ file.parentOf child = some place)
  precedence_perm : file.precedence.Perm (List.range file.grids.size)

section Files

variable {headers : List SubGridHeader} {grids : List (SubGrid Float)}

theorem map_name_of_readFrom (h : List.Forall₂ ReadFrom headers grids) :
    grids.map SubGrid.name = headers.map SubGridHeader.name := by
  induction h with
  | nil => rfl
  | cons hgrid _ ih => rw [List.map_cons, List.map_cons, hgrid.name_eq, ih]

theorem exists_readFrom (h : List.Forall₂ ReadFrom headers grids) {grid : SubGrid Float}
    (hgrid : grid ∈ grids) : ∃ header, ReadFrom header grid := by
  induction h with
  | nil => cases hgrid
  | cons hfirst _ ih =>
    rcases List.mem_cons.1 hgrid with rfl | hrest
    · exact ⟨_, hfirst⟩
    · exact ih hrest

theorem readFrom_of_getElem? (h : List.Forall₂ ReadFrom headers grids) {place : Nat}
    {header : SubGridHeader} {grid : SubGrid Float} (hheader : headers[place]? = some header)
    (hgrid : grids[place]? = some grid) : ReadFrom header grid := by
  obtain ⟨hlt, rfl⟩ := List.getElem?_eq_some_iff.1 hheader
  obtain ⟨hlt', rfl⟩ := List.getElem?_eq_some_iff.1 hgrid
  exact h.get hlt hlt'

/-- Linking leaves what sub-grids have of their headers as it is. -/
theorem readFrom_linked (h : List.Forall₂ ReadFrom headers grids) :
    List.Forall₂ ReadFrom headers (linked grids) := by
  obtain ⟨hlength, hread⟩ := List.forall₂_iff_get.1 h
  refine List.forall₂_iff_get.2 ⟨by simp [linked, hlength], fun place hheader hplace => ?_⟩
  have hgrid : place < grids.length := hlength ▸ hheader
  simp only [linked, List.get_eq_getElem, List.getElem_map, List.getElem_zipIdx]
  obtain ⟨hname, hparent, hdimensions, hsize⟩ := hread place hheader hgrid
  exact ⟨hname, hparent, hdimensions, hsize⟩

/-- Files with linkable sub-grids, read from headers and as many as declared, are well formed. -/
theorem wellFormed_of_linkable {file : GridFile Float} (hread : List.Forall₂ ReadFrom headers grids)
    (hlinkable : Linkable grids) (hcount : grids.length = file.overview.fileCount)
    (hfile : file.grids = (linked grids).toArray)
    (hprecedence : file.precedence = precedenceOf (linked grids)) : file.WellFormed headers := by
  have hlinked : file.WellLinked := wellLinked_of_linkable hlinkable hfile
  have hfrom : List.Forall₂ ReadFrom headers file.grids.toList := by
    rw [hfile]
    exact readFrom_linked hread
  have heach : ∀ grid ∈ file.grids, ∃ header, ReadFrom header grid := fun grid hgrid =>
    exists_readFrom hfrom (Array.mem_toList_iff.2 hgrid)
  have hnodup : (file.grids.toList.map SubGrid.name).Nodup := by
    rw [map_name_of_readFrom hfrom, ← map_name_of_readFrom hread]
    exact hlinkable.nodup
  have hsize : file.grids.size = grids.length := by
    rw [hfile, List.size_toArray, linked, List.length_map, List.length_zipIdx]
  refine {
    fileCount_eq := hsize.trans hcount
    read_from := hfrom
    nodup := hnodup
    rows_pos := fun grid hgrid => ?_
    cols_pos := fun grid hgrid => ?_
    size_nodes := fun grid hgrid => ?_
    parentIndex_iff := fun place index header grid hheader hgrid => ?_
    children_sorted := fun grid hgrid => ?_
    mem_children_iff := fun place child grid hgrid => (children_of_linked hfile hgrid).2 child
    precedence_perm := ?_ }
  · obtain ⟨header, hheader⟩ := heach grid hgrid
    exact (SubGridHeader.dimensions_pos hheader.dimensions_eq).1
  · obtain ⟨header, hheader⟩ := heach grid hgrid
    exact (SubGridHeader.dimensions_pos hheader.dimensions_eq).2
  · obtain ⟨header, hheader⟩ := heach grid hgrid
    exact hheader.size_nodes
  · have hgridFrom := readFrom_of_getElem? hfrom hheader (Array.getElem?_toList.trans hgrid)
    rw [hlinked.parentIndex_eq_some_iff hnodup hgrid, hgridFrom.parent_eq]
    simp only [parentName?_eq_some_iff]
    constructor
    · rintro ⟨hother, holder, hholder, hsome, hname⟩
      exact ⟨hsome, hother, holder, hholder, hname.symm⟩
    · rintro ⟨hsome, hother, holder, hholder, hname⟩
      exact ⟨hother, holder, hholder, hsome, hname.symm⟩
  · obtain ⟨place, hplace⟩ := Array.getElem?_of_mem hgrid
    exact (children_of_linked hfile hplace).1
  · have hperm := precedenceOf_perm (linked grids)
    rwa [← hprecedence, ← List.size_toArray, ← hfile] at hperm

end Files

/-- Whatever bytes an accepted file is read from, they have the header of the file and, behind it,
those of its sub-grids, and the file is well formed. -/
theorem wellFormed_of_ofResource {resource : Resource} {file : GridFile Float}
    (h : ofResource resource = .ok file) :
    ∃ data headers, resource.bytes = .ok data ∧
      Runs (ρ := ResourceReader) data ⟨file.order, 0⟩ Overview.read (.ok file.overview)
        ⟨file.order, headerRecords * recordLength⟩ ∧
      Listed data ⟨file.order, headerRecords * recordLength⟩ headers ∧
      file.WellFormed headers := by
  obtain ⟨data, cursor, found, hdata, hoverview, hfit, hstands, hfound, hcount, hlinkable, hgrids,
    hprecedence⟩ := exists_found_of_ofResource h
  have hfuel : data.size < headerRecords * recordLength + (data.size + 1) := by omega
  obtain ⟨headers, read, rfl, hlisted, hread⟩ := exists_listed hstands hfit hfuel hfound
  exact ⟨data, headers, hdata, hoverview, hlisted,
    wellFormed_of_linkable hread hlinkable hcount hgrids hprecedence⟩

/-- The file with `A` as the parent of `B` is well formed, with the headers that were written. -/
theorem wellFormed_of_ofResource_pair :
    ∃ (file : GridFile Float) (headers : List SubGridHeader),
      ofResource (.memory "pair" ((pairFile "NONE" "A").encode .big).toArray) = .ok file ∧
        file.WellFormed headers ∧ headers.map SubGridHeader.name = ["A", "B"] ∧
        file.precedence.Perm [0, 1] ∧ file.parentOf 1 = some 0 := by
  let file : GridFile Float := (pairFile "NONE" "A").loaded "pair" .big .minutes
  have hread : ofResource (.memory "pair" ((pairFile "NONE" "A").encode .big).toArray) = .ok file :=
    ofResource_pairFile (by decide) (by decide) (by decide) (by decide +kernel)
  obtain ⟨-, headers, -, -, -, hfile⟩ := wellFormed_of_ofResource hread
  have hparent : file.parentOf 1 = some 0 := by decide +kernel
  exact ⟨file, headers, hread, hfile, (map_name_of_readFrom hfile.read_from).symm,
    hfile.precedence_perm, hparent⟩

end Georef.GridFile
