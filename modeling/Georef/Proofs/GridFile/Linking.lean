import Georef.GridFile.Parents
import Georef.Proofs.Outcome
import Mathlib.Data.List.Nodup

/-!
# Parents and children by name

Linking finds the place of each parent in an index of all names, and gathers the children of each
place. This module says which places these are, and which sub-grids cannot be linked.

The module introduces:

* `parentIndexIn` — the place of a parent among names; `linked` — sub-grids with their places.
* `Linkable grids` — names are different, and each parent is the name of another sub-grid.
* `linkParents_of_linkable`, `exists_linkParents_fault` — these sub-grids are linked, and no others.
-/

namespace Georef.GridFile

variable {α : Type}

/-- The place of a parent among the names of sub-grids. -/
def parentIndexIn (names : List String) (parent : Option String) : Option Nat :=
  parent.bind fun name => names.findIdx? (· == name)

/-- The places of the parents of sub-grids. -/
def parentIndices (grids : List (SubGrid α)) : List (Option Nat) :=
  grids.map fun grid => parentIndexIn (grids.map SubGrid.name) grid.parent

/-- Sub-grids with the places of their parents and children. -/
def linked (grids : List (SubGrid α)) : List (SubGrid α) :=
  grids.zipIdx.map fun (grid, place) =>
    { grid with
      parentIndex := parentIndexIn (grids.map SubGrid.name) grid.parent
      children := childrenOf (parentIndices grids) place }

/-- `Linkable grids`: names are different from each other, and each parent is the name of another
sub-grid. -/
structure Linkable (grids : List (SubGrid α)) : Prop where
  nodup : (grids.map SubGrid.name).Nodup
  parents : ∀ grid ∈ grids, ∀ parent, grid.parent = some parent →
    parent ∈ grids.map SubGrid.name ∧ parent ≠ grid.name

/-- Linking leaves a sub-grid at its place and as it is, but for the places of its relatives. -/
theorem getElem?_linked {grids : List (SubGrid α)} {place : Nat} {grid : SubGrid α}
    (h : grids[place]? = some grid) :
    (linked grids)[place]? = some { grid with
      parentIndex := parentIndexIn (grids.map SubGrid.name) grid.parent
      children := childrenOf (parentIndices grids) place } := by
  rw [linked, List.getElem?_map, List.getElem?_zipIdx, h, Nat.zero_add]
  rfl

/-! ## Places of parents -/

section Places

variable {places : Trie Nat} {names : List String} {place : Nat} {name parent : String}

/-- A name that occurs has a place, at which it stands. -/
theorem exists_findIdx?_of_mem (h : name ∈ names) :
    ∃ place, names.findIdx? (· == name) = some place ∧ names[place]? = some name := by
  cases hplace : names.findIdx? (· == name) with
  | none =>
    rw [List.findIdx?_eq_none_iff] at hplace
    exact absurd (hplace name h) (by simp)
  | some place =>
    obtain ⟨hlt, hname, -⟩ := List.findIdx?_eq_some_iff_getElem.1 hplace
    exact ⟨place, rfl, by rw [List.getElem?_eq_getElem hlt, eq_of_beq hname]⟩

/-- Where no name occurs twice, a name has the place at which it stands. -/
theorem findIdx?_of_nodup (hnodup : names.Nodup) (h : names[place]? = some name) :
    names.findIdx? (· == name) = some place := by
  obtain ⟨first, hfirst, hname⟩ := exists_findIdx?_of_mem (List.mem_of_getElem? h)
  obtain ⟨hlt, -⟩ := List.getElem?_eq_some_iff.1 h
  rw [hfirst, (List.getElem?_inj hlt hnodup).1 (h.trans hname.symm)]

theorem get?_placesOf_empty (h : placesOf .empty 0 names = .ok places) (name : String) :
    places.get? (Trie.textPath name) = names.findIdx? (· == name) := by
  rw [get?_placesOf h, Trie.get?_empty, Option.or_none]
  simp

/-- The place of a parent that is another name. -/
theorem parentPlace_of_mem (h : placesOf .empty 0 names = .ok places)
    (hplace : names[place]? = some name) (hmem : parent ∈ names) (hother : parent ≠ name) :
    parentPlace places place name (some parent) = .ok (parentIndexIn names (some parent)) := by
  obtain ⟨found, hfound, hname⟩ := exists_findIdx?_of_mem hmem
  -- the places of different names are different
  have hne : found ≠ place := by
    rintro rfl
    exact hother (Option.some_inj.1 (hname.symm.trans hplace))
  rw [parentPlace, get?_placesOf_empty h, parentIndexIn, Option.bind_some, hfound]
  exact if_neg hne

/-- A parent that is not another name has no place. -/
theorem exists_parentPlace_fault (h : placesOf .empty 0 names = .ok places) (hnodup : names.Nodup)
    (hplace : names[place]? = some name) (hparent : ¬(parent ∈ names ∧ parent ≠ name)) :
    ∃ fault, parentPlace places place name (some parent) = .error fault := by
  rw [parentPlace, get?_placesOf_empty h]
  by_cases hmem : parent ∈ names
  · obtain rfl : parent = name := not_not.1 fun hne => hparent ⟨hmem, hne⟩
    rw [findIdx?_of_nodup hnodup hplace]
    exact ⟨_, if_pos rfl⟩
  · have hnone : names.findIdx? (· == parent) = none := by
      rw [List.findIdx?_eq_none_iff]
      intro other hother
      exact beq_false_of_ne fun heq => hmem (heq ▸ hother)
    rw [hnone]
    exact ⟨_, rfl⟩

end Places

/-! ## Linking -/

variable {grids : List (SubGrid α)}

/-- Names have places if they are different from each other. -/
theorem exists_placesOf_iff {names : List String} :
    (∃ places, placesOf .empty 0 names = .ok places) ↔ names.Nodup := by
  rw [placesOf_eq_ok_iff]
  exact and_iff_left fun name _ => Trie.get?_empty _

/-- The name at a place. -/
theorem getElem?_map_name {grid : SubGrid α} {place : Nat} (h : (grid, place) ∈ grids.zipIdx) :
    grid ∈ grids ∧ (grids.map SubGrid.name)[place]? = some grid.name := by
  have hplace : grids[place]? = some grid := List.mem_zipIdx_iff_getElem?.1 h
  exact ⟨List.mem_of_getElem? hplace, by rw [List.getElem?_map, hplace]; rfl⟩

/-- Parents are looked up sub-grid by sub-grid, each with its own place beside it. -/
theorem parentIndices_eq (grids : List (SubGrid α)) :
    parentIndices grids =
      grids.zipIdx.map fun entry => parentIndexIn (grids.map SubGrid.name) entry.1.parent := by
  refine List.ext_getElem (by simp [parentIndices]) fun place _ _ => ?_
  simp [parentIndices]

/-- Sub-grids are linked as their names tell. -/
theorem linkParents_of_linkable (h : Linkable grids) : linkParents grids = .ok (linked grids) := by
  obtain ⟨places, hplaces⟩ := exists_placesOf_iff.2 h.nodup
  have hparents : (grids.zipIdx.mapM fun (grid, place) =>
      parentPlace places place grid.name grid.parent) = .ok (parentIndices grids) := by
    rw [parentIndices_eq]
    refine Except.mapM_eq_ok ?_
    -- each parent has the place that its name has among all names
    rintro ⟨grid, place⟩ hmem
    obtain ⟨hgrid, hname⟩ := getElem?_map_name hmem
    show parentPlace places place grid.name grid.parent = .ok (parentIndexIn _ grid.parent)
    cases hparent : grid.parent with
    | none => rfl
    | some parent =>
      obtain ⟨hknown, hother⟩ := h.parents grid hgrid parent hparent
      exact parentPlace_of_mem hplaces hname hknown hother
  rw [linkParents, hplaces, Except.ok_bind, hparents, Except.ok_bind, Except.pure_eq_ok]
  -- children are gathered from the same places of parents
  congr 1
  refine List.ext_getElem ?_ fun place hleft hright => ?_
  · simp [linked, parentIndices]
  · have hplace : place < (parentIndices grids).length := by
      simpa [linked, parentIndices] using hright
    simp only [linked, List.getElem_map, List.getElem_zipIdx, List.getElem_zip, Nat.zero_add,
      childLists_getD _ hplace]
    simp only [parentIndices, List.getElem_map]

/-- Other sub-grids are refused. -/
theorem exists_linkParents_fault (h : ¬Linkable grids) :
    ∃ fault, linkParents grids = .error fault := by
  rw [linkParents]
  cases hplaces : placesOf .empty 0 (grids.map SubGrid.name) with
  | error fault => exact ⟨fault, rfl⟩
  | ok places =>
    have hnodup := exists_placesOf_iff.1 ⟨places, hplaces⟩
    -- names are different, so a parent is at fault
    have hunknown : ∃ grid ∈ grids, ∃ parent, grid.parent = some parent ∧
        ¬(parent ∈ grids.map SubGrid.name ∧ parent ≠ grid.name) := by
      refine Classical.byContradiction fun hnone => h ⟨hnodup, fun grid hgrid parent hparent => ?_⟩
      exact Classical.byContradiction fun hbad => hnone ⟨grid, hgrid, parent, hparent, hbad⟩
    obtain ⟨grid, hgrid, parent, hparent, hbad⟩ := hunknown
    obtain ⟨place, hplace, rfl⟩ := List.getElem_of_mem hgrid
    have hmem : (grids[place], place) ∈ grids.zipIdx :=
      List.mem_zipIdx_iff_getElem?.2 (List.getElem?_eq_getElem hplace)
    obtain ⟨fault, hfault⟩ :=
      exists_parentPlace_fault hplaces hnodup (getElem?_map_name hmem).2 hbad
    rw [← hparent] at hfault
    have hparents : ∃ fault, (grids.zipIdx.mapM fun (grid, place) =>
        parentPlace places place grid.name grid.parent) = .error fault :=
      Except.exists_mapM_error ⟨_, hmem, fault, hfault⟩
    obtain ⟨fault, hparents⟩ := hparents
    exact ⟨fault, by rw [Except.ok_bind, hparents, Except.error_bind]⟩

/-! ## Parents and children of linked sub-grids -/

theorem map_parentIndex_linked (grids : List (SubGrid α)) :
    (linked grids).map SubGrid.parentIndex = parentIndices grids := by
  rw [parentIndices_eq, linked, List.map_map]
  rfl

/-- The children of a place are the places that have it as their parent. -/
theorem mem_childrenOf {parents : List (Option Nat)} {place child : Nat} :
    child ∈ childrenOf parents place ↔ parents[child]? = some (some place) := by
  simp [childrenOf, List.mem_zipIdx_iff_getElem?]

/-- Children are listed once each, in the order of their places. -/
theorem pairwise_childrenOf (parents : List (Option Nat)) (place : Nat) :
    (childrenOf parents place).Pairwise (· < ·) := by
  have hplaces : (parents.zipIdx.map Prod.snd).Pairwise (· < ·) := by
    rw [List.zipIdx_map_snd]
    exact List.pairwise_lt_range'
  exact hplaces.sublist (List.filter_sublist.map _)

end Georef.GridFile
