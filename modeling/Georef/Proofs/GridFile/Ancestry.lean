import Georef.Proofs.GridFile.Loading
import Georef.Proofs.GridFile.Settling
import Georef.Proofs.Source.Opening
import Mathlib.Data.Finset.Card

/-!
# Ancestors of sub-grids

The links from sub-grids to their parents are checked one by one: a parent is another sub-grid of
the file. Whether the links of a file come to an end is a matter of all of them together, and is not
checked. So a file that is read is a forest, unless some of its sub-grids are their own ancestors,
each the parent of the next around a ring.

The module introduces:

* `GridFile.climb file steps place` — the place that a number of links lead to.
* `GridFile.Rooted file place` — a root is reached in fewer steps than there are sub-grids;
  `GridFile.OwnAncestor file place` — climbing comes back to where it started.
* `GridFile.WellLinked file` — what holds of each link; files that are read have it.

In a well-linked file every sub-grid is below a root or below a ring, and not below both
(`GridFile.WellLinked.rooted_iff`). `GridFile.ofResource_ancestry` puts this together for files that
are read, and `GridFile.exists_ring` reads a file without a root.
-/

namespace Georef.GridFile

open Cursor (Place Runs)

variable {α : Type}

/-! ## Climbing -/

/-- The place of the parent of the sub-grid at a place. -/
def parentOf (file : GridFile α) (place : Nat) : Option Nat :=
  file.grids[place]?.bind SubGrid.parentIndex

/-- The place that `steps` links lead to from a place; none if there are not as many. -/
def climb (file : GridFile α) : (steps place : Nat) → Option Nat
  | 0, place => some place
  | steps + 1, place => (file.climb steps place).bind file.parentOf

/-- A sub-grid without a parent is at the place. -/
def IsRoot (file : GridFile α) (place : Nat) : Prop :=
  ∃ grid, file.grids[place]? = some grid ∧ grid.parentIndex = none

/-- Climbing from the place comes to a root in fewer steps than there are sub-grids. -/
def Rooted (file : GridFile α) (place : Nat) : Prop :=
  ∃ steps root, steps < file.grids.size ∧ file.climb steps place = some root ∧ file.IsRoot root

/-- Climbing from the place comes back to it. -/
def OwnAncestor (file : GridFile α) (place : Nat) : Prop :=
  ∃ steps, 0 < steps ∧ file.climb steps place = some place

/-- `WellLinked file`: each link leads from a sub-grid to another one, which has the name of its
parent, and only sub-grids that name no parent are without a link. -/
structure WellLinked (file : GridFile α) : Prop where
  parent : ∀ (place : Nat) (grid : SubGrid α) (index : Nat), file.grids[place]? = some grid →
    grid.parentIndex = some index →
      index ≠ place ∧
        ∃ holder : SubGrid α, file.grids[index]? = some holder ∧ grid.parent = some holder.name
  root : ∀ (place : Nat) (grid : SubGrid α), file.grids[place]? = some grid →
    (grid.parentIndex = none ↔ grid.parent = none)

variable {file : GridFile α} {place : Nat}

theorem climb_add (first second : Nat) :
    file.climb (first + second) place = (file.climb first place).bind (file.climb second) := by
  induction second with
  | zero => cases file.climb first place <;> rfl
  | succ second ih =>
    rw [← Nat.add_assoc, climb, ih]
    cases file.climb first place <;> rfl

theorem IsRoot.parentOf (h : file.IsRoot place) : file.parentOf place = none := by
  obtain ⟨grid, hgrid, hnone⟩ := h
  rw [GridFile.parentOf, hgrid, Option.bind_some, hnone]

/-- Nothing is above a root. -/
theorem IsRoot.climb_eq_none (h : file.IsRoot place) {steps : Nat} (hsteps : 0 < steps) :
    file.climb steps place = none := by
  obtain ⟨more, rfl⟩ := Nat.exists_eq_add_of_lt hsteps
  rw [Nat.zero_add, Nat.add_comm, climb_add]
  simp [climb, h.parentOf]

/-- A ring can be gone round any number of times. -/
theorem climb_mul {length : Nat} (h : file.climb length place = some place) (rounds : Nat) :
    file.climb (length * rounds) place = some place := by
  induction rounds with
  | zero => rfl
  | succ rounds ih => rw [Nat.mul_succ, climb_add, ih, Option.bind_some, h]

/-- A sub-grid below a root is not below a ring, where climbing would not come to an end. -/
theorem Rooted.not_below_ring (h : file.Rooted place) {steps ring : Nat}
    (hring : file.climb steps place = some ring) : ¬file.OwnAncestor ring := by
  rintro ⟨length, hlength, hround⟩
  obtain ⟨height, root, -, hroot, htop⟩ := h
  have hlong : file.climb (steps + length * (height + 1)) place = some ring := by
    rw [climb_add, hring, Option.bind_some, climb_mul hround]
  -- going round often enough is longer than the way to the root, and nothing is above that
  have hfar : height < steps + length * (height + 1) :=
    calc height < height + 1 := Nat.lt_succ_self height
      _ ≤ length * (height + 1) := Nat.le_mul_of_pos_left _ hlength
      _ ≤ steps + length * (height + 1) := Nat.le_add_left ..
  obtain ⟨more, hmore⟩ := Nat.exists_eq_add_of_lt hfar
  rw [hmore, Nat.add_assoc, climb_add, hroot, Option.bind_some,
    htop.climb_eq_none (Nat.succ_pos more)] at hlong
  cases hlong

theorem Rooted.not_ownAncestor (h : file.Rooted place) : ¬file.OwnAncestor place := by
  have hself : file.climb 0 place = some place := rfl
  exact h.not_below_ring hself

namespace WellLinked

theorem parentOf_lt (h : file.WellLinked) {index : Nat}
    (hindex : file.parentOf place = some index) : index < file.grids.size := by
  obtain ⟨grid, hgrid, hparent⟩ := Option.bind_eq_some_iff.1 hindex
  obtain ⟨-, holder, hholder, -⟩ := h.parent place grid index hgrid hparent
  exact (Array.getElem?_eq_some_iff.1 hholder).1

/-- As long as no root is met, climbing goes on inside the file. -/
theorem exists_climb (h : file.WellLinked) (hplace : place < file.grids.size)
    (hrooted : ¬file.Rooted place) {steps : Nat} (hsteps : steps ≤ file.grids.size) :
    ∃ reached < file.grids.size, file.climb steps place = some reached := by
  induction steps with
  | zero => exact ⟨place, hplace, rfl⟩
  | succ steps ih =>
    obtain ⟨below, hbelow, hclimb⟩ := ih (Nat.le_of_succ_le hsteps)
    have hgrid : file.grids[below]? = some file.grids[below] := Array.getElem?_eq_getElem hbelow
    cases hparent : file.grids[below].parentIndex with
    | none =>
      have hroot : file.IsRoot below := ⟨_, hgrid, hparent⟩
      exact absurd ⟨steps, below, hsteps, hclimb, hroot⟩ hrooted
    | some above =>
      have habove : file.parentOf below = some above := by
        rw [parentOf, hgrid, Option.bind_some, hparent]
      exact ⟨above, h.parentOf_lt habove, by rw [climb, hclimb, Option.bind_some, habove]⟩

/-- A sub-grid that is not below a root is below a ring: there are more steps than places, so some
place is met twice. -/
theorem exists_ring_above (h : file.WellLinked) (hplace : place < file.grids.size)
    (hrooted : ¬file.Rooted place) :
    ∃ steps ring, file.climb steps place = some ring ∧ file.OwnAncestor ring := by
  have hwalk : ∀ steps ∈ Finset.range (file.grids.size + 1),
      (file.climb steps place).getD 0 ∈ Finset.range file.grids.size := by
    intro steps hsteps
    obtain ⟨reached, hreached, hclimb⟩ :=
      h.exists_climb hplace hrooted (Nat.le_of_lt_succ (Finset.mem_range.1 hsteps))
    rw [hclimb]
    exact Finset.mem_range.2 hreached
  have hfewer :
      (Finset.range file.grids.size).card < (Finset.range (file.grids.size + 1)).card := by
    simp
  obtain ⟨first, hfirst, second, hsecond, hne, hsame⟩ :=
    Finset.exists_ne_map_eq_of_card_lt_of_maps_to hfewer hwalk
  wlog hlt : first < second generalizing first second
  · exact this second hsecond first hfirst (Ne.symm hne) hsame.symm (by omega)
  obtain ⟨ring, -, hring⟩ :=
    h.exists_climb hplace hrooted (Nat.le_of_lt_succ (Finset.mem_range.1 hfirst))
  obtain ⟨again, -, hagain⟩ :=
    h.exists_climb hplace hrooted (Nat.le_of_lt_succ (Finset.mem_range.1 hsecond))
  rw [hring, hagain] at hsame
  obtain rfl : ring = again := hsame
  -- the steps between the two visits lead from the place to itself
  refine ⟨first, ring, hring, second - first, Nat.sub_pos_of_lt hlt, ?_⟩
  rwa [← Nat.add_sub_of_le (Nat.le_of_lt hlt), climb_add, hring, Option.bind_some] at hagain

/-- A sub-grid is below a root if and only if it is not below a ring. -/
theorem rooted_iff (h : file.WellLinked) (hplace : place < file.grids.size) :
    file.Rooted place ↔
      ¬∃ steps ring, file.climb steps place = some ring ∧ file.OwnAncestor ring := by
  constructor
  · rintro hrooted ⟨steps, ring, hclimb, hring⟩
    exact hrooted.not_below_ring hclimb hring
  · intro hnone
    by_contra hrooted
    exact hnone (h.exists_ring_above hplace hrooted)

/-- A place that climbing comes back to is that of a sub-grid. -/
theorem lt_of_ownAncestor (h : file.WellLinked) (hown : file.OwnAncestor place) :
    place < file.grids.size := by
  obtain ⟨steps, hsteps, hclimb⟩ := hown
  obtain ⟨more, rfl⟩ := Nat.exists_eq_succ_of_ne_zero (Nat.ne_of_gt hsteps)
  obtain ⟨last, -, hlast⟩ := Option.bind_eq_some_iff.1 hclimb
  exact h.parentOf_lt hlast

/-- The links are a forest if and only if no sub-grid is its own ancestor. -/
theorem forall_rooted_iff (h : file.WellLinked) :
    (∀ place < file.grids.size, file.Rooted place) ↔ ∀ place, ¬file.OwnAncestor place := by
  constructor
  · intro hrooted place hown
    exact (hrooted place (h.lt_of_ownAncestor hown)).not_ownAncestor hown
  · intro hnone place hplace
    rw [h.rooted_iff hplace]
    rintro ⟨steps, ring, -, hring⟩
    exact hnone ring hring

/-- A forest with a sub-grid has a root. -/
theorem roots_ne_nil (h : file.WellLinked) (hnone : ∀ place, ¬file.OwnAncestor place)
    (hsize : 0 < file.grids.size) : file.roots ≠ [] := by
  obtain ⟨-, root, -, -, grid, hgrid, hroot⟩ := h.forall_rooted_iff.2 hnone 0 hsize
  have hmem : grid ∈ file.roots := by
    refine List.mem_filter.2 ⟨Array.mem_toList_iff.2 (Array.mem_of_getElem? hgrid), ?_⟩
    rw [hroot]
    rfl
  exact List.ne_nil_of_mem hmem

end WellLinked

/-! ## Files that are read -/

section Reading

variable {grids : List (SubGrid α)}

/-- Only linkable sub-grids are linked. -/
theorem linkParents_eq_ok_iff {result : List (SubGrid α)} :
    linkParents grids = .ok result ↔ Linkable grids ∧ result = linked grids := by
  by_cases h : Linkable grids
  · rw [linkParents_of_linkable h]
    simp [h, eq_comm]
  · obtain ⟨fault, hfault⟩ := exists_linkParents_fault h
    simp [hfault, h]

/-- The sub-grid at a place of the linked ones is the one that was there, with its relatives. -/
theorem exists_of_getElem?_linked {found : SubGrid α} (h : (linked grids)[place]? = some found) :
    ∃ grid, grids[place]? = some grid ∧ found.name = grid.name ∧ found.parent = grid.parent ∧
      found.parentIndex = parentIndexIn (grids.map SubGrid.name) grid.parent ∧
      found.children = childrenOf (parentIndices grids) place := by
  cases hgrid : grids[place]? with
  | none =>
    rw [linked, List.getElem?_map, List.getElem?_zipIdx, hgrid] at h
    cases h
  | some grid =>
    rw [getElem?_linked hgrid] at h
    obtain rfl := Option.some.inj h
    exact ⟨grid, rfl, rfl, rfl, rfl, rfl⟩

/-- The place of a parent is that of a sub-grid of this name. -/
theorem exists_of_parentIndexIn {parent : Option String} {index : Nat}
    (h : parentIndexIn (grids.map SubGrid.name) parent = some index) :
    ∃ holder, grids[index]? = some holder ∧ parent = some holder.name := by
  obtain ⟨name, rfl, hindex⟩ := Option.bind_eq_some_iff.1 h
  obtain ⟨hlt, hname, -⟩ := List.findIdx?_eq_some_iff_getElem.1 hindex
  rw [List.getElem_map] at hname
  have hlt : index < grids.length := by simpa using hlt
  exact ⟨grids[index], List.getElem?_eq_getElem hlt, by rw [eq_of_beq hname]⟩

/-- Files with linkable sub-grids are well linked. -/
theorem wellLinked_of_linkable (h : Linkable grids) (hfile : file.grids = (linked grids).toArray) :
    file.WellLinked where
  parent place found index hfound hindex := by
    rw [hfile, List.getElem?_toArray] at hfound
    obtain ⟨grid, hgrid, -, hparent, hplace, -⟩ := exists_of_getElem?_linked hfound
    obtain ⟨holder, hholder, hname⟩ := exists_of_parentIndexIn (hplace.symm.trans hindex)
    refine ⟨?_, _, by rw [hfile, List.getElem?_toArray, getElem?_linked hholder], ?_⟩
    · rintro rfl
      -- the parent of a linkable sub-grid has another name
      obtain rfl : grid = holder := Option.some.inj (hgrid.symm.trans hholder)
      exact (h.parents grid (List.mem_of_getElem? hgrid) _ hname).2 rfl
    · rw [hparent, hname]
  root place found hfound := by
    rw [hfile, List.getElem?_toArray] at hfound
    obtain ⟨grid, hgrid, -, hparent, hplace, -⟩ := exists_of_getElem?_linked hfound
    rw [hplace, hparent]
    cases hname : grid.parent with
    | none => simp [parentIndexIn]
    | some name =>
      -- a parent that is named has a place
      have hmem := (h.parents grid (List.mem_of_getElem? hgrid) name hname).1
      obtain ⟨index, hindex, -⟩ := exists_findIdx?_of_mem hmem
      rw [parentIndexIn, Option.bind_some, hindex]
      simp

/-- Sub-grids are linked if they are as many as declared and linkable. -/
theorem linkDeclared_eq_ok_iff {overview : Overview} {result : List (SubGrid α)} :
    linkDeclared overview grids = .ok result ↔
      grids.length = overview.fileCount ∧ Linkable grids ∧ result = linked grids := by
  rw [linkDeclared, ← linkParents_eq_ok_iff]
  by_cases hcount : grids.length = overview.fileCount
  · rw [if_neg (not_not_intro hcount)]
    exact (and_iff_right hcount).symm
  · rw [if_pos hcount]
    constructor
    · intro hresult
      cases hresult
    · rintro ⟨heq, -⟩
      exact absurd heq hcount

/-- A file that is read has its header at the start of the bytes. Its sub-grids have been read behind
the header, with fuel for all bytes, and have passed the linking. -/
theorem exists_found_of_ofResource [Scalar α] {resource : Resource}
    (h : ofResource resource = .ok file) :
    ∃ (data : Bytes) (cursor : Cursor ResourceReader) (found : List (SubGrid α)),
      resource.bytes = .ok data ∧
        Runs (ρ := ResourceReader) data ⟨file.order, 0⟩ Overview.read (.ok file.overview)
          ⟨file.order, headerRecords * recordLength⟩ ∧
        headerRecords * recordLength ≤ data.size ∧
        cursor.Stands data ⟨file.order, headerRecords * recordLength⟩ ∧
        (cursor.run (readSubGrids α file.overview.units (data.size + 1) [])).1 = .ok found ∧
        found.length = file.overview.fileCount ∧ Linkable found ∧
        file.grids = (linked found).toArray ∧ file.precedence = precedenceOf (linked found) := by
  obtain ⟨cursor, hcursor, hread⟩ := Except.bind_eq_ok_iff.1 h
  obtain ⟨data, hdata, hstands⟩ := Resource.exists_bytes_of_cursor hcursor
  obtain ⟨order, cursor₁, -, hfit₁, h₁, hread⟩ :=
    spans_detectOrder.exists_of_run_bind hstands (Nat.zero_le _) hread
  obtain ⟨_, cursor₂, hrun, hread⟩ := Cursor.exists_of_run_bind hread
  obtain ⟨cursor₂', hrun', h₂⟩ := Runs.setOrder order cursor₁ h₁
  obtain ⟨-, rfl⟩ := Prod.mk.inj (hrun'.symm.trans hrun)
  obtain ⟨overview, cursor₃, hoverview, hfit₃, h₃, hread⟩ :=
    Overview.spans_read.exists_of_run_bind h₂ hfit₁ hread
  simp only [Place.position_advance, Nat.zero_add] at hfit₃
  obtain ⟨reached, cursor₄, hget, hread⟩ := Cursor.exists_of_run_bind hread
  cases hget
  obtain ⟨found, cursor₅, hfound, hread⟩ := Cursor.exists_of_run_bind hread
  obtain ⟨_, cursor₆, hlinked, hfile⟩ := Cursor.exists_of_run_bind hread
  rw [Cursor.run_ofExcept] at hlinked
  obtain ⟨hdeclared, -⟩ := Prod.mk.inj hlinked
  obtain ⟨hcount, hlinkable, rfl⟩ :=
    linkDeclared_eq_ok_iff.1 (Except.mapError_eq_ok_iff.1 hdeclared)
  rw [h₃.length_eq] at hfound
  cases hfile
  exact ⟨data, cursor₃, found, hdata, hoverview, hfit₃, h₃, congrArg Prod.fst hfound, hcount,
    hlinkable, rfl, rfl⟩

/-- The sub-grids of a file that is read have passed the linking. -/
theorem wellLinked_of_ofResource [Scalar α] {resource : Resource}
    (h : ofResource resource = .ok file) : file.WellLinked := by
  obtain ⟨_, _, found, -, -, -, -, -, -, hlinkable, hgrids, -⟩ := exists_found_of_ofResource h
  exact wellLinked_of_linkable hlinkable hgrids

end Reading

/-! ## Pairs of sub-grids -/

/-- A loadable file is read from its bytes. -/
theorem ofResource_eq_loaded {stored : StoredFile} {units : Units} (hfile : stored.Writable units)
    (h : Loadable stored) (name : String) (order : ByteOrder)
    (hsize : (stored.encode order).length < positionBound) :
    ofResource (.memory name (stored.encode order).toArray) =
      .ok (stored.loaded name order units) := by
  have hholds := Cursor.holds_start (stored.encode order) []
  rw [List.append_nil] at hholds
  have hbytes : (Resource.memory name (stored.encode order).toArray).bytes =
      .ok (stored.encode order).toArray := rfl
  obtain ⟨cursor, hcursor, hstands⟩ := Resource.exists_cursor_of_bytes hbytes hsize .little
  rcases read_cases name hfile hholds hstands with ⟨-, hrun⟩ | ⟨hnot, -⟩
  · rw [ofResource, hcursor]
    exact hrun
  · exact absurd h hnot

/-- Two sub-grids of one cell each, `A` and `B`, with parents of the given names. -/
def pairFile (first second : String) : StoredFile :=
  { sampleFile with grids := [ofParent "A" first, ofParent "B" second] }
where
  /-- A sub-grid of one cell. -/
  ofParent (name parent : String) : StoredSubGrid :=
    { header := sampleFile.sampleHeader name parent ⟨0x3FF0000000000000⟩ 4
      nodes := List.replicate 4 ⟨⟨0⟩, ⟨0⟩, ⟨0⟩, ⟨0⟩⟩ }

theorem pairFile.writable_ofParent {name parent : String} (hname : Storable name)
    (hparent : Storable parent) : (pairFile.ofParent name parent).Writable where
  header := {
    name := hname
    parent := hparent
    created := (by decide : Storable "20260101")
    updated := (by decide : Storable "20260102")
    le_count := (by decide : -2 ^ 31 ≤ (4 : Int))
    count_lt := (by decide : (4 : Int) < 2 ^ 31) }
  count_eq := rfl

theorem pairFile.regular_ofParent (name parent : String) :
    (pairFile.ofParent name parent).header.Regular := by
  -- names do not matter here, so they are chosen for the evaluation
  have hnamed : (pairFile.ofParent "A" "B").header.Regular := by
    constructor <;> decide +kernel
  exact ⟨hnamed.latStep_pos, hnamed.lonStep_pos, hnamed.south_lt_north, hnamed.east_lt_west,
    hnamed.latSteps_whole, hnamed.lonSteps_whole, hnamed.count_eq⟩

theorem pairFile.writable {first second : String} (hfirst : Storable first)
    (hsecond : Storable second) : (pairFile first second).Writable .minutes := by
  have hempty : StoredFile.Writable { sampleFile with grids := [] } .minutes :=
    ⟨by decide, by decide, by decide, by decide, fun _ hmem => nomatch hmem⟩
  refine ⟨hempty.unitName, hempty.version, hempty.source, hempty.target, ?_⟩
  exact List.forall_mem_cons.2 ⟨pairFile.writable_ofParent (by decide) hfirst,
    List.forall_mem_singleton.2 (pairFile.writable_ofParent (by decide) hsecond)⟩

theorem pairFile.loadable {first second : String}
    (hparents : ∀ grid ∈ (pairFile first second).grids,
      ¬sameLetters grid.header.parent noParent →
        ∃ other ∈ (pairFile first second).grids, other.header.name = grid.header.parent ∧
          other.header.name ≠ grid.header.name) :
    Loadable (pairFile first second) where
  fileCount_eq := rfl
  nodup := by
    show ["A", "B"].Nodup
    decide
  parents := hparents
  regular := List.forall_mem_cons.2 ⟨pairFile.regular_ofParent "A" first,
    List.forall_mem_singleton.2 (pairFile.regular_ofParent "B" second)⟩

/-- A pair of sub-grids is read if their parents are there. -/
theorem ofResource_pairFile {first second : String} (hfirst : Storable first)
    (hsecond : Storable second)
    (hparents : ∀ grid ∈ (pairFile first second).grids,
      ¬sameLetters grid.header.parent noParent →
        ∃ other ∈ (pairFile first second).grids, other.header.name = grid.header.parent ∧
          other.header.name ≠ grid.header.name)
    (hsize : ((pairFile first second).encode .big).length < positionBound) :
    ofResource (.memory "pair" ((pairFile first second).encode .big).toArray) =
      .ok ((pairFile first second).loaded "pair" .big .minutes) :=
  ofResource_eq_loaded (pairFile.writable hfirst hsecond) (pairFile.loadable hparents) "pair" .big
    hsize

/-! ## Ancestors -/

/-- The links of a file that is read lead from sub-grids to other ones. They end at a root in fewer
steps than there are sub-grids, unless they lead into a ring of sub-grids that are their own
ancestors. So the file is a forest if and only if it has no such ring, and then it has a root, if it
has sub-grids at all. -/
theorem ofResource_ancestry [Scalar α] {resource : Resource} (h : ofResource resource = .ok file) :
    file.WellLinked ∧
      (∀ place < file.grids.size, file.Rooted place ↔
        ¬∃ steps ring, file.climb steps place = some ring ∧ file.OwnAncestor ring) ∧
      ((∀ place < file.grids.size, file.Rooted place) ↔ ∀ place, ¬file.OwnAncestor place) ∧
      ((∀ place, ¬file.OwnAncestor place) → 0 < file.grids.size → file.roots ≠ []) := by
  have hlinked := wellLinked_of_ofResource h
  refine ⟨hlinked, ?_, hlinked.forall_rooted_iff, hlinked.roots_ne_nil⟩
  intro place hplace
  exact hlinked.rooted_iff hplace

/-- With `A` as the parent of `B`, neither is its own ancestor. -/
theorem ofResource_ancestry_chain :
    ∃ file : GridFile Float,
      ofResource (.memory "pair" ((pairFile "NONE" "A").encode .big).toArray) = .ok file ∧
        file.grids.size = 2 ∧ file.climb 1 1 = some 0 ∧ (∀ place, ¬file.OwnAncestor place) ∧
        file.roots ≠ [] := by
  let file : GridFile Float := (pairFile "NONE" "A").loaded "pair" .big .minutes
  have hread : ofResource (.memory "pair" ((pairFile "NONE" "A").encode .big).toArray) = .ok file :=
    ofResource_pairFile (by decide) (by decide) (by decide) (by decide +kernel)
  obtain ⟨-, -, hforest, hroots⟩ := ofResource_ancestry hread
  have hsize : file.grids.size = 2 := rfl
  have hclimb : file.climb 1 1 = some 0 := by decide +kernel
  have hroot : file.IsRoot 0 := ⟨_, rfl, rfl⟩
  have hrooted : ∀ place < file.grids.size, file.Rooted place := by
    intro place hplace
    obtain rfl | rfl : place = 0 ∨ place = 1 := by omega
    · exact ⟨0, 0, by decide, rfl, hroot⟩
    · exact ⟨1, 0, by decide, hclimb, hroot⟩
  have hnone := hforest.1 hrooted
  exact ⟨file, hread, hsize, hclimb, hnone, hroots hnone (by decide)⟩

/-- Two sub-grids that name each other as their parents are read, and there is no root. -/
theorem exists_ring :
    ∃ file : GridFile Float,
      ofResource (.memory "pair" ((pairFile "B" "A").encode .big).toArray) = .ok file ∧
        0 < file.grids.size ∧ file.OwnAncestor 0 ∧ ¬file.Rooted 0 ∧ file.roots = [] := by
  let file : GridFile Float := (pairFile "B" "A").loaded "pair" .big .minutes
  have hring : file.OwnAncestor 0 := ⟨2, by decide, by decide +kernel⟩
  have hroots : file.roots.isEmpty := by decide +kernel
  refine ⟨file, ?_, by decide, hring, ?_, List.isEmpty_iff.1 hroots⟩
  · exact ofResource_pairFile (by decide) (by decide) (by decide) (by decide +kernel)
  · intro hrooted
    exact hrooted.not_ownAncestor hring

end Georef.GridFile
