import Georef.Proofs.Doubles.TotalOrder
import Georef.Proofs.GridFile.Corners
import Georef.Shift.GridShift

/-!
# The sub-grid at a point

The sub-grids of a file are sorted by area once, when the file is read, and the first one that
contains a point is used there. The order is total, whatever the areas are, and sorting keeps those
that are equally large as they stand in the file. So the sub-grid that is used is the smallest of
those that contain the point, the first in the file among equally small ones.

A shift asks its files one after the other. A file with a sub-grid at the point has a shift there,
as lattices are full, so no later file is asked.

The module introduces:

* `filter_mergeSort_tied`, `pairwise_mergeSort_zipIdx` — sorting keeps the order of items that tie.
* `SubGrid.roundedArea` — the area of a sub-grid, as doubles make it.
* `GridFile.Finest file point place grid` — the sub-grid at the place is the smallest one at the
  point; `GridFile.Covers file point` — there is one.
* `GridShift.Uses shift point file place grid` — the file is the first one with a sub-grid at the
  point, and the sub-grid the smallest one there.

`GridShift.forward?_uses` says that accepted files are used in this way.
-/

namespace Georef

/-! ## Stable sorting -/

section Sorting

variable {ι : Type} {le : ι → ι → Bool}

/-- Whether two items precede each other. -/
def tied (le : ι → ι → Bool) (a b : ι) : Bool :=
  le a b && le b a

section Order

variable (htrans : ∀ a b c, le a b → le b c → le a c) (htotal : ∀ a b, le a b || le b a)

include htrans htotal

/-- Items that tie with a given one are in the same order after sorting. -/
theorem filter_mergeSort_tied (items : List ι) (a : ι) :
    (items.mergeSort le).filter (tied le a) = items.filter (tied le a) := by
  have hordered : (items.filter (tied le a)).Pairwise (le · ·) := by
    refine List.pairwise_of_forall_mem_list fun b hb c hc => ?_
    have hba := (Bool.and_eq_true_iff.1 (List.mem_filter.1 hb).2).2
    have hac := (Bool.and_eq_true_iff.1 (List.mem_filter.1 hc).2).1
    exact htrans b a c hba hac
  -- they are sorted already, so sorting keeps them in this order, and it adds no others
  have hsublist := List.sublist_mergeSort htrans htotal hordered List.filter_sublist
  have hkept := hsublist.filter (tied le a)
  simp only [List.filter_filter, Bool.and_self] at hkept
  exact (hkept.eq_of_length ((List.mergeSort_perm items le).filter _).length_eq.symm).symm

end Order

/-- Sorting items with their places puts them in order, and those that tie in the order of their
places. -/
theorem pairwise_mergeSort_zipIdx (htrans : ∀ a b c, le a b → le b c → le a c)
    (htotal : ∀ a b, le a b || le b a) (items : List ι) :
    (items.zipIdx.mergeSort fun a b => le a.1 b.1).Pairwise fun a b =>
      le a.1 b.1 ∧ (le b.1 a.1 → a.2 < b.2) := by
  have htrans' : ∀ a b c : ι × Nat, le a.1 b.1 → le b.1 c.1 → le a.1 c.1 :=
    fun a b c => htrans a.1 b.1 c.1
  have htotal' : ∀ a b : ι × Nat, le a.1 b.1 || le b.1 a.1 := fun a b => htotal a.1 b.1
  have hsorted := List.pairwise_mergeSort htrans' htotal' items.zipIdx
  have hplaces : items.zipIdx.Pairwise (·.2 < ·.2) := by
    rw [← List.pairwise_map, List.zipIdx_map_snd]
    exact List.pairwise_lt_range'
  rw [List.pairwise_iff_forall_sublist] at hsorted hplaces ⊢
  intro a b hab
  refine ⟨hsorted hab, fun hba => ?_⟩
  -- both tie with the first one, so they are in the order in which they were
  have htied : [a, b].filter (tied (fun a b => le a.1 b.1) a) = [a, b] := by
    have hself : le a.1 a.1 := (Bool.or_self _).symm.trans (htotal a.1 a.1)
    simp [tied, hself, hsorted hab, hba]
  have hkept := hab.filter (tied (fun a b => le a.1 b.1) a)
  rw [htied, filter_mergeSort_tied htrans' htotal'] at hkept
  exact hplaces (hkept.trans List.filter_sublist)

end Sorting

namespace GridFile

open Binary64 (ofResult)

variable {file : GridFile Float} {point : ArcPoint Float}

/-! ## The smallest sub-grid -/

/-- `file.Covers point`: the point lies in the rectangle of a sub-grid. -/
def Covers (file : GridFile Float) (point : ArcPoint Float) : Prop :=
  ∃ grid ∈ file.grids, grid.Covers point

/-- Height times width of the rectangle, each rounded, as the total order sees it. -/
def SubGrid.roundedArea (grid : SubGrid Float) : Binary64 :=
  ofResult ((grid.north - grid.south) * (grid.west - grid.east))

theorem SubGrid.precedes_area_iff {grid rival : SubGrid Float} :
    Scalar.precedes grid.area rival.area ↔ grid.roundedArea.TotalLe rival.roundedArea :=
  Double.precedes_iff

/-- `file.Finest point place grid`: the sub-grid at the place covers the point, and of those that do
its area is the first in the total order, and its place the first for this area. -/
structure Finest (file : GridFile Float) (point : ArcPoint Float) (place : Nat)
    (grid : SubGrid Float) : Prop where
  grid_eq : file.grids[place]? = some grid
  covers : grid.Covers point
  least : ∀ (other : Nat) (rival : SubGrid Float), file.grids[other]? = some rival →
    rival.Covers point → grid.roundedArea.TotalLe rival.roundedArea ∧
      (rival.roundedArea.TotalLe grid.roundedArea → place ≤ other)

/-- Whether a sub-grid is the smallest can be computed. -/
theorem finest_iff {place : Nat} {grid : SubGrid Float} :
    file.Finest point place grid ↔ file.grids[place]? = some grid ∧ grid.contains point ∧
      ∀ entry ∈ file.grids.toList.zipIdx, entry.1.contains point →
        Scalar.precedes grid.area entry.1.area ∧
          (Scalar.precedes entry.1.area grid.area → place ≤ entry.2) := by
  simp only [SubGrid.precedes_area_iff, SubGrid.contains_iff_double]
  constructor
  · rintro ⟨hgrid, hcovers, hleast⟩
    refine ⟨hgrid, hcovers, fun entry hentry => hleast entry.2 entry.1 ?_⟩
    rw [← Array.getElem?_toList]
    exact List.mem_zipIdx_iff_getElem?.1 hentry
  · rintro ⟨hgrid, hcovers, hleast⟩
    refine ⟨hgrid, hcovers, fun other rival hrival => hleast (rival, other) ?_⟩
    rw [List.mem_zipIdx_iff_getElem?, Array.getElem?_toList]
    exact hrival

/-- There is one smallest sub-grid at most. -/
theorem Finest.unique {place other : Nat} {grid rival : SubGrid Float}
    (h : file.Finest point place grid) (h' : file.Finest point other rival) : grid = rival := by
  obtain ⟨hle, hplace⟩ := h.least other rival h'.grid_eq h'.covers
  obtain ⟨hle', hplace'⟩ := h'.least place grid h.grid_eq h.covers
  obtain rfl : place = other := Nat.le_antisymm (hplace hle') (hplace' hle)
  exact Option.some.inj (h.grid_eq.symm.trans h'.grid_eq)

/-- The sub-grids in the order of precedence, each with its place. -/
def ranked (file : GridFile Float) : List (SubGrid Float × Nat) :=
  file.grids.toList.zipIdx.mergeSort fun a b => Scalar.precedes a.1.area b.1.area

theorem mem_ranked_iff {grid : SubGrid Float} {place : Nat} :
    (grid, place) ∈ file.ranked ↔ file.grids[place]? = some grid := by
  rw [ranked, List.mem_mergeSort, List.mem_zipIdx_iff_getElem?, Array.getElem?_toList]

/-- Sub-grids are ranked by area, and those that are equally large by place. -/
theorem pairwise_ranked (file : GridFile Float) :
    file.ranked.Pairwise fun a b => a.1.roundedArea.TotalLe b.1.roundedArea ∧
      (b.1.roundedArea.TotalLe a.1.roundedArea → a.2 < b.2) := by
  simp only [← SubGrid.precedes_area_iff]
  have htrans : ∀ a b c : SubGrid Float, Scalar.precedes a.area b.area →
      Scalar.precedes b.area c.area → Scalar.precedes a.area c.area :=
    fun _ _ _ => Double.precedes_trans
  have htotal : ∀ a b : SubGrid Float,
      Scalar.precedes a.area b.area || Scalar.precedes b.area a.area :=
    fun a b => Bool.or_eq_true_iff.2 (Double.precedes_total a.area b.area)
  exact pairwise_mergeSort_zipIdx htrans htotal file.grids.toList

section Sorted

variable (hfile : file.precedence = precedenceOf file.grids.toList)

include hfile

theorem byPrecedence_eq : file.byPrecedence = file.ranked.map Prod.fst := by
  have hplaces : file.precedence = file.ranked.map Prod.snd := hfile
  rw [byPrecedence, hplaces, List.filterMap_map, ← List.filterMap_eq_map]
  exact List.filterMap_congr fun entry hentry => mem_ranked_iff.1 hentry

theorem subGridAt?_eq :
    file.subGridAt? point =
      (file.ranked.find? fun entry => entry.1.contains point).map Prod.fst := by
  rw [subGridAt?, byPrecedence_eq hfile, List.find?_map]
  rfl

/-- What is found first is the smallest. -/
theorem exists_finest_of_subGridAt? {grid : SubGrid Float}
    (h : file.subGridAt? point = some grid) : ∃ place, file.Finest point place grid := by
  rw [subGridAt?_eq hfile] at h
  obtain ⟨⟨grid, place⟩, hfind, rfl⟩ := Option.map_eq_some_iff.1 h
  obtain ⟨hcontains, before, after, hranked, hnone⟩ := List.find?_eq_some_iff_append.1 hfind
  have hgrid : (grid, place) ∈ file.ranked := by
    rw [hranked]
    exact List.mem_append_right _ List.mem_cons_self
  refine ⟨place, mem_ranked_iff.1 hgrid, SubGrid.contains_iff_double.1 hcontains, ?_⟩
  intro other rival hrival hcovers
  have hmem : (rival, other) ∈ before ++ (grid, place) :: after := hranked ▸ mem_ranked_iff.2 hrival
  rcases List.mem_append.1 hmem with hbefore | hrest
  · -- those in front do not contain the point
    have hnot := hnone _ hbefore
    rw [SubGrid.contains_iff_double.2 hcovers] at hnot
    cases hnot
  · rcases List.mem_cons.1 hrest with heq | hafter
    · obtain ⟨rfl, rfl⟩ := Prod.mk.inj heq
      exact ⟨Binary64.totalLe_iff.2 (Int.le_refl _), fun _ => Nat.le_refl _⟩
    · have hpairs := file.pairwise_ranked
      rw [hranked, List.pairwise_append] at hpairs
      obtain ⟨hle, hlt⟩ := (List.pairwise_cons.1 hpairs.2.1).1 _ hafter
      exact ⟨hle, fun htie => Nat.le_of_lt (hlt htie)⟩

theorem subGridAt?_eq_none_iff : file.subGridAt? point = none ↔ ¬file.Covers point := by
  rw [subGridAt?_eq hfile, Option.map_eq_none_iff, List.find?_eq_none]
  constructor
  · rintro hnone ⟨grid, hgrid, hcovers⟩
    obtain ⟨place, hplace⟩ := Array.getElem?_of_mem hgrid
    exact hnone _ (mem_ranked_iff.2 hplace) (SubGrid.contains_iff_double.2 hcovers)
  · rintro hnone ⟨grid, place⟩ hentry hcontains
    exact hnone ⟨grid, Array.mem_of_getElem? (mem_ranked_iff.1 hentry),
      SubGrid.contains_iff_double.1 hcontains⟩

theorem subGridAt?_eq_some_iff {grid : SubGrid Float} :
    file.subGridAt? point = some grid ↔ ∃ place, file.Finest point place grid := by
  refine ⟨exists_finest_of_subGridAt? hfile, ?_⟩
  rintro ⟨place, h⟩
  cases hfound : file.subGridAt? point with
  | none =>
    rw [subGridAt?_eq_none_iff hfile] at hfound
    exact absurd ⟨grid, Array.mem_of_getElem? h.grid_eq, h.covers⟩ hfound
  | some found =>
    obtain ⟨other, hother⟩ := exists_finest_of_subGridAt? hfile hfound
    rw [h.unique hother]

end Sorted

/-! ## Shifts of accepted files -/

section Accepted

variable {resource : Resource} (h : ofResource resource = .ok file)

include h

/-- The order of precedence is that of the sub-grids as they are linked. -/
theorem precedence_of_ofResource : file.precedence = precedenceOf file.grids.toList := by
  obtain ⟨_, _, found, -, -, -, -, -, -, -, hgrids, hprecedence⟩ := exists_found_of_ofResource h
  rw [hprecedence, hgrids]

/-- The smallest sub-grid at a point has a shift there, as its lattice is full. -/
theorem Finest.isSome_interpolate? {place : Nat} {grid : SubGrid Float}
    (hfinest : file.Finest point place grid) : (grid.interpolate? point).isSome := by
  have hfull := full_of_ofResource h (Array.mem_of_getElem? hfinest.grid_eq)
  exact hfull.isSome_interpolate?.2 (SubGrid.contains_iff_double.2 hfinest.covers)

theorem interpolate?_eq_some_iff {value : ShiftValue Float} :
    file.interpolate? point = some value ↔
      ∃ place grid, file.Finest point place grid ∧ grid.interpolate? point = some value := by
  rw [interpolate?, Option.bind_eq_some_iff]
  simp only [subGridAt?_eq_some_iff (precedence_of_ofResource h)]
  constructor
  · rintro ⟨grid, ⟨place, hfinest⟩, hvalue⟩
    exact ⟨place, grid, hfinest, hvalue⟩
  · rintro ⟨place, grid, hfinest, hvalue⟩
    exact ⟨grid, ⟨place, hfinest⟩, hvalue⟩

/-- A file has a shift wherever it has a sub-grid. -/
theorem interpolate?_eq_none_iff : file.interpolate? point = none ↔ ¬file.Covers point := by
  rw [← subGridAt?_eq_none_iff (precedence_of_ofResource h), interpolate?]
  cases hfound : file.subGridAt? point with
  | none => simp
  | some grid =>
    obtain ⟨place, hfinest⟩ := exists_finest_of_subGridAt? (precedence_of_ofResource h) hfound
    have hsome := hfinest.isSome_interpolate? h
    rw [Option.bind_some, ← Option.not_isSome_iff_eq_none]
    simp [hsome]

end Accepted

end GridFile

/-! ## Shifts over several files -/

namespace GridShift

open GridFile (ShiftValue SubGrid ofResource)

/-- `shift.Uses point file place grid`: no file in front of this one has a sub-grid at the point,
and the one at the place is the smallest that this one has. -/
structure Uses (shift : GridShift Float) (point : ArcPoint Float) (file : GridFile Float)
    (place : Nat) (grid : SubGrid Float) : Prop where
  first : ∃ before after, shift.files = before ++ file :: after ∧
    ∀ earlier ∈ before, ¬earlier.Covers point
  finest : file.Finest point place grid

section Accepted

variable {shift : GridShift Float} {point : ArcPoint Float}
  (hfiles : ∀ file ∈ shift.files, ∃ resource, ofResource resource = .ok file)

include hfiles

theorem valueAt?_eq_none_iff :
    shift.valueAt? point = none ↔ ∀ file ∈ shift.files, ¬file.Covers point := by
  rw [valueAt?, List.findSome?_eq_none_iff]
  refine forall₂_congr fun file hfile => ?_
  obtain ⟨resource, hread⟩ := hfiles file hfile
  exact GridFile.interpolate?_eq_none_iff hread

/-- The shift at a point is that of the sub-grid which is used there. -/
theorem valueAt?_eq_some_iff {value : ShiftValue Float} :
    shift.valueAt? point = some value ↔ ∃ file place grid,
      shift.Uses point file place grid ∧ grid.interpolate? point = some value := by
  rw [valueAt?, List.findSome?_eq_some_iff]
  constructor
  · rintro ⟨before, file, after, hsplit, hvalue, hnone⟩
    obtain ⟨resource, hread⟩ := hfiles file (by simp [hsplit])
    obtain ⟨place, grid, hfinest, hvalue⟩ := (GridFile.interpolate?_eq_some_iff hread).1 hvalue
    refine ⟨file, place, grid, ⟨⟨before, after, hsplit, fun earlier hearlier => ?_⟩, hfinest⟩,
      hvalue⟩
    obtain ⟨_, hread⟩ := hfiles earlier (by simp [hsplit, hearlier])
    exact (GridFile.interpolate?_eq_none_iff hread).1 (hnone earlier hearlier)
  · rintro ⟨file, place, grid, ⟨⟨before, after, hsplit, hnone⟩, hfinest⟩, hvalue⟩
    obtain ⟨resource, hread⟩ := hfiles file (by simp [hsplit])
    refine ⟨before, file, after, hsplit, ?_, fun earlier hearlier => ?_⟩
    · exact (GridFile.interpolate?_eq_some_iff hread).2 ⟨place, grid, hfinest, hvalue⟩
    · obtain ⟨_, hread⟩ := hfiles earlier (by simp [hsplit, hearlier])
      exact (GridFile.interpolate?_eq_none_iff hread).2 (hnone earlier hearlier)

end Accepted

/-- Of an accepted file, the smallest sub-grid that covers a point is used there, the first one in
the file among equally small ones, and none exactly where none covers it. A shift over accepted
files uses this sub-grid of the first file that has one, and fails exactly where no file has one. -/
theorem forward?_uses :
    (∀ resource file, ofResource resource = .ok file → ∀ point : ArcPoint Float,
      (∀ grid, file.subGridAt? point = some grid ↔ ∃ place, file.Finest point place grid) ∧
        (file.subGridAt? point = none ↔ ∀ grid ∈ file.grids, ¬grid.Covers point)) ∧
    ∀ shift : GridShift Float, (∀ file ∈ shift.files, ∃ resource, ofResource resource = .ok file) →
      ∀ point : Point Float,
        (shift.forward? point = none ↔
          ∀ file ∈ shift.files, ∀ grid ∈ file.grids, ¬grid.Covers point.toArc) ∧
        (∀ value, shift.value? point = some value ↔ ∃ file place grid,
          shift.Uses point.toArc file place grid ∧ grid.interpolate? point.toArc = some value) ∧
        ∀ reached, shift.forward? point = some reached ↔ ∃ file place grid value,
          shift.Uses point.toArc file place grid ∧ grid.interpolate? point.toArc = some value ∧
            reached = moved point.toArc value := by
  have hcovers : ∀ (file : GridFile Float) (point : ArcPoint Float),
      ¬file.Covers point ↔ ∀ grid ∈ file.grids, ¬grid.Covers point := fun file point => by
    simp [GridFile.Covers]
  refine ⟨fun resource file h point => ?_, fun shift hfiles point => ⟨?_, fun value => ?_,
    fun reached => ?_⟩⟩
  · have hsorted := GridFile.precedence_of_ofResource h
    rw [← hcovers]
    exact ⟨fun grid => GridFile.subGridAt?_eq_some_iff hsorted,
      GridFile.subGridAt?_eq_none_iff hsorted⟩
  · simp only [← hcovers]
    rw [forward?, Option.map_eq_none_iff, valueAt?_eq_none_iff hfiles]
  · exact valueAt?_eq_some_iff hfiles
  · rw [forward?, Option.map_eq_some_iff]
    simp only [valueAt?_eq_some_iff hfiles]
    constructor
    · rintro ⟨value, ⟨file, place, grid, huses, hvalue⟩, rfl⟩
      exact ⟨file, place, grid, value, huses, hvalue, rfl⟩
    · rintro ⟨file, place, grid, value, huses, hvalue, rfl⟩
      exact ⟨value, ⟨file, place, grid, huses, hvalue⟩, rfl⟩

/-- The point half a minute to the north and the west of the origin. -/
def halfMinute : Point Float where
  x := -1 / 120
  y := 1 / 120

/-- No sub-grid of the strip covers the point, so the file behind it is used. Of the pair both do.
They are equally large, so the one in front is used, although the other one refines it. Of the third
file both do as well, and the smaller one is used, which stands behind the one that it refines. -/
theorem forward?_uses_pair :
    ∃ (strip pair nested : GridFile Float) (grid part : SubGrid Float)
      (value partValue : ShiftValue Float),
      ofResource (.memory "strip" (GridFile.stripFile.encode .little).toArray) = .ok strip ∧
        ofResource (.memory "pair" ((GridFile.pairFile "NONE" "A").encode .big).toArray) =
          .ok pair ∧
        ofResource (.memory "nested" (GridFile.sampleFile.encode .big).toArray) = .ok nested ∧
        grid.name = "A" ∧ pair.subGridAt? halfMinute.toArc = some grid ∧
        GridShift.forward? ⟨[strip, pair], .forward⟩ halfMinute =
          some (moved halfMinute.toArc value) ∧
        (∃ all, nested.grids[0]? = some all ∧ all.name = "ALL" ∧ all.Covers halfMinute.toArc) ∧
        part.name = "PART" ∧ nested.subGridAt? halfMinute.toArc = some part ∧
        GridShift.forward? ⟨[strip, nested], .forward⟩ halfMinute =
          some (moved halfMinute.toArc partValue) := by
  have hstripRead : (ofResource
      (.memory "strip" (GridFile.stripFile.encode .little).toArray)).toOption.any
        fun strip : GridFile Float =>
          decide (∀ grid ∈ strip.grids, ¬grid.contains halfMinute.toArc) := by
    decide +kernel
  obtain ⟨strip, hstrip, hstripRead⟩ := Except.exists_of_any_toOption hstripRead
  have hoff : ¬strip.Covers halfMinute.toArc := by
    rintro ⟨grid, hgrid, hcovers⟩
    exact of_decide_eq_true hstripRead grid hgrid (SubGrid.contains_iff_double.2 hcovers)
  -- behind the strip, the smallest sub-grid of any file is used
  have hused : ∀ {file : GridFile Float} {resource : Resource} {place : Nat}
      {grid : SubGrid Float}, ofResource resource = .ok file →
      file.Finest halfMinute.toArc place grid →
      file.subGridAt? halfMinute.toArc = some grid ∧ ∃ value,
        GridShift.forward? ⟨[strip, file], .forward⟩ halfMinute =
          some (moved halfMinute.toArc value) := by
    intro file resource place grid hfile hfinest
    obtain ⟨hat, hshift⟩ := forward?_uses
    obtain ⟨value, hvalue⟩ := Option.isSome_iff_exists.1 (hfinest.isSome_interpolate? hfile)
    have hfiles : ∀ file' ∈ [strip, file], ∃ resource, ofResource resource = .ok file' :=
      List.forall_mem_cons.2 ⟨⟨_, hstrip⟩, List.forall_mem_singleton.2 ⟨_, hfile⟩⟩
    have huses : Uses ⟨[strip, file], .forward⟩ halfMinute.toArc file place grid :=
      ⟨⟨[strip], [], rfl, List.forall_mem_singleton.2 hoff⟩, hfinest⟩
    exact ⟨((hat _ file hfile _).1 grid).2 ⟨place, hfinest⟩, value,
      ((hshift ⟨[strip, file], .forward⟩ hfiles halfMinute).2.2 _).2
        ⟨file, place, grid, value, huses, hvalue, rfl⟩⟩
  let pair : GridFile Float := (GridFile.pairFile "NONE" "A").loaded "pair" .big .minutes
  have hpair : ofResource
      (.memory "pair" ((GridFile.pairFile "NONE" "A").encode .big).toArray) = .ok pair :=
    GridFile.ofResource_pairFile (by decide) (by decide) (by decide) (by decide +kernel)
  have hgrid : pair.Finest halfMinute.toArc 0 pair.grids[0] :=
    GridFile.finest_iff.2 ⟨rfl, by decide +kernel⟩
  let nested : GridFile Float := GridFile.sampleFile.loaded "nested" .big .minutes
  have hnested : ofResource
      (.memory "nested" (GridFile.sampleFile.encode .big).toArray) = .ok nested :=
    GridFile.ofResource_eq_loaded GridFile.sampleFile.writable GridFile.sampleFile.loadable _ _
      (by decide +kernel)
  have hpart : nested.Finest halfMinute.toArc 1 nested.grids[1] :=
    GridFile.finest_iff.2 ⟨rfl, by decide +kernel⟩
  have hall : nested.grids[0].contains halfMinute.toArc := by decide +kernel
  obtain ⟨hgridAt, value, hgridMoved⟩ := hused hpair hgrid
  obtain ⟨hpartAt, partValue, hpartMoved⟩ := hused hnested hpart
  exact ⟨strip, pair, nested, _, _, value, partValue, hstrip, hpair, hnested, rfl, hgridAt,
    hgridMoved, ⟨_, rfl, rfl, SubGrid.contains_iff_double.1 hall⟩, rfl, hpartAt, hpartMoved⟩

end GridShift

end Georef
