import Georef.GridFile.SubGrid
import Georef.Trie

/-!
# Parents and children

A sub-grid may name another one of its file as its parent. Linking turns the names into places: the
names have to be different from each other, and a parent has to be another sub-grid of the file.

* `placesOf`: the places of names, refusing a name that occurs twice; `placesOf_eq_ok_iff` and
  `get?_placesOf` say when it succeeds and what it finds.
* `childrenOf`, `childLists`: the children of one place, and those of all places at once, which are
  the same by `childLists_getD`.
* `linkParents`: sub-grids with the places of their parents and children.
-/

namespace Georef.GridFile

/-! ## Places of names -/

/-- The places of names, counted on from `place`, beside those in `places`. A name that has a place
already is refused. -/
def placesOf (places : Trie Nat) (place : Nat) : List String → Except GridFault (Trie Nat)
  | [] => .ok places
  | name :: rest =>
    match places.get? (Trie.textPath name) with
    | some _ => .error (.duplicateName name)
    | none => placesOf (places.put place (Trie.textPath name)) (place + 1) rest

/-- Names get places if they are new and different from each other. -/
theorem placesOf_eq_ok_iff {places : Trie Nat} {place : Nat} {names : List String} :
    (∃ found, placesOf places place names = .ok found) ↔
      names.Nodup ∧ ∀ name ∈ names, places.get? (Trie.textPath name) = none := by
  induction names generalizing places place with
  | nil => simp [placesOf]
  | cons name rest ih =>
    rw [placesOf]
    cases h : places.get? (Trie.textPath name) with
    | some taken => simp [h]
    | none =>
      simp only [ih, Trie.get?_put, Trie.textPath_inj, List.nodup_cons, List.mem_cons]
      grind

/-- The place of a name is that of its first occurrence. -/
theorem get?_placesOf {places found : Trie Nat} {place : Nat} {names : List String}
    (h : placesOf places place names = .ok found) (name : String) :
    found.get? (Trie.textPath name) =
      ((names.findIdx? (· == name)).map (place + ·)).or (places.get? (Trie.textPath name)) := by
  induction names generalizing places place with
  | nil => cases h; simp
  | cons first rest ih =>
    rw [placesOf] at h
    split at h
    · cases h
    · rename_i hnew
      have hfresh := (placesOf_eq_ok_iff.1 ⟨found, h⟩).2
      simp only [Trie.get?_put, Trie.textPath_inj] at hfresh
      simp only [ih h, List.findIdx?_cons, Trie.get?_put, Trie.textPath_inj]
      by_cases heq : name = first
      -- the first name is not among the others, or it would have been refused
      · have hrest : rest.findIdx? (· == first) = none := by
          rw [List.findIdx?_eq_none_iff]
          intro other hmem
          have := hfresh other hmem
          grind
        simp [heq, hrest]
      · have hother : (first == name) = false := by simpa using Ne.symm heq
        simp only [heq, hother, if_false, Bool.false_eq_true, Option.map_map]
        congr 2
        funext later
        simp only [Function.comp_apply]
        omega

/-- The place of the parent of a sub-grid, given the places of all names and that of this one. -/
def parentPlace (places : Trie Nat) (place : Nat) (name : String) :
    Option String → Except GridFault (Option Nat)
  | none => .ok none
  | some parent =>
    match places.get? (Trie.textPath parent) with
    | none => .error (.unknownParent name parent)
    | some found => if found = place then .error (.ownParent parent) else .ok (some found)

/-! ## Children -/

/-- The places of which the parent is at a given place. -/
def childrenOf (parents : List (Option Nat)) (place : Nat) : List Nat :=
  (parents.zipIdx.filter fun entry => entry.1 == some place).map Prod.snd

/-- The children of each place with a place entered under its parent, in front of the others. -/
def addChild (entry : Option Nat × Nat) (lists : Array (List Nat)) : Array (List Nat) :=
  match entry.1 with
  | none => lists
  | some parent => lists.modify parent (entry.2 :: ·)

/-- The children of each place. -/
def childLists (parents : List (Option Nat)) : Array (List Nat) :=
  parents.zipIdx.foldr addChild (Array.replicate parents.length [])

theorem foldr_addChild_getElem? (entries : List (Option Nat × Nat)) {size place : Nat}
    (h : place < size) :
    (entries.foldr addChild (Array.replicate size []))[place]? =
      some ((entries.filter fun entry => entry.1 == some place).map Prod.snd) := by
  induction entries with
  | nil => simp [h]
  | cons entry rest ih =>
    obtain ⟨_ | parent, child⟩ := entry
    · simpa [addChild] using ih
    · rw [List.foldr_cons, addChild, Array.getElem?_modify, ih]
      by_cases heq : parent = place <;> simp [heq]

/-- The lists hold the children of each place. -/
theorem childLists_getD (parents : List (Option Nat)) {place : Nat} (h : place < parents.length) :
    (childLists parents)[place]?.getD [] = childrenOf parents place := by
  rw [childLists, foldr_addChild_getElem? _ h, childrenOf, Option.getD_some]

/-! ## Linking -/

/-- The sub-grids with the places of their parents and children. -/
def linkParents {α : Type} (grids : List (SubGrid α)) : Except GridFault (List (SubGrid α)) := do
  -- parents may stand behind the sub-grids that refine them, so all places are needed first
  let places ← placesOf .empty 0 (grids.map SubGrid.name)
  let parents ← grids.zipIdx.mapM fun (grid, place) =>
    parentPlace places place grid.name grid.parent
  let lists := childLists parents
  return (grids.zip parents).zipIdx.map fun ((grid, parentIndex), place) =>
    { grid with parentIndex, children := lists[place]?.getD [] }

end Georef.GridFile
