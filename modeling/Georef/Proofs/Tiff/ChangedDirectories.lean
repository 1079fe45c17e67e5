import Georef.Tiff.Directory
import Mathlib.Data.List.Dedup

/-!
# What changes leave in a directory

A directory changes in two ways: an entry is inserted, or a warning is given. Its entries are kept
by tag and its tags in a list of their own, and each insertion has to keep the two in step. What
they hold together is told by the insertions alone: each tag stands where it was first inserted,
with the entry that was last inserted under it.

The module introduces:

* `Directory.Change`, `Directory.changeAll` — the two ways, and changes made one after the other,
  with the entries that they replace.
* `Directory.inserted`, `Directory.latest?` — the entries that changes insert, and the last one of
  a tag.
* `Directory.Reflects entries directory` — the directory holds what insertions of these entries
  leave; `Reflects.change` and `Reflects.changeAll` keep it.

`Directory.changeAll_new` says what a new directory holds after changes.
-/

namespace Georef.Tiff.Directory

/-! ## Changes -/

/-- A change of a directory. -/
inductive Change where
  | insert (entry : Entry)
  | warn (warning : Warning)
  deriving DecidableEq, Repr

/-- The directory after a change, and the entry that was replaced. -/
def change (directory : Directory) : Change → Directory × Option Entry
  | .insert entry => directory.insert entry
  | .warn warning => (directory.warn warning, none)

/-- The directory after changes made one after the other, and what each of them replaced. -/
def changeAll (directory : Directory) : List Change → Directory × List (Option Entry)
  | [] => (directory, [])
  | change :: rest =>
    let (directory, replaced) := directory.change change
    let (directory, others) := directory.changeAll rest
    (directory, replaced :: others)

/-! ## What is told by the insertions -/

/-- The entry that a change inserts. -/
def Change.entry? : Change → Option Entry
  | insert entry => some entry
  | warn _ => none

/-- The entries that changes insert, in order. -/
def inserted (changes : List Change) : List Entry :=
  changes.filterMap Change.entry?

/-- The entry that was inserted last under a tag. -/
def latest? (entries : List Entry) (tag : UInt16) : Option Entry :=
  entries.reverse.find? fun entry => entry.tag == tag

/-- The tags of entries in the order in which they come first. -/
def tagsOf (entries : List Entry) : List UInt16 :=
  (entries.map Entry.tag).eraseDups

/-- The entry that a change replaces behind insertions. -/
def Change.replaced? (earlier : List Entry) : Change → Option Entry
  | insert entry => latest? earlier entry.tag
  | warn _ => none

/-- The warning that a change adds behind insertions. -/
def Change.warning? (earlier : List Entry) : Change → Option Warning
  | insert entry =>
    if entry.tag ∈ earlier.map Entry.tag then some (.duplicateTag entry.tag) else none
  | warn warning => some warning

/-- What changes come to one after the other, each behind the entries inserted before it. -/
def behindEarlier {β : Type} (f : List Entry → Change → β) (earlier : List Entry) :
    List Change → List β
  | [] => []
  | change :: rest =>
    f earlier change :: behindEarlier f (earlier ++ change.entry?.toList) rest

theorem length_behindEarlier {β : Type} (f : List Entry → Change → β) (earlier : List Entry)
    (changes : List Change) : (behindEarlier f earlier changes).length = changes.length := by
  induction changes generalizing earlier with
  | nil => rfl
  | cons change rest ih => rw [behindEarlier, List.length_cons, List.length_cons, ih]

theorem inserted_cons (change : Change) (rest : List Change) :
    inserted (change :: rest) = change.entry?.toList ++ inserted rest := by
  rw [inserted, List.filterMap_cons]
  cases change.entry? <;> rfl

theorem behindEarlier_append {β : Type} (f : List Entry → Change → β) (earlier : List Entry)
    (changes others : List Change) :
    behindEarlier f earlier (changes ++ others) =
      behindEarlier f earlier changes ++ behindEarlier f (earlier ++ inserted changes) others := by
  induction changes generalizing earlier with
  | nil => rw [inserted, List.filterMap_nil, List.append_nil]; rfl
  | cons change rest ih =>
    rw [List.cons_append, behindEarlier, behindEarlier, ih, inserted_cons, List.append_assoc,
      List.cons_append]

variable {entries : List Entry} {directory : Directory}

theorem latest?_append (entries : List Entry) (entry : Entry) (tag : UInt16) :
    latest? (entries ++ [entry]) tag =
      if tag = entry.tag then some entry else latest? entries tag := by
  rw [latest?, List.reverse_append, List.reverse_singleton, List.singleton_append]
  by_cases h : tag = entry.tag
  · rw [if_pos h]
    exact List.find?_cons_of_pos (by simp [h])
  · rw [if_neg h]
    exact List.find?_cons_of_neg (by simpa using Ne.symm h)

theorem latest?_isSome_iff {tag : UInt16} :
    (latest? entries tag).isSome ↔ tag ∈ entries.map Entry.tag := by
  simp [latest?]

theorem tagsOf_append (entries : List Entry) (entry : Entry) :
    tagsOf (entries ++ [entry]) =
      if entry.tag ∈ entries.map Entry.tag then tagsOf entries
      else tagsOf entries ++ [entry.tag] := by
  have hnew : [entry.tag].removeAll (entries.map Entry.tag) =
      if entry.tag ∈ entries.map Entry.tag then [] else [entry.tag] := by
    by_cases h : entry.tag ∈ entries.map Entry.tag
    · rw [if_pos h, List.removeAll, List.filter_cons_of_neg (by simpa using h), List.filter_nil]
    · rw [if_neg h, List.removeAll, List.filter_cons_of_pos (by simpa using h), List.filter_nil]
  rw [tagsOf, List.map_append, List.map_singleton, List.eraseDups_append, hnew, tagsOf]
  split
  · rw [List.eraseDups_nil, List.append_nil]
  · rfl

/-! ## Single changes -/

/-- `Reflects entries directory`: the tags of the directory are those of the entries in the order in
which they come first, and under each of them is the last entry of that tag. -/
structure Reflects (entries : List Entry) (directory : Directory) : Prop where
  tags_eq : directory.table.tags.reverse = tagsOf entries
  get?_eq : ∀ tag, directory.get? tag = latest? entries tag

theorem reflects_new (number offset : Nat) : Reflects [] { number, offset } where
  tags_eq := rfl
  get?_eq tag := Trie.get?_empty (tagPath tag)

theorem table_insert (directory : Directory) (entry : Entry) :
    (directory.insert entry).1.table = directory.table.insert entry := by
  rw [insert]
  split <;> rfl

theorem Reflects.insert (h : Reflects entries directory) (entry : Entry) :
    Reflects (entries ++ [entry]) (directory.insert entry).1 where
  tags_eq := by
    have hfound := h.get?_eq entry.tag
    have htags : (directory.insert entry).1.table.tags = directory.table.tagsWith entry.tag := by
      rw [table_insert]
      rfl
    rw [htags, EntryTable.tagsWith, tagsOf_append, ← h.tags_eq]
    -- a tag that is found keeps its place, and another one goes behind the others
    by_cases hpresent : entry.tag ∈ entries.map Entry.tag
    · rw [if_pos hpresent, if_pos]
      rwa [← latest?_isSome_iff, ← hfound] at hpresent
    · rw [if_neg hpresent, if_neg, List.reverse_cons]
      rwa [← latest?_isSome_iff, ← hfound] at hpresent
  get?_eq tag := by
    rw [get?, table_insert, EntryTable.get?_insert, latest?_append]
    split
    · rfl
    · exact h.get?_eq tag

/-- A change keeps a directory in step with the insertions. It replaces what was found before, and
adds a warning if it is one or replaces something. -/
theorem Reflects.change (h : Reflects entries directory) (change : Change) :
    Reflects (entries ++ change.entry?.toList) (directory.change change).1 ∧
      (directory.change change).2 = change.replaced? entries ∧
      (directory.change change).1.warnings =
        directory.warnings ++ (change.warning? entries).toList := by
  cases change with
  | insert entry =>
    refine ⟨h.insert entry, ?_⟩
    have hfound : directory.get? entry.tag = latest? entries entry.tag := h.get?_eq entry.tag
    have hpresent : entry.tag ∈ entries.map Entry.tag ↔ (directory.get? entry.tag).isSome := by
      rw [hfound, latest?_isSome_iff]
    rw [Change.replaced?, Change.warning?, ← hfound, Directory.change, Directory.insert]
    cases hget : directory.get? entry.tag with
    | none =>
      rw [if_neg (by simp [hpresent, hget])]
      exact ⟨rfl, (List.append_nil _).symm⟩
    | some old =>
      rw [if_pos (by simp [hpresent, hget])]
      exact ⟨rfl, warnings_warn _ _⟩
  | warn warning =>
    refine ⟨?_, rfl, warnings_warn _ _⟩
    rw [Change.entry?, Option.toList_none, List.append_nil]
    exact ⟨h.tags_eq, h.get?_eq⟩

/-! ## Changes one after the other -/

/-- Changes keep a directory in step with the insertions, one after the other. -/
theorem Reflects.changeAll (h : Reflects entries directory) (changes : List Change) :
    Reflects (entries ++ inserted changes) (directory.changeAll changes).1 ∧
      (directory.changeAll changes).2 = behindEarlier Change.replaced? entries changes ∧
      (directory.changeAll changes).1.warnings = directory.warnings ++
        (behindEarlier Change.warning? entries changes).filterMap id := by
  induction changes generalizing entries directory with
  | nil =>
    rw [inserted, List.filterMap_nil, List.append_nil]
    exact ⟨h, rfl, (List.append_nil _).symm⟩
  | cons change rest ih =>
    obtain ⟨hnext, hreplaced, hwarnings⟩ := h.change change
    obtain ⟨hreflects, hothers, hlog⟩ := ih hnext
    simp only [Directory.changeAll, behindEarlier]
    refine ⟨?_, ?_, ?_⟩
    · rwa [inserted_cons, ← List.append_assoc]
    · rw [hothers, hreplaced]
    · rw [hlog, hwarnings, List.append_assoc]
      congr 1
      cases change.warning? entries <;> simp

/-- What a directory in step with insertions has: their tags, each one with its last entry. -/
theorem Reflects.entries_eq (h : Reflects entries directory) :
    directory.entries.map Entry.tag = tagsOf entries ∧
      directory.entries.map some = (tagsOf entries).map (latest? entries) := by
  have htags : directory.entries.map Entry.tag = tagsOf entries := by
    rw [Directory.entries, EntryTable.map_tag_toList, h.tags_eq]
  refine ⟨htags, ?_⟩
  rw [← htags, List.map_map]
  refine List.map_congr_left fun entry hmem => ?_
  rw [Function.comp_apply, ← h.get?_eq]
  exact (EntryTable.mem_toList.1 hmem).symm

/-- After any changes of a new directory its entries have different tags, in the order in which they
were first inserted, and each is the one inserted last under its tag. Looking up a tag finds this
entry, and nothing under a tag that was never inserted. Each insertion gives back what was found
before it, and the warnings are those given and one for each tag that was there already. -/
theorem changeAll_new (number offset : Nat) (changes : List Change) :
    let directory := (changeAll { number, offset } changes).1
    let entries := inserted changes
    (directory.entries.map Entry.tag).Nodup ∧
      directory.entries.map Entry.tag = (entries.map Entry.tag).eraseDups ∧
      directory.entries.map some = (entries.map Entry.tag).eraseDups.map (latest? entries) ∧
      (∀ tag,
        let found := latest? entries tag
        (found = none ↔ tag ∉ entries.map Entry.tag) ∧
        directory.entries.find? (fun entry => entry.tag == tag) = found ∧
        directory.get? tag = found ∧
        directory.value? tag = found.map Entry.value ∧
        directory.contains tag = found.isSome ∧
        directory.natural? tag =
          ((found.map Entry.value).bind Value.natural?).map UInt64.toNat) ∧
      (∀ earlier entry later, changes = earlier ++ .insert entry :: later →
        (changeAll { number, offset } changes).2[earlier.length]? =
          some ((changeAll { number, offset } earlier).1.get? entry.tag)) ∧
      directory.warnings = (behindEarlier Change.warning? [] changes).filterMap id := by
  intro directory entries
  obtain ⟨hreflects, hreplaced, hwarnings⟩ := (reflects_new number offset).changeAll changes
  obtain ⟨htags, hentries⟩ := hreflects.entries_eq
  refine ⟨?_, htags, hentries, fun tag => ?_, fun earlier entry later hsplit => ?_, hwarnings⟩
  · rw [Directory.entries, EntryTable.map_tag_toList, List.nodup_reverse]
    exact directory.table.distinct
  · have hget : directory.get? tag = latest? entries tag := hreflects.get?_eq tag
    refine ⟨?_, ?_, hget, ?_, ?_, ?_⟩
    · rw [← latest?_isSome_iff, Option.not_isSome_iff_eq_none]
    · rw [← hget]
      exact (directory.table.get?_eq_find? tag).symm
    · rw [Directory.value?, hget]
    · rw [Directory.contains, hget]
    · rw [Directory.natural?, Directory.value?, hget]
  · obtain ⟨hbefore, -, -⟩ := (reflects_new number offset).changeAll earlier
    have hlength : (behindEarlier Change.replaced? [] earlier).length = earlier.length :=
      length_behindEarlier _ _ _
    rw [hreplaced, hsplit, behindEarlier_append,
      List.getElem?_append_right (Nat.le_of_eq hlength), hlength, Nat.sub_self, hbefore.get?_eq]
    rfl

/-- The second width takes the place of the first one, in front of the height. -/
example :
    let width (value : UInt16) : Entry :=
      { tag := 256, type := .known .short, count := 1, value := .shorts [value] }
    let height : Entry := { tag := 257, type := .known .short, count := 1, value := .shorts [7] }
    let directory := (changeAll { number := 0, offset := 8 }
      [.insert (width 5), .insert height, .insert (width 6)]).1
    directory.entries = [width 6, height] ∧ directory.warnings = [.duplicateTag 256] := by
  decide +kernel

end Georef.Tiff.Directory
