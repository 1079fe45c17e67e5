import Georef.Tiff.Tag
import Georef.Tiff.Value
import Georef.Trie

/-!
# Entries by tag

The entries of a directory, at most one for each tag, in the order in which the tags were first
entered. An entry is found by its tag in a trie; the tags are kept beside it, latest first, so that
entering one takes a fixed number of steps.

* `EntryTable`, with the agreement of its two parts as part of the type.
* `EntryTable.get?`, `EntryTable.insert`: looking up and entering; `get?_insert` says what is found
  after an entry was made.
* `EntryTable.toList`: the entries in order; `get?_eq_find?` looks an entry up in the list.
-/

namespace Georef.Tiff

/-- An entry of a directory. -/
structure Entry where
  tag : UInt16
  type : FieldType
  /-- The declared number of values. -/
  count : Nat
  /-- Where the values are stored, if not in the entry itself. -/
  valueOffset : Option Nat := none
  value : Value
  deriving DecidableEq, Repr

theorem filterMap_eq_of_agree {α β : Type} {f g : α → Option β} {values : List α}
    (h : ∀ value ∈ values, f value = g value) : values.filterMap f = values.filterMap g := by
  induction values with
  | nil => rfl
  | cons value rest ih =>
    rw [List.filterMap_cons, List.filterMap_cons, h value List.mem_cons_self,
      ih fun other hmem => h other (List.mem_cons_of_mem _ hmem)]

/-- The path of a tag in a trie. -/
def tagPath (tag : UInt16) : List Bool :=
  Trie.path 16 tag.toNat

theorem tagPath_inj {a b : UInt16} : tagPath a = tagPath b ↔ a = b := by
  refine ⟨fun h => UInt16.toNat_inj.1 (Trie.path_injective ?_ ?_ h), fun h => h ▸ rfl⟩
  · exact a.toNat_lt
  · exact b.toNat_lt

/-- Entries with different tags. -/
structure EntryTable where
  /-- The tags, latest first. -/
  tags : List UInt16 := []
  /-- The entries under the paths of their tags. -/
  held : Trie Entry := .empty
  distinct : tags.Nodup := by simp
  mem_tags : ∀ tag, tag ∈ tags ↔ ∃ entry, held.get? (tagPath tag) = some entry := by simp
  tag_eq : ∀ tag entry, held.get? (tagPath tag) = some entry → entry.tag = tag := by simp
  deriving DecidableEq, Repr

namespace EntryTable

/-- The table without entries. -/
def empty : EntryTable := {}

/-- The entry of a tag. -/
def get? (table : EntryTable) (tag : UInt16) : Option Entry :=
  table.held.get? (tagPath tag)

/-- The entries in the order in which their tags were first entered. -/
def toList (table : EntryTable) : List Entry :=
  table.tags.reverse.filterMap table.get?

/-- The tags with one more, unless it is there. -/
def tagsWith (table : EntryTable) (tag : UInt16) : List UInt16 :=
  if (table.get? tag).isSome then table.tags else tag :: table.tags

theorem get?_put (table : EntryTable) (entry : Entry) (tag : UInt16) :
    (table.held.put entry (tagPath entry.tag)).get? (tagPath tag) =
      if tag = entry.tag then some entry else table.get? tag := by
  simp only [Trie.get?_put, tagPath_inj, get?]

theorem mem_tags_iff (table : EntryTable) (tag : UInt16) :
    tag ∈ table.tags ↔ ∃ entry, table.get? tag = some entry :=
  table.mem_tags tag

theorem tag_of_get? {table : EntryTable} {tag : UInt16} {entry : Entry}
    (h : table.get? tag = some entry) : entry.tag = tag :=
  table.tag_eq tag entry h

/-- The table with an entry in the place of the earlier one of its tag, or at the end. -/
def insert (table : EntryTable) (entry : Entry) : EntryTable where
  tags := table.tagsWith entry.tag
  held := table.held.put entry (tagPath entry.tag)
  distinct := by
    unfold tagsWith
    split
    · exact table.distinct
    -- a tag is added only where it was not found
    · rename_i h
      refine List.nodup_cons.2 ⟨fun hmem => h ?_, table.distinct⟩
      obtain ⟨old, hold⟩ := (table.mem_tags_iff _).1 hmem
      simp [hold]
  mem_tags tag := by
    have hmem := table.mem_tags_iff tag
    rw [get?_put]
    unfold tagsWith
    split
    · rename_i h
      obtain ⟨old, hold⟩ := Option.isSome_iff_exists.1 h
      by_cases heq : tag = entry.tag
      · subst heq; simp [hmem, hold]
      · simp [heq, hmem]
    · by_cases heq : tag = entry.tag
      · simp [heq]
      · simp [heq, hmem]
  tag_eq tag found h := by
    rw [get?_put] at h
    split at h
    · rename_i heq
      rw [heq, ← Option.some.inj h]
    · exact tag_of_get? h

/-- What was entered is found under its tag, and nothing else changes. -/
theorem get?_insert (table : EntryTable) (entry : Entry) (tag : UInt16) :
    (table.insert entry).get? tag = if tag = entry.tag then some entry else table.get? tag :=
  table.get?_put entry tag

theorem mem_toList {table : EntryTable} {entry : Entry} :
    entry ∈ table.toList ↔ table.get? entry.tag = some entry := by
  simp only [toList, List.mem_filterMap, List.mem_reverse]
  constructor
  · rintro ⟨tag, -, h⟩
    rwa [tag_of_get? h]
  · exact fun h => ⟨entry.tag, (table.mem_tags_iff _).2 ⟨entry, h⟩, h⟩

/-- The tags of the list are those of the table, earliest first. -/
theorem map_tag_toList (table : EntryTable) :
    table.toList.map Entry.tag = table.tags.reverse := by
  rw [toList, List.map_filterMap, filterMap_eq_of_agree (g := some), List.filterMap_some]
  intro tag hmem
  obtain ⟨entry, hentry⟩ := (table.mem_tags_iff tag).1 (List.mem_reverse.1 hmem)
  rw [hentry, Option.map_some, tag_of_get? hentry]

/-- Looking up in the list finds the same entry. -/
theorem get?_eq_find? (table : EntryTable) (tag : UInt16) :
    table.get? tag = table.toList.find? fun entry => entry.tag == tag := by
  cases h : table.toList.find? fun entry => entry.tag == tag with
  | none =>
    rw [List.find?_eq_none] at h
    cases hget : table.get? tag with
    | none => rfl
    | some entry =>
      have htag := tag_of_get? hget
      exact absurd (by simp [htag]) (h entry (mem_toList.2 (htag ▸ hget)))
  | some entry =>
    have htag : entry.tag = tag := by simpa using List.find?_some h
    exact htag ▸ mem_toList.1 (List.mem_of_find?_eq_some h)

end EntryTable

end Georef.Tiff
