import Georef.Proofs.Tiff.ChangedDirectories
import Georef.Proofs.Tiff.StoredDirectory
import Georef.Proofs.Tiff.WrittenValues

/-!
# Texts that are trimmed

What is done with the end of texts is a matter of how a directory is read. The bytes are the same
under every policy, and so is what has to be there for the directory to be read at all. Only the
values of type ASCII differ: each of them is the stored text without some characters at its end.

The module introduces:

* `Value.trimmed`, `Entry.trimmed` — values and entries as they are under a policy.
* `Directory.Trims policy full cut` — the entries of `cut` are those of `full`, with their texts
  trimmed.

`Directory.trims_of_read` compares the directories that are read at one place.
-/

namespace Georef

/-- Under every policy a text is the start of the stored one. -/
theorem Terminator.trim_prefix (policy : Terminator) (text : String) :
    (policy.trim text).toList <+: text.toList := by
  rw [trim, Text.trimEnd, String.toList_ofList, ← List.reverse_suffix, List.reverse_reverse]
  exact List.dropWhile_suffix policy.drops

namespace Tiff

open Cursor (Place Stands)

/-! ## Values and entries -/

/-- The values under a policy. -/
def Value.trimmed (policy : Terminator) : Value → Value
  | ascii text => ascii (policy.trim text)
  | other => other

/-- The entry with its values under a policy. -/
def Entry.trimmed (policy : Terminator) (entry : Entry) : Entry :=
  { entry with value := entry.value.trimmed policy }

namespace Value

variable (policy : Terminator) (value : Value)

@[simp]
theorem text?_trimmed : (value.trimmed policy).text? = value.text?.map policy.trim := by
  cases value <;> rfl

@[simp]
theorem shorts?_trimmed : (value.trimmed policy).shorts? = value.shorts? := by
  cases value <;> rfl

@[simp]
theorem numbers?_trimmed (α : Type) [Scalar α] :
    ((value.trimmed policy).numbers? : Option (List α)) = value.numbers? := by
  cases value <;> rfl

/-- Stored values under a policy are those that are kept in full, with texts trimmed. -/
theorem ofStored_eq_trimmed (order : ByteOrder) (count : Nat) (stored : Bytes)
    (type : ElementType) :
    ofStored policy order count stored type =
      (ofStored .preserve order count stored type).trimmed policy := by
  cases type with
  | ascii => rw [ofStored, ofStored, trimmed, Terminator.trim_preserve]
  | _ => rfl

end Value

variable {layout : Layout} {policy : Terminator} {data : Bytes} {order : ByteOrder}

/-- The entry of a record has its tag. -/
theorem Record.tag_entry (options : Options) (record : Record) :
    (record.entry options data order).tag = record.tag := by
  rw [entry]
  cases ElementType.ofCode? record.code with
  | none => rfl
  | some type =>
    show (if _ then _ else _ : Entry).tag = record.tag
    split <;> rfl

/-- The entry of a record under a policy is the one that is kept in full, with texts trimmed. -/
theorem Record.entry_eq_trimmed (record : Record) :
    record.entry { layout, policy } data order =
      (record.entry { layout } data order).trimmed policy := by
  rw [entry, entry]
  cases ElementType.ofCode? record.code with
  | none => rfl
  | some type =>
    simp only [Value.ofStored_eq_trimmed policy]
    split <;> rfl

/-! ## Directories -/

namespace Directory

/-- `Trims policy full cut`: the entries of `cut` are those of `full` under the policy. -/
def Trims (policy : Terminator) (full cut : Directory) : Prop :=
  ∀ tag, cut.get? tag = (full.get? tag).map (Entry.trimmed policy)

/-- A directory is georeferenced if one of the tags for it is there. -/
theorem isGeoreferenced_iff {directory : Directory} :
    directory.isGeoreferenced = true ↔
      ∃ tag, Tag.georeferencing.contains tag = true ∧ (directory.get? tag).isSome := by
  rw [isGeoreferenced, List.any_eq_true]
  constructor
  · rintro ⟨entry, hmem, htag⟩
    exact ⟨entry.tag, htag, Option.isSome_iff_exists.2 ⟨entry, EntryTable.mem_toList.1 hmem⟩⟩
  · rintro ⟨tag, htag, hsome⟩
    obtain ⟨entry, hentry⟩ := Option.isSome_iff_exists.1 hsome
    obtain rfl := EntryTable.tag_of_get? hentry
    exact ⟨entry, EntryTable.mem_toList.2 hentry, htag⟩

/-- A record leaves the entries of other tags as they are. -/
theorem get?_enter (options : Options) (directory : Directory) (record : Record) (tag : UInt16) :
    (directory.enter options data order record).get? tag =
      if tag = record.tag then some (record.entry options data order) else directory.get? tag := by
  have hinsert : ∀ directory : Directory,
      (directory.insert (record.entry options data order)).1.get? tag =
        if tag = record.tag then some (record.entry options data order)
        else directory.get? tag := by
    intro directory
    rw [get?, table_insert, EntryTable.get?_insert, Record.tag_entry]
    rfl
  rw [enter]
  cases ElementType.ofCode? record.code with
  | none => exact hinsert _
  | some type => exact hinsert _

namespace Trims

variable {full cut : Directory}

/-- A record that is entered under both policies keeps directories alike. -/
theorem enter (h : Trims policy full cut) (record : Record) :
    Trims policy (full.enter { layout } data order record)
      (cut.enter { layout, policy } data order record) := by
  intro tag
  rw [get?_enter, get?_enter, Record.entry_eq_trimmed]
  split
  · rfl
  · exact h tag

theorem foldl_enter (h : Trims policy full cut) (records : List Record) :
    Trims policy (records.foldl (Directory.enter { layout } data order) full)
      (records.foldl (Directory.enter { layout, policy } data order) cut) := by
  induction records generalizing full cut with
  | nil => exact h
  | cons record rest ih => exact ih (h.enter record)

theorem value?_eq (h : Trims policy full cut) (tag : UInt16) :
    cut.value? tag = (full.value? tag).map (Value.trimmed policy) := by
  rw [value?, value?, h tag, Option.map_map, Option.map_map]
  rfl

/-- Directories that are alike have the same tags. -/
theorem isGeoreferenced_eq (h : Trims policy full cut) :
    cut.isGeoreferenced = full.isGeoreferenced := by
  rw [Bool.eq_iff_iff, isGeoreferenced_iff, isGeoreferenced_iff]
  simp only [h _, Option.isSome_map]

end Trims

/-- The directories that are stored at a place differ only in their texts. -/
theorem trims_stored (layout : Layout) (policy : Terminator) (number : Nat) (data : Bytes)
    (place : Place) :
    Trims policy (stored { layout } number data place)
      (stored { layout, policy } number data place) := by
  have hempty : ∀ tag, EntryTable.empty.get? tag = none := fun tag => Trie.get?_empty (tagPath tag)
  refine Trims.foldl_enter (fun tag => ?_) _
  exact (hempty tag).trans (congrArg (Option.map _) (hempty tag)).symm

/-- What has to be there for a directory to be read is the same under every policy. -/
theorem readable_iff_preserve {place : Place} :
    Readable { layout, policy } data place ↔ Readable { layout } data place :=
  ⟨fun h => ⟨h.count_inside, h.count_le, h.table_inside, h.values_fit⟩,
    fun h => ⟨h.count_inside, h.count_le, h.table_inside, h.values_fit⟩⟩

variable {ρ : Type} [Reader ρ] [LawfulReader ρ] {cursor : Cursor ρ} {place : Place} {number : Nat}

/-- A directory is read under a policy if and only if it is read in full, and then the two differ
only in their texts. -/
theorem trims_of_read (h : cursor.Stands data place) (layout : Layout) (policy : Terminator)
    (number : Nat) :
    ((∃ full, (cursor.run (Directory.read { layout } number)).1 = .ok full) ↔
      ∃ cut, (cursor.run (Directory.read { layout, policy } number)).1 = .ok cut) ∧
      ∀ full cut, (cursor.run (Directory.read { layout } number)).1 = .ok full →
        (cursor.run (Directory.read { layout, policy } number)).1 = .ok cut →
          Trims policy full cut := by
  obtain ⟨hfull, hstored⟩ := read_eq_stored { layout } number h
  obtain ⟨hcut, hstored'⟩ := read_eq_stored { layout, policy } number h
  refine ⟨hfull.trans (readable_iff_preserve.symm.trans hcut.symm), fun full cut hread hread' => ?_⟩
  have hreadable := hfull.1 ⟨full, hread⟩
  obtain ⟨_, hrun, -⟩ := hstored hreadable
  obtain ⟨_, hrun', -⟩ := hstored' (readable_iff_preserve.2 hreadable)
  rw [hrun] at hread
  rw [hrun'] at hread'
  obtain rfl := Except.ok.inj hread
  obtain rfl := Except.ok.inj hread'
  exact trims_stored layout policy number data place

end Directory

end Tiff

end Georef
