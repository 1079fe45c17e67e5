import Georef.Proofs.Source.WrittenBytes
import Georef.Proofs.Tiff.StoredDirectory
import Georef.Proofs.Tiff.WrittenValues
import Mathlib.Data.List.Basic

/-!
# Directories that are read back as they were written

A directory is written as a table of records with the values that do not fit them behind it.
Wherever the bytes stand, reading them from there on finds the table, follows the positions in it to
the values, and enters the entries in their order.

The module introduces:

* `Entry.Filled layout entry` — the entry holds values of its type, or the field of an unknown one.
* `Entry.Lies layout order data entry` — the values of the entry fit its record, or else stand in
  the source where the entry says.
* `Directory.Writable layout order offset next entries` — every number and position that is written
  fits its field.
* `Directory.put` — what reading does with an entry.
* `Directory.read_encode` — a written directory is read back.
-/

namespace Georef.Tiff

open Cursor (Holds Place Stands)

/-! ## Entries that can be written -/

namespace Entry

/-- `entry.Filled layout`: the entry holds as many values of its known type as it declares. One of
unknown type holds what fills the field of a record. -/
inductive Filled (layout : Layout) : Entry → Prop
  | known {type : ElementType} {value : Value} (tag : UInt16) (valueOffset : Option Nat)
    (h : value.OfType type) :
    Filled layout { tag, type := .known type, count := value.length, valueOffset, value }
  | unknown {code : UInt16} {stored : List UInt8} (tag : UInt16) (count : Nat)
    (valueOffset : Option Nat) (hcode : ElementType.ofCode? code = none)
    (hlength : stored.length = layout.fieldWidth) :
    Filled layout { tag, type := .unknown code, count, valueOffset, value := .raw code stored }

/-- The entry without the position of its values. -/
def unplaced (entry : Entry) : Entry :=
  { entry with valueOffset := none }

/-- `entry.Lies layout order data`: the entry names a position exactly if its values do not fit a
record, and they stand in the source from there on. -/
structure Lies (layout : Layout) (order : ByteOrder) (data : Bytes) (entry : Entry) : Prop where
  eq_none_iff : entry.valueOffset = none ↔ (entry.data order).length ≤ layout.fieldWidth
  holds : ∀ position, entry.valueOffset = some position → Holds data position (entry.data order)

variable {layout : Layout} {order : ByteOrder} {data : Bytes} {position : Nat}
  {entry : Entry} {entries : List Entry}

/-! ### Placing entries -/

theorem fits_iff :
    entry.fits layout order = true ↔ (entry.data order).length ≤ layout.fieldWidth := by
  simp [fits]

/-- Placing entries changes their positions and nothing else. -/
theorem map_unplaced_placed (layout : Layout) (order : ByteOrder) (position : Nat)
    (entries : List Entry) :
    (placed layout order position entries).map unplaced = entries.map unplaced := by
  induction entries generalizing position with
  | nil => rfl
  | cons entry rest ih =>
    rw [placed]
    split
    · rw [List.map_cons, ih, List.map_cons]
      rfl
    · rw [List.map_cons, ih, List.map_cons]
      rfl

theorem length_placed :
    (placed layout order position entries).length = entries.length := by
  have hlength := congrArg List.length (map_unplaced_placed layout order position entries)
  simpa using hlength

/-- A placed entry is one of the entries but for its position. -/
theorem exists_of_mem_placed (h : entry ∈ placed layout order position entries) :
    ∃ original ∈ entries, original.unplaced = entry.unplaced := by
  have hmem : entry.unplaced ∈ (placed layout order position entries).map unplaced :=
    List.mem_map_of_mem h
  rw [map_unplaced_placed] at hmem
  exact List.mem_map.1 hmem

/-- Placed entries lie where they were placed, if their values were written there. -/
theorem lies_of_mem_placed
    (h : Holds data position ((placed layout order position entries).flatMap (behind order)))
    (hmem : entry ∈ placed layout order position entries) : entry.Lies layout order data := by
  induction entries generalizing position with
  | nil => cases hmem
  | cons first rest ih =>
    rw [placed] at h hmem
    -- values that fit take no bytes behind the table, and others move those that follow
    by_cases hfits : first.fits layout order
    · rw [if_pos hfits] at h hmem
      rcases List.mem_cons.1 hmem with rfl | hmem
      · exact ⟨⟨fun _ => fits_iff.1 hfits, fun _ => rfl⟩, fun _ hnone => nomatch hnone⟩
      · exact ih h hmem
    · rw [if_neg hfits] at h hmem
      rw [List.flatMap_cons] at h
      rcases List.mem_cons.1 hmem with rfl | hmem
      · refine ⟨⟨fun hnone => (nomatch hnone), fun hle => absurd (fits_iff.2 hle) hfits⟩, ?_⟩
        intro place hplace
        cases hplace
        exact h.left
      · exact ih h.right hmem

/-- The values of a placed entry without a position fit its record. -/
theorem length_data_le_of_mem_placed (hmem : entry ∈ placed layout order position entries)
    (hnone : entry.valueOffset = none) : (entry.data order).length ≤ layout.fieldWidth := by
  induction entries generalizing position with
  | nil => cases hmem
  | cons first rest ih =>
    rw [placed] at hmem
    by_cases hfits : first.fits layout order
    · rw [if_pos hfits] at hmem
      rcases List.mem_cons.1 hmem with rfl | hmem
      · exact fits_iff.1 hfits
      · exact ih hmem
    · rw [if_neg hfits] at hmem
      rcases List.mem_cons.1 hmem with rfl | hmem
      · cases hnone
      · exact ih hmem

/-! ### Records of entries -/

/-- The record of an entry, as it is found. -/
def toRecord (layout : Layout) (order : ByteOrder) (entry : Entry) : Record where
  tag := entry.tag
  code := entry.type.code
  count := entry.count
  field := (entry.field layout order).toArray

/-- The field of an entry is as wide as the layout says. -/
theorem length_field
    (h : entry.valueOffset = none → (entry.data order).length ≤ layout.fieldWidth) :
    (entry.field layout order).length = layout.fieldWidth := by
  unfold field
  cases hoffset : entry.valueOffset with
  | some position => exact order.length_encode _ _
  | none =>
    have hle := h hoffset
    simp only [List.length_append, List.length_replicate]
    omega

/-- And so is its record. -/
theorem length_record
    (h : entry.valueOffset = none → (entry.data order).length ≤ layout.fieldWidth) :
    (entry.record layout order).length = layout.recordWidth := by
  have htag : (FixedWidth.encode order entry.tag).length = 2 := FixedWidth.length_encode _ _
  have hcode : (FixedWidth.encode order entry.type.code).length = 2 :=
    FixedWidth.length_encode _ _
  have hwidth : layout.recordWidth = 4 + 2 * layout.fieldWidth := rfl
  simp only [record, List.length_append, htag, hcode, ByteOrder.length_encode, length_field h]
  omega

/-- The record of an entry is found where it was written. -/
theorem stored_eq_toRecord (hholds : Holds data position (entry.record layout order))
    (hfield : (entry.field layout order).length = layout.fieldWidth)
    (hcount : entry.count < byteBound layout.fieldWidth) :
    Record.stored layout data order position = entry.toRecord layout order := by
  have htagLength : (FixedWidth.encode order entry.tag).length = 2 := FixedWidth.length_encode _ _
  have hcodeLength : (FixedWidth.encode order entry.type.code).length = 2 :=
    FixedWidth.length_encode _ _
  unfold record at hholds
  -- the four parts, from the last one to the first
  have hfieldStored := hholds.right.slice_eq
  have hcountStored := hholds.left.right.slice_eq
  have hcodeStored := hholds.left.left.right.slice_eq
  have htagStored := hholds.left.left.left.slice_eq
  simp only [List.length_append, htagLength, hcodeLength, ByteOrder.length_encode, hfield]
    at hfieldStored hcountStored hcodeStored htagStored
  rw [← Nat.add_assoc] at hfieldStored
  rw [Record.stored, toRecord, htagStored, hcodeStored, hcountStored, FixedWidth.decode_encode,
    FixedWidth.decode_encode, order.decode_encode hcount]
  congr 1
  exact Array.toList_inj.1 hfieldStored

/-! ### Entries of records -/

/-- An entry of known type declares the number of its values. -/
theorem Filled.parts_of_known (h : entry.Filled layout) {type : ElementType}
    (htype : entry.type = .known type) :
    entry.value.OfType type ∧ entry.count = entry.value.length := by
  cases h with
  | known tag valueOffset h =>
    cases htype
    exact ⟨h, rfl⟩
  | unknown => cases htype

/-- The bytes of the values of an entry of known type, counted. -/
theorem Filled.size_eq (h : entry.Filled layout) {type : ElementType}
    (htype : entry.type = .known type) :
    (entry.toRecord layout order).size type = (entry.data order).length := by
  obtain ⟨hvalue, hcount⟩ := h.parts_of_known htype
  rw [data, htype, Value.length_encode order hvalue, ← hcount]
  rfl

/-- Values that fit a record stand at the start of its field. -/
theorem slice_field (h : entry.valueOffset = none) :
    Bytes.slice (entry.field layout order).toArray 0 (entry.data order).length =
      (entry.data order).toArray := by
  apply Array.toList_inj.1
  rw [Bytes.toList_slice, List.drop_zero, field, h]
  exact List.take_left

/-- The position of values that do not fit is found in the field. -/
theorem offset_toRecord (h : entry.valueOffset = some position)
    (hlt : position < byteBound layout.fieldWidth) :
    (entry.toRecord layout order).offset order = position := by
  simp only [Record.offset, toRecord, field, h]
  exact order.decode_encode hlt

theorem ofCode?_code (type : ElementType) : ElementType.ofCode? type.facts.code = some type := by
  cases type <;> rfl

/-- The type of a filled entry is found from its code. -/
theorem Filled.ofCode?_eq (h : entry.Filled layout) :
    ElementType.ofCode? entry.type.code =
      match entry.type with
      | .known type => some type
      | .unknown _ => none := by
  cases h with
  | known => exact ofCode?_code _
  | unknown tag count valueOffset hcode => exact hcode

variable (hfilled : entry.Filled layout) (hlies : entry.Lies layout order data)
  (hposition : ∀ position, entry.valueOffset = some position →
    position < byteBound layout.fieldWidth)
include hfilled hlies hposition

/-- What the record of an entry says of its values: the bytes are there. -/
theorem fits_toRecord (hsize : data.size < positionBound) :
    (entry.toRecord layout order).Fits layout data order := by
  intro type htype
  have hcode := hfilled.ofCode?_eq
  rw [show ElementType.ofCode? entry.type.code = some type from htype] at hcode
  cases hentry : entry.type with
  | unknown code =>
    rw [hentry] at hcode
    cases hcode
  | known other =>
    rw [hentry] at hcode
    obtain rfl := Option.some.inj hcode
    rw [hfilled.size_eq hentry]
    cases hoffset : entry.valueOffset with
    | none =>
      have hle := hlies.eq_none_iff.1 hoffset
      have hwidth : layout.fieldWidth < sizeBound := by cases layout <;> decide
      exact ⟨Nat.lt_of_le_of_lt hle hwidth, .inl hle⟩
    | some position =>
      have hfits := (hlies.holds position hoffset).fits
      have hbound : sizeBound = positionBound := rfl
      rw [offset_toRecord hoffset (hposition position hoffset)]
      exact ⟨by omega, .inr hfits⟩

/-- The values of a known type are found from their record. -/
theorem entry_toRecord_of_known {type : ElementType} (htype : entry.type = .known type) :
    (entry.toRecord layout order).entry { layout } data order = entry := by
  obtain ⟨hvalue, hcount⟩ := hfilled.parts_of_known htype
  have hcode : ElementType.ofCode? (entry.toRecord layout order).code = some type := by
    rw [toRecord, htype]
    exact ofCode?_code type
  have hread : Value.ofStored .preserve order entry.count (entry.data order).toArray type =
      entry.value := by
    rw [hcount, Entry.data, htype, Value.ofStored_encode order hvalue]
  simp only [Record.entry, hcode, hfilled.size_eq htype]
  -- the bytes that are read are those of the values, in the field or behind the table
  cases hoffset : entry.valueOffset with
  | none =>
    rw [if_pos (hlies.eq_none_iff.1 hoffset)]
    simp only [toRecord, slice_field hoffset, hread]
    rw [← htype, ← hoffset]
  | some position =>
    have hstored := (hlies.holds position hoffset).slice_eq_toArray
    rw [if_neg fun hle => by simp [hlies.eq_none_iff.2 hle] at hoffset]
    simp only [offset_toRecord hoffset (hposition position hoffset), hstored]
    simp only [toRecord, hread]
    rw [← htype, ← hoffset]

/-- The entry of its own record. -/
theorem entry_toRecord :
    (entry.toRecord layout order).entry { layout } data order = entry := by
  cases htype : entry.type with
  | known type => exact entry_toRecord_of_known hfilled hlies hposition htype
  | unknown code =>
    -- what is kept of an unknown type is the field, and it takes the field up
    cases hfilled with
    | known => cases htype
    | @unknown other stored tag count valueOffset hcode hlength =>
      obtain rfl : valueOffset = none := hlies.eq_none_iff.2 (Nat.le_of_eq hlength)
      have hfield : stored ++ List.replicate (layout.fieldWidth - stored.length) 0 = stored := by
        rw [hlength, Nat.sub_self, List.replicate_zero, List.append_nil]
      simp only [Record.entry, toRecord, FieldType.code, hcode, field, Entry.data, Value.encode,
        hfield]

end Entry

/-! ## Entering entries -/

/-- Whether a warning is about the type of an entry. -/
def Warning.isAboutType : Warning → Bool
  | .unsupportedType .. => true
  | .duplicateTag _ => false

namespace Directory

/-- The directory with an entry that was read: one of unknown type is inserted with a warning. -/
def put (directory : Directory) (entry : Entry) : Directory :=
  match entry.type with
  | .known _ => (directory.insert entry).1
  | .unknown code => ((directory.warn (.unsupportedType entry.tag code)).insert entry).1

/-- The directory without the warnings about types. -/
def withoutTypeWarnings (directory : Directory) : Directory :=
  { directory with
    latestWarnings := directory.latestWarnings.filter fun warning => !warning.isAboutType }

/-- Inserting looks at the entries only. -/
theorem withoutTypeWarnings_insert (directory : Directory) (entry : Entry) :
    (directory.insert entry).1.withoutTypeWarnings =
      (directory.withoutTypeWarnings.insert entry).1 := by
  have hget : directory.withoutTypeWarnings.get? entry.tag = directory.get? entry.tag := rfl
  simp only [insert, hget]
  cases directory.get? entry.tag with
  | none => rfl
  | some old => simp [withoutTypeWarnings, warn, Warning.isAboutType]

theorem withoutTypeWarnings_warn (directory : Directory) (tag code : UInt16) :
    (directory.warn (.unsupportedType tag code)).withoutTypeWarnings =
      directory.withoutTypeWarnings := by
  simp [withoutTypeWarnings, warn, Warning.isAboutType]

/-- But for the warnings about types, entries that were read are inserted. -/
theorem withoutTypeWarnings_put (directory : Directory) (entry : Entry) :
    (directory.put entry).withoutTypeWarnings =
      (directory.withoutTypeWarnings.insert entry).1 := by
  unfold put
  cases entry.type with
  | known type => exact withoutTypeWarnings_insert directory entry
  | unknown code =>
    simp only [withoutTypeWarnings_insert, withoutTypeWarnings_warn]

theorem withoutTypeWarnings_foldl_put (directory : Directory) (entries : List Entry) :
    (entries.foldl put directory).withoutTypeWarnings =
      entries.foldl (fun directory entry => (directory.insert entry).1)
        directory.withoutTypeWarnings := by
  induction entries generalizing directory with
  | nil => rfl
  | cons entry rest ih => rw [List.foldl_cons, ih, withoutTypeWarnings_put, List.foldl_cons]

/-! ## Written directories -/

/-- The entries of a directory that starts at `offset`, with the positions of their values. -/
def placedAt (layout : Layout) (order : ByteOrder) (offset : Nat) (entries : List Entry) :
    List Entry :=
  Entry.placed layout order (offset + layout.directoryWidth entries.length) entries

/-- `Writable layout order offset next entries`: the entries make up a directory that starts at
`offset`, and every number in it fits its field. -/
structure Writable (layout : Layout) (order : ByteOrder) (offset next : Nat)
    (entries : List Entry) : Prop where
  length_le : entries.length ≤ maxEntries
  filled : ∀ entry ∈ entries, entry.Filled layout
  count_lt : ∀ entry ∈ entries, entry.count < byteBound layout.fieldWidth
  /-- The positions of values that do not fit their records. -/
  position_lt : ∀ entry ∈ placedAt layout order offset entries,
    ∀ position, entry.valueOffset = some position → position < byteBound layout.fieldWidth
  next_lt : next < byteBound layout.fieldWidth

variable {layout : Layout} {order : ByteOrder} {offset next : Nat} {entries : List Entry}
  {data : Bytes} {entry : Entry}

/-- Entries stay filled when they are placed, and declare the same number of values. -/
theorem Writable.of_mem_placedAt (h : Writable layout order offset next entries)
    (hmem : entry ∈ placedAt layout order offset entries) :
    entry.Filled layout ∧ entry.count < byteBound layout.fieldWidth := by
  obtain ⟨original, horiginal, hunplaced⟩ := Entry.exists_of_mem_placed hmem
  obtain ⟨tag, type, count, valueOffset, value⟩ := entry
  obtain ⟨tag', type', count', valueOffset', value'⟩ := original
  cases hunplaced
  have hcount := h.count_lt _ horiginal
  refine ⟨?_, hcount⟩
  cases h.filled _ horiginal with
  | known tag _ hvalue => exact .known tag valueOffset hvalue
  | unknown tag count _ hcode hlength => exact .unknown tag count valueOffset hcode hlength

/-- The records of placed entries have one width. -/
theorem length_record_placedAt (hmem : entry ∈ placedAt layout order offset entries) :
    (entry.record layout order).length = layout.recordWidth :=
  Entry.length_record fun hnone => Entry.length_data_le_of_mem_placed hmem hnone

theorem length_records :
    ((placedAt layout order offset entries).flatMap (Entry.record layout order)).length =
      entries.length * layout.recordWidth := by
  have hwidths : (placedAt layout order offset entries).map
      (fun entry => (entry.record layout order).length) =
      (placedAt layout order offset entries).map fun _ => layout.recordWidth :=
    List.map_congr_left fun _ hmem => length_record_placedAt hmem
  rw [List.length_flatMap, hwidths, List.map_const', List.sum_replicate_nat, placedAt,
    Entry.length_placed]

section Written

variable (hholds : Holds data offset (encode layout order offset next entries))
include hholds

/-- The four parts of a written directory, one behind the other. -/
theorem holds_parts :
    Holds data offset (order.encode layout.countWidth entries.length) ∧
    Holds data (offset + layout.countWidth)
      ((placedAt layout order offset entries).flatMap (Entry.record layout order)) ∧
    Holds data (offset + layout.countWidth + entries.length * layout.recordWidth)
      (order.encode layout.fieldWidth next) ∧
    Holds data (offset + layout.directoryWidth entries.length)
      ((placedAt layout order offset entries).flatMap (Entry.behind order)) := by
  have hlength : (placedAt layout order offset entries).length = entries.length :=
    Entry.length_placed
  change Holds data offset (encodePlaced layout order next (placedAt layout order offset entries))
    at hholds
  unfold encodePlaced at hholds
  rw [hlength] at hholds
  have hrecords := hholds.left.left.right
  have hnext := hholds.left.right
  have hbehind := hholds.right
  simp only [List.length_append, ByteOrder.length_encode, length_records] at hrecords hnext hbehind
  rw [← Nat.add_assoc] at hnext
  exact ⟨hholds.left.left.left, hrecords, hnext, hbehind⟩

omit hholds in
theorem tableEnd_add_fieldWidth :
    offset + layout.countWidth + entries.length * layout.recordWidth + layout.fieldWidth =
      offset + layout.directoryWidth entries.length := by
  simp only [Layout.directoryWidth, Nat.add_assoc]

/-- The values of the entries are where the entries say. -/
theorem lies_of_mem_placedAt (hmem : entry ∈ placedAt layout order offset entries) :
    entry.Lies layout order data :=
  Entry.lies_of_mem_placed (holds_parts hholds).2.2.2 hmem

variable (h : Writable layout order offset next entries)
include h

/-- As many records are found as entries were written. -/
theorem storedCount_eq : storedCount layout data ⟨order, offset⟩ = entries.length := by
  have hcount := (holds_parts hholds).1.slice_eq
  have hbound : maxEntries < byteBound layout.countWidth := by cases layout <;> decide
  rw [ByteOrder.length_encode] at hcount
  rw [storedCount, hcount, order.decode_encode (Nat.lt_of_le_of_lt h.length_le hbound)]

theorem tableEnd_eq : tableEnd layout data ⟨order, offset⟩ =
    offset + layout.countWidth + entries.length * layout.recordWidth := by
  rw [tableEnd, storedCount_eq hholds h]

/-- The records that are found are those of the placed entries. -/
theorem storedRecords_eq : storedRecords layout data ⟨order, offset⟩ =
    (placedAt layout order offset entries).map (Entry.toRecord layout order) := by
  have hlength : (placedAt layout order offset entries).length = entries.length :=
    Entry.length_placed
  apply List.ext_getElem
  · rw [storedRecords, List.length_map, List.length_range, List.length_map, hlength,
      storedCount_eq hholds h]
  · intro i _ hi
    rw [List.length_map] at hi
    have hmem : (placedAt layout order offset entries)[i] ∈ placedAt layout order offset entries :=
      List.getElem_mem hi
    have hrecord := (holds_parts hholds).2.1.item (fun _ => length_record_placedAt) hi
    have hfield : ((placedAt layout order offset entries)[i].field layout order).length =
        layout.fieldWidth :=
      Entry.length_field fun hnone => Entry.length_data_le_of_mem_placed hmem hnone
    simp only [storedRecords, List.getElem_map, List.getElem_range]
    exact Entry.stored_eq_toRecord hrecord hfield (h.of_mem_placedAt hmem).2

/-- The position of the next directory is found, and the place behind it. -/
theorem storedNext_eq : storedNext layout data ⟨order, offset⟩ = next ∧
    placeBehind layout data ⟨order, offset⟩ =
      ⟨order, offset + layout.directoryWidth entries.length⟩ := by
  have hparts := (holds_parts hholds).2.2.1
  have hfits := hparts.fits
  have hslice := hparts.slice_eq
  rw [ByteOrder.length_encode] at hfits hslice
  have hthere : hasNext layout data ⟨order, offset⟩ := by
    rw [hasNext, tableEnd_eq hholds h]
    exact hfits
  refine ⟨?_, ?_⟩
  · rw [storedNext, if_pos hthere, tableEnd_eq hholds h, hslice, order.decode_encode h.next_lt]
  · rw [placeBehind, if_pos hthere, tableEnd_eq hholds h, tableEnd_add_fieldWidth]

/-- A written directory is there in all its parts. -/
theorem readable_of_holds (hsize : data.size < positionBound) :
    Readable { layout } data ⟨order, offset⟩ where
  count_inside := by
    have hfits := (holds_parts hholds).1.fits
    rwa [ByteOrder.length_encode] at hfits
  count_le := by
    rw [storedCount_eq hholds h]
    exact h.length_le
  table_inside := by
    have hfits := (holds_parts hholds).2.1.fits
    rw [length_records] at hfits
    rwa [tableEnd_eq hholds h]
  values_fit := by
    rw [storedRecords_eq hholds h]
    intro record hrecord
    obtain ⟨entry, hmem, rfl⟩ := List.mem_map.1 hrecord
    exact Entry.fits_toRecord (h.of_mem_placedAt hmem).1 (lies_of_mem_placedAt hholds hmem)
      (h.position_lt entry hmem) hsize

/-- Entering the record of a placed entry is putting the entry. -/
theorem enter_toRecord (directory : Directory)
    (hmem : entry ∈ placedAt layout order offset entries) :
    directory.enter { layout } data order (entry.toRecord layout order) = directory.put entry := by
  have hfilled := (h.of_mem_placedAt hmem).1
  have hentry := Entry.entry_toRecord hfilled (lies_of_mem_placedAt hholds hmem)
    (h.position_lt entry hmem)
  have hcode : ElementType.ofCode? (entry.toRecord layout order).code = _ := hfilled.ofCode?_eq
  simp only [enter, put, hentry, hcode]
  cases htype : entry.type with
  | known type => rfl
  | unknown code =>
    have hwarning : (entry.toRecord layout order).code = code := by
      rw [Entry.toRecord, htype, FieldType.code]
    rw [hwarning]
    rfl

/-- The directory that is found holds the placed entries. -/
theorem stored_eq_foldl_put (number : Nat) : stored { layout } number data ⟨order, offset⟩ =
    (placedAt layout order offset entries).foldl put { number, offset, next } := by
  rw [stored, storedRecords_eq hholds h, (storedNext_eq hholds h).1, List.foldl_map]
  exact List.foldl_ext _ _ _ fun directory entry hmem => enter_toRecord hholds h directory hmem

end Written

/-- A directory that was written at `offset` of a source is read back from there: number, position
and next position are those that were written, and the entries are inserted in their order, each
with the position of its values if they are behind the table. Entries of unknown type add warnings
about their types, and nothing else differs from inserting. Positions have 64 bits, so the source is
shorter than they can count. -/
theorem read_encode {ρ : Type} [Reader ρ] [LawfulReader ρ]
    (h : Writable layout order offset next entries)
    (hholds : Holds data offset (encode layout order offset next entries))
    (hsize : data.size < positionBound) (number : Nat) {cursor : Cursor ρ}
    (hcursor : cursor.Stands data ⟨order, offset⟩) :
    let placed := placedAt layout order offset entries
    let directory := placed.foldl put { number, offset, next }
    (∃ cursor', cursor.run (read { layout, policy := .preserve } number) =
        (.ok directory, cursor') ∧
      cursor'.Stands data ⟨order, offset + layout.directoryWidth entries.length⟩) ∧
    directory.withoutTypeWarnings =
      placed.foldl (fun directory entry => (directory.insert entry).1)
        { number, offset, next } ∧
    placed.map Entry.unplaced = entries.map Entry.unplaced ∧
    ∀ entry ∈ placed, entry.Lies layout order data := by
  intro placed directory
  refine ⟨?_, withoutTypeWarnings_foldl_put _ _, Entry.map_unplaced_placed _ _ _ _,
    fun entry hmem => lies_of_mem_placedAt hholds hmem⟩
  have hreadable := readable_of_holds hholds h hsize
  obtain ⟨cursor', hrun, hcursor'⟩ :=
    Runs.readDirectory (ρ := ρ) { layout } number hreadable cursor hcursor
  rw [stored_eq_foldl_put hholds h] at hrun
  rw [(storedNext_eq hholds h).2] at hcursor'
  exact ⟨cursor', hrun, hcursor'⟩

/-- Two numbers, a fraction, a number under the tag of the first two, bytes of unknown type, and a
text with a character behind the seven-bit ones. -/
def sampleEntries : List Entry := [
  { tag := 258, type := .known .short, count := 2, value := .shorts [8, 9] },
  { tag := 282, type := .known .rational, count := 1, value := .rationals [⟨72, 1⟩] },
  { tag := 258, type := .known .short, count := 1, value := .shorts [16] },
  { tag := 700, type := .unknown 99, count := 5, value := .raw 99 [1, 2, 3, 4] },
  { tag := 305, type := .known .ascii, count := 5, value := .ascii "caf\u00e9\x00" }]

/-- The sample behind three other bytes, and with two more behind it. -/
def sampleSource : Bytes :=
  ([9, 9, 9] ++ encode .classic .big 3 500 sampleEntries ++ [7, 7]).toArray

/-- A cursor where the sample was written. -/
def sampleStart : Cursor MemoryReader where
  reader := { data := sampleSource, position := 3 }
  order := .big
  position := 3
  length := sampleSource.size

/-- The sample is read back. The later number takes the place of the earlier ones, and the fraction
and the text are found behind the table, where they were written. -/
theorem read_encode_sample :
    Writable .classic .big 3 500 sampleEntries ∧
      ∃ (directory : Directory) (cursor' : Cursor MemoryReader),
        sampleStart.run (read {} 2) = (.ok directory, cursor') ∧
        directory.next = 500 ∧
        directory.entries.map (fun entry => (entry.tag, entry.valueOffset, entry.value)) =
          [(258, none, .shorts [16]), (282, some 69, .rationals [⟨72, 1⟩]),
            (700, none, .raw 99 [1, 2, 3, 4]), (305, some 77, .ascii "caf\u00e9\x00")] ∧
        directory.warnings = [.duplicateTag 258, .unsupportedType 700 99] := by
  have hwritable : Writable .classic .big 3 500 sampleEntries := by
    refine ⟨by decide, ?_, by decide, by decide +kernel, by decide⟩
    intro entry hentry
    simp only [sampleEntries, List.mem_cons, List.not_mem_nil, or_false] at hentry
    rcases hentry with rfl | rfl | rfl | rfl | rfl
    · exact .known 258 none (.short [8, 9])
    · exact .known 282 none (.rational [⟨72, 1⟩])
    · exact .known 258 none (.short [16])
    · exact .unknown 700 5 none (by decide) rfl
    · exact .known 305 none (.ascii "caf\u00e9\x00" (by simp))
  have hholds : Holds sampleSource 3 (encode .classic .big 3 500 sampleEntries) :=
    ⟨by decide +kernel, by decide +kernel⟩
  have hsize : sampleSource.size < positionBound := by decide +kernel
  have hstart : sampleStart.Stands sampleSource ⟨.big, 3⟩ := ⟨⟨rfl, rfl⟩, rfl, rfl, rfl⟩
  obtain ⟨⟨cursor', hrun, -⟩, -⟩ := read_encode hwritable hholds hsize 2 hstart
  exact ⟨hwritable, _, cursor', hrun, by decide +kernel, by decide +kernel, by decide +kernel⟩

end Directory

end Georef.Tiff
