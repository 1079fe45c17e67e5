import Georef.Proofs.Tiff.StoredValues

/-!
# Directories as they are stored

What a directory holds is determined by the bytes of its source: its records lie one behind the
other, and each record says where its values are. This module says so without a cursor and shows
that reading finds just this, and fails just where a part of it is missing.

The module introduces:

* `Record.stored`, `storedRecords` — the records of the directory at a place.
* `Record.entry`, `Directory.enter` — the entry of a record, and entering it.
* `Readable options data place` — the count, the table and the values of the directory are there;
  `Record.Fits` says so for the values of one record.
* `Directory.stored`, `placeBehind` — the directory, and the place behind it.
* `Directory.read_eq_stored` — reading succeeds on the readable directories, and gives these.
-/

namespace Georef.Tiff

open Cursor (Action Fails Place Runs Stands)

/-! ## What is stored -/

/-- The record at a position. -/
def Record.stored (layout : Layout) (data : Bytes) (order : ByteOrder) (position : Nat) :
    Record where
  tag := FixedWidth.decode order (data.slice position 2).toList
  code := FixedWidth.decode order (data.slice (position + 2) 2).toList
  count := order.decode (data.slice (position + 4) layout.fieldWidth).toList
  field := data.slice (position + 4 + layout.fieldWidth) layout.fieldWidth

/-- The number of records of the directory at a place. -/
def storedCount (layout : Layout) (data : Bytes) (place : Place) : Nat :=
  place.order.decode (data.slice place.position layout.countWidth).toList

/-- Where the records of the directory at a place end. -/
def tableEnd (layout : Layout) (data : Bytes) (place : Place) : Nat :=
  place.position + layout.countWidth + storedCount layout data place * layout.recordWidth

/-- The records of the directory at a place, in order. -/
def storedRecords (layout : Layout) (data : Bytes) (place : Place) : List Record :=
  (List.range (storedCount layout data place)).map fun i =>
    Record.stored layout data place.order
      (place.position + layout.countWidth + i * layout.recordWidth)

/-- Whether the position of the next directory is there. -/
def hasNext (layout : Layout) (data : Bytes) (place : Place) : Prop :=
  tableEnd layout data place + layout.fieldWidth ≤ data.size

instance (layout : Layout) (data : Bytes) (place : Place) :
    Decidable (hasNext layout data place) :=
  inferInstanceAs (Decidable (_ ≤ _))

/-- The position of the next directory, zero if it is not there. -/
def storedNext (layout : Layout) (data : Bytes) (place : Place) : Nat :=
  if hasNext layout data place then
    place.order.decode (data.slice (tableEnd layout data place) layout.fieldWidth).toList
  else 0

/-- The place behind the position of the next directory, or behind the records if it is not
there. -/
def placeBehind (layout : Layout) (data : Bytes) (place : Place) : Place where
  order := place.order
  position :=
    if hasNext layout data place then tableEnd layout data place + layout.fieldWidth
    else tableEnd layout data place

/-! ## What it says -/

namespace Record

/-- The bytes that the values of a record take, if its type is known. -/
def size (record : Record) (type : ElementType) : Nat :=
  type.width * record.count

/-- Where the values of a record are stored if they do not fit its field. -/
def offset (record : Record) (order : ByteOrder) : Nat :=
  order.decode record.field.toList

/-- `record.Fits layout data order`: if the type of the record is known then the size of its values
can be counted, and they are in its field or inside the source. -/
def Fits (layout : Layout) (data : Bytes) (order : ByteOrder) (record : Record) : Prop :=
  ∀ type, ElementType.ofCode? record.code = some type →
    record.size type < sizeBound ∧
      (record.size type ≤ layout.fieldWidth ∨
        record.offset order + record.size type ≤ data.size)

instance (layout : Layout) (data : Bytes) (order : ByteOrder) (record : Record) :
    Decidable (record.Fits layout data order) :=
  match htype : ElementType.ofCode? record.code with
  | none => .isTrue fun _ hsome => absurd (htype.symm.trans hsome) (nomatch ·)
  | some type =>
    decidable_of_iff
      (record.size type < sizeBound ∧
        (record.size type ≤ layout.fieldWidth ∨ record.offset order + record.size type ≤ data.size))
      ⟨fun h _ hsome => Option.some.inj (htype.symm.trans hsome) ▸ h, fun h => h type htype⟩

/-- The entry of a record. -/
def entry (options : Options) (data : Bytes) (order : ByteOrder) (record : Record) : Entry :=
  match ElementType.ofCode? record.code with
  | none =>
    { tag := record.tag, type := .unknown record.code, count := record.count
      value := .raw record.code record.field.toList }
  | some type =>
    let size := record.size type
    if size ≤ options.layout.fieldWidth then
      let stored := record.field.slice 0 size
      { tag := record.tag, type := .known type, count := record.count
        value := .ofStored options.policy order record.count stored type }
    else
      let offset := record.offset order
      let stored := data.slice offset size
      { tag := record.tag, type := .known type, count := record.count, valueOffset := some offset
        value := .ofStored options.policy order record.count stored type }

end Record

namespace Directory

/-- The directory with the entry of a record. A record of unknown type is entered with a warning. -/
def enter (options : Options) (data : Bytes) (order : ByteOrder) (directory : Directory)
    (record : Record) : Directory :=
  let entry := record.entry options data order
  match ElementType.ofCode? record.code with
  | none => ((directory.warn (.unsupportedType record.tag record.code)).insert entry).1
  | some _ => (directory.insert entry).1

/-- The directory that is stored at a place. -/
def stored (options : Options) (number : Nat) (data : Bytes) (place : Place) : Directory :=
  (storedRecords options.layout data place).foldl (enter options data place.order)
    { number, offset := place.position, next := storedNext options.layout data place }

end Directory

/-- `Readable options data place`: what the directory at a place consists of is there. -/
structure Readable (options : Options) (data : Bytes) (place : Place) : Prop where
  /-- The number of records is in the source. -/
  count_inside : place.position + options.layout.countWidth ≤ data.size
  count_le : storedCount options.layout data place ≤ maxEntries
  /-- The records are in the source. -/
  table_inside : tableEnd options.layout data place ≤ data.size
  /-- The values of every record are in its field or in the source. -/
  values_fit : ∀ record ∈ storedRecords options.layout data place,
    record.Fits options.layout data place.order

/-! ## Reading records -/

variable {ρ : Type} [Reader ρ] [LawfulReader ρ] {data : Bytes} {start : Place}

/-- A record is read as it is stored. -/
theorem Runs.readRecord (layout : Layout) (h : start.position + layout.recordWidth ≤ data.size) :
    Runs (ρ := ρ) data start (Record.read layout)
      (.ok (Record.stored layout data start.order start.position))
      (start.advance layout.recordWidth) := by
  have hwidth : layout.recordWidth = 4 + 2 * layout.fieldWidth := rfl
  -- the four parts of a record lie one behind the other
  let second := start.advance 2
  let third := second.advance 2
  let fourth := third.advance layout.fieldWidth
  have hsecond : second.position = start.position + 2 := rfl
  have hthird : third.position = start.position + 4 := rfl
  have hfourth : fourth.position = start.position + 4 + layout.fieldWidth := rfl
  have htag : Runs (ρ := ρ) data start (Cursor.next UInt16) _ second :=
    Runs.next UInt16 (show start.position + 2 ≤ data.size by omega)
  have hcode : Runs (ρ := ρ) data second (Cursor.next UInt16) _ third :=
    Runs.next UInt16 (show second.position + 2 ≤ data.size by omega)
  have hcount : Runs (ρ := ρ) data third (Tiff.natural layout.fieldWidth) _ fourth :=
    Runs.natural (by omega)
  have hfield : Runs (ρ := ρ) data fourth (Cursor.bytes layout.fieldWidth) _
      (fourth.advance layout.fieldWidth) :=
    Runs.bytes (by omega)
  have hend : fourth.advance layout.fieldWidth = start.advance layout.recordWidth := by
    simp only [fourth, third, second, Place.advance_advance]
    congr 1
    omega
  rw [← hend]
  exact htag.bind (hcode.bind (hcount.bind (hfield.bind (Runs.pure _))))

/-- The records of a directory are read in order. -/
theorem Runs.readRecords (layout : Layout) (h : tableEnd layout data start ≤ data.size) :
    Runs (ρ := ρ) data (start.advance layout.countWidth)
      (Cursor.times (storedCount layout data start) (Record.read layout))
      (.ok (storedRecords layout data start)) ⟨start.order, tableEnd layout data start⟩ := by
  -- records have one width, so the place of each is known beforehand
  let place (i : Nat) : Place :=
    ⟨start.order, start.position + layout.countWidth + i * layout.recordWidth⟩
  have hone : ∀ i < storedCount layout data start, Runs (ρ := ρ) data (place i) (Record.read layout)
      (.ok (Record.stored layout data start.order
        (start.position + layout.countWidth + i * layout.recordWidth))) (place (i + 1)) := by
    intro i hi
    have hfit : (i + 1) * layout.recordWidth ≤ storedCount layout data start * layout.recordWidth :=
      Nat.mul_le_mul_right _ hi
    rw [tableEnd] at h
    have hinside : (place i).position + layout.recordWidth ≤ data.size := by
      rw [Nat.add_mul, Nat.one_mul] at hfit
      show start.position + layout.countWidth + i * layout.recordWidth + layout.recordWidth ≤ _
      omega
    have hrun := Runs.readRecord (ρ := ρ) layout hinside
    have hnext : (place i).advance layout.recordWidth = place (i + 1) := by
      simp only [place, Place.advance, Nat.add_mul, Nat.one_mul, Nat.add_assoc]
    rwa [hnext] at hrun
  have hplace : place 0 = start.advance layout.countWidth := by
    simp only [place, Place.advance, Nat.zero_mul, Nat.add_zero]
  rw [← hplace]
  exact Runs.times place _ hone

/-- The field of a record inside the source is as wide as the layout says. -/
theorem size_field_stored {layout : Layout} {order : ByteOrder} {position : Nat}
    (h : position + layout.recordWidth ≤ data.size) :
    (Record.stored layout data order position).field.size = layout.fieldWidth := by
  have hwidth : layout.recordWidth = 4 + 2 * layout.fieldWidth := rfl
  rw [Record.stored, Bytes.size_slice]
  omega

/-- The fields of the records of a table inside the source are as wide as the layout says. -/
theorem size_field_of_mem {layout : Layout} {record : Record}
    (h : tableEnd layout data start ≤ data.size) (hmem : record ∈ storedRecords layout data start) :
    record.field.size = layout.fieldWidth := by
  obtain ⟨i, hi, rfl⟩ := List.mem_map.1 hmem
  have hfit : (i + 1) * layout.recordWidth ≤ storedCount layout data start * layout.recordWidth :=
    Nat.mul_le_mul_right _ (List.mem_range.1 hi)
  rw [tableEnd] at h
  rw [Nat.add_mul, Nat.one_mul] at hfit
  exact size_field_stored (by omega)

/-! ## Reading values -/

section Values

variable {options : Options} {record : Record} {type : ElementType}

/-- Values that fit the field of their record are read from there. -/
theorem Runs.value_of_le (hfield : record.field.size = options.layout.fieldWidth)
    (hbound : record.size type < sizeBound)
    (hinline : record.size type ≤ options.layout.fieldWidth) :
    Runs (ρ := ρ) data start (record.value options type)
      (.ok (.ofStored options.policy start.order record.count
        (record.field.slice 0 (record.size type)) type, none)) start := by
  have hcounted : ¬sizeBound ≤ type.width * record.count := Nat.not_le.2 hbound
  have hheld : type.width * record.count ≤ record.field.size := hfield ▸ hinline
  unfold Record.value
  rw [if_neg hcounted, if_pos hheld]
  -- the field is read by a cursor of its own, over the field alone
  have hload : Runs (ρ := MemoryReader) record.field ⟨start.order, 0⟩
      (Value.load record.count options.policy type) _ _ :=
    Runs.load options.policy type (by rw [Nat.zero_add]; exact hheld)
  exact (Runs.within hload).bind (Runs.pure _)

/-- Values that do not fit the field of their record are read from where it says they are. -/
theorem Runs.value_of_lt (hfield : record.field.size = options.layout.fieldWidth)
    (hstart : start.position ≤ data.size) (hbound : record.size type < sizeBound)
    (houtside : options.layout.fieldWidth < record.size type)
    (hinside : record.offset start.order + record.size type ≤ data.size) :
    Runs (ρ := ρ) data start (record.value options type)
      (.ok (.ofStored options.policy start.order record.count
        (data.slice (record.offset start.order) (record.size type)) type,
        some (record.offset start.order))) start := by
  have hcounted : ¬sizeBound ≤ type.width * record.count := Nat.not_le.2 hbound
  have hheld : ¬type.width * record.count ≤ record.field.size := by
    rw [hfield]
    exact Nat.not_le.2 houtside
  unfold Record.value
  rw [if_neg hcounted, if_neg hheld]
  have hload : Runs (ρ := ρ) data ⟨start.order, record.offset start.order⟩
      (Value.load record.count options.policy type) _ _ :=
    Runs.load options.policy type hinside
  refine Runs.get_bind fun cursor hcursor => ?_
  rw [hcursor.order_eq]
  exact (Runs.ensureRange hinside).bind
    ((Runs.atOffset hstart (by omega) hload).bind (Runs.pure _))

/-- Values that cannot be counted, or are not in the source, are refused. -/
theorem Runs.value_of_not_fits (hfield : record.field.size = options.layout.fieldWidth)
    (hunfit : ¬(record.size type < sizeBound ∧ (record.size type ≤ options.layout.fieldWidth ∨
      record.offset start.order + record.size type ≤ data.size))) :
    Fails (ρ := ρ) data start (record.value options type) := by
  unfold Record.value
  -- either the size cannot be counted, or the values lie past the end of the source
  by_cases hbound : sizeBound ≤ type.width * record.count
  · rw [if_pos hbound]
    exact (Runs.throw _).fails.bind
  · have hcounted : record.size type < sizeBound := Nat.not_le.1 hbound
    have houtside : ¬type.width * record.count ≤ record.field.size := fun h =>
      hunfit ⟨hcounted, .inl (hfield ▸ h)⟩
    have hshort : data.size < record.offset start.order + record.size type :=
      Nat.not_le.1 fun h => hunfit ⟨hcounted, .inr h⟩
    rw [if_neg hbound, if_neg houtside]
    refine ⟨.endOfData (record.offset start.order) (record.size type)
      (data.size - record.offset start.order), start, Runs.get_bind fun cursor hcursor => ?_⟩
    rw [hcursor.order_eq]
    exact (Runs.ensureRange_of_lt hshort).bind_error

/-- The entry of a record whose values are there is added as it is stored. -/
theorem Runs.addRecord (directory : Directory)
    (hfield : record.field.size = options.layout.fieldWidth) (hstart : start.position ≤ data.size)
    (hfits : record.Fits options.layout data start.order) :
    Runs (ρ := ρ) data start (directory.addRecord options record)
      (.ok (directory.enter options data start.order record)) start := by
  unfold Directory.addRecord Directory.enter Record.entry FieldType.ofCode
  cases htype : ElementType.ofCode? record.code with
  | none => exact Runs.pure _
  | some type =>
    obtain ⟨hbound, hinside⟩ := hfits type htype
    -- values that fit the field are in it, wherever its bytes might point to
    by_cases hinline : record.size type ≤ options.layout.fieldWidth
    · simp only [if_pos hinline]
      exact (Runs.value_of_le hfield hbound hinline).bind (Runs.pure _)
    · have hstored := hinside.resolve_left hinline
      simp only [if_neg hinline]
      exact (Runs.value_of_lt hfield hstart hbound (Nat.not_le.1 hinline) hstored).bind
        (Runs.pure _)

/-- A record whose values are not there stops the reading. -/
theorem Runs.addRecord_of_not_fits (directory : Directory)
    (hfield : record.field.size = options.layout.fieldWidth)
    (hunfit : ¬record.Fits options.layout data start.order) :
    Fails (ρ := ρ) data start (directory.addRecord options record) := by
  unfold Directory.addRecord FieldType.ofCode
  simp only [Record.Fits, not_forall] at hunfit
  obtain ⟨type, htype, hunfit⟩ := hunfit
  simp only [htype]
  exact (Runs.value_of_not_fits hfield hunfit).bind

/-- Records whose values are all there are added one after the other. -/
theorem Runs.addRecords {records : List Record} (directory : Directory)
    (hfields : ∀ record ∈ records, record.field.size = options.layout.fieldWidth)
    (hstart : start.position ≤ data.size)
    (hfits : ∀ record ∈ records, record.Fits options.layout data start.order) :
    Runs (ρ := ρ) data start (records.foldlM (Directory.addRecord options) directory)
      (.ok (records.foldl (Directory.enter options data start.order) directory)) start := by
  induction records generalizing directory with
  | nil => exact Runs.pure _
  | cons record rest ih =>
    rw [List.foldlM_cons]
    exact (Runs.addRecord directory (hfields record List.mem_cons_self) hstart
      (hfits record List.mem_cons_self)).bind
      (ih _ (fun other hmem => hfields other (List.mem_cons_of_mem _ hmem))
        fun other hmem => hfits other (List.mem_cons_of_mem _ hmem))

/-- One record whose values are not there suffices to stop the reading. -/
theorem Runs.addRecords_of_not_fits {records : List Record} (directory : Directory)
    (hfields : ∀ record ∈ records, record.field.size = options.layout.fieldWidth)
    (hstart : start.position ≤ data.size)
    (hunfit : ¬∀ record ∈ records, record.Fits options.layout data start.order) :
    Fails (ρ := ρ) data start (records.foldlM (Directory.addRecord options) directory) := by
  induction records generalizing directory with
  | nil => exact absurd (fun _ hmem => absurd hmem List.not_mem_nil) hunfit
  | cons record rest ih =>
    rw [List.foldlM_cons]
    by_cases hfits : record.Fits options.layout data start.order
    · -- the first record that does not fit comes later
      have hrest : ¬∀ other ∈ rest, other.Fits options.layout data start.order := fun h =>
        hunfit (List.forall_mem_cons.2 ⟨hfits, h⟩)
      have hhead := Runs.addRecord (ρ := ρ) directory (hfields record List.mem_cons_self) hstart
        hfits
      exact hhead.bind_fails
        (ih _ (fun other hmem => hfields other (List.mem_cons_of_mem _ hmem)) hrest)
    · exact (Runs.addRecord_of_not_fits directory (hfields record List.mem_cons_self) hfits).bind

end Values

/-! ## Reading a directory -/

theorem position_placeBehind_le {layout : Layout} (h : tableEnd layout data start ≤ data.size) :
    (placeBehind layout data start).position ≤ data.size := by
  unfold placeBehind
  by_cases hnext : hasNext layout data start
  · rw [if_pos hnext]
    exact hnext
  · rw [if_neg hnext]
    exact h

/-- Behind the records the position of the next directory is read if it is there, and else taken to
be zero; what is done then starts behind it. -/
theorem Runs.next_bind {β : Type} {layout : Layout} {rest : Nat → Action ρ β}
    {outcome : Except Error β} {finish : Place} (h : tableEnd layout data start ≤ data.size)
    (hrest : Runs data (placeBehind layout data start) (rest (storedNext layout data start)) outcome
      finish) :
    Runs data ⟨start.order, tableEnd layout data start⟩
      (do
        if layout.fieldWidth ≤ (← get).remaining then
          let next ← Tiff.natural layout.fieldWidth
          rest next
        else
          let next ← pure 0
          rest next)
      outcome finish := by
  refine Runs.get_bind fun cursor hcursor => ?_
  -- whether it is there is seen from the number of bytes that are left
  have hleft : cursor.remaining = data.size - tableEnd layout data start := by
    rw [Cursor.remaining, hcursor.length_eq, hcursor.position_eq]
  unfold storedNext placeBehind at hrest
  by_cases hnext : hasNext layout data start
  · have hbehind : tableEnd layout data start + layout.fieldWidth ≤ data.size := hnext
    rw [if_pos hnext, if_pos hnext] at hrest
    rw [if_pos (by omega)]
    exact (Runs.natural hbehind).bind hrest
  · have hshort : ¬tableEnd layout data start + layout.fieldWidth ≤ data.size := hnext
    rw [if_neg hnext, if_neg hnext] at hrest
    rw [if_neg (by omega)]
    exact (Runs.pure 0).bind hrest

/-- A directory that is there is read as it is stored. -/
theorem Runs.readDirectory (options : Options) (number : Nat) (h : Readable options data start) :
    Runs (ρ := ρ) data start (Directory.read options number)
      (.ok (Directory.stored options number data start))
      (placeBehind options.layout data start) := by
  have hbehind := position_placeBehind_le h.table_inside
  have hcount : ¬maxEntries < start.order.decode
      (data.slice start.position options.layout.countWidth).toList := Nat.not_lt.2 h.count_le
  let empty : Directory :=
    { number, offset := start.position, next := storedNext options.layout data start }
  -- values are read from elsewhere, so the cursor stays behind the table meanwhile
  have hrecords : Runs (ρ := ρ) data (placeBehind options.layout data start)
      ((storedRecords options.layout data start).foldlM (Directory.addRecord options) empty) _
      (placeBehind options.layout data start) :=
    Runs.addRecords empty (fun record hmem => size_field_of_mem h.table_inside hmem) hbehind
      h.values_fit
  refine Runs.here.bind ((Runs.natural h.count_inside).bind ?_)
  rw [if_neg hcount]
  refine Runs.here.bind ((Runs.ensureRange h.table_inside).bind ?_)
  refine (Runs.readRecords options.layout h.table_inside).bind (Runs.next_bind h.table_inside ?_)
  exact Runs.here.bind (hrecords.bind ((Runs.seek hbehind).bind (Runs.pure _)))

/-- A directory that is not there is refused. -/
theorem Runs.readDirectory_of_not_readable (options : Options) (number : Nat)
    (h : ¬Readable options data start) :
    Fails (ρ := ρ) data start (Directory.read options number) := by
  refine Runs.here.bind_fails ?_
  -- the first part that is missing stops the reading: count, table or values
  by_cases hinside : start.position + options.layout.countWidth ≤ data.size
  · refine (Runs.natural hinside).bind_fails ?_
    by_cases hcount : maxEntries < start.order.decode
        (data.slice start.position options.layout.countWidth).toList
    · rw [if_pos hcount]
      exact (Runs.throw _).fails.bind
    · rw [if_neg hcount]
      refine Runs.here.bind_fails ?_
      by_cases htable : tableEnd options.layout data start ≤ data.size
      · have hunfit : ¬∀ record ∈ storedRecords options.layout data start,
            record.Fits options.layout data start.order :=
          fun hfits => h ⟨hinside, Nat.not_lt.1 hcount, htable, hfits⟩
        let empty : Directory :=
          { number, offset := start.position, next := storedNext options.layout data start }
        have hrecords : Fails (ρ := ρ) data (placeBehind options.layout data start)
            ((storedRecords options.layout data start).foldlM (Directory.addRecord options)
              empty) :=
          Runs.addRecords_of_not_fits empty (fun record hmem => size_field_of_mem htable hmem)
            (position_placeBehind_le htable) hunfit
        obtain ⟨fault, finish, hrecords⟩ := hrecords
        refine (Runs.ensureRange htable).bind_fails ?_
        refine (Runs.readRecords options.layout htable).bind_fails ?_
        exact (Runs.next_bind htable (Runs.here.bind hrecords.bind_error)).fails
      · exact (Runs.ensureRange_of_lt (Nat.not_le.1 htable)).fails.bind
  · have hwidth : 0 < options.layout.countWidth := by
      cases options.layout <;> decide
    exact (Runs.natural_of_lt (by omega)).fails.bind

/-- `Directory.read` succeeds exactly on the readable directories. It then gives the directory that
is stored at the place of the cursor and leaves the cursor behind it. -/
theorem Directory.read_eq_stored (options : Options) (number : Nat) {cursor : Cursor ρ}
    (h : cursor.Stands data start) :
    ((∃ directory, (cursor.run (read options number)).1 = .ok directory) ↔
      Readable options data start) ∧
    (Readable options data start →
      ∃ cursor', cursor.run (read options number) =
          (.ok (stored options number data start), cursor') ∧
        cursor'.Stands data (placeBehind options.layout data start)) := by
  have hok : Readable options data start → _ := fun hreadable =>
    Runs.readDirectory (ρ := ρ) options number hreadable cursor h
  refine ⟨⟨fun hsome => ?_, fun hreadable => ?_⟩, hok⟩
  -- a directory that is not readable fails from every cursor, so also from this one
  · by_contra hunreadable
    obtain ⟨directory, hdirectory⟩ := hsome
    obtain ⟨fault, finish, hfails⟩ :=
      Runs.readDirectory_of_not_readable (ρ := ρ) options number hunreadable
    obtain ⟨cursor', hrun, -⟩ := hfails cursor h
    rw [hrun] at hdirectory
    cases hdirectory
  · obtain ⟨cursor', hrun, -⟩ := hok hreadable
    exact ⟨_, congrArg Prod.fst hrun⟩

/-- A directory of three records in the classic layout: two numbers in the field, a fraction behind
the table, and a record of unknown type. -/
def sampleDirectory : Bytes := #[
  3, 0,
  1, 1, 3, 0, 2, 0, 0, 0, 128, 2, 8, 0,
  26, 1, 5, 0, 1, 0, 0, 0, 42, 0, 0, 0,
  188, 2, 99, 0, 5, 0, 0, 0, 1, 2, 3, 4,
  0, 0, 0, 0,
  72, 0, 0, 0, 1, 0, 0, 0]

/-- A cursor at the start of the sample. -/
def sampleCursor : Cursor MemoryReader where
  reader := { data := sampleDirectory }
  order := .little
  position := 0
  length := 50

/-- The sample is read from memory. Its fraction is 72/1; its tags are found in order. -/
theorem Directory.read_eq_stored_sample :
    sampleCursor.Stands sampleDirectory ⟨.little, 0⟩ ∧
      Readable {} sampleDirectory ⟨.little, 0⟩ ∧
      (stored {} 0 sampleDirectory ⟨.little, 0⟩).entries.map
          (fun entry => (entry.tag, entry.valueOffset, entry.value)) =
        [(257, none, .shorts [640, 8]), (282, some 42, .rationals [⟨72, 1⟩]),
          (700, none, .raw 99 [1, 2, 3, 4])] ∧
      ∃ cursor', sampleCursor.run (read {} 0) =
          (.ok (stored {} 0 sampleDirectory ⟨.little, 0⟩), cursor') ∧
        cursor'.Stands sampleDirectory ⟨.little, 42⟩ := by
  have hstands : sampleCursor.Stands sampleDirectory ⟨.little, 0⟩ := ⟨⟨rfl, rfl⟩, rfl, rfl, rfl⟩
  have hreadable : Readable {} sampleDirectory ⟨.little, 0⟩ :=
    ⟨by decide, by decide, by decide, by decide +kernel⟩
  have hbehind : placeBehind .classic sampleDirectory ⟨.little, 0⟩ = ⟨.little, 42⟩ := by
    decide
  obtain ⟨cursor', hrun, hcursor'⟩ := (read_eq_stored {} 0 hstands).2 hreadable
  exact ⟨hstands, hreadable, by decide +kernel, cursor', hrun, hbehind ▸ hcursor'⟩

end Georef.Tiff
