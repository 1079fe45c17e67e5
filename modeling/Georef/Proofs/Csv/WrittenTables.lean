import Georef.Csv.Table
import Georef.Csv.Writing
import Georef.Proofs.TextBytes
import Mathlib.Tactic.Common

/-!
# Tables that are read back as they were written

A field may hold anything: commas, quotes, line ends. What is special in a table is told from what
is in a field by the quotes around it, and by nothing else, since the bytes of a character that
takes more than one of them are never those of a comma, a quote or a line end. So the fields of a
table are found again in what was written, record by record.

A record of a single empty field would be written as an empty line, which does not count. Records of
two fields and more hold a comma at least.

The module introduces:

* `IsPlain byte` — the byte is neither a comma nor a quote nor a line end.
* `Scan.Front`, `Scan.Behind` — a reading in front of a field, and one that has read it since.
* `Scan.foldl_writeField`, `Scan.foldl_writeRecord`, `Scan.foldl_writeRecords` — reading what was
  written.
* `Table.ofBytes_write` — the table of a header with its rows.
-/

namespace Georef

namespace Csv

/-! ## Bytes -/

/-- `IsPlain byte`: the byte is neither a comma nor a quote nor a line end. -/
def IsPlain (byte : UInt8) : Prop :=
  byte ≠ Scan.comma ∧ byte ≠ Scan.quote ∧ Scan.isLineEnd byte = false

/-- The bytes of a character that needs no quotes are plain. -/
theorem isPlain_of_mem {c : Char} {byte : UInt8} (hc : ¬(c = ',' ∨ c = '"' ∨ c = '\r' ∨ c = '\n'))
    (h : byte ∈ String.utf8EncodeChar c) : IsPlain byte := by
  have hspecial : ∀ special : Char, special.toNat < 128 → c ≠ special →
      byte.toNat ≠ special.toNat := by
    intro special hseven hne heq
    -- a byte of seven bits is the code point of the character itself
    obtain heq' | hhigh := eq_or_le_of_mem_utf8EncodeChar h
    · exact hne (Char.toNat_inj.1 (heq'.symm.trans heq))
    · omega
  simp only [not_or] at hc
  obtain ⟨hcomma, hquote, hreturn, hfeed⟩ := hc
  refine ⟨?_, ?_, ?_⟩
  · rintro rfl
    exact hspecial ',' (by decide) hcomma rfl
  · rintro rfl
    exact hspecial '"' (by decide) hquote rfl
  · rw [Scan.isLineEnd, Bool.or_eq_false_iff, beq_eq_false_iff_ne, beq_eq_false_iff_ne]
    constructor
    · rintro rfl
      exact hspecial '\n' (by decide) hfeed rfl
    · rintro rfl
      exact hspecial '\r' (by decide) hreturn rfl

/-- A byte of a character other than a quote is not that of a quote. -/
theorem ne_quote_of_mem {c : Char} {byte : UInt8} (hc : c ≠ '"')
    (h : byte ∈ String.utf8EncodeChar c) : byte ≠ Scan.quote := by
  rintro rfl
  obtain heq | hhigh := eq_or_le_of_mem_utf8EncodeChar h
  · exact hc (Char.toNat_inj.1 heq.symm)
  · exact absurd hhigh (by decide)

/-- The bytes of a record: its fields, with commas between them and a line feed behind the last. -/
theorem toList_writeRecord (first : String) (rest : List String) :
    (Bytes.ofText (writeRecord (first :: rest))).toList =
      (Bytes.ofText (writeField first)).toList ++
        match rest with
        | [] => [0x0A]
        | second :: others =>
          Scan.comma :: (Bytes.ofText (writeRecord (second :: others))).toList := by
  simp only [Bytes.toList_ofText_eq_flatMap, writeRecord, String.toList_append, List.map_cons,
    List.flatMap_append]
  have hcomma : String.utf8EncodeChar ',' = [Scan.comma] := rfl
  have hfeed : String.utf8EncodeChar '\n' = [0x0A] := rfl
  cases rest with
  | nil => simp [hfeed]
  | cons second others => simp [String.toList_intercalate, List.intercalate, hcomma]

/-- The bytes of a table: its records one behind the other. -/
theorem toList_writeRecords (fields : List String) (records : List (List String)) :
    (Bytes.ofText (String.join ((fields :: records).map writeRecord))).toList =
      (Bytes.ofText (writeRecord fields)).toList ++
        (Bytes.ofText (String.join (records.map writeRecord))).toList := by
  simp only [Bytes.toList_ofText_eq_flatMap, String.toList_join, List.map_cons,
    List.flatMap_cons, List.flatMap_append]

/-! ## Reading a field -/

namespace Scan

/-- The reading is in front of a field. -/
structure Front (scan : Scan) : Prop where
  place : scan.place = .recordStart ∨ scan.place = .fieldStart
  field_eq : scan.field = []

/-- `Behind start field scan`: since `start`, which was in front of it, the field has been read, but
not what separates it from the next one. -/
structure Behind (start : Scan) (field : List UInt8) (scan : Scan) : Prop where
  place : scan.place ≠ .inQuotes
  started : scan.place = .recordStart → start.place = .recordStart
  field_eq : scan.field = field.reverse
  fields_eq : scan.fields = start.fields
  records_eq : scan.records = start.records

/-- Plain bytes go on with a field. -/
theorem foldl_plain {bytes : List UInt8} (hplain : ∀ byte ∈ bytes, IsPlain byte) {scan : Scan}
    (hplace : scan.place = .inField) :
    bytes.foldl step scan = { scan with field := bytes.reverse ++ scan.field } := by
  induction bytes generalizing scan with
  | nil => rfl
  | cons byte bytes ih =>
    obtain ⟨hbyte, hbytes⟩ := List.forall_mem_cons.1 hplain
    obtain ⟨hcomma, -, hend⟩ := hbyte
    have hstep : scan.step byte = scan.add .inField byte := by
      simp [step, plain, hplace, hcomma, hend]
    rw [List.foldl_cons, hstep, ih hbytes rfl]
    simp [add, hplace]

/-- Inside quotes everything but a quote goes on with a field. -/
theorem foldl_inQuotes {bytes : List UInt8} (hquote : ∀ byte ∈ bytes, byte ≠ quote) {scan : Scan}
    (hplace : scan.place = .inQuotes) :
    bytes.foldl step scan = { scan with field := bytes.reverse ++ scan.field } := by
  induction bytes generalizing scan with
  | nil => rfl
  | cons byte bytes ih =>
    obtain ⟨hbyte, hbytes⟩ := List.forall_mem_cons.1 hquote
    have hstep : scan.step byte = scan.add .inQuotes byte := by
      simp [step, hplace, hbyte]
    rw [List.foldl_cons, hstep, ih hbytes rfl]
    simp [add, hplace]

/-- Inside quotes a quote that is written twice goes on with a field too. -/
theorem foldl_doubled (chars : List Char) {scan : Scan} (hplace : scan.place = .inQuotes) :
    ((chars.flatMap fun c => if c = '"' then ['"', '"'] else [c]).flatMap
        String.utf8EncodeChar).foldl step scan =
      { scan with field := (chars.flatMap String.utf8EncodeChar).reverse ++ scan.field } := by
  induction chars generalizing scan with
  | nil => rfl
  | cons c chars ih =>
    have hc : ((if c = '"' then ['"', '"'] else [c]).flatMap String.utf8EncodeChar).foldl step
        scan = { scan with field := (String.utf8EncodeChar c).reverse ++ scan.field } := by
      split
      · rename_i hquote
        subst hquote
        -- the first of two quotes might close the field; the second one shows that it does not
        show (scan.step quote).step quote = { scan with field := quote :: scan.field }
        simp [step, hplace, add]
      · rename_i hne
        rw [List.flatMap_singleton]
        exact foldl_inQuotes (fun byte => ne_quote_of_mem hne) hplace
    rw [List.flatMap_cons, List.flatMap_append, List.foldl_append, hc, ih, List.flatMap_cons]
    · simp
    · exact hplace

variable {start scan : Scan} {field : List UInt8}

/-- Plain bytes are a field of their own. -/
theorem Front.behind_plain (h : start.Front) (hplain : ∀ byte ∈ field, IsPlain byte) :
    Behind start field (field.foldl step start) := by
  obtain ⟨hplace, hempty⟩ := h
  cases field with
  | nil =>
    -- an empty field is read by not moving
    refine ⟨?_, id, hempty, rfl, rfl⟩
    rcases hplace with hplace | hplace <;> simp [hplace]
  | cons byte bytes =>
    obtain ⟨hbyte, hrest⟩ := List.forall_mem_cons.1 hplain
    have hstep : start.step byte = start.add .inField byte := by
      obtain ⟨hcomma, hquote, hend⟩ := hbyte
      rcases hplace with hplace | hplace <;> simp [step, plain, hplace, hcomma, hquote, hend]
    rw [List.foldl_cons, hstep, foldl_plain hrest rfl]
    refine ⟨nofun, nofun, ?_, rfl, rfl⟩
    simp [add, hempty]

/-- Any characters are a field, with quotes around them and their own quotes written twice. -/
theorem Front.behind_quoted (h : start.Front) (chars : List Char) :
    Behind start (chars.flatMap String.utf8EncodeChar)
      ((quote :: ((chars.flatMap fun c => if c = '"' then ['"', '"'] else [c]).flatMap
        String.utf8EncodeChar) ++ [quote]).foldl step start) := by
  obtain ⟨hplace, hempty⟩ := h
  have hopen : start.step quote = { start with place := .inQuotes } := by
    rcases hplace with hplace | hplace <;> simp [step, hplace, quote, isLineEnd]
  rw [List.foldl_append, List.foldl_cons, List.foldl_nil, List.foldl_cons, hopen,
    foldl_doubled _ rfl, hempty, List.append_nil]
  exact ⟨nofun, nofun, rfl, rfl, rfl⟩

/-- A field that was written is read, with quotes around it or not. -/
theorem foldl_writeField (h : start.Front) (field : String) :
    Behind start (Bytes.ofText field).toList
      ((Bytes.ofText (writeField field)).toList.foldl step start) := by
  rw [Bytes.toList_ofText_eq_flatMap, Bytes.toList_ofText_eq_flatMap]
  by_cases hquotes : needsQuotes field.toList
  · rw [writeField, if_pos hquotes, String.toList_ofList, List.flatMap_append]
    exact h.behind_quoted field.toList
  · rw [writeField, if_neg hquotes]
    refine h.behind_plain fun byte hbyte => ?_
    obtain ⟨c, hc, hbyte⟩ := List.mem_flatMap.1 hbyte
    refine isPlain_of_mem (fun hspecial => hquotes ?_) hbyte
    refine List.any_eq_true.2 ⟨c, hc, ?_⟩
    simpa [or_assoc] using hspecial

/-- A comma ends a field that has been read. -/
theorem Behind.step_comma (h : Behind start field scan) :
    scan.step comma =
      { start with place := .fieldStart, field := [], fields := field :: start.fields } := by
  obtain ⟨hplace, -, hfield, hfields, hrecords⟩ := h
  have hend : scan.step comma = scan.endField := by
    cases hscan : scan.place with
    | inQuotes => exact absurd hscan hplace
    | _ => simp [step, plain, hscan, isLineEnd, comma, quote]
  rw [hend, endField, hfield, hfields, hrecords, List.reverse_reverse]

/-- A line feed ends the record of a field that has been read. Behind the start of a record it would
only end an empty line. -/
theorem Behind.step_lineFeed (h : Behind start field scan) (hstart : start.place = .fieldStart) :
    scan.step 0x0A =
      { start with place := .recordStart, field := [], fields := []
                   records := (start.fields.reverse ++ [field]) :: start.records } := by
  obtain ⟨hplace, hstarted, hfield, hfields, hrecords⟩ := h
  have hinside : scan.place ≠ .recordStart := by
    intro hrecord
    rw [hstarted hrecord] at hstart
    cases hstart
  have hend : scan.step 0x0A = scan.endRecord := by
    cases hscan : scan.place with
    | inQuotes => exact absurd hscan hplace
    | recordStart => exact absurd hscan hinside
    | _ => simp [step, plain, hscan, isLineEnd, comma, quote]
  rw [hend, endRecord, endField, hfield, hfields, hrecords, List.reverse_reverse, List.reverse_cons]

/-! ## Reading records -/

/-- The fields of a record behind those that it has already. -/
theorem foldl_writeRecord_inside (h : start.Front) (hplace : start.place = .fieldStart)
    {fields : List String} (hne : fields ≠ []) :
    (Bytes.ofText (writeRecord fields)).toList.foldl step start =
      { start with place := .recordStart, field := [], fields := []
                   records := (start.fields.reverse ++
                     fields.map fun field => (Bytes.ofText field).toList) :: start.records } := by
  induction fields generalizing start with
  | nil => exact absurd rfl hne
  | cons first rest ih =>
    have hfirst := foldl_writeField h first
    rw [toList_writeRecord, List.foldl_append]
    cases rest with
    | nil => exact hfirst.step_lineFeed hplace
    | cons second others =>
      rw [List.foldl_cons, hfirst.step_comma, ih ⟨.inr rfl, rfl⟩ rfl (List.cons_ne_nil _ _)]
      simp

/-- A record of two fields and more is read as it was written. -/
theorem foldl_writeRecord (h : start.Front) (hfields : start.fields = [])
    {fields : List String} (htwo : 2 ≤ fields.length) :
    (Bytes.ofText (writeRecord fields)).toList.foldl step start =
      { start with place := .recordStart, field := [], fields := []
                   records := (fields.map fun field => (Bytes.ofText field).toList) ::
                     start.records } := by
  match fields, htwo with
  | first :: second :: others, _ =>
    -- behind the first comma the record has begun, whatever its first field is
    rw [toList_writeRecord, List.foldl_append, List.foldl_cons,
      (foldl_writeField h first).step_comma,
      foldl_writeRecord_inside ⟨.inr rfl, rfl⟩ rfl (List.cons_ne_nil _ _), hfields]
    rfl

/-- Records that were written one behind the other are read in their order. -/
theorem foldl_writeRecords {records : List (List String)}
    (htwo : ∀ fields ∈ records, 2 ≤ fields.length) (hplace : start.place = .recordStart)
    (hfield : start.field = []) (hfields : start.fields = []) :
    (Bytes.ofText (String.join (records.map writeRecord))).toList.foldl step start =
      { start with
        records := (records.map fun fields => fields.map fun field =>
          (Bytes.ofText field).toList).reverse ++ start.records } := by
  induction records generalizing start with
  | nil => rfl
  | cons fields records ih =>
    obtain ⟨hfirst, hrest⟩ := List.forall_mem_cons.1 htwo
    rw [toList_writeRecords, List.foldl_append,
      foldl_writeRecord ⟨.inl hplace, hfield⟩ hfields hfirst, ih hrest rfl rfl rfl]
    simp [hplace, hfield, hfields]

end Scan

/-! ## Tables -/

/-- The texts of the fields of a record are found in their bytes. -/
theorem texts?_map_ofText (fields : List String) :
    texts? (fields.map fun field => (Bytes.ofText field).toList) = some fields := by
  induction fields with
  | nil => rfl
  | cons field fields ih =>
    have hfield : Text.ofUtf8? (Bytes.ofText field).toList.toArray = some field :=
      Text.ofUtf8?_ofText field
    rw [texts?] at ih
    rw [List.map_cons, texts?, List.mapM_cons, hfield, ih]
    rfl

/-- A table is read as it was written, if all of its records have as many fields as the header,
which are two or more, and its text does not begin with what would be taken for a byte order
mark. -/
theorem Table.ofBytes_write {header : List String} {rows : List (List String)}
    (htwo : 2 ≤ header.length) (hlength : ∀ row ∈ rows, row.length = header.length)
    (hmark : ∀ bytes, skipMark ((Bytes.ofText (writeRecord header)).toList ++ bytes) =
      (Bytes.ofText (writeRecord header)).toList ++ bytes) :
    ofBytes (Bytes.ofText (String.join ((header :: rows).map writeRecord))) =
      { header := some header, rows := rows.map some } := by
  have hall : ∀ fields ∈ header :: rows, 2 ≤ fields.length := by
    refine List.forall_mem_cons.2 ⟨htwo, fun row hrow => ?_⟩
    rw [hlength row hrow]
    exact htwo
  have hskip : skipMark (Bytes.ofText (String.join ((header :: rows).map writeRecord))).toList =
      (Bytes.ofText (String.join ((header :: rows).map writeRecord))).toList := by
    rw [toList_writeRecords, hmark]
  have hrecords : records (Bytes.ofText (String.join ((header :: rows).map writeRecord))) =
      (header :: rows).map fun fields => fields.map fun field => (Bytes.ofText field).toList := by
    rw [records, hskip, Scan.foldl_writeRecords hall rfl rfl rfl]
    simp [Scan.finish]
  rw [ofBytes, hrecords, List.map_cons]
  simp only [texts?_map_ofText, List.map_map, mk.injEq, true_and]
  refine List.map_congr_left fun row hrow => ?_
  simp [hlength row hrow, texts?_map_ofText]

end Csv

end Georef
