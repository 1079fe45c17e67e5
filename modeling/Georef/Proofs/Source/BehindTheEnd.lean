import Georef.Proofs.Source.CursorScripts

/-!
# Cursors behind the end

A reader may stand behind the end of its source, and a cursor opened on it then stands there too.
The end is the last position that a cursor may be moved to, so it cannot be moved to where it is.
Reads find nothing left and leave it alone; but what is done at another offset does not come back
from there: its outcome is lost, and the cursor stays where it ended.

The module introduces:

* `Operation.answerBehind`, `Script.answerAnywhere` — what operations come to behind the end, and
  what scripts come to from any place.
* `Script.runs_anywhere` — every script ends so, from any place.
* `Operation.isSeek` — the operation that can move a cursor that stands behind the end.

`Cursor.run_of_behind` tells what a cursor does that is opened behind the end, and
`Cursor.exists_atOffset_astray` is one that does not come back.
-/

namespace Georef.Cursor

open LawfulReader (Serves)

variable {ρ : Type} [Reader ρ] {α : Type}

/-! ## Answers from any place -/

/-- The use of `count` bytes where none is left: as `nothing` says if none is asked for, and refused
else. -/
def Place.takingNone (place : Place) (count : Nat) (nothing : Except Refusal α) :
    Except Refusal α × Place :=
  if count = 0 then (nothing, place)
  else (.error (.endOfData place.position count 0), place)

/-- What an operation comes to at a place behind the end of the bytes `data`, and where it leads.
The position there is refused to those that would come back to it. -/
def Operation.answerBehind (data : Bytes) (place : Place) :
    Operation α → Except Refusal α × Place
  | next α => place.takingNone (FixedWidth.width α) (.ok (FixedWidth.decode place.order []))
  | fraction α =>
    place.takingNone (FixedWidth.width (Fraction α)) (.ok (FixedWidth.decode place.order []))
  | fixed _ =>
    -- four bytes are never there
    (.error (.endOfData place.position (FixedWidth.width Int32) 0), place)
  | bytes count => place.takingNone count (.ok #[])
  | text count encoding policy =>
    place.takingNone count <|
      match encoding.decode? place.order [] with
      | some content => .ok (policy.trim content)
      | none => .error (.oddUtf16 0)
  | peek count => place.takingNone count (.error (.badOffset place.position))
  | here => (.ok place.position, place)
  | seek offset => place.moving data offset
  | skip count => place.takingNone count (.error (.badOffset place.position))
  | ensureRange offset needed =>
    (if offset + needed ≤ data.size then .ok ()
      else .error (.endOfData offset needed (data.size - offset)), place)
  | setOrder order => (.ok (), ⟨order, place.position⟩)

/-- What an operation comes to at any place, and where it leads. -/
def Operation.answerAnywhere (data : Bytes) (place : Place) (operation : Operation α) :
    Except Refusal α × Place :=
  if place.position ≤ data.size then operation.answer data place
  else operation.answerBehind data place

/-- The end of a part that was done elsewhere. Behind the end of the source there is no way back, so
the outcome of the part is lost, and the place it leads to stays. -/
def Place.back (start : Place) (data : Bytes) (ended : Except Error α × Place) :
    Except Error α × Place :=
  if start.position ≤ data.size then (ended.1, ⟨ended.2.order, start.position⟩)
  else (.error (.badOffset start.position), ended.2)

/-- What a script comes to from any place, and where it leads. -/
def Script.answerAnywhere {α : Type} (data : Bytes) : Script α → Place → Except Error α × Place
  | done outcome, place => (outcome, place)
  | step operation rest, place =>
    let (outcome, reached) := operation.answerAnywhere data place
    (rest (outcome.mapError Refusal.toError)).answerAnywhere data reached
  | atOffset offset inside rest, place =>
    if offset ≤ data.size then
      -- the part itself starts in the source, and so it ends there
      let (outcome, reached) := place.back data (inside.answer data ⟨place.order, offset⟩)
      (rest outcome).answerAnywhere data reached
    else (rest (.error (.badOffset offset))).answerAnywhere data place

/-- Whether an operation is a move to a given position. -/
def Operation.isSeek : Operation α → Bool
  | seek _ => true
  | _ => false

@[simp]
theorem Place.takingNone_snd (place : Place) (count : Nat) (nothing : Except Refusal α) :
    (place.takingNone count nothing).2 = place := by
  unfold takingNone
  split <;> rfl

/-- Behind the end nothing but a move changes the position. -/
theorem Operation.position_answerBehind {data : Bytes} {place : Place} {operation : Operation α}
    (h : operation.isSeek = false) :
    (operation.answerBehind data place).2.position = place.position := by
  cases operation with
  | next | fraction | bytes | text | peek | skip =>
    rw [answerBehind, Place.takingNone_snd]
  | fixed | here | ensureRange | setOrder => rfl
  | seek => cases h

/-! ## Runs from behind the end -/

variable [LawfulReader ρ] {data : Bytes} {start finish : Place}

namespace Runs

/-- Nothing can be read anywhere. -/
theorem ensure_zero : Runs (ρ := ρ) data start (Cursor.ensure 0) (.ok ⟨⟩) start := by
  refine get_bind fun cursor _ => ?_
  rw [if_neg (Nat.not_lt_zero _)]
  exact pure _

theorem bytes_zero : Runs (ρ := ρ) data start (Cursor.bytes 0) (.ok #[]) start := by
  refine bind ensure_zero fun cursor hcursor => ⟨cursor, ?_, hcursor⟩
  have hread : Reader.readExact 0 cursor.reader = (.ok #[], cursor.reader) := by
    rw [Reader.readExact, Reader.readRest, if_pos rfl]
  have hreader : cursor.run (onReader (Reader.readExact 0)) = (.ok #[], cursor) := by
    rw [onReader, run_bind_of_ok (run_get cursor), hread]
    rfl
  rw [run_bind_of_ok hreader]
  rfl

/-- A value of no bytes is read from none. -/
theorem next_zero {α : Type} [FixedWidth α] (h : FixedWidth.width α = 0) :
    Runs (ρ := ρ) data start (Cursor.next α) (.ok (FixedWidth.decode start.order [])) start := by
  unfold Cursor.next
  rw [h]
  refine bind bytes_zero (get_bind fun cursor hcursor => ?_)
  rw [hcursor.order_eq]
  exact pure _

theorem fraction_zero {α : Type} [FixedWidth α] (h : FixedWidth.width (Fraction α) = 0) :
    Runs (ρ := ρ) data start (Cursor.fraction α) (.ok (FixedWidth.decode start.order []))
      start := by
  -- a fraction has no bytes only if its parts have none
  have hpart : FixedWidth.width α = 0 := by
    have : FixedWidth.width α + FixedWidth.width α = 0 := h
    omega
  unfold Cursor.fraction
  rw [hpart]
  have hparts : (FixedWidth.decode start.order [] : Fraction α) =
      { numerator := FixedWidth.decode start.order []
        denominator := FixedWidth.decode start.order [] } := by
    simp [FixedWidth.decode]
  rw [hparts]
  exact bind ensure_zero (bind (next_zero hpart) (bind (next_zero hpart) (pure _)))

/-- An action at an offset in the source ends there if the cursor cannot be moved back. -/
theorem atOffset_of_behind {offset : Nat} {action : Action ρ α} {outcome : Except Error α}
    (hbehind : data.size < start.position) (hoffset : offset ≤ data.size)
    (h : Runs data ⟨start.order, offset⟩ action outcome finish) :
    Runs data start (Cursor.atOffset offset action) (.error (.badOffset start.position)) finish :=
  bind here (bind (seek hoffset) (bind h.lift (bind_error (seek_of_lt hbehind))))

end Runs

/-- A use of bytes is answered behind the end if it is where none is asked for, and if it tells that
none is left where some are. -/
theorem answered_takingNone {action : Action ρ α} {count : Nat} {nothing : Except Refusal α}
    (hbehind : data.size < start.position)
    (hnothing : count = 0 → Answered data start action (nothing, start))
    (hshort : data.size - start.position < count →
      Runs data start action
        (.error (.endOfData start.position count (data.size - start.position))) start) :
    Answered data start action (start.takingNone count nothing) := by
  have hleft : data.size - start.position = 0 := by omega
  unfold Place.takingNone
  by_cases hcount : count = 0
  · rw [if_pos hcount]
    exact hnothing hcount
  · rw [if_neg hcount]
    rw [hleft] at hshort
    exact hshort (by omega)

theorem answered_text_zero {encoding : TextEncoding} {policy : Terminator} :
    Answered (ρ := ρ) data start (text 0 encoding policy)
      (match encoding.decode? start.order [] with
        | some content => .ok (policy.trim content)
        | none => .error (.oddUtf16 0), start) := by
  refine Runs.bind Runs.bytes_zero (Runs.get_bind fun cursor hcursor => ?_)
  rw [hcursor.order_eq, TextEncoding.decode]
  cases encoding.decode? start.order [] with
  | some content => exact .pure _
  | none => exact .bind_error (.throw _)

/-- Every operation behind the end comes to its answer there. -/
theorem Operation.answered_behind (hbehind : data.size < start.position)
    (operation : Operation α) :
    Answered (ρ := ρ) data start operation.action (operation.answerBehind data start) := by
  cases operation with
  | next α =>
    exact answered_takingNone hbehind .next_zero fun h => .bind_error (.bytes_of_lt h)
  | fraction α =>
    exact answered_takingNone hbehind .fraction_zero fun h => .bind_error (.ensure_of_lt h)
  | fixed α =>
    have hleft : data.size - start.position = 0 := by omega
    have hshort : data.size - start.position < FixedWidth.width Int32 := by
      rw [hleft]
      decide
    have hrefused := Runs.bytes_of_lt (ρ := ρ) hshort
    rw [hleft] at hrefused
    exact .bind_error (.bind_error hrefused)
  | bytes count =>
    refine answered_takingNone hbehind (fun hcount => ?_) .bytes_of_lt
    subst hcount
    exact .bytes_zero
  | text count =>
    refine answered_takingNone hbehind (fun hcount => ?_) fun h => .bind_error (.bytes_of_lt h)
    subst hcount
    exact answered_text_zero
  | peek count =>
    refine answered_takingNone hbehind (fun hcount => ?_) fun h =>
      .bind .here (.bind_error (.bytes_of_lt h))
    subst hcount
    exact .bind .here (.bind .bytes_zero (.bind_error (.seek_of_lt hbehind)))
  | here => exact .here
  | seek offset => exact answered_moving offset
  | skip count =>
    refine answered_takingNone hbehind (fun hcount => ?_) fun h => .bind_error (.ensure_of_lt h)
    subst hcount
    exact .bind .ensure_zero (.bind .here (.seek_of_lt hbehind))
  | ensureRange offset needed => exact answered_range offset needed
  | setOrder order => exact .setOrder order

/-- Every operation at any place comes to its answer there. -/
theorem Operation.answered_anywhere (operation : Operation α) :
    Answered (ρ := ρ) data start operation.action (operation.answerAnywhere data start) := by
  unfold answerAnywhere
  by_cases hstart : start.position ≤ data.size
  · rw [if_pos hstart]
    exact operation.answered hstart
  · rw [if_neg hstart]
    exact operation.answered_behind (by omega)

/-- What is done at an offset in the source ends as told, from any place. -/
theorem Script.runs_atOffset {offset : Nat} (hoffset : offset ≤ data.size) (inside : Script α) :
    Runs (ρ := ρ) data start (Cursor.atOffset offset inside.action)
      (start.back data (inside.answer data ⟨start.order, offset⟩)).1
      (start.back data (inside.answer data ⟨start.order, offset⟩)).2 := by
  have hinside : Runs (ρ := ρ) data ⟨start.order, offset⟩ inside.action _ _ := inside.runs hoffset
  unfold Place.back
  by_cases hstart : start.position ≤ data.size
  · rw [if_pos hstart]
    exact .atOffset hstart hoffset hinside
  · rw [if_neg hstart]
    exact .atOffset_of_behind (by omega) hoffset hinside

/-- Every script from any place comes to its answer there. -/
theorem Script.runs_anywhere (script : Script α) :
    Runs (ρ := ρ) data start script.action (script.answerAnywhere data start).1
      (script.answerAnywhere data start).2 := by
  induction script generalizing start with
  | done outcome => exact .ofExcept outcome
  | step operation rest ih => exact .bind operation.answered_anywhere.lift (ih _)
  | atOffset offset inside rest _ ih =>
    unfold answerAnywhere
    by_cases hoffset : offset ≤ data.size
    · rw [if_pos hoffset]
      exact .bind (inside.runs_atOffset hoffset).lift (ih _)
    · rw [if_neg hoffset]
      exact .bind (Runs.atOffset_of_lt (by omega)).lift (ih _)

/-! ## Cursors opened behind the end -/

/-- A cursor opened on a reader behind the end of its source stands there, and every script on it
comes to the answer from there. Whatever is done at an offset in the source ends with a refusal of
the position of the cursor, and the cursor stays in the source, where that ended. Only this and a
move to a given position change the position: no other operation does. -/
theorem run_of_behind {reader : ρ} {p : Nat} (h : Serves data p reader) (hbehind : data.size < p)
    (hp : p < positionBound) (order : ByteOrder) :
    ∃ cursor, ofReader order reader = .ok cursor ∧ cursor.position = p ∧
      (∀ {α : Type} (script : Script α), ∃ cursor',
        cursor.run script.action = ((script.answerAnywhere data ⟨order, p⟩).1, cursor') ∧
        cursor'.Stands data (script.answerAnywhere data ⟨order, p⟩).2) ∧
      (∀ {α : Type} (offset : Nat) (inside : Script α), offset ≤ data.size → ∃ cursor',
        cursor.run (atOffset offset inside.action) = (.error (.badOffset p), cursor') ∧
        cursor'.Stands data (inside.answer data ⟨order, offset⟩).2 ∧
        cursor'.position ≤ data.size) ∧
      ∀ {α : Type} (operation : Operation α), operation.isSeek = false →
        (cursor.run operation.action).2.position = p := by
  obtain ⟨cursor, hcursor, hstands⟩ := exists_ofReader_stands h hp (by omega) order
  refine ⟨cursor, hcursor, hstands.position_eq, fun script => script.runs_anywhere cursor hstands,
    fun offset inside hoffset => ?_, fun operation hmove => ?_⟩
  · obtain ⟨cursor', hrun, hstands'⟩ := inside.runs_atOffset hoffset cursor hstands
    -- whatever the script came to, the move back is refused after it
    have hlost : Place.back ⟨order, p⟩ data (inside.answer data ⟨order, offset⟩) =
        (.error (.badOffset p), (inside.answer data ⟨order, offset⟩).2) :=
      if_neg (Nat.not_le.2 hbehind)
    rw [hlost] at hrun hstands'
    refine ⟨cursor', hrun, hstands', ?_⟩
    rw [hstands'.position_eq]
    exact inside.position_answer_le hoffset
  · obtain ⟨cursor', hrun, hstands'⟩ := operation.answered_behind hbehind cursor hstands
    rw [hrun, hstands'.position_eq]
    exact Operation.position_answerBehind hmove

/-- A byte that is read at another offset. -/
def readThere : Script UInt8 :=
  .step (.next UInt8) .done

/-- Two bytes behind the end of four, the byte at the offset one is lost, and the cursor stays
behind it. -/
theorem run_of_behind_byte :
    let data : Bytes := #[1, 2, 3, 4]
    let reader : MemoryReader := { data, position := 6 }
    data.size < 6 ∧ ∃ cursor cursor', ofReader .little reader = .ok cursor ∧
      cursor.run (atOffset 1 readThere.action) = (.error (.badOffset 6), cursor') ∧
      cursor'.position = 2 ∧ (cursor.run (Operation.skip 0).action).2.position = 6 := by
  intro data reader
  have hserves : Serves data 6 reader := ⟨rfl, rfl⟩
  have hbehind : data.size < 6 := by decide
  obtain ⟨cursor, hcursor, -, -, hatOffset, hstays⟩ :=
    run_of_behind hserves hbehind (by decide) .little
  obtain ⟨cursor', hrun, hstands, -⟩ := hatOffset 1 readThere (by decide)
  have hanswer : readThere.answer data ⟨.little, 1⟩ = (.ok 2, ⟨.little, 2⟩) := by decide +kernel
  rw [hanswer] at hstands
  exact ⟨hbehind, cursor, cursor', hcursor, hrun, hstands.position_eq, hstays (.skip 0) rfl⟩

/-- A cursor that has read a byte at another offset, but does not tell it and does not come back. -/
theorem exists_atOffset_astray :
    ∃ (data : Bytes) (reader : MemoryReader) (cursor : Cursor MemoryReader),
      reader.data = data ∧ data.size < reader.position ∧
      ofReader .little reader = .ok cursor ∧ cursor.position = 6 ∧ 1 ≤ data.size ∧
      (readThere.answer data ⟨.little, 1⟩).1 = .ok 2 ∧
      (cursor.run (atOffset 1 readThere.action)).1 = .error (.badOffset 6) ∧
      (cursor.run (atOffset 1 readThere.action)).2.position = 2 :=
  ⟨#[1, 2, 3, 4], { data := #[1, 2, 3, 4], position := 6 },
    { reader := { data := #[1, 2, 3, 4], position := 6 }, order := .little, position := 6
      length := 4 },
    rfl, by decide, rfl, rfl, by decide, by decide +kernel, by decide +kernel, by decide +kernel⟩

end Georef.Cursor
