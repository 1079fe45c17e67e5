import Georef.Proofs.Source.LawfulReader

/-!
# Runs of cursor actions

What an action on a cursor does depends on the bytes of the source, the position and the byte order,
and on nothing else, as long as the reader is lawful. A run is described by these alone: where it
starts, how it ends, and where it ends.

The module introduces:

* `Place` — a position and a byte order; `Stands data place cursor` — the cursor is over `data`, at
  that place, and its reader is too.
* `Runs data start action outcome finish` — from every cursor at `start` the action ends with
  `outcome`, at `finish`.
* `Fails data start action` — from every cursor at `start` the action fails.
* one rule for each way actions are put together, and one or two for each of the actions that move a
  cursor or read from it.
-/

namespace Georef

namespace Cursor

open LawfulReader (Serves)

variable {ρ : Type} [Reader ρ] {α β : Type}

/-- A place in a source, and the byte order to read in. -/
structure Place where
  order : ByteOrder
  position : Nat
  deriving DecidableEq, Repr

/-- The place a number of bytes further on. -/
def Place.advance (place : Place) (count : Nat) : Place :=
  { place with position := place.position + count }

@[simp]
theorem Place.order_advance (place : Place) (count : Nat) :
    (place.advance count).order = place.order := rfl

@[simp]
theorem Place.position_advance (place : Place) (count : Nat) :
    (place.advance count).position = place.position + count := rfl

theorem Place.advance_advance (place : Place) (first second : Nat) :
    (place.advance first).advance second = place.advance (first + second) := by
  simp [advance, Nat.add_assoc]

/-- `Stands data place cursor`: the cursor is over a source of the bytes `data`, at `place`. -/
structure Stands [LawfulReader ρ] (data : Bytes) (place : Place) (cursor : Cursor ρ) : Prop where
  serves : Serves data place.position cursor.reader
  order_eq : cursor.order = place.order
  position_eq : cursor.position = place.position
  length_eq : cursor.length = data.size

/-- A cursor on a lawful reader stands where the reader does, if its position can be counted. -/
theorem exists_ofReader_stands [LawfulReader ρ] {data : Bytes} {p : Nat} {reader : ρ}
    (h : Serves data p reader) (hp : p < positionBound) (hlength : data.size < positionBound)
    (order : ByteOrder) :
    ∃ cursor, ofReader order reader = .ok cursor ∧ cursor.Stands data ⟨order, p⟩ := by
  obtain ⟨r₁, hmeasured, h₁⟩ := h.sourceLength hp hlength
  obtain ⟨r₂, hplace, h₂⟩ := h₁.position hp
  refine ⟨{ reader := r₂, order, position := p, length := data.size }, ?_, h₂, rfl, rfl, rfl⟩
  rw [ofReader, hmeasured, Except.ok_bind]
  simp only [hplace, Except.ok_bind]
  rfl

/-! ## Steps -/

section Steps

omit [Reader ρ]

@[simp]
theorem run_get (cursor : Cursor ρ) :
    cursor.run (get : Action ρ (Cursor ρ)) = (.ok cursor, cursor) := rfl

theorem run_bind_of_ok {first : Action ρ α} {rest : α → Action ρ β} {cursor cursor' : Cursor ρ}
    {a : α} (h : cursor.run first = (.ok a, cursor')) :
    cursor.run (first >>= rest) = cursor'.run (rest a) := by
  have hstep : (ExceptT.run first).run cursor = pure (.ok a, cursor') := h
  simp only [run, ExceptT.run_bind, StateT.run_bind, hstep, pure_bind]

theorem run_bind_of_error {first : Action ρ α} {rest : α → Action ρ β} {cursor cursor' : Cursor ρ}
    {fault : Error} (h : cursor.run first = (.error fault, cursor')) :
    cursor.run (first >>= rest) = (.error fault, cursor') := by
  have hstep : (ExceptT.run first).run cursor = pure (.error fault, cursor') := h
  simp only [run, ExceptT.run_bind, StateT.run_bind, hstep, pure_bind]
  rfl

/-- An action of two steps succeeds only if both of them do. -/
theorem exists_of_run_bind {first : Action ρ α} {rest : α → Action ρ β} {cursor : Cursor ρ} {b : β}
    (h : (cursor.run (first >>= rest)).1 = .ok b) :
    ∃ a cursor', cursor.run first = (.ok a, cursor') ∧ (cursor'.run (rest a)).1 = .ok b := by
  obtain ⟨⟨outcome, cursor'⟩, hrun⟩ : ∃ result, cursor.run first = result := ⟨_, rfl⟩
  cases outcome with
  | error fault =>
    rw [run_bind_of_error hrun] at h
    cases h
  | ok a =>
    rw [run_bind_of_ok hrun] at h
    exact ⟨a, cursor', hrun, h⟩

theorem run_ofExcept (outcome : Except Error α) (cursor : Cursor ρ) :
    cursor.run (MonadExcept.ofExcept outcome : Action ρ α) = (outcome, cursor) := by
  cases outcome <;> rfl

/-- Doing an action repeatedly succeeds with one more result each time. -/
theorem size_of_run_repeatOnto {action : Action ρ α} {count : Nat} {done results : Array α}
    {cursor : Cursor ρ} (h : (cursor.run (repeatOnto action count done)).1 = .ok results) :
    results.size = done.size + count := by
  induction count generalizing done cursor with
  | zero =>
    cases h
    rfl
  | succ count ih =>
    obtain ⟨result, cursor', -, hrest⟩ := exists_of_run_bind h
    rw [ih hrest, Array.size_push]
    omega

end Steps

/-! ## Runs -/

variable [LawfulReader ρ] {data : Bytes} {start middle finish : Place}

/-- `Runs data start action outcome finish`: from every cursor at `start` the action ends with
`outcome`, at `finish`. -/
def Runs (data : Bytes) (start : Place) (action : Action ρ α) (outcome : Except Error α)
    (finish : Place) : Prop :=
  ∀ cursor : Cursor ρ, cursor.Stands data start →
    ∃ cursor', cursor.run action = (outcome, cursor') ∧ cursor'.Stands data finish

namespace Runs

theorem pure (a : α) : Runs (ρ := ρ) data start (Pure.pure a) (.ok a) start :=
  fun cursor h => ⟨cursor, rfl, h⟩

theorem throw (fault : Error) :
    Runs data start (MonadExcept.throw fault : Action ρ α) (.error fault) start :=
  fun cursor h => ⟨cursor, rfl, h⟩

/-- An action that goes on after a success. -/
theorem bind {first : Action ρ α} {rest : α → Action ρ β} {a : α} {outcome : Except Error β}
    (hfirst : Runs data start first (.ok a) middle)
    (hrest : Runs data middle (rest a) outcome finish) :
    Runs data start (first >>= rest) outcome finish := by
  intro cursor h
  obtain ⟨cursor₁, hrun, h₁⟩ := hfirst cursor h
  obtain ⟨cursor₂, hrun', h₂⟩ := hrest cursor₁ h₁
  exact ⟨cursor₂, by rw [run_bind_of_ok hrun, hrun'], h₂⟩

/-- An action that is cut short by a failure. -/
theorem bind_error {first : Action ρ α} {rest : α → Action ρ β} {fault : Error}
    (hfirst : Runs data start first (.error fault) finish) :
    Runs data start (first >>= rest) (.error fault) finish := by
  intro cursor h
  obtain ⟨cursor', hrun, h'⟩ := hfirst cursor h
  exact ⟨cursor', run_bind_of_error hrun, h'⟩

/-- An action whose result is changed at the end. -/
theorem bind_pure {first : Action ρ α} {outcome : Except Error α}
    (h : Runs data start first outcome finish) (f : α → β) :
    Runs data start (first >>= fun a => Pure.pure (f a)) (outcome.map f) finish := by
  cases outcome with
  | ok a => exact h.bind (pure (f a))
  | error fault => exact h.bind_error

/-- An action that looks at the cursor first. -/
theorem get_bind {rest : Cursor ρ → Action ρ β} {outcome : Except Error β}
    (h : ∀ cursor : Cursor ρ, cursor.Stands data start →
      Runs data start (rest cursor) outcome finish) :
    Runs data start (get >>= rest) outcome finish := by
  intro cursor hcursor
  rw [run_bind_of_ok (run_get cursor)]
  exact h cursor hcursor cursor hcursor

/-! ### Where the cursor is -/

theorem here : Runs (ρ := ρ) data start here (.ok start.position) start :=
  get_bind fun cursor hcursor => hcursor.position_eq ▸ pure cursor.position

/-- The byte order changes where the cursor is. -/
theorem setOrder (order : ByteOrder) :
    Runs (ρ := ρ) data start (setOrder order) (.ok ⟨⟩) ⟨order, start.position⟩ :=
  fun cursor h => ⟨{ cursor with order }, rfl, h.serves, rfl, h.position_eq, h.length_eq⟩

/-- The end of the source is the last position that may be moved to. -/
theorem seek {offset : Nat} (h : offset ≤ data.size) :
    Runs (ρ := ρ) data start (seek offset) (.ok ⟨⟩) ⟨start.order, offset⟩ := by
  intro cursor hcursor
  -- a target counted from the start is the position itself
  have hseek : (SeekTarget.fromStart offset).resolve data.size start.position = .ok offset := rfl
  obtain ⟨reader, hreader, hserves⟩ := LawfulReader.seek hcursor.serves hseek
  refine ⟨{ cursor with reader, position := offset }, ?_,
    hserves, hcursor.order_eq, rfl, hcursor.length_eq⟩
  unfold Cursor.seek
  rw [run_bind_of_ok (run_get cursor), if_neg (by rw [hcursor.length_eq]; omega)]
  simp only [hreader]
  rfl

/-- A position behind the end is refused. -/
theorem seek_of_lt {offset : Nat} (h : data.size < offset) :
    Runs (ρ := ρ) data start (Cursor.seek offset) (.error (.badOffset offset)) start := by
  refine get_bind fun cursor hcursor => ?_
  rw [if_pos (hcursor.length_eq ▸ h)]
  exact bind_error (throw _)

/-- What is left to read suffices. -/
theorem ensure {needed : Nat} (h : start.position + needed ≤ data.size) :
    Runs (ρ := ρ) data start (ensure needed) (.ok ⟨⟩) start := by
  refine get_bind fun cursor hcursor => ?_
  rw [if_neg]
  · exact pure _
  · rw [remaining, hcursor.length_eq, hcursor.position_eq]
    omega

/-- What is left to read does not suffice; both numbers are told. -/
theorem ensure_of_lt {needed : Nat} (h : data.size - start.position < needed) :
    Runs (ρ := ρ) data start (Cursor.ensure needed)
      (.error (.endOfData start.position needed (data.size - start.position))) start := by
  refine get_bind fun cursor hcursor => ?_
  have hleft : cursor.remaining = data.size - start.position := by
    rw [remaining, hcursor.length_eq, hcursor.position_eq]
  rw [hleft, hcursor.position_eq, if_pos h]
  exact throw _

/-- A part of the source can be checked without moving. -/
theorem ensureRange {offset needed : Nat} (h : offset + needed ≤ data.size) :
    Runs (ρ := ρ) data start (ensureRange offset needed) (.ok ⟨⟩) start := by
  refine get_bind fun cursor hcursor => ?_
  simp only [hcursor.length_eq]
  rw [if_neg (by omega)]
  exact pure _

/-- A part that the source does not have is refused. -/
theorem ensureRange_of_lt {offset needed : Nat} (h : data.size < offset + needed) :
    Runs (ρ := ρ) data start (Cursor.ensureRange offset needed)
      (.error (.endOfData offset needed (data.size - offset))) start := by
  refine get_bind fun cursor hcursor => ?_
  simp only [hcursor.length_eq]
  rw [if_pos (by omega)]
  exact throw _

/-! ### Reading -/

/-- Bytes inside the source are read, and the cursor moves behind them. -/
theorem bytes {count : Nat} (h : start.position + count ≤ data.size) :
    Runs (ρ := ρ) data start (bytes count) (.ok (data.slice start.position count))
      (start.advance count) := by
  refine bind (ensure h) fun cursor hcursor => ?_
  -- that the bytes are there has been checked, so the reader gives all of them
  obtain ⟨reader, hread, hserves⟩ := hcursor.serves.readExact h
  refine ⟨{ cursor with reader, position := cursor.position + count }, ?_,
    hserves, hcursor.order_eq, ?_, hcursor.length_eq⟩
  · have hreader : cursor.run (onReader (Reader.readExact count)) =
        (.ok (data.slice start.position count), { cursor with reader }) := by
      rw [onReader, run_bind_of_ok (run_get cursor), hread]
      rfl
    rw [run_bind_of_ok hreader]
    rfl
  · rw [hcursor.position_eq, Place.position_advance]

/-- Bytes that are not there are refused before anything is read. -/
theorem bytes_of_lt {count : Nat} (h : data.size - start.position < count) :
    Runs (ρ := ρ) data start (Cursor.bytes count)
      (.error (.endOfData start.position count (data.size - start.position))) start :=
  bind_error (ensure_of_lt h)

/-- A value of a fixed width is read from the bytes it takes. -/
theorem next (α : Type) [FixedWidth α]
    (h : start.position + FixedWidth.width α ≤ data.size) :
    Runs (ρ := ρ) data start (next α)
      (.ok (FixedWidth.decode start.order
        (data.slice start.position (FixedWidth.width α)).toList))
      (start.advance (FixedWidth.width α)) :=
  bind (bytes h) (get_bind fun cursor hcursor => by
    rw [hcursor.order_eq]
    exact pure _)

/-- A text that its encoding accepts is cut as the policy says. -/
theorem text {count : Nat} {encoding : TextEncoding} {policy : Terminator} {content : String}
    (h : start.position + count ≤ data.size)
    (htext : encoding.decode start.order (data.slice start.position count).toList = .ok content) :
    Runs (ρ := ρ) data start (text count encoding policy) (.ok (policy.trim content))
      (start.advance count) :=
  bind (bytes h) (get_bind fun cursor hcursor => by
    rw [hcursor.order_eq, Place.order_advance, htext]
    exact pure _)

/-- Moving forward ends the given number of bytes further on. -/
theorem skip {count : Nat} (h : start.position + count ≤ data.size) :
    Runs (ρ := ρ) data start (skip count) (.ok ⟨⟩) (start.advance count) :=
  bind (ensure h) (bind here (seek h))

/-! ### Reading elsewhere, and repeatedly -/

theorem ofExcept (outcome : Except Error α) :
    Runs (ρ := ρ) data start (MonadExcept.ofExcept outcome) outcome start := by
  cases outcome with
  | ok a => exact pure a
  | error fault => exact throw fault

/-- An outcome taken as a value is a success. -/
theorem lift {action : Action ρ α} {outcome : Except Error α}
    (h : Runs data start action outcome finish) :
    Runs data start (ExceptT.lift (ExceptT.run action)) (.ok outcome) finish := by
  intro cursor hcursor
  obtain ⟨cursor', hrun, hcursor'⟩ := h cursor hcursor
  refine ⟨cursor', ?_, hcursor'⟩
  have hstep : (ExceptT.run action).run cursor = Pure.pure (outcome, cursor') := hrun
  simp only [run, ExceptT.run_lift, StateT.run_map, hstep, map_pure]
  rfl

/-- An action that is done elsewhere ends as it does there, and the cursor comes back. -/
theorem atOffset {offset : Nat} {action : Action ρ α} {outcome : Except Error α}
    (hstart : start.position ≤ data.size) (hoffset : offset ≤ data.size)
    (h : Runs data ⟨start.order, offset⟩ action outcome finish) :
    Runs data start (atOffset offset action) outcome ⟨finish.order, start.position⟩ :=
  -- a failure is kept until the cursor has come back
  bind here (bind (seek hoffset) (bind h.lift (bind (seek hstart) (ofExcept outcome))))

/-- Doing an action repeatedly adds its results in order. -/
theorem repeatOnto {action : Action ρ α} {count : Nat} (place : Nat → Place) (result : Nat → α)
    (done : Array α)
    (h : ∀ i < count, Runs data (place i) action (.ok (result i)) (place (i + 1))) :
    Runs data (place 0) (repeatOnto action count done)
      (.ok (done ++ ((List.range count).map result).toArray)) (place count) := by
  induction count generalizing place result done with
  | zero =>
    rw [List.range_zero, List.map_nil, Array.append_empty]
    exact pure done
  | succ count ih =>
    -- the rest starts one place later, with one result done
    have hrest := ih (fun i => place (i + 1)) (fun i => result (i + 1)) (done.push (result 0))
      fun i hi => h (i + 1) (by omega)
    have hresults : done ++ ((List.range (count + 1)).map result).toArray =
        done.push (result 0) ++ ((List.range count).map fun i => result (i + 1)).toArray := by
      apply Array.toList_inj.1
      simp [List.range_succ_eq_map, Function.comp_def]
    rw [hresults]
    exact bind (h 0 (by omega)) hrest

/-- The results of doing an action repeatedly. -/
theorem times {action : Action ρ α} {count : Nat} (place : Nat → Place) (result : Nat → α)
    (h : ∀ i < count, Runs data (place i) action (.ok (result i)) (place (i + 1))) :
    Runs data (place 0) (times count action) (.ok ((List.range count).map result))
      (place count) := by
  refine bind (repeatOnto place result #[] h) ?_
  rw [Array.empty_append]
  exact pure _

/-- The value at place `i` in a run of values of one fixed width. -/
theorem times_next (α : Type) [FixedWidth α] {count : Nat}
    (h : start.position + FixedWidth.width α * count ≤ data.size) :
    Runs (ρ := ρ) data start (Cursor.times count (Cursor.next α))
      (.ok ((List.range count).map fun i => FixedWidth.decode start.order
        (data.slice (start.position + FixedWidth.width α * i) (FixedWidth.width α)).toList))
      (start.advance (FixedWidth.width α * count)) := by
  -- the value at place `i` is behind `i` values of the same width
  have hone : ∀ i < count, Runs (ρ := ρ) data (start.advance (FixedWidth.width α * i))
      (Cursor.next α) (.ok (FixedWidth.decode start.order
        (data.slice (start.position + FixedWidth.width α * i) (FixedWidth.width α)).toList))
      (start.advance (FixedWidth.width α * (i + 1))) := by
    intro i hi
    have hfit : FixedWidth.width α * (i + 1) ≤ FixedWidth.width α * count :=
      Nat.mul_le_mul_left _ hi
    rw [Nat.mul_add, Nat.mul_one] at hfit ⊢
    rw [← Place.advance_advance]
    exact next α (by rw [Place.position_advance]; omega)
  exact times (fun i => start.advance (FixedWidth.width α * i)) _ hone

end Runs

/-! ## Failing runs -/

/-- `Fails data start action`: from every cursor at `start` the action fails in one way. -/
def Fails (data : Bytes) (start : Place) (action : Action ρ α) : Prop :=
  ∃ fault finish, Runs data start action (.error fault) finish

theorem Runs.fails {action : Action ρ α} {fault : Error}
    (h : Runs data start action (.error fault) finish) : Fails data start action :=
  ⟨fault, finish, h⟩

/-- A failure is not made good by what would have come after it. -/
theorem Fails.bind {first : Action ρ α} {rest : α → Action ρ β} (h : Fails data start first) :
    Fails data start (first >>= rest) := by
  obtain ⟨fault, finish, h⟩ := h
  exact h.bind_error.fails

/-- An action fails if what it goes on with does. -/
theorem Runs.bind_fails {first : Action ρ α} {rest : α → Action ρ β} {a : α}
    (hfirst : Runs data start first (.ok a) middle) (hrest : Fails data middle (rest a)) :
    Fails data start (first >>= rest) := by
  obtain ⟨fault, finish, hrest⟩ := hrest
  exact (hfirst.bind hrest).fails

end Cursor

end Georef
