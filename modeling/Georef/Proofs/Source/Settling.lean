import Georef.Proofs.Source.CursorScripts

/-!
# Actions that settle

An action settles if what it comes to depends only on the place where it starts: cursors that stand
there in different ways, in memory, before a window or in the middle of one, end with the same
outcome and at the same place. Actions put together from settling ones settle, so that this is known
of a whole parser without following what it does.

The module introduces:

* `Cursor.Settles data action` — the action settles on sources of the bytes `data`, and does not
  lead out of them.
* `Cursor.Spans data count action` — besides, the action ends `count` bytes further on where it
  succeeds.
* one rule for each way actions are put together; all operations on cursors settle.
-/

namespace Georef.Cursor

variable {ρ : Type} [Reader ρ] [LawfulReader ρ] {α β : Type} {data : Bytes}

/-- `Settles data action`: wherever in a source of the bytes `data` the action starts, it ends with
one outcome at one place, which is in the source. -/
def Settles (data : Bytes) (action : Action ρ α) : Prop :=
  ∀ start : Place, start.position ≤ data.size →
    ∃ outcome finish, Runs data start action outcome finish ∧ finish.position ≤ data.size

namespace Settles

theorem pure (a : α) : Settles (ρ := ρ) data (Pure.pure a) :=
  fun start hstart => ⟨.ok a, start, .pure a, hstart⟩

/-- Nothing comes after a failure. -/
theorem throw_bind (fault : Error) (rest : α → Action ρ β) :
    Settles data (MonadExcept.throw fault >>= rest) :=
  fun start hstart => ⟨.error fault, start, (Runs.throw fault).bind_error, hstart⟩

theorem ofExcept (outcome : Except Error α) :
    Settles (ρ := ρ) data (MonadExcept.ofExcept outcome) :=
  fun start hstart => ⟨outcome, start, .ofExcept outcome, hstart⟩

/-- Two settling actions in a row settle. -/
theorem bind {first : Action ρ α} {rest : α → Action ρ β} (hfirst : Settles data first)
    (hrest : ∀ a, Settles data (rest a)) : Settles data (first >>= rest) := by
  intro start hstart
  obtain ⟨outcome, middle, hrun, hmiddle⟩ := hfirst start hstart
  cases outcome with
  | error fault => exact ⟨.error fault, middle, hrun.bind_error, hmiddle⟩
  | ok a =>
    obtain ⟨outcome, finish, hrun', hfinish⟩ := hrest a middle hmiddle
    exact ⟨outcome, finish, hrun.bind hrun', hfinish⟩

/-- An action that looks at the cursor settles, if it makes no difference between cursors that stand
at one place. -/
theorem get_bind {rest : Cursor ρ → Action ρ β}
    (hsame : ∀ place first second, Stands data place first → Stands data place second →
      rest first = rest second)
    (h : ∀ cursor, Settles data (rest cursor)) : Settles data (get >>= rest) := by
  intro start hstart
  by_cases hcursor : ∃ cursor : Cursor ρ, cursor.Stands data start
  · obtain ⟨cursor, hcursor⟩ := hcursor
    obtain ⟨outcome, finish, hrun, hfinish⟩ := h cursor start hstart
    exact ⟨outcome, finish, .get_bind fun other hother => hsame _ _ _ hcursor hother ▸ hrun, hfinish⟩
  · -- no cursor is there that could end in another way
    exact ⟨.error (.badOffset start.position), start, fun cursor h => absurd ⟨cursor, h⟩ hcursor,
      hstart⟩

/-- Every operation on a cursor settles, on what the pure reader answers. -/
theorem operation (operation : Operation α) : Settles (ρ := ρ) data operation.action :=
  fun _ hstart => ⟨_, _, operation.answered hstart, operation.position_answer_le hstart⟩

end Settles

/-! ## Actions that span a number of bytes -/

/-- `Spans data count action`: the action settles, and where it succeeds it ends `count` bytes
further on. -/
def Spans (data : Bytes) (count : Nat) (action : Action ρ α) : Prop :=
  ∀ start : Place, start.position ≤ data.size →
    ∃ outcome finish, Runs data start action outcome finish ∧ finish.position ≤ data.size ∧
      ∀ a, outcome = .ok a → finish = start.advance count

/-- Bytes that are used have been passed. -/
theorem Place.advance_of_taking {place : Place} {count : Nat} {use : Bytes → Except Refusal α}
    {a : α} (h : (place.taking data count use).1 = .ok a) :
    (place.taking data count use).2 = place.advance count := by
  unfold taking at h ⊢
  split
  · rfl
  · rename_i hshort
    rw [if_neg hshort] at h
    cases h

namespace Spans

variable {count : Nat}

theorem settles {action : Action ρ α} (h : Spans data count action) : Settles data action := by
  intro start hstart
  obtain ⟨outcome, finish, hruns, hfinish, -⟩ := h start hstart
  exact ⟨outcome, finish, hruns, hfinish⟩

/-- The number of bytes can be written in another way. -/
theorem of_eq {action : Action ρ α} {other : Nat} (h : Spans data count action)
    (heq : count = other) : Spans data other action := heq ▸ h

theorem pure (a : α) : Spans (ρ := ρ) data 0 (Pure.pure a) :=
  fun start hstart => ⟨.ok a, start, .pure a, hstart, fun _ _ => rfl⟩

theorem throw (fault : Error) : Spans data count (MonadExcept.throw fault : Action ρ α) :=
  fun start hstart => ⟨.error fault, start, .throw fault, hstart, nofun⟩

theorem throw_bind (fault : Error) (rest : α → Action ρ β) :
    Spans data count (MonadExcept.throw fault >>= rest) :=
  fun start hstart => ⟨.error fault, start, (Runs.throw fault).bind_error, hstart, nofun⟩

theorem ofExcept (outcome : Except Error α) :
    Spans (ρ := ρ) data 0 (MonadExcept.ofExcept outcome) :=
  fun start hstart => ⟨outcome, start, .ofExcept outcome, hstart, fun _ _ => rfl⟩

/-- Two actions in a row span the bytes of both. -/
theorem bind {more : Nat} {first : Action ρ α} {rest : α → Action ρ β}
    (hfirst : Spans data count first) (hrest : ∀ a, Spans data more (rest a)) :
    Spans data (count + more) (first >>= rest) := by
  intro start hstart
  obtain ⟨outcome, middle, hrun, hmiddle, hplace⟩ := hfirst start hstart
  cases outcome with
  | error fault => exact ⟨.error fault, middle, hrun.bind_error, hmiddle, nofun⟩
  | ok a =>
    obtain ⟨outcome, finish, hrun', hfinish, hplace'⟩ := hrest a middle hmiddle
    refine ⟨outcome, finish, hrun.bind hrun', hfinish, fun b hb => ?_⟩
    rw [hplace' b hb, hplace a rfl, Place.advance_advance]

/-- An operation spans the bytes that the pure reader passes. -/
theorem operation (operation : Operation α)
    (h : ∀ (place : Place) (a : α), (operation.answer data place).1 = .ok a →
      (operation.answer data place).2 = place.advance count) :
    Spans (ρ := ρ) data count operation.action := by
  intro start hstart
  refine ⟨_, _, operation.answered hstart, operation.position_answer_le hstart, fun a ha => ?_⟩
  exact h start a (Except.mapError_eq_ok_iff.1 ha)

theorem bytes (count : Nat) : Spans (ρ := ρ) data count (bytes count) :=
  operation (.bytes count) fun _ _ => Place.advance_of_taking

theorem next (α : Type) [FixedWidth α] : Spans (ρ := ρ) data (FixedWidth.width α) (next α) :=
  operation (.next α) fun _ _ => Place.advance_of_taking

theorem text (count : Nat) (encoding : TextEncoding) (policy : Terminator) :
    Spans (ρ := ρ) data count (text count encoding policy) :=
  operation (.text count encoding policy) fun _ _ => Place.advance_of_taking

theorem skip (count : Nat) : Spans (ρ := ρ) data count (skip count) :=
  operation (.skip count) fun _ _ => Place.advance_of_taking

theorem here : Spans (ρ := ρ) data 0 here :=
  operation .here fun _ _ _ => rfl

theorem ensureRange (offset needed : Nat) : Spans (ρ := ρ) data 0 (ensureRange offset needed) :=
  operation (.ensureRange offset needed) fun _ _ _ => rfl

/-- What is done elsewhere spans nothing. -/
theorem atOffset {action : Action ρ α} (h : Spans data count action) (offset : Nat) :
    Spans data 0 (atOffset offset action) := by
  intro start hstart
  by_cases hoffset : offset ≤ data.size
  · obtain ⟨outcome, finish, hrun, -, hplace⟩ := h ⟨start.order, offset⟩ hoffset
    refine ⟨outcome, _, .atOffset hstart hoffset hrun, hstart, fun a ha => ?_⟩
    rw [hplace a ha]
    rfl
  · exact ⟨_, start, .atOffset_of_lt (Nat.not_le.1 hoffset), hstart, nofun⟩

/-- A repeated action spans its bytes as often. -/
theorem repeatOnto {action : Action ρ α} (h : Spans data count action) (times : Nat)
    (done : Array α) : Spans data (count * times) (repeatOnto action times done) := by
  induction times generalizing done with
  | zero => exact pure done
  | succ times ih =>
    rw [Nat.mul_succ, Nat.add_comm]
    exact bind h fun result => ih (done.push result)

/-- Where an action and what comes after it succeed on one cursor, the action runs to its result on
every cursor at the place, and what comes after it goes on behind its bytes. -/
theorem exists_run_of_run_bind {first : Action ρ α} {rest : α → Action ρ β} {start : Place}
    {cursor finish : Cursor ρ} {b : β} (hfirst : Spans data count first)
    (hcursor : cursor.Stands data start) (hstart : start.position ≤ data.size)
    (h : cursor.run (first >>= rest) = (.ok b, finish)) :
    ∃ (a : α) (cursor' : Cursor ρ), Runs data start first (.ok a) (start.advance count) ∧
      start.position + count ≤ data.size ∧ cursor'.Stands data (start.advance count) ∧
      cursor'.run (rest a) = (.ok b, finish) := by
  obtain ⟨outcome, middle, hruns, hmiddle, hplace⟩ := hfirst start hstart
  obtain ⟨cursor', hrun, hcursor'⟩ := hruns cursor hcursor
  obtain ⟨a, reached, hsuccess, -⟩ := Cursor.exists_of_run_bind (congrArg Prod.fst h)
  rw [run_bind_of_ok hsuccess] at h
  obtain ⟨rfl, rfl⟩ := Prod.mk.inj (hrun.symm.trans hsuccess)
  obtain rfl := hplace a rfl
  exact ⟨a, cursor', hruns, hmiddle, hcursor', h⟩

/-- The same if only the result matters. -/
theorem exists_of_run_bind {first : Action ρ α} {rest : α → Action ρ β} {start : Place}
    {cursor : Cursor ρ} {b : β} (hfirst : Spans data count first)
    (hcursor : cursor.Stands data start) (hstart : start.position ≤ data.size)
    (h : (cursor.run (first >>= rest)).1 = .ok b) :
    ∃ (a : α) (cursor' : Cursor ρ), Runs data start first (.ok a) (start.advance count) ∧
      start.position + count ≤ data.size ∧ cursor'.Stands data (start.advance count) ∧
      (cursor'.run (rest a)).1 = .ok b := by
  obtain ⟨a, cursor', hruns, hfit, hcursor', hrest⟩ :=
    hfirst.exists_run_of_run_bind hcursor hstart (Prod.ext h rfl)
  exact ⟨a, cursor', hruns, hfit, hcursor', congrArg Prod.fst hrest⟩

end Spans

end Georef.Cursor
