import Georef.Proofs.Source.CursorRuns

/-!
# Actions that keep the byte order

A cursor reads in one byte order until it is told to read in another. An action that never does so
ends in the order it has started with, however it ends: also where it fails, in the middle of
something that is read elsewhere. This is known of an action from the way it is put together,
without following what it reads.

The module introduces:

* `Cursor.KeepsOrder action` — after the action the cursor reads in the same order as before.
* one rule for each way actions are put together, and one for each of the actions on cursors but for
  the one that changes the order.
-/

namespace Georef.Cursor

variable {ρ : Type} {α β : Type}

/-- `KeepsOrder action`: after the action the cursor reads in the same order as before. -/
def KeepsOrder (action : Action ρ α) : Prop :=
  ∀ cursor : Cursor ρ, (cursor.run action).2.order = cursor.order

namespace KeepsOrder

/-! ## Ways of putting actions together -/

theorem pure (a : α) : KeepsOrder (ρ := ρ) (Pure.pure a) := fun _ => rfl

theorem throw (fault : Error) : KeepsOrder (MonadExcept.throw fault : Action ρ α) := fun _ => rfl

/-- Nothing comes after a failure. -/
theorem throw_bind (fault : Error) (rest : α → Action ρ β) :
    KeepsOrder (MonadExcept.throw fault >>= rest) := fun _ => rfl

theorem ofExcept (outcome : Except Error α) :
    KeepsOrder (ρ := ρ) (MonadExcept.ofExcept outcome) := by
  intro cursor
  rw [run_ofExcept]

/-- Two steps keep the order if both of them do. Where the first one fails, the order is its own. -/
theorem bind {first : Action ρ α} {rest : α → Action ρ β} (hfirst : KeepsOrder first)
    (hrest : ∀ a, KeepsOrder (rest a)) : KeepsOrder (first >>= rest) := by
  intro cursor
  have horder := hfirst cursor
  rcases hrun : cursor.run first with ⟨outcome, cursor'⟩
  rw [hrun] at horder
  cases outcome with
  | error fault =>
    rw [run_bind_of_error hrun]
    exact horder
  | ok a =>
    rw [run_bind_of_ok hrun]
    exact (hrest a cursor').trans horder

theorem get_bind {rest : Cursor ρ → Action ρ β} (h : ∀ cursor, KeepsOrder (rest cursor)) :
    KeepsOrder (get >>= rest) :=
  bind (fun _ => rfl) h

theorem modify {change : Cursor ρ → Cursor ρ} (h : ∀ cursor, (change cursor).order = cursor.order) :
    KeepsOrder (modify change : Action ρ PUnit) := h

/-- A failure that is kept as a value leaves the cursor where it left it. -/
theorem lift {action : Action ρ α} (h : KeepsOrder action) :
    KeepsOrder (ExceptT.lift (ExceptT.run action)) := h

/-- Entering one thing after the other keeps the order if entering each of them does. -/
theorem foldlM {γ : Type} {step : β → γ → Action ρ β} (h : ∀ b c, KeepsOrder (step b c))
    (things : List γ) (b : β) : KeepsOrder (things.foldlM step b) := by
  induction things generalizing b with
  | nil => exact pure b
  | cons thing things ih => exact bind (h b thing) ih

theorem repeatOnto {action : Action ρ α} (h : KeepsOrder action) (count : Nat) (done : Array α) :
    KeepsOrder (repeatOnto action count done) := by
  induction count generalizing done with
  | zero => exact pure done
  | succ count ih => exact bind h fun result => ih (done.push result)

theorem times {action : Action ρ α} (h : KeepsOrder action) (count : Nat) :
    KeepsOrder (times count action) :=
  bind (h.repeatOnto count #[]) fun _ => pure _

/-! ## Actions on cursors -/

theorem here : KeepsOrder (ρ := ρ) here := get_bind fun _ => pure _

theorem ensure (needed : Nat) : KeepsOrder (ρ := ρ) (ensure needed) := by
  refine get_bind fun cursor => ?_
  split
  · exact throw _
  · exact pure _

theorem ensureRange (offset needed : Nat) : KeepsOrder (ρ := ρ) (ensureRange offset needed) := by
  refine get_bind fun cursor => ?_
  dsimp only
  split
  · exact throw _
  · exact pure _

/-- A reader knows nothing of the order, whether it fails or not. -/
theorem onReader (action : ρ → Except IoFault α × ρ) : KeepsOrder (onReader action) := by
  intro cursor
  rw [Cursor.onReader, run_bind_of_ok (run_get cursor)]
  rcases action cursor.reader with ⟨outcome, reader⟩
  cases outcome <;> rfl

variable [Reader ρ]

theorem seek (offset : Nat) : KeepsOrder (ρ := ρ) (seek offset) := by
  intro cursor
  rw [Cursor.seek, run_bind_of_ok (run_get cursor)]
  by_cases hbehind : cursor.length < offset
  · rw [if_pos hbehind]
    rfl
  · rw [if_neg hbehind]
    cases Reader.seek (.fromStart offset) cursor.reader <;> rfl

theorem bytes (count : Nat) : KeepsOrder (ρ := ρ) (bytes count) :=
  bind (ensure count) fun _ => bind (onReader _) fun _ => bind (modify fun _ => rfl) fun _ => pure _

theorem next (α : Type) [FixedWidth α] : KeepsOrder (ρ := ρ) (next α) :=
  bind (bytes _) fun _ => get_bind fun _ => pure _

theorem text (count : Nat) (encoding : TextEncoding) (policy : Terminator) :
    KeepsOrder (ρ := ρ) (text count encoding policy) :=
  bind (bytes count) fun _ => get_bind fun _ => bind (ofExcept _) fun _ => pure _

/-- What is done elsewhere keeps the order if it does so on its own; the ways there and back do. -/
theorem atOffset {action : Action ρ α} (h : KeepsOrder action) (offset : Nat) :
    KeepsOrder (atOffset offset action) :=
  bind here fun saved => bind (seek offset) fun _ => bind h.lift fun outcome =>
    bind (seek saved) fun _ => ofExcept outcome

end KeepsOrder

end Georef.Cursor
