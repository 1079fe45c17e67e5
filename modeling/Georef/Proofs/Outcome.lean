/-!
# Outcomes

Steps of computations that may fail, one after the other.
-/

namespace Except

variable {ε α β : Type}

@[simp]
theorem pure_eq_ok (a : α) : (pure a : Except ε α) = .ok a := rfl

@[simp]
theorem throw_eq_error (fault : ε) : (throw fault : Except ε α) = .error fault := rfl

@[simp]
theorem ok_bind (a : α) (rest : α → Except ε β) : (Except.ok a >>= rest) = rest a := rfl

@[simp]
theorem error_bind (fault : ε) (rest : α → Except ε β) :
    (Except.error fault >>= rest) = .error fault := rfl

/-- Two steps succeed if the first one does and the second one does on its result. -/
theorem bind_eq_ok_iff {first : Except ε α} {rest : α → Except ε β} {b : β} :
    (first >>= rest) = .ok b ↔ ∃ a, first = .ok a ∧ rest a = .ok b := by
  cases first <;> simp

/-- Only a success is changed into one. -/
theorem map_eq_ok_iff {f : α → β} {outcome : Except ε α} {b : β} :
    outcome.map f = .ok b ↔ ∃ a, outcome = .ok a ∧ f a = b := by
  cases outcome <;> simp [Except.map]

/-- A test of the result that passes has a result. -/
theorem exists_of_any_toOption {outcome : Except ε α} {test : α → Bool}
    (h : outcome.toOption.any test) : ∃ a, outcome = .ok a ∧ test a := by
  cases outcome with
  | error fault => cases h
  | ok a => exact ⟨a, rfl, h⟩

/-- A change of the faults leaves successes as they are. -/
theorem mapError_eq_ok_iff {ε' : Type} {f : ε → ε'} {outcome : Except ε α} {a : α} :
    outcome.mapError f = .ok a ↔ outcome = .ok a := by
  cases outcome with
  | error fault => constructor <;> intro h <;> cases h
  | ok result =>
    show Except.ok result = .ok a ↔ _
    rw [Except.ok.injEq, Except.ok.injEq]

/-- A step for each item succeeds if every step does. -/
theorem mapM_eq_ok {step : α → Except ε β} {result : α → β} {items : List α}
    (h : ∀ item ∈ items, step item = .ok (result item)) :
    items.mapM step = .ok (items.map result) := by
  induction items with
  | nil => rfl
  | cons item rest ih =>
    obtain ⟨hitem, hrest⟩ := List.forall_mem_cons.1 h
    rw [List.mapM_cons, hitem, ok_bind, ih hrest, ok_bind, pure_eq_ok, List.map_cons]

/-- A step for each item fails if one of the steps does. -/
theorem exists_mapM_error {step : α → Except ε β} {items : List α}
    (h : ∃ item ∈ items, ∃ fault, step item = .error fault) :
    ∃ fault, items.mapM step = .error fault := by
  induction items with
  | nil =>
    obtain ⟨item, hmem, -⟩ := h
    cases hmem
  | cons first rest ih =>
    rw [List.mapM_cons]
    cases hfirst : step first with
    | error fault => exact ⟨fault, rfl⟩
    | ok result =>
      obtain ⟨item, hmem, fault, hfault⟩ := h
      rcases List.mem_cons.1 hmem with rfl | hmem
      · rw [hfirst] at hfault
        cases hfault
      · obtain ⟨fault, hrest⟩ := ih ⟨item, hmem, fault, hfault⟩
        exact ⟨fault, by rw [ok_bind, hrest, error_bind]⟩

end Except
