import Georef.Proofs.Crs.Reachability

/-!
# Synthesized codes

A pair that has no code is answered with one synthesized from the codes of its parts, with the
highest bit set. Codes in use are meant to stay below that bit, but registering does not look at it:
a code is refused only if it is zero, or taken by another kind or another pair. So a synthesized
code may be that of a registered system. It is one only where a call has asked for this very code.

The module introduces:

* `Registry.ReachedBy calls registry` — the calls, in their order, have led to a registry.
* `Registry.Adds registry codes next` — every code of `next` is one of `registry` or of `codes`.
* `Registry.ReachedBy.origin` — where the codes of a registry come from.

`Registry.ReachedBy.synthesized_code` says when a synthesized code is that of a system, and
`Registry.exists_synthesized_code_taken` that it happens.
-/

namespace Georef.Crs

/-- The bit that synthesized codes have set. -/
def synthesizedFlag : UInt32 := 0x80000000

theorem synthesizedFlag_le_synthesizedId (pair : Pair) : synthesizedFlag ≤ synthesizedId pair := by
  rw [UInt32.le_iff_toNat_le, synthesizedId, UInt32.toNat_or]
  exact Nat.right_le_or

namespace Registry

variable {registry middle next : Registry}

/-! ## Codes that are known -/

/-- `Knows registry id`: a system is registered under the code. -/
def Knows (registry : Registry) (id : UInt32) : Prop :=
  (registry.systems.get? id).isSome

theorem knows_iff {id : UInt32} : registry.Knows id ↔ ∃ system, registry.get id = .ok system := by
  simp only [Knows, get_eq_ok_iff, Option.isSome_iff_exists]

theorem get_eq_error_of_not_knows {id : UInt32} (h : ¬registry.Knows id) :
    registry.get id = .error (.unknownSystem id) := by
  rw [get, Option.not_isSome_iff_eq_none.1 h]

theorem knows_putSystem {system : ReferenceSystem} {id : UInt32}
    (h : (registry.putSystem system).Knows id) : id = system.id ∨ registry.Knows id := by
  by_cases heq : id = system.id
  · exact .inl heq
  · rw [Knows, putSystem, KeyedList.get?_put_of_ne _ heq] at h
    exact .inr h

theorem knows_putCompound {id other : UInt32} {name : String} {pair : Pair}
    (h : (registry.putCompound id name pair).Knows other) : other = id ∨ registry.Knows other := by
  by_cases heq : other = id
  · exact .inl heq
  · rw [Knows, systems_putCompound, if_neg heq] at h
    exact .inr h

/-- The built-in codes are below the bit that synthesized codes have set. -/
theorem lt_synthesizedFlag_of_builtin {id : UInt32} (h : builtin.Knows id) :
    id < synthesizedFlag := by
  have hbelow : ∀ entry ∈ builtin.systems.entries, entry.1 < synthesizedFlag := by decide +kernel
  obtain ⟨system, hsystem⟩ := Option.isSome_iff_exists.1 h
  exact hbelow _ (KeyedList.get?_eq_some_iff.1 hsystem)

/-! ## What calls add -/

/-- `Adds registry codes next`: every code of `next` is one of `registry` or one of `codes`. -/
def Adds (registry : Registry) (codes : List UInt32) (next : Registry) : Prop :=
  ∀ id, next.Knows id → registry.Knows id ∨ id ∈ codes

namespace Adds

variable {codes : List UInt32}

theorem refl (registry : Registry) (codes : List UInt32) : registry.Adds codes registry :=
  fun _ h => .inl h

theorem trans (h : registry.Adds codes middle) (h' : middle.Adds codes next) :
    registry.Adds codes next := by
  intro id hid
  rcases h' id hid with hmiddle | hmem
  · exact h id hmiddle
  · exact .inr hmem

theorem enters (henters : Enters codes registry next) : registry.Adds codes next := by
  cases henters with
  | system hcode =>
    intro id hid
    rcases knows_putSystem hid with rfl | hold
    · exact .inr hcode
    · exact .inl hold
  | compound hcode =>
    intro id hid
    rcases knows_putCompound hid with rfl | hold
    · exact .inr hcode
    · exact .inl hold

theorem grows (hgrows : Grows codes registry next) : registry.Adds codes next := by
  induction hgrows with
  | refl => exact refl _ _
  | tail _ henters ih => exact ih.trans (enters henters)

end Adds

/-- A call adds no codes but those it asks for. -/
theorem adds_perform (registry : Registry) (request : Call) :
    registry.Adds request.codes (registry.perform request) :=
  .grows (grows_perform registry request)

/-! ## Registries and the calls behind them -/

/-- `ReachedBy calls registry`: the calls, made in their order on an empty registry or on the
built-in one, have led to the registry. -/
inductive ReachedBy : List Call → Registry → Prop
  | empty : ReachedBy [] empty
  | builtin : ReachedBy [] builtin
  | perform {calls : List Call} {registry : Registry} (request : Call) :
      ReachedBy calls registry → ReachedBy (calls ++ [request]) (registry.perform request)

/-- Reachable registries are those with calls behind them. -/
theorem reachable_iff_exists_reachedBy :
    Reachable registry ↔ ∃ calls, ReachedBy calls registry := by
  constructor
  · intro h
    induction h with
    | empty => exact ⟨_, .empty⟩
    | builtin => exact ⟨_, .builtin⟩
    | perform request _ ih =>
      obtain ⟨calls, hcalls⟩ := ih
      exact ⟨_, hcalls.perform request⟩
  · rintro ⟨calls, h⟩
    induction h with
    | empty => exact .empty
    | builtin => exact .builtin
    | perform request _ ih => exact ih.perform request

namespace ReachedBy

variable {calls : List Call}

/-- Every code is built in or was asked for. -/
theorem origin (h : ReachedBy calls registry) {id : UInt32} (hid : registry.Knows id) :
    Registry.builtin.Knows id ∨ ∃ call ∈ calls, id ∈ call.codes := by
  induction h with
  | empty => cases hid
  | builtin => exact .inl hid
  | perform request _ ih =>
    rcases adds_perform _ request id hid with hold | hnew
    · refine (ih hold).imp_right fun ⟨call, hmem, hcode⟩ => ?_
      exact ⟨call, List.mem_append_left _ hmem, hcode⟩
    · exact .inr ⟨request, List.mem_append_right _ List.mem_cons_self, hnew⟩

/-- The code synthesized for a pair has its highest bit set. It is that of a registered system only
if a call asked for this very code, so never if all codes that were asked for are below that bit. -/
theorem synthesized_code (h : ReachedBy calls registry) {pair : Pair} {compound : Compound}
    (hanswer : registry.getCompound pair = .ok compound)
    (hsynthesized : compound.registered = false) :
    compound.id = synthesizedId pair ∧ synthesizedFlag ≤ compound.id ∧
      ((∃ system, registry.get compound.id = .ok system) →
        ∃ call ∈ calls, compound.id ∈ call.codes) ∧
      ((∀ call ∈ calls, ∀ id ∈ call.codes, id < synthesizedFlag) →
        registry.get compound.id = .error (.unknownSystem compound.id)) := by
  have hconsistent := (reachable_iff_exists_reachedBy.2 ⟨calls, h⟩).consistent
  have hid : compound.id = synthesizedId pair := by
    have hparts := (hconsistent.exists_getCompound_iff pair).1 ⟨compound, hanswer⟩
    obtain ⟨answered, hanswered, hpair⟩ := hconsistent.getCompound hparts
    obtain rfl := Except.ok.inj (hanswer.symm.trans hanswered)
    exact (hpair.synthesized hsynthesized).2
  have hflag : synthesizedFlag ≤ compound.id := hid ▸ synthesizedFlag_le_synthesizedId pair
  -- built-in codes are below the bit, so a code that is known has been asked for
  have hasked : registry.Knows compound.id → ∃ call ∈ calls, compound.id ∈ call.codes := by
    intro hknows
    refine (h.origin hknows).resolve_left fun hbuiltin => ?_
    exact UInt32.not_lt.2 hflag (lt_synthesizedFlag_of_builtin hbuiltin)
  refine ⟨hid, hflag, fun hfound => hasked (knows_iff.2 hfound), fun hbelow => ?_⟩
  refine get_eq_error_of_not_knows fun hknows => ?_
  obtain ⟨call, hcall, hcode⟩ := hasked hknows
  exact UInt32.not_lt.2 hflag (hbelow call hcall _ hcode)

end ReachedBy

/-- With a local system below the bit, the code synthesized for a pair of it is free. -/
theorem synthesized_code_local :
    ∃ registry compound, ReachedBy [.register ⟨900001, "Local grid", .engineering⟩] registry ∧
      registry.getCompound ⟨900001, 5703⟩ = .ok compound ∧ compound.registered = false ∧
      registry.get compound.id = .error (.unknownSystem compound.id) := by
  let registry := builtin.perform (.register ⟨900001, "Local grid", .engineering⟩)
  let compound : Compound :=
    { id := synthesizedId ⟨900001, 5703⟩, name := "Local grid + NAVD88 height"
      horizontal := ⟨900001, "Local grid", .engineering⟩
      vertical := ⟨5703, "NAVD88 height", .vertical⟩, registered := false }
  have hreach : ReachedBy [.register ⟨900001, "Local grid", .engineering⟩] registry :=
    ReachedBy.builtin.perform _
  have hanswer : registry.getCompound ⟨900001, 5703⟩ = .ok compound := by decide +kernel
  obtain ⟨-, -, -, hfree⟩ := hreach.synthesized_code hanswer rfl
  refine ⟨registry, compound, hreach, hanswer, rfl, hfree ?_⟩
  intro call hcall id hid
  obtain rfl := List.mem_singleton.1 hcall
  obtain rfl := List.mem_singleton.1 hid
  decide

/-- The code synthesized for a pair may be that of a system that was registered under it. -/
theorem exists_synthesized_code_taken :
    ∃ registry pair compound system, Reachable registry ∧
      registry.getCompound pair = .ok compound ∧ compound.registered = false ∧
      registry.get compound.id = .ok system := by
  let site : ReferenceSystem := ⟨3315066720, "Site grid", .engineering⟩
  let registry := builtin.perform (.register site)
  let compound : Compound :=
    { id := 3315066720, name := "WGS 84 + NAVD88 height"
      horizontal := ⟨4326, "WGS 84", .geographic2D⟩
      vertical := ⟨5703, "NAVD88 height", .vertical⟩, registered := false }
  have hanswer : registry.getCompound ⟨4326, 5703⟩ = .ok compound := by decide +kernel
  have hsite : registry.get 3315066720 = .ok site := by decide +kernel
  exact ⟨registry, ⟨4326, 5703⟩, compound, site, .perform _ .builtin, hanswer, rfl, hsite⟩

end Registry

end Georef.Crs
