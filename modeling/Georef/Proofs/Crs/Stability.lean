import Georef.Proofs.Crs.Reachability

/-!
# What a registry keeps

Codes are stored in other systems, so what a registry has once said of a code has to stay true. A
system stays registered under its code with its kind and, if it is compound, with its parts; only
its name may change. A pair that has been answered goes on being answered. Once a code is registered
for the pair it is never without one again, and the code can only be replaced by a smaller one; as
long as there is none, the pair has the same synthesized code.

The module introduces:

* `Registry.Keeps registry next` — the maps of `next` extend those of `registry`, up to names.
* `Registry.Upholds registry later` — the answers of `later` are in keeping with those of
  `registry`.
* `Registry.performAll` — calls made one after the other.

`Registry.Reachable.upholds` says that calls, whatever they are, lead to a registry that upholds
what was answered before them.
-/

namespace Georef.Crs.Registry

variable {registry middle next : Registry}

/-! ## Maps that are extended -/

/-- `Keeps registry next`: the maps of `next` extend those of `registry`, up to names. -/
structure Keeps (registry next : Registry) : Prop where
  /-- Systems stay, and at most their names change. -/
  system : ∀ id held, registry.systems.get? id = some held →
    ∃ name, next.systems.get? id = some { held with name }
  /-- Compound systems keep their parts. -/
  components : ∀ id pair, registry.components? id = some pair → next.components? id = some pair

namespace Keeps

theorem refl (registry : Registry) : registry.Keeps registry where
  system _ held hheld := ⟨held.name, hheld⟩
  components _ _ hpair := hpair

theorem trans (h : registry.Keeps middle) (h' : middle.Keeps next) : registry.Keeps next where
  system id held hheld := by
    obtain ⟨name, hmiddle⟩ := h.system id held hheld
    obtain ⟨name', hnext⟩ := h'.system id _ hmiddle
    exact ⟨name', hnext⟩
  components id pair hpair := h'.components id pair (h.components id pair hpair)

/-- A system that is entered under a code in use differs from the earlier one in its name alone. -/
theorem enters {codes : List UInt32} (h : registry.Consistent)
    (henters : Enters codes registry next) : registry.Keeps next := by
  cases henters with
  | @system system _ _ _ hkind =>
    refine ⟨fun id held hheld => ?_, fun id pair hpair => hpair⟩
    by_cases heq : id = system.id
    · subst heq
      refine ⟨system.name, ?_⟩
      rw [putSystem, KeyedList.get?_put_self, (h.id_eq _ held hheld).1, hkind held hheld]
    · exact ⟨held.name, by rw [putSystem, KeyedList.get?_put_of_ne _ heq, hheld]⟩
  | @compound code name parts _ _ _ hfresh =>
    refine ⟨fun id held hheld => ?_, fun id pair hpair => ?_⟩
    · rw [systems_putCompound]
      split
      · rename_i heq
        subst heq
        refine ⟨name, ?_⟩
        rw [(h.id_eq _ held hheld).1, hfresh.kind_eq_compound h hheld]
      · exact ⟨held.name, hheld⟩
    · rw [components?_putCompound]
      split
      · rename_i heq
        subst heq
        rw [hfresh.components?_eq h hpair]
      · exact hpair

theorem grows {codes : List UInt32} (h : registry.Consistent)
    (hgrows : Grows codes registry next) : registry.Keeps next := by
  induction hgrows with
  | refl => exact refl registry
  | tail hbefore henters ih => exact ih.trans (enters (h.grows hbefore) henters)

/-- The systems of a pair stay, since they keep their kinds. -/
theorem holdsParts (h : registry.Keeps next) {pair : Pair} (hparts : registry.HoldsParts pair) :
    next.HoldsParts pair := by
  obtain ⟨horizontal, vertical, hh, hv, hkh, hkv⟩ := hparts
  obtain ⟨name, hh'⟩ := h.system _ _ hh
  obtain ⟨name', hv'⟩ := h.system _ _ hv
  exact ⟨_, _, hh', hv', hkh, hkv⟩

end Keeps

/-! ## Answers that are upheld -/

/-- `Upholds registry later`: the answers of `later` are in keeping with those of `registry`. -/
structure Upholds (registry later : Registry) : Prop where
  /-- A system stays registered, and at most its name changes. -/
  system : ∀ id system, registry.get id = .ok system →
    ∃ name, later.get id = .ok { system with name }
  /-- A system that is compound keeps its parts, and one that is not gets none. -/
  components : ∀ id system, registry.get id = .ok system →
    later.components? id = registry.components? id
  /-- A pair is still answered with its two systems. A registered code stays or becomes smaller, and
  a synthesized one stays as long as none is registered. -/
  pair : ∀ pair compound, registry.getCompound pair = .ok compound →
    ∃ answer, later.getCompound pair = .ok answer ∧
      answer.horizontal.id = compound.horizontal.id ∧
      answer.vertical.id = compound.vertical.id ∧
      (compound.registered = true → answer.registered = true ∧ answer.id ≤ compound.id) ∧
      (answer.registered = false → answer.id = compound.id)

namespace Consistent

/-- What a consistent registry answers for a pair is the answer for it. -/
theorem pairAnswer (h : registry.Consistent) {pair : Pair} {compound : Compound}
    (hcompound : registry.getCompound pair = .ok compound) : registry.PairAnswer pair compound := by
  have hparts := (h.exists_getCompound_iff pair).1 ⟨compound, hcompound⟩
  obtain ⟨answer, hfound, hanswer⟩ := h.getCompound hparts
  rw [hcompound] at hfound
  exact Except.ok.inj hfound ▸ hanswer

theorem get_id (h : registry.Consistent) {id : UInt32} {system : ReferenceSystem}
    (hsystem : registry.get id = .ok system) : system.id = id :=
  (h.id_eq id system (get_eq_ok_iff.1 hsystem)).1

end Consistent

/-- Where the maps are extended the answers are upheld. -/
theorem Keeps.upholds_of_consistent (h : registry.Keeps next) (hregistry : registry.Consistent)
    (hnext : next.Consistent) : registry.Upholds next where
  system id system hsystem := by
    obtain ⟨name, hlater⟩ := h.system id system (get_eq_ok_iff.1 hsystem)
    exact ⟨name, get_eq_ok_iff.2 hlater⟩
  components id system hsystem := by
    cases hpair : registry.components? id with
    | some pair => exact h.components id pair hpair
    | none =>
      -- a system without parts is not compound, and it keeps its kind
      obtain ⟨name, hlater⟩ := h.system id system (get_eq_ok_iff.1 hsystem)
      have hkind : system.kind ≠ .compound := by
        intro hcompound
        have hsome := (hregistry.components_isSome_iff id).2
          ⟨system, get_eq_ok_iff.1 hsystem, hcompound⟩
        rw [hpair] at hsome
        cases hsome
      refine hnext.components_eq_none fun held hheld => ?_
      rw [hlater] at hheld
      exact Option.some.inj hheld ▸ hkind
  pair pair compound hcompound := by
    have hanswer := hregistry.pairAnswer hcompound
    have hparts := h.holdsParts ((hregistry.exists_getCompound_iff pair).1 ⟨compound, hcompound⟩)
    obtain ⟨answer, hfound, hlater⟩ := hnext.getCompound hparts
    refine ⟨answer, hfound, ?_, ?_, fun hregistered => ?_, fun hsynthesized => ?_⟩
    · rw [hnext.get_id hlater.horizontal, hregistry.get_id hanswer.horizontal]
    · rw [hnext.get_id hlater.vertical, hregistry.get_id hanswer.vertical]
    · -- the code of the pair is still one of its codes, so the smallest of them is not above it
      have hheld := h.components _ _ (hanswer.registered hregistered).1.1
      have hstill : answer.registered = true := by
        by_contra hnot
        exact (hlater.synthesized (by simpa using hnot)).1 _ hheld
      exact ⟨hstill, (hlater.registered hstill).1.2 _ hheld⟩
    · obtain ⟨hnone, hid⟩ := hlater.synthesized hsynthesized
      -- a pair that has no code now had none before
      have hbefore : compound.registered = false := by
        by_contra hnot
        have hheld := (hanswer.registered (by simpa using hnot)).1.1
        exact hnone _ (h.components _ _ hheld)
      rw [hid, (hanswer.synthesized hbefore).2]

/-! ## Runs of calls -/

/-- The registry after calls, made one after the other. -/
def performAll (registry : Registry) (calls : List Call) : Registry :=
  calls.foldl perform registry

theorem Consistent.performAll (h : registry.Consistent) (calls : List Call) :
    (registry.performAll calls).Consistent := by
  induction calls generalizing registry with
  | nil => exact h
  | cons call rest ih => exact ih (h.perform call)

/-- Every call keeps what the calls before it have entered. -/
theorem Keeps.performAll (h : registry.Consistent) (calls : List Call) :
    registry.Keeps (registry.performAll calls) := by
  induction calls generalizing registry with
  | nil => exact refl registry
  | cons call rest ih =>
    have hfirst : registry.Keeps (registry.perform call) := grows h (grows_perform registry call)
    exact hfirst.trans (ih (h.perform call))

/-- Whatever calls are made on a reachable registry, and whether they succeed or not, what was
answered before them is upheld. -/
theorem Reachable.upholds (h : Reachable registry) (calls : List Call) :
    registry.Upholds (registry.performAll calls) :=
  (Keeps.performAll h.consistent calls).upholds_of_consistent h.consistent
    (h.consistent.performAll calls)

/-- A smaller code is registered for a built-in pair, one of its systems is renamed, and a change of
its kind is refused. -/
theorem upholds_smaller :
    let calls : List Call :=
      [.registerCompound 900 "local" ⟨4269, 5703⟩, .register ⟨4269, "NAD 1983", .geographic2D⟩,
        .register ⟨4269, "NAD83", .vertical⟩]
    Reachable builtin ∧
      (∃ name, (builtin.performAll calls).get 4269 = .ok ⟨4269, name, .geographic2D⟩) ∧
      ∃ compound answer, builtin.getCompound ⟨4269, 5703⟩ = .ok compound ∧ compound.id = 5498 ∧
        (builtin.performAll calls).getCompound ⟨4269, 5703⟩ = .ok answer ∧
        answer.registered = true ∧ answer.id ≤ 5498 := by
  intro calls
  have hupholds := Reachable.builtin.upholds calls
  let compound : Compound :=
    { id := 5498, name := "NAD83 + NAVD88 height"
      horizontal := ⟨4269, "NAD83", .geographic2D⟩
      vertical := ⟨5703, "NAVD88 height", .vertical⟩, registered := true }
  have hcompound : builtin.getCompound ⟨4269, 5703⟩ = .ok compound := by decide +kernel
  obtain ⟨answer, hanswer, -, -, hregistered, -⟩ := hupholds.pair _ _ hcompound
  obtain ⟨hstill, hle⟩ := hregistered rfl
  have hsystem : builtin.get 4269 = .ok ⟨4269, "NAD83", .geographic2D⟩ := by decide +kernel
  exact ⟨.builtin, hupholds.system _ _ hsystem, compound, answer, hcompound, rfl, hanswer, hstill,
    hle⟩

end Georef.Crs.Registry
