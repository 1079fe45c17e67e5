import Georef.Proofs.Crs.Growth

/-!
# Reachable registries

A registry grows from an empty one or from the built-in catalog, by single systems, by compound
systems, and by whole catalogs.

The module introduces:

* `Registry.Reachable`: the registries that calls lead to.

Every reachable registry is consistent (`Registry.Reachable.consistent`). In a consistent registry
look-ups succeed wherever they can (`Registry.Consistent.getCompound`,
`Registry.Consistent.resolve`), and `Registry.Reachable.consistent_and_answers` puts the two
together.
-/

namespace Georef.Crs.Registry

variable {registry next : Registry}

/-! ## Extending consistent registries -/

namespace Consistent

theorem enters {codes : List UInt32} (h : registry.Consistent)
    (henters : Enters codes registry next) : next.Consistent := by
  cases henters with
  | system _ hid hcompound hkind => exact h.putSystem hid hcompound hkind
  | compound _ hid hparts hfresh => exact h.putCompound hid hparts hfresh

theorem grows {codes : List UInt32} (h : registry.Consistent)
    (hgrows : Grows codes registry next) : next.Consistent := by
  induction hgrows with
  | refl => exact h
  | tail _ henters ih => exact ih.enters henters

theorem perform (h : registry.Consistent) (request : Call) :
    (registry.perform request).Consistent :=
  h.grows (grows_perform registry request)

/-! ### The built-in catalog -/

/-- Systems with different new codes can be entered one after the other. -/
theorem foldl_putSystem (h : registry.Consistent) {systems : List ReferenceSystem}
    (hdistinct : (systems.map ReferenceSystem.id).Nodup)
    (hnew : ∀ system ∈ systems, system.id ≠ 0 ∧ system.kind ≠ .compound ∧
      registry.systems.get? system.id = none) :
    (systems.foldl Registry.putSystem registry).Consistent := by
  induction systems generalizing registry with
  | nil => exact h
  | cons system rest ih =>
    obtain ⟨hid, hkind, hnone⟩ := hnew system List.mem_cons_self
    rw [List.map_cons, List.nodup_cons] at hdistinct
    have hnext : (registry.putSystem system).Consistent := by
      refine h.putSystem hid hkind fun held hheld => ?_
      rw [hnone] at hheld
      cases hheld
    -- codes are different, so the rest is still new
    refine ih hnext hdistinct.2 fun other hmem => ?_
    obtain ⟨hid', hkind', hnone'⟩ := hnew other (List.mem_cons_of_mem _ hmem)
    have hne : other.id ≠ system.id := fun heq => hdistinct.1 (heq ▸ List.mem_map_of_mem hmem)
    refine ⟨hid', hkind', ?_⟩
    rw [Registry.putSystem, KeyedList.get?_put_of_ne _ hne, hnone']

/-- Compound systems with different new codes can be entered one after the other. -/
theorem foldl_putCompound (h : registry.Consistent) {entries : List (UInt32 × String × Pair)}
    (hdistinct : (entries.map Prod.fst).Nodup)
    (hnew : ∀ entry ∈ entries, entry.1 ≠ 0 ∧ registry.systems.get? entry.1 = none ∧
      registry.HoldsParts entry.2.2) :
    (entries.foldl (fun registry entry => registry.putCompound entry.1 entry.2.1 entry.2.2)
      registry).Consistent := by
  induction entries generalizing registry with
  | nil => exact h
  | cons entry rest ih =>
    obtain ⟨hid, hnone, hparts⟩ := hnew entry List.mem_cons_self
    rw [List.map_cons, List.nodup_cons] at hdistinct
    refine ih (h.putCompound hid hparts (.inl hnone)) hdistinct.2 fun other hmem => ?_
    obtain ⟨hid', hnone', hparts'⟩ := hnew other (List.mem_cons_of_mem _ hmem)
    have hne : other.1 ≠ entry.1 := fun heq => hdistinct.1 (heq ▸ List.mem_map_of_mem hmem)
    refine ⟨hid', ?_, hparts'.putCompound h (.inl hnone)⟩
    rw [systems_putCompound, if_neg hne, hnone']

end Consistent

theorem consistent_builtin : builtin.Consistent := by
  have hsingles : (builtinSystems.foldl putSystem empty).Consistent := by
    refine consistent_empty.foldl_putSystem (by decide) fun system hmem => ?_
    have hsystem : ∀ system ∈ builtinSystems, system.id ≠ 0 ∧ system.kind ≠ .compound := by decide
    exact ⟨(hsystem system hmem).1, (hsystem system hmem).2, rfl⟩
  refine hsingles.foldl_putCompound (by decide) fun entry hmem => ?_
  -- the parts of the built-in compound systems are looked up among the built-in single ones
  have hentry : ∀ entry ∈ builtinCompounds, entry.1 ≠ 0 ∧
      (builtinSystems.foldl putSystem empty).systems.get? entry.1 = none ∧
      ((builtinSystems.foldl putSystem empty).parts entry.2.2).isOk := by decide +kernel
  obtain ⟨hid, hnone, hparts⟩ := hentry entry hmem
  refine ⟨hid, hnone, exists_parts_eq_ok_iff.1 ?_⟩
  cases hfound : (builtinSystems.foldl putSystem empty).parts entry.2.2 with
  | ok parts => exact ⟨parts, rfl⟩
  | error fault =>
    rw [hfound] at hparts
    cases hparts

/-! ## Reachable registries -/

/-- Registries that calls, successful or not, lead to from an empty one or from the built-in one. -/
inductive Reachable : Registry → Prop
  | empty : Reachable empty
  | builtin : Reachable builtin
  | perform {registry : Registry} (request : Call) :
      Reachable registry → Reachable (registry.perform request)

theorem Reachable.consistent (h : Reachable registry) : registry.Consistent := by
  induction h with
  | empty => exact consistent_empty
  | builtin => exact consistent_builtin
  | perform request _ ih => exact ih.perform request

/-! ## Looking up -/

/-- What a consistent registry answers for a pair: the two systems with the smallest code of the
pair and its present name, or with the code made from the pair if it has none. -/
structure PairAnswer (registry : Registry) (pair : Pair) (compound : Compound) : Prop where
  horizontal : registry.get pair.horizontal = .ok compound.horizontal
  vertical : registry.get pair.vertical = .ok compound.vertical
  registered : compound.registered = true → registry.IsSmallest pair compound.id ∧
    ∃ system, registry.get compound.id = .ok system ∧ compound.name = system.name
  synthesized : compound.registered = false →
    (∀ id, registry.components? id ≠ some pair) ∧ compound.id = synthesizedId pair

/-- What a consistent registry answers for the code of a system: the code with its present name, and
for a compound system its own parts. -/
structure CodeAnswer (registry : Registry) (id : UInt32) (resolved : Resolved) : Prop where
  id_eq : resolved.id = id
  name_eq : ∃ system, registry.get id = .ok system ∧ resolved.name = system.name
  single : registry.components? id = none →
    ∃ system, registry.get id = .ok system ∧ resolved = .single system
  compound : ∀ pair, registry.components? id = some pair → ∃ compound,
    resolved = .compound compound ∧
    registry.get pair.horizontal = .ok compound.horizontal ∧
    registry.get pair.vertical = .ok compound.vertical

namespace Consistent

/-- The system of a code with parts is there. -/
theorem exists_get_of_components? (h : registry.Consistent) {id : UInt32} {pair : Pair}
    (hid : registry.components? id = some pair) : ∃ system, registry.get id = .ok system := by
  obtain ⟨system, hsystem, -⟩ := (h.components_isSome_iff id).1 (by rw [hid]; rfl)
  exact ⟨system, get_eq_ok_iff.2 hsystem⟩

/-- A pair whose systems are there is always answered. -/
theorem getCompound (h : registry.Consistent) {pair : Pair} (hparts : registry.HoldsParts pair) :
    ∃ compound, registry.getCompound pair = .ok compound ∧ registry.PairAnswer pair compound := by
  obtain ⟨horizontal, vertical, hall⟩ := hparts
  have hh := get_eq_ok_iff.2 hall.1
  have hv := get_eq_ok_iff.2 hall.2.1
  unfold Registry.getCompound
  rw [parts_eq_ok_iff.2 hall, Except.ok_bind]
  cases hleast : registry.smallest.get? pair with
  | some least =>
    -- the smallest code of the pair is that of a system, whose name is the present one
    have hsmallest := (h.smallest_iff pair least).1 hleast
    obtain ⟨system, hsystem⟩ := h.exists_get_of_components? hsmallest.1
    simp only [hsystem, Except.ok_bind]
    exact ⟨_, rfl, hh, hv, fun _ => ⟨hsmallest, system, hsystem, rfl⟩, fun h => (nomatch h)⟩
  | none =>
    refine ⟨_, rfl, hh, hv, fun h => (nomatch h), fun _ => ⟨fun id hid => ?_, rfl⟩⟩
    -- a pair without a smallest code has no code at all
    have hsome := h.smallest_isSome pair id hid
    rw [hleast] at hsome
    cases hsome

theorem exists_getCompound_iff (h : registry.Consistent) (pair : Pair) :
    (∃ compound, registry.getCompound pair = .ok compound) ↔ registry.HoldsParts pair := by
  constructor
  · rintro ⟨compound, hcompound⟩
    obtain ⟨parts, hparts, -⟩ := Except.bind_eq_ok_iff.1 hcompound
    exact exists_parts_eq_ok_iff.1 ⟨parts, hparts⟩
  · intro hparts
    obtain ⟨compound, hcompound, -⟩ := h.getCompound hparts
    exact ⟨compound, hcompound⟩

/-- Every code of a system is answered. For a compound system the answer goes through its pair,
which may stand for a smaller code. -/
theorem resolve (h : registry.Consistent) {id : UInt32} {system : ReferenceSystem}
    (hid : registry.get id = .ok system) :
    ∃ resolved, registry.resolve id = .ok resolved ∧ registry.CodeAnswer id resolved := by
  have hcode := (h.id_eq id system (get_eq_ok_iff.1 hid)).1
  unfold Registry.resolve
  cases hpair : registry.components? id with
  | none =>
    simp only [hid, Except.ok_bind]
    refine ⟨_, rfl, hcode, ⟨system, hid, rfl⟩, fun _ => ⟨system, hid, rfl⟩, fun pair h' => ?_⟩
    rw [hpair] at h'
    cases h'
  | some pair =>
    obtain ⟨compound, hcompound, hanswer⟩ := h.getCompound (h.holdsParts id pair hpair)
    simp only [hcompound, hid, Except.ok_bind]
    have hother : ∀ other, registry.components? id = some other → other = pair := by
      intro other hsome
      rw [hpair] at hsome
      exact (Option.some.inj hsome).symm
    split
    · rename_i heq
      -- the code is the one that its pair stands for, so the name found there is its own
      have hregistered : compound.registered = true := by
        by_contra hsynthesized
        have hnone := (hanswer.synthesized (by simpa using hsynthesized)).1
        exact hnone id hpair
      obtain ⟨-, found, hfound, hname⟩ := hanswer.registered hregistered
      refine ⟨_, rfl, heq, ⟨found, heq ▸ hfound, hname⟩, fun h' => ?_, fun other hsome => ?_⟩
      · rw [hpair] at h'
        cases h'
      · rw [hother other hsome]
        exact ⟨compound, rfl, hanswer.horizontal, hanswer.vertical⟩
    · refine ⟨_, rfl, rfl, ⟨system, hid, rfl⟩, fun h' => ?_, fun other hsome => ?_⟩
      · rw [hpair] at h'
        cases h'
      · rw [hother other hsome]
        exact ⟨_, rfl, hanswer.horizontal, hanswer.vertical⟩

end Consistent

/-- In every reachable registry the maps agree, a pair is answered exactly if its two systems are
there, and every code of a system is answered. -/
theorem Reachable.consistent_and_answers (h : Reachable registry) :
    registry.Consistent ∧
      (∀ pair, (∃ compound, registry.getCompound pair = .ok compound) ↔
        registry.HoldsParts pair) ∧
      (∀ pair compound, registry.getCompound pair = .ok compound →
        registry.PairAnswer pair compound) ∧
      ∀ id system, registry.get id = .ok system →
        ∃ resolved, registry.resolve id = .ok resolved ∧ registry.CodeAnswer id resolved := by
  refine ⟨h.consistent, h.consistent.exists_getCompound_iff, fun pair compound hfound => ?_,
    fun id system hid => h.consistent.resolve hid⟩
  have hparts := (h.consistent.exists_getCompound_iff pair).1 ⟨compound, hfound⟩
  obtain ⟨answered, hanswered, hanswer⟩ := h.consistent.getCompound hparts
  rw [hfound] at hanswered
  exact Except.ok.inj hanswered ▸ hanswer

/-- The built-in registry after a second code was registered for one of its pairs. -/
def aliased : Registry :=
  builtin.perform (.registerCompound 9001 "alias" ⟨4269, 5703⟩)

/-- The second code is answered with itself and its own name. -/
theorem consistent_and_answers_alias :
    Reachable aliased ∧ aliased.Consistent ∧
      ∃ resolved, aliased.resolve 9001 = .ok resolved ∧ resolved.id = 9001 ∧
        resolved.name = "alias" := by
  have hreach : Reachable aliased := .perform _ .builtin
  obtain ⟨hconsistent, -, -, hcodes⟩ := hreach.consistent_and_answers
  have hheld : aliased.get 9001 = .ok ⟨9001, "alias", .compound⟩ := by decide +kernel
  obtain ⟨resolved, hresolved, hanswer⟩ := hcodes 9001 _ hheld
  obtain ⟨system, hsystem, hname⟩ := hanswer.name_eq
  rw [hheld] at hsystem
  exact ⟨hreach, hconsistent, resolved, hresolved, hanswer.id_eq,
    hname.trans (congrArg ReferenceSystem.name (Except.ok.inj hsystem)).symm⟩

end Georef.Crs.Registry
