import Georef.Crs.Catalog
import Georef.Proofs.KeyedList
import Mathlib.Tactic.Common

/-!
# Registries stay consistent

The three maps of a registry say the same thing in different ways. This module states how they have
to agree, and shows that entering a system or a compound system keeps them in agreement.

The module introduces:

* `Registry.HoldsParts`, `Registry.IsSmallest`: the two systems of a pair are there and of the right
  kinds; a code is the smallest of the compound systems of a pair.
* `Registry.Consistent`: the agreement of the maps.
* `Registry.putSystem`, `Registry.Fresh`: entering a system unchecked, and the codes that a compound
  system may be entered under.

`Registry.Consistent.putSystem` and `Registry.Consistent.putCompound` are the two steps that every
call is made of.
-/

namespace Georef.Crs.Registry

variable {registry next : Registry}

/-! ## Agreement of the maps -/

/-- The two systems of a pair are registered, one as a horizontal system and the other as a vertical
one. -/
def HoldsParts (registry : Registry) (pair : Pair) : Prop :=
  ∃ horizontal vertical,
    registry.systems.get? pair.horizontal = some horizontal ∧
    registry.systems.get? pair.vertical = some vertical ∧
    horizontal.kind.isHorizontal = true ∧ vertical.kind.isVertical = true

/-- A code is that of a compound system of a pair, and no other code of the pair is smaller. -/
def IsSmallest (registry : Registry) (pair : Pair) (id : UInt32) : Prop :=
  registry.components? id = some pair ∧
    ∀ other, registry.components? other = some pair → id ≤ other

/-- The maps of a registry agree. -/
structure Consistent (registry : Registry) : Prop where
  /-- Systems are kept under their codes, which are positive. -/
  id_eq : ∀ id system, registry.systems.get? id = some system → system.id = id ∧ id ≠ 0
  /-- The compound systems are those with parts. -/
  components_isSome_iff : ∀ id, (registry.components? id).isSome ↔
    ∃ system, registry.systems.get? id = some system ∧ system.kind = .compound
  /-- The parts of compound systems are there. -/
  holdsParts : ∀ id pair, registry.components? id = some pair → registry.HoldsParts pair
  /-- A pair stands for the smallest of its codes, if it has one. -/
  smallest_iff : ∀ pair id, registry.smallest.get? pair = some id ↔ registry.IsSmallest pair id
  smallest_isSome : ∀ pair id, registry.components? id = some pair →
    (registry.smallest.get? pair).isSome

namespace Consistent

theorem components_eq_none (h : registry.Consistent) {id : UInt32}
    (hid : ∀ system, registry.systems.get? id = some system → system.kind ≠ .compound) :
    registry.components? id = none := by
  rw [← Option.not_isSome_iff_eq_none, h.components_isSome_iff]
  rintro ⟨system, hsystem, hkind⟩
  exact hid system hsystem hkind

end Consistent

theorem consistent_empty : empty.Consistent where
  id_eq _ _ h := nomatch h
  components_isSome_iff _ := ⟨fun h => (nomatch h), fun ⟨_, h, _⟩ => (nomatch h)⟩
  holdsParts _ _ h := nomatch h
  smallest_iff _ _ := ⟨fun h => (nomatch h), fun h => (nomatch h.1)⟩
  smallest_isSome _ _ h := nomatch h

/-! ## Entering systems -/

/-- The registry with a system that is not compound, unchecked. -/
def putSystem (registry : Registry) (system : ReferenceSystem) : Registry :=
  { registry with systems := registry.systems.put system.id system }

/-- Parts stay there if a system is entered that keeps the kind of any earlier one of its code. -/
theorem HoldsParts.putSystem {pair : Pair} (h : registry.HoldsParts pair)
    {system : ReferenceSystem}
    (hkind : ∀ held, registry.systems.get? system.id = some held → held.kind = system.kind) :
    (registry.putSystem system).HoldsParts pair := by
  -- whatever is registered keeps its kind, if not its name
  have hsame : ∀ id held, registry.systems.get? id = some held →
      ∃ held', (registry.putSystem system).systems.get? id = some held' ∧
        held'.kind = held.kind := by
    intro id held hheld
    by_cases hid : id = system.id
    · subst hid
      exact ⟨system, KeyedList.get?_put_self .., (hkind held hheld).symm⟩
    · exact ⟨held, by rw [Registry.putSystem, KeyedList.get?_put_of_ne _ hid, hheld], rfl⟩
  obtain ⟨horizontal, vertical, hh, hv, hkh, hkv⟩ := h
  obtain ⟨horizontal', hh', hkh'⟩ := hsame _ _ hh
  obtain ⟨vertical', hv', hkv'⟩ := hsame _ _ hv
  exact ⟨horizontal', vertical', hh', hv', by rw [hkh', hkh], by rw [hkv', hkv]⟩

/-- Entering a system that is not compound and keeps the kind of its code. -/
theorem Consistent.putSystem (h : registry.Consistent) {system : ReferenceSystem}
    (hid : system.id ≠ 0) (hcompound : system.kind ≠ .compound)
    (hkind : ∀ held, registry.systems.get? system.id = some held → held.kind = system.kind) :
    (registry.putSystem system).Consistent where
  id_eq id held hheld := by
    by_cases heq : id = system.id
    · subst heq
      rw [Registry.putSystem, KeyedList.get?_put_self] at hheld
      exact ⟨by rw [← Option.some.inj hheld], hid⟩
    · rw [Registry.putSystem, KeyedList.get?_put_of_ne _ heq] at hheld
      exact h.id_eq id held hheld
  components_isSome_iff id := by
    change (registry.components? id).isSome ↔ _
    by_cases heq : id = system.id
    · subst heq
      -- the code has no parts, as it has never been that of a compound system
      have hnone := h.components_eq_none fun held hheld => hkind held hheld ▸ hcompound
      simp [hnone, Registry.putSystem, KeyedList.get?_put_self, hcompound]
    · rw [Registry.putSystem, KeyedList.get?_put_of_ne _ heq]
      exact h.components_isSome_iff id
  holdsParts id pair hpair := (h.holdsParts id pair hpair).putSystem hkind
  smallest_iff := h.smallest_iff
  smallest_isSome := h.smallest_isSome

/-! ## Entering compound systems -/

section PutCompound

variable {id : UInt32} {name : String} {pair : Pair}

theorem components?_putCompound (other : UInt32) :
    (registry.putCompound id name pair).components? other =
      if other = id then some pair else registry.components? other := by
  by_cases h : other = id
  · rw [if_pos h, h]
    exact KeyedList.get?_put_self ..
  · rw [if_neg h]
    exact KeyedList.get?_put_of_ne _ h _

theorem systems_putCompound (other : UInt32) :
    (registry.putCompound id name pair).systems.get? other =
      if other = id then some ⟨id, name, .compound⟩ else registry.systems.get? other := by
  by_cases h : other = id
  · rw [if_pos h, h]
    exact KeyedList.get?_put_self ..
  · rw [if_neg h]
    exact KeyedList.get?_put_of_ne _ h _

/-- A code of a pair is new, or it is that of a compound system of this pair. -/
def Fresh (registry : Registry) (id : UInt32) (pair : Pair) : Prop :=
  registry.systems.get? id = none ∨ registry.components? id = some pair

theorem Fresh.kind_eq_compound (h : registry.Consistent) (hfresh : registry.Fresh id pair)
    {system : ReferenceSystem} (hsystem : registry.systems.get? id = some system) :
    system.kind = .compound := by
  rcases hfresh with hnew | hold
  · rw [hnew] at hsystem
    cases hsystem
  · obtain ⟨held, hheld, hkind⟩ := (h.components_isSome_iff id).1 (by rw [hold]; rfl)
    rw [hsystem] at hheld
    rw [Option.some.inj hheld, hkind]

/-- A fresh code has no parts yet, or the ones of its pair. -/
theorem Fresh.components?_eq (h : registry.Consistent) (hfresh : registry.Fresh id pair)
    {other : Pair} (hother : registry.components? id = some other) : other = pair := by
  rcases hfresh with hnew | hold
  · obtain ⟨held, hheld, -⟩ := (h.components_isSome_iff id).1 (by rw [hother]; rfl)
    rw [hnew] at hheld
    cases hheld
  · rw [hold] at hother
    exact (Option.some.inj hother).symm

/-- Compound systems are parts of none, so entering one leaves all parts where they are. -/
theorem HoldsParts.putCompound (h : registry.Consistent) (hfresh : registry.Fresh id pair)
    {other : Pair} (hother : registry.HoldsParts other) :
    (registry.putCompound id name pair).HoldsParts other := by
  -- a part is not compound, so its code is not the one that is entered
  obtain ⟨horizontal, vertical, hh, hv, hkh, hkv⟩ := hother
  refine ⟨horizontal, vertical, ?_, ?_, hkh, hkv⟩
  · rw [systems_putCompound, if_neg, hh]
    intro heq
    rw [hfresh.kind_eq_compound h (heq ▸ hh)] at hkh
    cases hkh
  · rw [systems_putCompound, if_neg, hv]
    intro heq
    rw [hfresh.kind_eq_compound h (heq ▸ hv)] at hkv
    cases hkv

theorem smallest_putCompound (other : Pair) :
    (registry.putCompound id name pair).smallest.get? other =
      if other = pair then
        some (match registry.smallest.get? pair with
          | some least => min least id
          | none => id)
      else registry.smallest.get? other := by
  by_cases h : other = pair
  · rw [if_pos h, h]
    exact KeyedList.get?_put_self ..
  · rw [if_neg h]
    exact KeyedList.get?_put_of_ne _ h _

theorem IsSmallest.eq {least other : UInt32} (h : registry.IsSmallest pair least)
    (h' : registry.IsSmallest pair other) : least = other :=
  UInt32.le_antisymm (h.2 _ h'.1) (h'.2 _ h.1)

/-- The code entered under the pair is the smallest one there is now. -/
theorem isSmallest_putCompound (h : registry.Consistent) {least : UInt32}
    (hleast : (registry.putCompound id name pair).smallest.get? pair = some least) :
    (registry.putCompound id name pair).IsSmallest pair least := by
  rw [smallest_putCompound, if_pos rfl, Option.some.injEq] at hleast
  simp only [IsSmallest, components?_putCompound]
  cases hold : registry.smallest.get? pair with
  | none =>
    -- the first code of a pair is the smallest one
    rw [hold] at hleast
    subst hleast
    refine ⟨if_pos rfl, fun other hother => ?_⟩
    split at hother
    · rename_i heq
      exact UInt32.le_of_eq heq.symm
    · have := h.smallest_isSome pair other hother
      rw [hold] at this
      cases this
  | some earlier =>
    -- the smaller one of two codes, of which the earlier is below all others
    rw [hold] at hleast
    obtain ⟨hearlier, hle⟩ := (h.smallest_iff pair earlier).1 hold
    simp only at hleast
    subst hleast
    refine ⟨?_, fun other hother => ?_⟩
    · have hmin : min earlier id = earlier ∨ min earlier id = id := Std.min_eq_or
      rcases hmin with hmin | hmin
      · rw [hmin, hearlier, ite_self]
      · rw [hmin, if_pos rfl]
    · split at hother
      · rename_i heq
        exact heq ▸ Std.min_le_right
      · exact UInt32.le_trans Std.min_le_left (hle other hother)

/-- The smallest codes of other pairs stay. -/
theorem isSmallest_putCompound_of_ne (h : registry.Consistent) (hfresh : registry.Fresh id pair)
    {other : Pair} (hne : other ≠ pair) (least : UInt32) :
    (registry.putCompound id name pair).IsSmallest other least ↔
      registry.IsSmallest other least := by
  -- the codes of another pair are the same before and after
  have hsame : ∀ code, (registry.putCompound id name pair).components? code = some other ↔
      registry.components? code = some other := by
    intro code
    rw [components?_putCompound]
    split
    · rename_i heq
      subst heq
      constructor
      · intro hpair
        exact absurd (Option.some.inj hpair).symm hne
      · intro hother
        exact absurd (hfresh.components?_eq h hother) hne
    · rfl
  simp only [IsSmallest, hsame]

/-- Entering a compound system whose code is fresh and whose parts are there. -/
theorem Consistent.putCompound (h : registry.Consistent) (hid : id ≠ 0)
    (hparts : registry.HoldsParts pair) (hfresh : registry.Fresh id pair) :
    (registry.putCompound id name pair).Consistent where
  id_eq other system hsystem := by
    rw [systems_putCompound] at hsystem
    split at hsystem
    · rename_i heq
      exact ⟨by rw [← Option.some.inj hsystem, heq], heq ▸ hid⟩
    · exact h.id_eq other system hsystem
  components_isSome_iff other := by
    rw [components?_putCompound, systems_putCompound]
    split
    · simp
    · exact h.components_isSome_iff other
  holdsParts other held hheld := by
    rw [components?_putCompound] at hheld
    split at hheld
    · exact (Option.some.inj hheld ▸ hparts).putCompound h hfresh
    · exact (h.holdsParts other held hheld).putCompound h hfresh
  smallest_iff other least := by
    by_cases heq : other = pair
    · subst heq
      refine ⟨isSmallest_putCompound h, fun hleast => ?_⟩
      -- the code that is found is the smallest one, and there is only one such code
      have hsome : ((registry.putCompound id name other).smallest.get? other).isSome := by
        rw [smallest_putCompound, if_pos rfl]
        rfl
      obtain ⟨found, hfound⟩ := Option.isSome_iff_exists.1 hsome
      rw [hfound, (isSmallest_putCompound h hfound).eq hleast]
    · rw [smallest_putCompound, if_neg heq, isSmallest_putCompound_of_ne h hfresh heq]
      exact h.smallest_iff other least
  smallest_isSome other code hcode := by
    rw [smallest_putCompound]
    split
    · rfl
    · rename_i hne
      rw [components?_putCompound] at hcode
      split at hcode
      · exact absurd (Option.some.inj hcode).symm hne
      · exact h.smallest_isSome other code hcode

end PutCompound

end Georef.Crs.Registry
