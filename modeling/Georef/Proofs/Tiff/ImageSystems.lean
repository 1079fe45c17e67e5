import Georef.Proofs.Crs.Reachability
import Georef.Tiff.Georeference

/-!
# The reference systems of images

There are two ways from a code to a reference system. A registry that is asked for a code looks
among its compound systems first and answers with the parts of one; an image without a vertical code
takes the system that is kept under its code as it is. For a compound system that is only the
heading: its code, its name, and that it is compound.

The module introduces:

* `Resolved.heading` — what is left of an answer without its parts.
* `Registry.Consistent.get_eq_map_heading` — the system that is kept under a code is the heading of
  the answer for it.
* `compoundDirectory` — an image whose code is that of a compound system.

`Georeference.resolve_of_vertical_none` compares the two ways for every image and every reachable
registry, and `Georeference.exists_resolve_without_parts` is an image on which they differ.
-/

namespace Georef

/-! ## Headings -/

namespace Crs

/-- An answer without the parts of a compound system. -/
def Resolved.heading : Resolved → ReferenceSystem
  | .single system => system
  | .compound system => { id := system.id, name := system.name, kind := .compound }

namespace Registry

variable {registry : Registry} {code : UInt32}

namespace Consistent

/-- A code that no system is kept under has no parts. -/
theorem components?_of_get_error (h : registry.Consistent) {fault : Error}
    (hget : registry.get code = .error fault) : registry.components? code = none := by
  refine h.components_eq_none fun system hsystem => ?_
  rw [get_eq_ok_iff.2 hsystem] at hget
  cases hget

/-- The kind of a system tells whether its code has parts. -/
theorem kind_eq_compound_iff (h : registry.Consistent) {system : ReferenceSystem}
    (hget : registry.get code = .ok system) :
    system.kind = .compound ↔ (registry.components? code).isSome := by
  rw [h.components_isSome_iff]
  constructor
  · intro hkind
    exact ⟨system, get_eq_ok_iff.1 hget, hkind⟩
  · rintro ⟨held, hheld, hkind⟩
    rw [get_eq_ok_iff.1 hget] at hheld
    rw [Option.some.inj hheld, hkind]

/-- The heading of an answer for a code is the system that is kept under the code. -/
theorem heading_eq (h : registry.Consistent) {system : ReferenceSystem}
    (hget : registry.get code = .ok system) {answer : Resolved}
    (hanswer : registry.CodeAnswer code answer) : answer.heading = system := by
  cases hparts : registry.components? code with
  | none =>
    obtain ⟨held, hheld, rfl⟩ := hanswer.single hparts
    rw [hget] at hheld
    exact (Except.ok.inj hheld).symm
  | some pair =>
    obtain ⟨compound, rfl, -⟩ := hanswer.compound pair hparts
    obtain ⟨held, hheld, hname⟩ := hanswer.name_eq
    obtain rfl := Except.ok.inj (hget.symm.trans hheld)
    -- code, name and kind are those of the system, one after the other
    have hid : compound.id = system.id :=
      hanswer.id_eq.trans (h.id_eq code system (get_eq_ok_iff.1 hget)).1.symm
    have hkind : system.kind = .compound := (h.kind_eq_compound_iff hget).2 (by rw [hparts]; rfl)
    calc Resolved.heading (.compound compound)
        = ⟨compound.id, compound.name, .compound⟩ := rfl
      _ = ⟨system.id, system.name, system.kind⟩ := by rw [hid, hkind, ← hname]; rfl
      _ = system := rfl

/-- The system that is kept under a code is the heading of the answer for the code, and where there
is none, the answer is the same fault. -/
theorem get_eq_map_heading (h : registry.Consistent) (code : UInt32) :
    registry.get code = (registry.resolve code).map Resolved.heading := by
  cases hget : registry.get code with
  | error fault =>
    rw [Registry.resolve, h.components?_of_get_error hget]
    simp only [hget, Except.error_bind]
    rfl
  | ok system =>
    obtain ⟨answer, hresolve, hanswer⟩ := h.resolve hget
    rw [hresolve]
    exact congrArg Except.ok (h.heading_eq hget hanswer).symm

/-- A registry answers with the system that is kept under a code if the code has no parts. -/
theorem map_single_get_eq_iff (h : registry.Consistent) (code : UInt32) :
    (registry.get code).map Resolved.single = registry.resolve code ↔
      registry.components? code = none := by
  constructor
  · intro heq
    cases hparts : registry.components? code with
    | none => rfl
    | some pair =>
      -- a code with parts is that of a system, and its answer is a compound one
      obtain ⟨system, hget⟩ := h.exists_get_of_components? hparts
      obtain ⟨answer, hresolve, hanswer⟩ := h.resolve hget
      obtain ⟨compound, rfl, -⟩ := hanswer.compound pair hparts
      rw [hget, hresolve] at heq
      cases heq
  · intro hparts
    rw [Registry.resolve, hparts]
    cases registry.get code <;> rfl

/-- No answer is a single system of the compound kind. -/
theorem kind_ne_compound_of_resolve (h : registry.Consistent) {system : ReferenceSystem}
    (hresolve : registry.resolve code = .ok (.single system)) : system.kind ≠ .compound := by
  intro hkind
  have hget : registry.get code = .ok system := by
    rw [h.get_eq_map_heading, hresolve]
    rfl
  obtain ⟨pair, hparts⟩ := Option.isSome_iff_exists.1 ((h.kind_eq_compound_iff hget).1 hkind)
  obtain ⟨answer, hresolve', hanswer⟩ := h.resolve hget
  obtain ⟨compound, rfl, -⟩ := hanswer.compound pair hparts
  rw [hresolve] at hresolve'
  cases hresolve'

end Consistent

end Registry

end Crs

namespace Tiff.Georeference

open Crs (Registry Resolved)

/-! ## Images without a vertical code -/

section Images

variable {α : Type} {registry : Registry} {reference : Georeference α} {code : UInt32}

theorem resolve_eq_map_single (hhorizontal : reference.horizontal = some code)
    (hvertical : reference.vertical = none) :
    reference.resolve registry = (registry.get code).map Resolved.single := by
  unfold resolve
  simp only [hhorizontal, hvertical]
  cases registry.get code <;> rfl

/-- An image without a vertical code is answered with the heading of the answer of the registry, or
with its fault. The two answers are the same if the code has no parts, and only then; if it has,
the image is given a single system of the compound kind, which a registry never answers. -/
theorem resolve_of_vertical_none (h : registry.Reachable)
    (hhorizontal : reference.horizontal = some code) (hvertical : reference.vertical = none) :
    reference.resolve registry =
        (registry.resolve code).map (fun answer => .single answer.heading) ∧
      (reference.resolve registry = registry.resolve code ↔ registry.components? code = none) ∧
      ((∃ system, reference.resolve registry = .ok (.single system) ∧ system.kind = .compound) ↔
        (registry.components? code).isSome) ∧
      ∀ system, registry.resolve code = .ok (.single system) → system.kind ≠ .compound := by
  have hconsistent := h.consistent
  rw [resolve_eq_map_single hhorizontal hvertical]
  refine ⟨?_, hconsistent.map_single_get_eq_iff code, ?_, fun system hresolve =>
    hconsistent.kind_ne_compound_of_resolve hresolve⟩
  · rw [hconsistent.get_eq_map_heading]
    cases registry.resolve code <;> rfl
  · constructor
    · rintro ⟨system, hsystem, hkind⟩
      obtain ⟨held, hget, -⟩ := Except.map_eq_ok_iff.1 hsystem
      rw [hget] at hsystem
      cases hsystem
      exact (hconsistent.kind_eq_compound_iff hget).1 hkind
    · intro hparts
      obtain ⟨pair, hpair⟩ := Option.isSome_iff_exists.1 hparts
      obtain ⟨system, hget⟩ := hconsistent.exists_get_of_components? hpair
      rw [hget]
      exact ⟨system, rfl, (hconsistent.kind_eq_compound_iff hget).2 hparts⟩

end Images

/-! ## An image in a compound system -/

/-- A directory with a single key, which gives a code for a geographic system. -/
def compoundDirectory (code : UInt16) : Directory :=
  ({ number := 0, offset := 8 : Directory }.insert
    { tag := Tag.geoKeyDirectory, type := .known .short, count := 8, valueOffset := some 26
      value := .shorts [1, 1, 0, 1, GeoKeyId.geographicType, 0, 1, code] }).1

/-- The image of the directory. -/
def compoundReference (code : UInt16) : Georeference Rat where
  scale := none
  tiePoints := []
  matrix := none
  keys := [⟨GeoKeyId.geographicType, 0, 1, .shorts [code]⟩]
  modelType := none
  horizontal := some code.toUInt32
  vertical := none
  citation := none

/-- With a second code for a built-in pair, the image is given the heading of its system. -/
theorem resolve_of_vertical_none_alias :
    ofDirectory? (compoundDirectory 9001) = .ok (some (compoundReference 9001)) ∧
      (compoundReference 9001).resolve Registry.aliased =
        .ok (.single ⟨9001, "alias", .compound⟩) ∧
      (compoundReference 9001).resolve Registry.aliased ≠ Registry.aliased.resolve 9001 := by
  have hreach : Registry.aliased.Reachable := .perform _ .builtin
  have hcode : (compoundReference 9001).horizontal = some 9001 := rfl
  obtain ⟨hheading, hsame, -⟩ := resolve_of_vertical_none hreach hcode rfl
  have hparts : Registry.aliased.components? 9001 = some ⟨4269, 5703⟩ := by decide +kernel
  refine ⟨by decide +kernel, ?_, fun heq => ?_⟩
  · rw [hheading]
    decide +kernel
  · rw [hsame.1 heq] at hparts
    cases hparts

/-- An image that is given the compound system of NAD83 and its heights, but not its parts. -/
theorem exists_resolve_without_parts :
    ∃ (directory : Directory) (reference : Georeference Rat) (system : Crs.ReferenceSystem)
        (compound : Crs.Compound),
      ofDirectory? directory = .ok (some reference) ∧ reference.horizontal = some 5498 ∧
      reference.vertical = none ∧ Registry.builtin.Reachable ∧
      reference.resolve Registry.builtin = .ok (.single system) ∧ system.kind = .compound ∧
      Registry.builtin.resolve 5498 = .ok (.compound compound) :=
  ⟨compoundDirectory 5498, compoundReference 5498, ⟨5498, "NAD83 + NAVD88 height", .compound⟩,
    { id := 5498, name := "NAD83 + NAVD88 height", horizontal := ⟨4269, "NAD83", .geographic2D⟩
      vertical := ⟨5703, "NAVD88 height", .vertical⟩, registered := true },
    by decide +kernel, rfl, rfl, .builtin, by decide +kernel, rfl, by decide +kernel⟩

end Tiff.Georeference

end Georef
