import Georef.Proofs.Crs.Consistency
import Georef.Proofs.Outcome
import Mathlib.Data.List.ReduceOption
import Mathlib.Logic.Relation

/-!
# How registries grow

A registry is extended by single systems, by compound systems, and by whole catalogs. Whatever the
call is, it enters systems one after the other, each after the same checks. What is true of every
entry is so true of every call, and a catalog needs no thought of its own.

The module introduces:

* `Registry.Call`, `Registry.perform` — the calls, and what they do; a call that fails leaves the
  registry as it was. `Registry.Call.codes` — the codes that a call asks for, those of all rows for
  a catalog.
* `Registry.Enters codes registry next` — one system is entered, under one of the codes;
  `Registry.Grows codes registry next` — any number of them, one after the other.

`Registry.grows_perform` says that every call does nothing else.
-/

namespace Georef.Crs

/-- The codes of the rows of a catalog that can be read. -/
def CatalogRow.codesOf (rows : List (Option CatalogRow)) : List UInt32 :=
  rows.reduceOption.map CatalogRow.code

theorem CatalogRow.code_mem_codesOf {rows : List (Option CatalogRow)} {entry : CatalogRow}
    (h : some entry ∈ rows) : entry.code ∈ codesOf rows :=
  List.mem_map_of_mem (List.reduceOption_mem_iff.2 h)

namespace Registry

variable {registry next : Registry}

/-! ## When calls succeed -/

theorem register_eq_ok_iff {system : ReferenceSystem} :
    registry.register system = .ok next ↔
      system.kind ≠ .compound ∧ system.id ≠ 0 ∧
        (∀ held, registry.systems.get? system.id = some held → held.kind = system.kind) ∧
        registry.putSystem system = next := by
  unfold register
  -- the checks are taken in their order; each refusal denies one part of the condition
  by_cases hcompound : system.kind = .compound
  · simp [hcompound]
  · by_cases hzero : system.id = 0
    · simp [hcompound, hzero]
    · cases hheld : registry.systems.get? system.id with
      | none => simp [hcompound, hzero, putSystem]
      | some held => by_cases hkind : held.kind = system.kind <;> simp [*, putSystem]

theorem get_eq_ok_iff {id : UInt32} {system : ReferenceSystem} :
    registry.get id = .ok system ↔ registry.systems.get? id = some system := by
  unfold get
  cases registry.systems.get? id <;> simp

theorem parts_eq_ok_iff {pair : Pair} {horizontal vertical : ReferenceSystem} :
    registry.parts pair = .ok (horizontal, vertical) ↔
      registry.systems.get? pair.horizontal = some horizontal ∧
      registry.systems.get? pair.vertical = some vertical ∧
      horizontal.kind.isHorizontal = true ∧ vertical.kind.isVertical = true := by
  unfold parts
  simp only [Except.bind_eq_ok_iff, get_eq_ok_iff]
  constructor
  · rintro ⟨h, hh, v, hv, hrest⟩
    cases hkh : h.kind.isHorizontal <;> cases hkv : v.kind.isVertical <;>
      simp [hkh, hkv] at hrest
    obtain ⟨rfl, rfl⟩ := hrest
    exact ⟨hh, hv, hkh, hkv⟩
  · rintro ⟨hh, hv, hkh, hkv⟩
    exact ⟨_, hh, _, hv, by simp [hkh, hkv]⟩

theorem exists_parts_eq_ok_iff {pair : Pair} :
    (∃ parts, registry.parts pair = .ok parts) ↔ registry.HoldsParts pair := by
  simp only [Prod.exists, parts_eq_ok_iff, HoldsParts]

theorem registerCompound_eq_ok_iff {id : UInt32} {name : String} {pair : Pair} :
    registry.registerCompound id name pair = .ok next ↔
      id ≠ 0 ∧ registry.HoldsParts pair ∧ registry.Fresh id pair ∧
        registry.putCompound id name pair = next := by
  unfold registerCompound
  rw [← exists_parts_eq_ok_iff]
  by_cases hzero : id = 0
  · simp [hzero]
  · cases hparts : registry.parts pair with
    | error fault => simp [hzero]
    | ok parts =>
      cases hheld : registry.systems.get? id with
      | none => simp [hzero, Fresh, hheld]
      | some held =>
        cases hpair : registry.components.get? id with
        | none => simp [hzero, Fresh, hheld, components?, hpair]
        | some other =>
          by_cases heq : other = pair <;> simp [hzero, Fresh, hheld, components?, hpair, heq]

/-! ## Calls -/

/-- A call that may extend a registry. -/
inductive Call where
  | register (system : ReferenceSystem)
  | registerCompound (id : UInt32) (name : String) (pair : Pair)
  | addCatalog (bytes : Bytes)

/-- The outcome of a call: the extended registry, or why it was refused. -/
def call (registry : Registry) : Call → Except Error Registry
  | .register system => registry.register system
  | .registerCompound id name pair => registry.registerCompound id name pair
  | .addCatalog bytes => (registry.addCatalog bytes).map Prod.fst

/-- The registry after a call; a call that fails leaves it as it was. -/
def perform (registry : Registry) (request : Call) : Registry :=
  match registry.call request with
  | .ok extended => extended
  | .error _ => registry

/-- The codes that a call asks for. -/
def Call.codes : Call → List UInt32
  | .register system => [system.id]
  | .registerCompound id _ _ => [id]
  | .addCatalog bytes => CatalogRow.codesOf (CatalogRow.ofTable (.ofBytes bytes))

/-! ## Entry by entry -/

/-- `Enters codes registry next`: a system is entered under one of the codes, as the checks allow. A
code keeps its kind and its parts. -/
inductive Enters (codes : List UInt32) : Registry → Registry → Prop
  | system {registry : Registry} {system : ReferenceSystem} (hcode : system.id ∈ codes)
    (hid : system.id ≠ 0) (hcompound : system.kind ≠ .compound)
    (hkind : ∀ held, registry.systems.get? system.id = some held → held.kind = system.kind) :
    Enters codes registry (registry.putSystem system)
  | compound {registry : Registry} {id : UInt32} {name : String} {pair : Pair} (hcode : id ∈ codes)
    (hid : id ≠ 0) (hparts : registry.HoldsParts pair) (hfresh : registry.Fresh id pair) :
    Enters codes registry (registry.putCompound id name pair)

/-- `Grows codes registry next`: systems are entered one after the other, under some of the
codes. -/
def Grows (codes : List UInt32) : Registry → Registry → Prop :=
  Relation.ReflTransGen (Enters codes)

namespace Grows

variable {codes : List UInt32}

theorem register {system : ReferenceSystem} (hcall : registry.register system = .ok next)
    (hcode : system.id ∈ codes) : Grows codes registry next := by
  obtain ⟨hcompound, hid, hkind, rfl⟩ := register_eq_ok_iff.1 hcall
  exact .single (.system hcode hid hcompound hkind)

theorem registerCompound {id : UInt32} {name : String} {pair : Pair}
    (hcall : registry.registerCompound id name pair = .ok next) (hcode : id ∈ codes) :
    Grows codes registry next := by
  obtain ⟨hid, hparts, hfresh, rfl⟩ := registerCompound_eq_ok_iff.1 hcall
  exact .single (.compound hcode hid hparts hfresh)

/-- The first pass over a catalog registers single systems, and puts rows of it aside. -/
theorem addSingles {row : Nat} {rows : List (Option CatalogRow)} {compounds : List CatalogRow}
    (hcall : registry.addSingles row rows = .ok (next, compounds))
    (hrows : ∀ entry, some entry ∈ rows → entry.code ∈ codes) :
    Grows codes registry next ∧ ∀ entry ∈ compounds, entry.code ∈ codes := by
  induction rows generalizing registry row compounds with
  | nil =>
    obtain ⟨rfl, rfl⟩ := Prod.mk.inj (Except.ok.inj hcall)
    exact ⟨.refl, fun entry hmem => (nomatch hmem)⟩
  | cons first rest ih =>
    cases first with
    | none => cases hcall
    | some first =>
      have hfirst : first.code ∈ codes := hrows first List.mem_cons_self
      have hrest : ∀ entry, some entry ∈ rest → entry.code ∈ codes := by
        intro entry hmem
        exact hrows entry (List.mem_cons_of_mem _ hmem)
      rw [Registry.addSingles] at hcall
      split at hcall
      -- a compound row is put aside in front of the later ones
      · obtain ⟨⟨reached, later⟩, hlater, hpair⟩ := Except.bind_eq_ok_iff.1 hcall
        obtain ⟨rfl, rfl⟩ := Prod.mk.inj (Except.ok.inj hpair)
        obtain ⟨hgrows, hcompounds⟩ := ih hlater hrest
        exact ⟨hgrows, List.forall_mem_cons.2 ⟨hfirst, hcompounds⟩⟩
      · obtain ⟨reached, hsystem, hlater⟩ := Except.bind_eq_ok_iff.1 hcall
        obtain ⟨hgrows, hcompounds⟩ := ih hlater hrest
        exact ⟨(register hsystem hfirst).trans hgrows, hcompounds⟩

/-- The second pass registers the compound systems. -/
theorem addCompounds {entries : List CatalogRow}
    (hcall : entries.foldlM Registry.addCompound registry = .ok next)
    (hentries : ∀ entry ∈ entries, entry.code ∈ codes) : Grows codes registry next := by
  induction entries generalizing registry with
  | nil => exact Except.ok.inj hcall ▸ .refl
  | cons entry rest ih =>
    obtain ⟨hentry, hrest⟩ := List.forall_mem_cons.1 hentries
    rw [List.foldlM_cons] at hcall
    obtain ⟨reached, hfirst, hlater⟩ := Except.bind_eq_ok_iff.1 hcall
    rw [Registry.addCompound] at hfirst
    split at hfirst
    · exact (registerCompound hfirst hentry).trans (ih hlater hrest)
    · cases hfirst

theorem addRows {rows : List (Option CatalogRow)} {count : Nat}
    (hcall : registry.addRows rows = .ok (next, count)) :
    Grows (CatalogRow.codesOf rows) registry next := by
  obtain ⟨⟨reached, compounds⟩, hsingles, hrest⟩ := Except.bind_eq_ok_iff.1 hcall
  obtain ⟨last, hcompounds, hpair⟩ := Except.bind_eq_ok_iff.1 hrest
  obtain ⟨rfl, -⟩ := Prod.mk.inj (Except.ok.inj hpair)
  obtain ⟨hgrows, hcodes⟩ := addSingles hsingles fun _ => CatalogRow.code_mem_codesOf
  exact hgrows.trans (addCompounds hcompounds hcodes)

end Grows

/-- A call, successful or not, enters systems under codes that it asks for, and does nothing
else. -/
theorem grows_perform (registry : Registry) (request : Call) :
    Grows request.codes registry (registry.perform request) := by
  rw [perform]
  split
  · rename_i extended hcall
    cases request with
    | register system => exact .register hcall List.mem_cons_self
    | registerCompound id name pair => exact .registerCompound hcall List.mem_cons_self
    | addCatalog bytes =>
      cases hcatalog : registry.addCatalog bytes with
      | error fault =>
        rw [call, hcatalog] at hcall
        cases hcall
      | ok result =>
        rw [call, hcatalog] at hcall
        obtain rfl := Except.ok.inj hcall
        exact Grows.addRows hcatalog
  -- a call that fails has entered nothing
  · exact .refl

end Registry

end Georef.Crs
