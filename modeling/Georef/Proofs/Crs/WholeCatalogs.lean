import Georef.Proofs.Crs.Order

/-!
# Catalogs are loaded as a whole

The rows of a catalog are entered while later rows have not been read yet, and compound rows wait
for a second pass. So a failure, in whatever row and in whichever pass, finds some rows entered
already. They are entered into a draft, a copy of the registry, which takes its place only at the
end.

A catalog is loaded exactly if its rows can be read, its compound rows tell both of their parts, and
the registrations of its rows succeed one after the other, first those of the single systems and
then those of the compound ones. Where compound rows stand among the others makes no difference.

The module introduces:

* `CatalogRow.plan rows` — the registrations that rows ask for, in the order in which they are made;
  `CatalogRow.Rearranged rows other` — the rows differ only in the places of the compound ones.
* `Registry.Loadable registry rows next` — the registrations succeed, and lead to `next`.
* `Registry.Draft` — steps on a draft; a failure does not undo the steps before it.
* `Registry.load` — the registry after a load of rows.

`Registry.load_all_or_nothing` says when a load succeeds and what it leaves.
-/

namespace Georef.Crs

/-! ## What rows ask for -/

namespace CatalogRow

/-- The registration of a row, if it is not compound. -/
def single? (entry : CatalogRow) : Option Registration :=
  if entry.kind = .compound then none
  else some (.single { id := entry.code, name := entry.name, kind := entry.kind })

/-- The registration of a compound row that tells both parts. -/
def compound? (entry : CatalogRow) : Option Registration :=
  if entry.kind = .compound then do
    return .compound entry.code entry.name ⟨← entry.horizontal, ← entry.vertical⟩
  else none

/-- The registrations of rows: those of the single systems, then those of the compound ones, each in
the order of the rows. -/
def plan (rows : List (Option CatalogRow)) : List Registration :=
  rows.filterMap (·.bind single?) ++ rows.filterMap (·.bind compound?)

/-- Whether a row can be read and is compound. -/
def isCompoundRow (row : Option CatalogRow) : Bool :=
  row.any fun entry => entry.kind = .compound

/-- `Rearranged rows other`: the compound rows are the same in the same order, and so are the other
rows, but they may stand elsewhere among each other. -/
def Rearranged (rows other : List (Option CatalogRow)) : Prop :=
  rows.filter isCompoundRow = other.filter isCompoundRow ∧
    (rows.filter fun row => !isCompoundRow row) = other.filter fun row => !isCompoundRow row

instance (rows other : List (Option CatalogRow)) : Decidable (Rearranged rows other) :=
  inferInstanceAs (Decidable (_ ∧ _))

theorem Rearranged.symm {rows other : List (Option CatalogRow)} (h : Rearranged rows other) :
    Rearranged other rows :=
  ⟨h.1.symm, h.2.symm⟩

theorem Rearranged.perm {rows other : List (Option CatalogRow)} (h : Rearranged rows other) :
    rows.Perm other := by
  have hsplit := List.filter_append_perm isCompoundRow rows
  rw [h.1, h.2] at hsplit
  exact hsplit.symm.trans (List.filter_append_perm isCompoundRow other)

/-- Rows that ask for nothing can be left out. -/
theorem filterMap_filter_of {ask : CatalogRow → Option Registration}
    {keep : Option CatalogRow → Bool} (h : ∀ row, keep row = false → row.bind ask = none)
    (rows : List (Option CatalogRow)) :
    (rows.filter keep).filterMap (·.bind ask) = rows.filterMap (·.bind ask) := by
  rw [List.filterMap_filter]
  congr 1
  funext row
  cases hkeep : keep row with
  | true => simp
  | false => simp [h row hkeep]

/-- Rearranged rows ask for the same. -/
theorem Rearranged.plan_eq {rows other : List (Option CatalogRow)} (h : Rearranged rows other) :
    plan rows = plan other := by
  have hsingle : ∀ row, (!isCompoundRow row) = false → row.bind single? = none := by
    rintro (_ | entry) hrow
    · rfl
    · simp_all [isCompoundRow, single?]
  have hcompound : ∀ row, isCompoundRow row = false → row.bind compound? = none := by
    rintro (_ | entry) hrow
    · rfl
    · simp_all [isCompoundRow, compound?]
  rw [plan, plan, ← filterMap_filter_of hsingle rows, ← filterMap_filter_of hcompound rows,
    h.1, h.2, filterMap_filter_of hsingle, filterMap_filter_of hcompound]

end CatalogRow

namespace Registry

variable {registry next : Registry} {rows other : List (Option CatalogRow)}

/-- `Loadable registry rows next`: the rows can be read, the compound ones tell both parts, and the
registrations of all rows succeed one after the other and lead to `next`. -/
structure Loadable (registry : Registry) (rows : List (Option CatalogRow)) (next : Registry) :
    Prop where
  readable : none ∉ rows
  parts : ∀ entry, some entry ∈ rows → entry.kind = .compound →
    entry.horizontal.isSome ∧ entry.vertical.isSome
  registered : registry.registerAll (CatalogRow.plan rows) = .ok next

theorem Loadable.rearranged (h : registry.Loadable rows next)
    (hrows : CatalogRow.Rearranged rows other) : registry.Loadable other next where
  readable hmem := h.readable (hrows.perm.mem_iff.2 hmem)
  parts entry hmem := h.parts entry (hrows.perm.mem_iff.2 hmem)
  registered := hrows.plan_eq ▸ h.registered

/-! ## The two passes -/

theorem registerAll_append (first second : List Registration) :
    registry.registerAll (first ++ second) =
      registry.registerAll first >>= fun reached => reached.registerAll second :=
  List.foldlM_append

/-- The first pass registers the single systems, and puts the compound rows aside in order. -/
theorem addSingles_eq_ok_iff {row : Nat} {compounds : List CatalogRow} :
    registry.addSingles row rows = .ok (next, compounds) ↔
      none ∉ rows ∧ registry.registerAll (rows.filterMap (·.bind CatalogRow.single?)) = .ok next ∧
        compounds = rows.reduceOption.filter fun entry => entry.kind = .compound := by
  induction rows generalizing registry row compounds with
  | nil => simp [addSingles, registerAll, List.reduceOption, eq_comm]
  | cons first rest ih =>
    rcases first with _ | entry
    · simp [addSingles]
    rw [addSingles]
    by_cases hkind : entry.kind = .compound
    · have hasked : (some entry :: rest).filterMap (·.bind CatalogRow.single?) =
          rest.filterMap (·.bind CatalogRow.single?) := by
        simp [CatalogRow.single?, hkind]
      rw [if_pos hkind, hasked, List.reduceOption_cons_of_some, List.filter_cons_of_pos (by simpa)]
      constructor
      · intro h
        obtain ⟨⟨reached, later⟩, hlater, hpair⟩ := Except.bind_eq_ok_iff.1 h
        obtain ⟨rfl, rfl⟩ := Prod.mk.inj (Except.ok.inj hpair)
        obtain ⟨hreadable, hsingles, rfl⟩ := ih.1 hlater
        exact ⟨by simpa using hreadable, hsingles, rfl⟩
      · rintro ⟨hreadable, hsingles, rfl⟩
        rw [ih.2 ⟨by simpa using hreadable, hsingles, rfl⟩]
        rfl
    · let system : ReferenceSystem := { id := entry.code, name := entry.name, kind := entry.kind }
      have hasked : (some entry :: rest).filterMap (·.bind CatalogRow.single?) =
          .single system :: rest.filterMap (·.bind CatalogRow.single?) := by
        simp [CatalogRow.single?, hkind, system]
      rw [if_neg hkind, hasked, List.reduceOption_cons_of_some, List.filter_cons_of_neg (by simpa),
        registerAll, List.foldlM_cons]
      constructor
      · intro h
        obtain ⟨reached, hfirst, hlater⟩ := Except.bind_eq_ok_iff.1 h
        obtain ⟨hreadable, hsingles, hcompounds⟩ := ih.1 hlater
        refine ⟨by simpa using hreadable, ?_, hcompounds⟩
        exact Except.bind_eq_ok_iff.2 ⟨reached, hfirst, hsingles⟩
      · rintro ⟨hreadable, hsingles, hcompounds⟩
        obtain ⟨reached, hfirst, hlater⟩ := Except.bind_eq_ok_iff.1 hsingles
        have hrest : none ∉ rest := by simpa using hreadable
        exact Except.bind_eq_ok_iff.2 ⟨reached, hfirst, ih.2 ⟨hrest, hlater, hcompounds⟩⟩

/-- A compound row is registered if it tells both parts. -/
theorem addCompound_eq_ok_iff {entry : CatalogRow} (hkind : entry.kind = .compound) :
    registry.addCompound entry = .ok next ↔
      ∃ registration, entry.compound? = some registration ∧
        registry.call registration.call = .ok next := by
  unfold addCompound CatalogRow.compound?
  rw [if_pos hkind]
  cases entry.horizontal <;> cases entry.vertical <;> simp [Registration.call, call]

/-- The second pass registers the compound rows, all of which have to tell their parts. -/
theorem addCompounds_eq_ok_iff {entries : List CatalogRow}
    (hkind : ∀ entry ∈ entries, entry.kind = .compound) :
    entries.foldlM addCompound registry = .ok next ↔
      (∀ entry ∈ entries, entry.compound?.isSome) ∧
        registry.registerAll (entries.filterMap CatalogRow.compound?) = .ok next := by
  induction entries generalizing registry with
  | nil => simp [registerAll]
  | cons entry rest ih =>
    obtain ⟨hentry, hrest⟩ := List.forall_mem_cons.1 hkind
    rw [List.foldlM_cons, Except.bind_eq_ok_iff, List.forall_mem_cons, List.filterMap_cons]
    simp only [addCompound_eq_ok_iff hentry, ih hrest]
    cases hasked : entry.compound? with
    | none => simp
    | some registration =>
      simp only [registerAll, List.foldlM_cons, Except.bind_eq_ok_iff, Option.some.injEq,
        Option.isSome_some, true_and, exists_eq_left']
      constructor
      · rintro ⟨reached, hfirst, hparts, hlater⟩
        exact ⟨hparts, reached, hfirst, hlater⟩
      · rintro ⟨hparts, reached, hfirst, hlater⟩
        exact ⟨reached, hfirst, hparts, hlater⟩

/-- A compound row has a registration if it tells both parts. -/
theorem isSome_compound?_iff {entry : CatalogRow} (hkind : entry.kind = .compound) :
    entry.compound?.isSome ↔ entry.horizontal.isSome ∧ entry.vertical.isSome := by
  unfold CatalogRow.compound?
  rw [if_pos hkind]
  cases entry.horizontal <;> cases entry.vertical <;> simp

/-- The registrations of the compound rows, taken from all rows or from those put aside. -/
theorem filterMap_compound?_eq (rows : List (Option CatalogRow)) :
    (rows.reduceOption.filter fun entry => entry.kind = .compound).filterMap
        CatalogRow.compound? =
      rows.filterMap (·.bind CatalogRow.compound?) := by
  induction rows with
  | nil => rfl
  | cons row rest ih =>
    rcases row with _ | entry
    · simpa using ih
    · rw [List.reduceOption_cons_of_some]
      by_cases hkind : entry.kind = .compound
      · rw [List.filter_cons_of_pos (by simpa), List.filterMap_cons, List.filterMap_cons, ih]
        rfl
      · have hnone : entry.compound? = none := if_neg hkind
        simp [hkind, hnone, ih]

theorem addRows_eq_ok_iff {count : Nat} :
    registry.addRows rows = .ok (next, count) ↔
      registry.Loadable rows next ∧ count = rows.length := by
  unfold addRows
  simp only [Except.bind_eq_ok_iff, Prod.exists, addSingles_eq_ok_iff, Except.pure_eq_ok,
    Except.ok.injEq, Prod.mk.injEq]
  have hput : ∀ entry ∈ rows.reduceOption.filter fun entry => entry.kind = .compound,
      entry.kind = .compound := fun entry hmem => by simpa using (List.mem_filter.1 hmem).2
  constructor
  · rintro ⟨reached, compounds, ⟨hreadable, hsingles, rfl⟩, last, hcompounds, rfl, rfl⟩
    obtain ⟨hparts, hcompounds⟩ := (addCompounds_eq_ok_iff hput).1 hcompounds
    refine ⟨⟨hreadable, fun entry hmem hkind => ?_, ?_⟩, rfl⟩
    · refine (isSome_compound?_iff hkind).1 (hparts entry (List.mem_filter.2 ⟨?_, by simpa⟩))
      exact List.reduceOption_mem_iff.2 hmem
    · rw [CatalogRow.plan, registerAll_append, hsingles, Except.ok_bind, ← hcompounds,
        filterMap_compound?_eq]
  · rintro ⟨⟨hreadable, hparts, hregistered⟩, rfl⟩
    rw [CatalogRow.plan, registerAll_append] at hregistered
    obtain ⟨reached, hsingles, hcompounds⟩ := Except.bind_eq_ok_iff.1 hregistered
    rw [← filterMap_compound?_eq] at hcompounds
    refine ⟨reached, _, ⟨hreadable, hsingles, rfl⟩, next, ?_, rfl, rfl⟩
    refine (addCompounds_eq_ok_iff hput).2 ⟨fun entry hmem => ?_, hcompounds⟩
    have hkind := hput entry hmem
    have hrow := List.reduceOption_mem_iff.1 (List.mem_filter.1 hmem).1
    exact (isSome_compound?_iff hkind).2 (hparts entry hrow hkind)

/-! ## Drafts -/

/-- Steps on a draft of a registry. What they have entered stays when a later step fails. -/
abbrev Draft (α : Type) : Type :=
  ExceptT Error (StateM Registry) α

namespace Draft

variable {α β : Type}

/-- The outcome of steps, and the draft behind them. -/
def run (steps : Draft α) (draft : Registry) : Except Error α × Registry :=
  (ExceptT.run steps).run draft

/-- A change of the draft; one that is refused leaves it as it is. -/
def change (extend : Registry → Except Error Registry) : Draft Unit := do
  match extend (← getThe Registry) with
  | .ok extended => set extended
  | .error fault => throw fault

/-- Enters the single systems of rows as they are read. The compound rows are put aside. -/
def enterSingles : (row : Nat) → List (Option CatalogRow) → Draft (List CatalogRow)
  | _, [] => return []
  | row, none :: _ => throw (.format (.catalogRow row))
  | row, some entry :: rest => do
    if entry.kind = .compound then return entry :: (← enterSingles (row + 1) rest)
    change (·.register { id := entry.code, name := entry.name, kind := entry.kind })
    enterSingles (row + 1) rest

/-- Enters compound rows. -/
def enterCompounds : List CatalogRow → Draft Unit
  | [] => return ()
  | entry :: rest => do
    change (·.addCompound entry)
    enterCompounds rest

/-- Enters rows, and tells their number. -/
def enterRows (rows : List (Option CatalogRow)) : Draft Nat := do
  let compounds ← enterSingles 1 rows
  enterCompounds compounds
  return rows.length

/-- `Follows result plain`: steps on a draft have come to what a computation on registries comes to,
the same result and the same registry or the same failure. After a failure the draft may be any. -/
def Follows (result : Except Error α × Registry) : Except Error (Registry × α) → Prop
  | .ok (extended, a) => result = (.ok a, extended)
  | .error fault => result.1 = .error fault

theorem run_bind_of_ok {first : Draft α} {rest : α → Draft β} {draft reached : Registry} {a : α}
    (h : first.run draft = (.ok a, reached)) :
    run (first >>= rest) draft = (rest a).run reached := by
  have hstep : (ExceptT.run first).run draft = pure (.ok a, reached) := h
  simp only [run, ExceptT.run_bind, StateT.run_bind, hstep, pure_bind]

theorem run_bind_of_error {first : Draft α} {rest : α → Draft β} {draft reached : Registry}
    {fault : Error} (h : first.run draft = (.error fault, reached)) :
    run (first >>= rest) draft = (.error fault, reached) := by
  have hstep : (ExceptT.run first).run draft = pure (.error fault, reached) := h
  simp only [run, ExceptT.run_bind, StateT.run_bind, hstep, pure_bind]
  rfl

theorem follows_change (extend : Registry → Except Error Registry) (draft : Registry) :
    Follows ((change extend).run draft)
      ((extend draft).map fun extended => (extended, ())) := by
  have hget : run (getThe Registry : Draft Registry) draft = (.ok draft, draft) := rfl
  rw [change, run_bind_of_ok hget]
  cases extend draft <;> rfl

/-- Steps in a row follow computations in a row. -/
theorem Follows.bind {first : Draft α} {rest : α → Draft β} {draft : Registry}
    {plain : Except Error (Registry × α)} {plainRest : Registry × α → Except Error (Registry × β)}
    (hfirst : Follows (first.run draft) plain)
    (hrest : ∀ extended a, Follows ((rest a).run extended) (plainRest (extended, a))) :
    Follows (run (first >>= rest) draft) (plain >>= plainRest) := by
  rcases plain with fault | ⟨extended, a⟩
  · have hrun : first.run draft = (.error fault, (first.run draft).2) := Prod.ext hfirst rfl
    rw [run_bind_of_error hrun]
    rfl
  · rw [run_bind_of_ok hfirst]
    exact hrest extended a

/-- A change and what comes after it. -/
theorem follows_change_bind {extend : Registry → Except Error Registry} {rest : Draft β}
    {draft : Registry} {plainRest : Registry → Except Error (Registry × β)}
    (hrest : ∀ extended, Follows (rest.run extended) (plainRest extended)) :
    Follows (run (change extend >>= fun _ => rest) draft) (extend draft >>= plainRest) := by
  have hbind : Follows (run (change extend >>= fun _ => rest) draft)
      (((extend draft).map fun extended => (extended, ())) >>=
        fun reached => plainRest reached.1) :=
    (follows_change extend draft).bind fun extended _ => hrest extended
  cases hextend : extend draft <;> rwa [hextend] at hbind

theorem follows_enterSingles (draft : Registry) (row : Nat) (rows : List (Option CatalogRow)) :
    Follows ((enterSingles row rows).run draft) (draft.addSingles row rows) := by
  induction rows generalizing draft row with
  | nil => rfl
  | cons first rest ih =>
    rcases first with _ | entry
    · rfl
    · rw [enterSingles, addSingles]
      split
      · exact (ih draft (row + 1)).bind fun extended compounds => rfl
      · exact follows_change_bind fun extended => ih extended (row + 1)

theorem follows_enterCompounds (draft : Registry) (entries : List CatalogRow) :
    Follows ((enterCompounds entries).run draft)
      ((entries.foldlM addCompound draft).map fun extended => (extended, ())) := by
  induction entries generalizing draft with
  | nil => rfl
  | cons entry rest ih =>
    rw [enterCompounds, List.foldlM_cons]
    have hrest : Follows (run (change (·.addCompound entry) >>= fun _ => enterCompounds rest) draft)
        (draft.addCompound entry >>= fun extended =>
          (rest.foldlM addCompound extended).map fun extended => (extended, ())) :=
      follows_change_bind ih
    cases hentry : draft.addCompound entry <;> rwa [hentry] at hrest

theorem follows_enterRows (draft : Registry) (rows : List (Option CatalogRow)) :
    Follows ((enterRows rows).run draft) (draft.addRows rows) := by
  unfold enterRows addRows
  refine (follows_enterSingles draft 1 rows).bind fun extended compounds => ?_
  have hcompounds : Follows
      (run (enterCompounds compounds >>= fun _ => Pure.pure rows.length) extended)
      (((compounds.foldlM addCompound extended).map fun extended => (extended, ())) >>=
        fun reached => .ok (reached.1, rows.length)) :=
    (follows_enterCompounds extended compounds).bind fun reached _ => rfl
  simp only
  cases hlast : compounds.foldlM addCompound extended <;> rwa [hlast] at hcompounds

end Draft

/-! ## Loads -/

/-- The outcome of a load of rows, which is their number, and the registry after it. The rows are
entered into a draft, which takes the place of the registry if all of them could be entered. -/
def load (registry : Registry) (rows : List (Option CatalogRow)) : Except Error Nat × Registry :=
  match (Draft.enterRows rows).run registry with
  | (.ok count, draft) => (.ok count, draft)
  | (.error fault, _) => (.error fault, registry)

theorem load_eq (registry : Registry) (rows : List (Option CatalogRow)) :
    registry.load rows =
      match registry.addRows rows with
      | .ok (extended, count) => (.ok count, extended)
      | .error fault => (.error fault, registry) := by
  have hfollows := Draft.follows_enterRows registry rows
  rw [load]
  cases hplain : registry.addRows rows with
  | ok reached =>
    rw [hplain] at hfollows
    obtain ⟨extended, count⟩ := reached
    have hrun : (Draft.enterRows rows).run registry = (.ok count, extended) := hfollows
    rw [hrun]
  | error fault =>
    rw [hplain] at hfollows
    rcases hrun : (Draft.enterRows rows).run registry with ⟨outcome, draft⟩
    rw [hrun] at hfollows
    obtain rfl : outcome = .error fault := hfollows
    rfl

/-- A load succeeds exactly if the rows are loadable, and leaves the registry that their
registrations lead to; a load that fails, at whatever row and in whichever pass, leaves the registry
as it was. So it makes no difference where the compound rows stand among the others. The catalog of
a table is loaded by its rows. -/
theorem load_all_or_nothing (registry : Registry) (rows : List (Option CatalogRow)) :
    (∀ count next, registry.load rows = (.ok count, next) ↔
        registry.Loadable rows next ∧ count = rows.length) ∧
      (∀ fault, (registry.load rows).1 = .error fault → (registry.load rows).2 = registry) ∧
      (∀ other, CatalogRow.Rearranged rows other →
        (registry.load other).1.toOption = (registry.load rows).1.toOption ∧
          (registry.load other).2 = (registry.load rows).2) ∧
      ∀ bytes, rows = CatalogRow.ofTable (.ofBytes bytes) →
        (registry.addCatalog bytes).map Prod.snd = (registry.load rows).1 ∧
          registry.perform (.addCatalog bytes) = (registry.load rows).2 := by
  refine ⟨fun count next => ?_, fun fault h => ?_, fun other hrows => ?_, ?_⟩
  · rw [← addRows_eq_ok_iff, load_eq]
    cases registry.addRows rows with
    | error fault => simp
    | ok reached => simp [and_comm, Prod.ext_iff]
  · rw [load_eq] at h ⊢
    cases hplain : registry.addRows rows with
    | error fault => rfl
    | ok reached => simp [hplain] at h
  · -- what one of them can be extended by, the other one can be as well
    have hlength : rows.length = other.length := hrows.perm.length_eq
    have hsame : ∀ next count, registry.addRows rows = .ok (next, count) ↔
        registry.addRows other = .ok (next, count) := by
      intro next count
      rw [addRows_eq_ok_iff, addRows_eq_ok_iff, hlength]
      exact and_congr_left' ⟨fun h => h.rearranged hrows, fun h => h.rearranged hrows.symm⟩
    rw [load_eq, load_eq]
    cases hplain : registry.addRows rows with
    | ok reached =>
      rw [(hsame reached.1 reached.2).1 hplain]
      exact ⟨rfl, rfl⟩
    | error fault =>
      cases hother : registry.addRows other with
      | error fault' => exact ⟨rfl, rfl⟩
      | ok reached =>
        rw [(hsame reached.1 reached.2).2 hother] at hplain
        cases hplain
  · rintro bytes rfl
    rw [load_eq, perform, call, addCatalog]
    cases registry.addRows (CatalogRow.ofTable (.ofBytes bytes)) <;> exact ⟨rfl, rfl⟩

/-- A compound row may stand before the row of its horizontal part. An unreadable row behind the two
leaves nothing of them. -/
theorem load_all_or_nothing_early_compound :
    let site : Option CatalogRow := some ⟨900001, "Site grid", .engineering, none, none⟩
    let pair : Option CatalogRow := some ⟨900002, "Site", .compound, some 900001, some 5703⟩
    (∃ next, builtin.load [pair, site] = (.ok 2, next) ∧ builtin.Loadable [pair, site] next) ∧
      (builtin.load [site, pair]).2 = (builtin.load [pair, site]).2 ∧
      (builtin.load [pair, site, none]).2 = builtin := by
  intro site pair
  obtain ⟨hiff, -, hrearranged, -⟩ := load_all_or_nothing builtin [pair, site]
  have hcount : (builtin.load [pair, site]).1 = .ok 2 := by decide +kernel
  have hload : builtin.load [pair, site] = (.ok 2, (builtin.load [pair, site]).2) :=
    Prod.ext hcount rfl
  have hrows : CatalogRow.Rearranged [pair, site] [site, pair] := by decide +kernel
  have hfault : (builtin.load [pair, site, none]).1 = .error (.format (.catalogRow 3)) := by
    decide +kernel
  exact ⟨⟨_, hload, ((hiff _ _).1 hload).1⟩, (hrearranged _ hrows).2,
    (load_all_or_nothing builtin [pair, site, none]).2.1 _ hfault⟩

end Registry

end Georef.Crs
