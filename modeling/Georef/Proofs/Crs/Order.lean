import Georef.Proofs.Crs.Growth
import Mathlib.Data.List.Pairwise

/-!
# The order of registrations

Systems have to be registered in some order, as the parts of a compound system come before it. Apart
from that the order does not matter: two sequences of the same registrations, all of which succeed
and which give each code one name, lead to the same registry.

A registration that succeeds enters its system without regard to the others. Entering commutes for
registrations that are compatible, those of different codes and those that say the same of one code;
and no two registrations of one sequence succeed unless they are compatible.

The module introduces:

* `Registration`, `Registry.registerAll` — single registrations, and sequences of them that succeed
  as a whole.
* `Registry.enter`, `Registration.Compatible` — entering a system unchecked, and when the order of
  two does not matter.

`Registry.registerAll_perm` compares all answers after two orders.
-/

namespace Georef.Crs

/-! ## Registrations -/

/-- The registration of one system. -/
inductive Registration where
  | single (system : ReferenceSystem)
  | compound (id : UInt32) (name : String) (pair : Pair)
  deriving DecidableEq

namespace Registration

/-- The code that the system gets. -/
def code : Registration → UInt32
  | single system => system.id
  | compound id _ _ => id

/-- The name that the system gets. -/
def name : Registration → String
  | single system => system.name
  | compound _ name _ => name

/-- The call that makes the registration. -/
def call : Registration → Registry.Call
  | single system => .register system
  | compound id name pair => .registerCompound id name pair

/-- `Compatible first second`: the registrations say the same of a code, if they are of one code and
either both single or both compound. -/
def Compatible : Registration → Registration → Prop
  | single system, single other => system.id = other.id → system = other
  | compound id name pair, compound other name' pair' => id = other → name = name' ∧ pair = pair'
  | _, _ => True

theorem Compatible.refl (registration : Registration) : registration.Compatible registration := by
  cases registration with
  | single system => exact fun _ => rfl
  | compound id name pair => exact fun _ => ⟨rfl, rfl⟩

instance : Std.Symm Compatible where
  symm first second h := by
    cases first <;> cases second
    · exact fun heq => (h heq.symm).symm
    · trivial
    · trivial
    · exact fun heq => ⟨(h heq.symm).1.symm, (h heq.symm).2.symm⟩

end Registration

namespace Registry

variable {registry next : Registry}

/-- The registry after registrations, all of which have to succeed. -/
def registerAll (registry : Registry) (registrations : List Registration) :
    Except Error Registry :=
  registrations.foldlM (fun registry registration => registry.call registration.call) registry

/-! ## Entering commutes -/

/-- Whether a compound system is registered under the code. -/
def holdsCompound (registry : Registry) (id : UInt32) : Bool :=
  (registry.systems.get? id).any fun held => held.kind = .compound

/-- The registry with a system, unchecked. A single system does not replace a compound one. -/
def enter (registry : Registry) : Registration → Registry
  | .single system =>
    if registry.holdsCompound system.id then registry else registry.putSystem system
  | .compound id name pair => registry.putCompound id name pair

theorem holdsCompound_putSystem {system : ReferenceSystem} {id : UInt32} (h : id ≠ system.id) :
    (registry.putSystem system).holdsCompound id = registry.holdsCompound id := by
  rw [holdsCompound, holdsCompound, putSystem, KeyedList.get?_put_of_ne _ h]

theorem holdsCompound_putCompound (id other : UInt32) (name : String) (pair : Pair) :
    (registry.putCompound id name pair).holdsCompound other =
      if other = id then true else registry.holdsCompound other := by
  rw [holdsCompound, systems_putCompound]
  split <;> rfl

theorem putSystem_comm {system other : ReferenceSystem} (h : system.id ≠ other.id) :
    (registry.putSystem system).putSystem other = (registry.putSystem other).putSystem system := by
  rw [putSystem, putSystem, putSystem, putSystem, KeyedList.put_comm _ h]

theorem putSystem_putCompound {system : ReferenceSystem} {id : UInt32} (h : system.id ≠ id)
    (name : String) (pair : Pair) :
    (registry.putSystem system).putCompound id name pair =
      (registry.putCompound id name pair).putSystem system := by
  simp only [putSystem, putCompound, KeyedList.put_comm _ h]

/-- The smallest of the codes of a pair does not depend on the order in which they are entered. -/
theorem smallest_putCompound_comm (id other : UInt32) (name name' : String) (pair pair' : Pair) :
    ((registry.putCompound id name pair).putCompound other name' pair').smallest =
      ((registry.putCompound other name' pair').putCompound id name pair).smallest := by
  refine KeyedList.ext_get? fun asked => ?_
  simp only [smallest_putCompound]
  by_cases heq : pair = pair'
  · subst heq
    have hcomm : ∀ a b : UInt32, min a b = min b a := Std.Commutative.comm
    have hassoc : ∀ a b c : UInt32, min (min a b) c = min a (min b c) := Std.Associative.assoc
    by_cases hasked : asked = pair
    · cases registry.smallest.get? pair with
      | none => simp [hasked, hcomm id other]
      | some least => simp [hasked, hassoc, hcomm id other]
    · simp only [if_neg hasked]
  · have hne : pair' ≠ pair := Ne.symm heq
    by_cases hasked : asked = pair
    · subst hasked
      simp [heq]
    · simp [hasked, hne]

theorem putCompound_comm {id other : UInt32} (h : id ≠ other) (name name' : String)
    (pair pair' : Pair) :
    (registry.putCompound id name pair).putCompound other name' pair' =
      (registry.putCompound other name' pair').putCompound id name pair := by
  have hsmallest : ((registry.putCompound id name pair).putCompound other name' pair').smallest =
      ((registry.putCompound other name' pair').putCompound id name pair).smallest :=
    smallest_putCompound_comm ..
  simp only [putCompound, mk.injEq] at hsmallest ⊢
  exact ⟨KeyedList.put_comm _ h _ _, KeyedList.put_comm _ h _ _, hsmallest⟩

/-- A compound system replaces a single one without a trace. -/
theorem putSystem_putCompound_self (system : ReferenceSystem) (name : String) (pair : Pair) :
    (registry.putSystem system).putCompound system.id name pair =
      registry.putCompound system.id name pair := by
  simp only [putSystem, putCompound, KeyedList.put_put]

/-- A single system and a compound one can be entered in either order. -/
theorem enter_single_compound (registry : Registry) (system : ReferenceSystem) (id : UInt32)
    (name : String) (pair : Pair) :
    (registry.enter (.single system)).enter (.compound id name pair) =
      (registry.enter (.compound id name pair)).enter (.single system) := by
  simp only [enter, holdsCompound_putCompound]
  by_cases heq : system.id = id
  · subst heq
    split
    · simp
    · simp [putSystem_putCompound_self]
  · rw [if_neg heq]
    split
    · rfl
    · exact putSystem_putCompound heq name pair

/-- Compatible registrations can be entered in either order. -/
theorem enter_comm (registry : Registry) {first second : Registration}
    (h : first.Compatible second) :
    (registry.enter first).enter second = (registry.enter second).enter first := by
  cases first with
  | single system =>
    cases second with
    | single other =>
      by_cases heq : system.id = other.id
      · rw [h heq]
      · simp only [enter]
        by_cases hsystem : registry.holdsCompound system.id <;>
          by_cases hother : registry.holdsCompound other.id <;>
          simp [hsystem, hother, holdsCompound_putSystem, heq, Ne.symm heq, putSystem_comm]
    | compound id name pair => exact registry.enter_single_compound system id name pair
  | compound id name pair =>
    cases second with
    | single system => exact (registry.enter_single_compound system id name pair).symm
    | compound other name' pair' =>
      by_cases heq : id = other
      · obtain ⟨rfl, rfl⟩ := h heq
        rw [heq]
      · exact putCompound_comm heq name name' pair pair'

/-! ## Registrations that succeed -/

theorem holdsCompound_iff {id : UInt32} :
    registry.holdsCompound id ↔
      ∃ held, registry.systems.get? id = some held ∧ held.kind = .compound := by
  simp [holdsCompound, Option.any_eq_true]

/-- `Shows registry registration`: the registration has left its trace. A single system may have
been replaced by a compound one of its code. -/
def Shows (registry : Registry) : Registration → Prop
  | .single system => ∃ held, registry.systems.get? system.id = some held ∧
      (held.kind = system.kind ∨ held.kind = .compound)
  | .compound id _ pair => registry.holdsCompound id ∧ registry.components? id = some pair

/-- A registration that succeeds enters its system, and shows from then on. -/
theorem enter_of_call {registration : Registration}
    (h : registry.call registration.call = .ok next) :
    next = registry.enter registration ∧ next.Shows registration := by
  cases registration with
  | single system =>
    obtain ⟨hcompound, -, hkind, rfl⟩ := register_eq_ok_iff.1 h
    have hsingle : ¬registry.holdsCompound system.id := by
      rw [holdsCompound_iff]
      rintro ⟨held, hheld, hheldCompound⟩
      exact hcompound (hkind held hheld ▸ hheldCompound)
    exact ⟨by rw [enter, if_neg hsingle], system, KeyedList.get?_put_self .., .inl rfl⟩
  | compound id name pair =>
    obtain ⟨-, -, -, rfl⟩ := registerCompound_eq_ok_iff.1 h
    refine ⟨rfl, ?_, ?_⟩
    · rw [holdsCompound_putCompound, if_pos rfl]
    · rw [components?_putCompound, if_pos rfl]

/-- A registration that succeeds where another one shows is compatible with it, if both give their
code one name, and does not hide it. -/
theorem Shows.call {first second : Registration} (h : registry.Shows first)
    (hcall : registry.call second.call = .ok next)
    (hname : first.code = second.code → first.name = second.name) :
    first.Compatible second ∧ next.Shows first := by
  cases second with
  | single other =>
    obtain ⟨hcompound, -, hkind, rfl⟩ := register_eq_ok_iff.1 hcall
    cases first with
    | single system =>
      obtain ⟨held, hheld, hshown⟩ := h
      by_cases heq : system.id = other.id
      · -- the kind that is held is that of both
        have hheldKind := hkind held (heq ▸ hheld)
        have hsame : system.kind = other.kind := by
          rcases hshown with hshown | hshown
          · rw [← hshown, hheldKind]
          · exact absurd (hheldKind ▸ hshown) hcompound
        have hequal : system = other := by
          obtain ⟨id, name, kind⟩ := system
          obtain rfl : id = other.id := heq
          obtain rfl : kind = other.kind := hsame
          obtain rfl : name = other.name := hname rfl
          rfl
        subst hequal
        exact ⟨.refl _, system, KeyedList.get?_put_self .., .inl rfl⟩
      · refine ⟨fun hid => absurd hid heq, held, ?_, hshown⟩
        rw [putSystem, KeyedList.get?_put_of_ne _ heq, hheld]
    | compound id name pair =>
      obtain ⟨hholds, hpair⟩ := h
      -- a single system is not registered under the code of a compound one
      have hne : id ≠ other.id := by
        rintro rfl
        obtain ⟨held, hheld, hheldCompound⟩ := holdsCompound_iff.1 hholds
        exact hcompound (hkind held hheld ▸ hheldCompound)
      exact ⟨trivial, by rw [holdsCompound_putSystem hne, hholds], hpair⟩
  | compound id' name' pair' =>
    obtain ⟨-, -, hfresh, rfl⟩ := registerCompound_eq_ok_iff.1 hcall
    cases first with
    | single system =>
      obtain ⟨held, hheld, hshown⟩ := h
      refine ⟨trivial, ?_⟩
      by_cases heq : system.id = id'
      · exact ⟨_, by rw [systems_putCompound, if_pos heq], .inr rfl⟩
      · exact ⟨held, by rw [systems_putCompound, if_neg heq, hheld], hshown⟩
    | compound id name pair =>
      obtain ⟨hholds, hpair⟩ := h
      have hsame : id = id' → pair = pair' := by
        rintro rfl
        rcases hfresh with hnew | hheld
        · obtain ⟨held, hheld, -⟩ := holdsCompound_iff.1 hholds
          rw [hnew] at hheld
          cases hheld
        · rw [hpair] at hheld
          exact Option.some.inj hheld
      refine ⟨fun hid => ⟨hname hid, hsame hid⟩, ?_, ?_⟩
      · rw [holdsCompound_putCompound, hholds, ite_self]
      · rw [components?_putCompound]
        split
        · rename_i hid
          rw [hsame hid]
        · exact hpair

/-! ## Sequences of registrations -/

/-- Registrations that succeed one after the other enter their systems one after the other. -/
theorem eq_foldl_enter {registrations : List Registration}
    (h : registry.registerAll registrations = .ok next) :
    next = registrations.foldl enter registry := by
  induction registrations generalizing registry with
  | nil => exact (Except.ok.inj h).symm
  | cons registration rest ih =>
    obtain ⟨reached, hfirst, hrest⟩ := Except.bind_eq_ok_iff.1 h
    rw [List.foldl_cons, ← (enter_of_call hfirst).1]
    exact ih hrest

/-- What shows before a sequence is compatible with all of it. -/
theorem Shows.compatible {shown : Registration} {registrations : List Registration}
    (hshown : registry.Shows shown) (h : registry.registerAll registrations = .ok next)
    (hnames : ∀ other ∈ registrations, shown.code = other.code → shown.name = other.name) :
    ∀ other ∈ registrations, shown.Compatible other := by
  induction registrations generalizing registry with
  | nil => exact fun _ hmem => nomatch hmem
  | cons registration rest ih =>
    obtain ⟨reached, hfirst, hrest⟩ := Except.bind_eq_ok_iff.1 h
    obtain ⟨hname, hnames⟩ := List.forall_mem_cons.1 hnames
    obtain ⟨hcompatible, hstill⟩ := hshown.call hfirst hname
    exact List.forall_mem_cons.2 ⟨hcompatible, ih hstill hrest hnames⟩

/-- Registrations of one sequence are compatible with each other. -/
theorem compatible_of_registerAll {registrations : List Registration}
    (h : registry.registerAll registrations = .ok next)
    (hnames : ∀ first ∈ registrations, ∀ second ∈ registrations,
      first.code = second.code → first.name = second.name) :
    ∀ first ∈ registrations, ∀ second ∈ registrations, first.Compatible second := by
  have hpairwise : registrations.Pairwise Registration.Compatible := by
    induction registrations generalizing registry with
    | nil => exact .nil
    | cons registration rest ih =>
      obtain ⟨reached, hfirst, hrest⟩ := Except.bind_eq_ok_iff.1 h
      have hname := hnames registration List.mem_cons_self
      refine .cons ((enter_of_call hfirst).2.compatible hrest ?_) (ih hrest ?_)
      · exact fun other hmem => hname other (List.mem_cons_of_mem _ hmem)
      · exact fun first hmem second hmem' =>
          hnames first (List.mem_cons_of_mem _ hmem) second (List.mem_cons_of_mem _ hmem')
  intro first hmem second hmem'
  exact hpairwise.forall_of_forall (fun _ _ => .refl _) hmem hmem'

variable {start left right : Registry} {first second : List Registration}

/-- Registrations lead to the same registry in every order in which they succeed. -/
theorem eq_of_perm (hperm : first.Perm second)
    (hnames : ∀ a ∈ first, ∀ b ∈ first, a.code = b.code → a.name = b.name)
    (hfirst : start.registerAll first = .ok left) (hsecond : start.registerAll second = .ok right) :
    left = right := by
  have hcompatible := compatible_of_registerAll hfirst hnames
  calc left = first.foldl enter start := eq_foldl_enter hfirst
    _ = second.foldl enter start :=
        hperm.foldl_eq' (fun a ha b hb reached => reached.enter_comm (hcompatible a ha b hb)) start
    _ = right := (eq_foldl_enter hsecond).symm

/-- After the same registrations in two orders, all of which succeed from the same registry and give
each code one name, everything is answered alike. -/
theorem registerAll_perm (hperm : first.Perm second)
    (hnames : ∀ a ∈ first, ∀ b ∈ first, a.code = b.code → a.name = b.name)
    (hfirst : start.registerAll first = .ok left) (hsecond : start.registerAll second = .ok right) :
    (∀ id, left.get id = right.get id ∧ left.components? id = right.components? id ∧
      left.resolve id = right.resolve id) ∧
      left.list = right.list ∧ ∀ pair, left.getCompound pair = right.getCompound pair := by
  obtain rfl := eq_of_perm hperm hnames hfirst hsecond
  exact ⟨fun _ => ⟨rfl, rfl, rfl⟩, rfl, fun _ => rfl⟩

/-- Two codes of one pair, registered in both orders, with a vertical system of its own between
them. -/
theorem registerAll_perm_two_codes :
    let grid : Registration := .single ⟨900002, "Local grid", .projected⟩
    let height : Registration := .single ⟨900003, "Local height", .vertical⟩
    let high : Registration := .compound 900005 "high" ⟨900002, 5703⟩
    let low : Registration := .compound 900001 "low" ⟨900002, 5703⟩
    ∃ left right, builtin.registerAll [grid, high, low, height, high] = .ok left ∧
      builtin.registerAll [height, grid, low, high, high] = .ok right ∧
      left.getCompound ⟨900002, 5703⟩ = right.getCompound ⟨900002, 5703⟩ ∧
      (right.getCompound ⟨900002, 5703⟩).map Compound.id = .ok 900001 := by
  intro grid height high low
  have hfirst : (builtin.registerAll [grid, high, low, height, high]).isOk := by decide +kernel
  have hsecond : ((builtin.registerAll [height, grid, low, high, high]).bind fun reached =>
      reached.getCompound ⟨900002, 5703⟩).map Compound.id = .ok 900001 := by decide +kernel
  have hperm : [grid, high, low, height, high].Perm [height, grid, low, high, high] := by
    decide +kernel
  have hnames : ∀ a ∈ [grid, high, low, height, high], ∀ b ∈ [grid, high, low, height, high],
      a.code = b.code → a.name = b.name := by decide
  cases hleft : builtin.registerAll [grid, high, low, height, high] with
  | error error => simp [hleft, Except.isOk, Except.toBool] at hfirst
  | ok left =>
    cases hright : builtin.registerAll [height, grid, low, high, high] with
    | error error => simp [hright, Except.bind, Except.map] at hsecond
    | ok right =>
      rw [hright] at hsecond
      obtain ⟨-, -, hpairs⟩ := registerAll_perm hperm hnames hleft hright
      exact ⟨left, right, rfl, rfl, hpairs _, hsecond⟩

end Registry

end Georef.Crs
