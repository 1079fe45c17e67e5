import Georef.Error
import Georef.KeyedList

/-!
# The registry

A registry knows systems by their code. Codes are positive; a code keeps the kind it was first
registered with, and a compound code the pair of systems it combines, while names may change. The
parts of a compound system have to be registered before it.

Several codes may be registered for one pair; the pair then stands for the smallest of them. A pair
without a code has one made from the codes of its parts.

* `Registry.register`, `Registry.registerCompound`: the two ways a registry grows.
* `Registry.get`, `Registry.components?`, `Registry.getCompound`, `Registry.resolve`: looking up.
* `synthesizedId`: the code of a pair without one.
-/

namespace Georef.Crs

/-- A pair is told apart by its codes written one after the other. -/
instance : Ranked Pair where
  rank pair := pair.horizontal.toNat * 0x100000000 + pair.vertical.toNat
  injective a b h := by
    obtain ⟨h₁, v₁⟩ := a
    obtain ⟨h₂, v₂⟩ := b
    have := v₁.toNat_lt
    have := v₂.toNat_lt
    have hh : h₁.toNat = h₂.toNat := by simp only at h; omega
    have hv : v₁.toNat = v₂.toNat := by simp only at h; omega
    rw [UInt32.toNat_inj.1 hh, UInt32.toNat_inj.1 hv]

/-! ## Codes made from pairs -/

/-- One step of the hash for each byte. -/
def hashByte (state : UInt32) (byte : UInt8) : UInt32 :=
  (state ^^^ byte.toUInt32) * 0x01000193

/-- The hash of a text: exclusive or with each byte, then a multiplication. -/
def hashText (text : String) : UInt32 :=
  (Bytes.ofText text).foldl hashByte 0x811C9DC5

/-- The code of a pair that has none: the hash of its codes with a plus sign between them, with the
highest bit set. -/
def synthesizedId (pair : Pair) : UInt32 :=
  hashText s!"{pair.horizontal.toNat}+{pair.vertical.toNat}" ||| 0x80000000

/-! ## The registry -/

/-- Coordinate reference systems by code. -/
structure Registry where
  systems : KeyedList UInt32 ReferenceSystem
  /-- The parts of the compound systems. -/
  components : KeyedList UInt32 Pair
  /-- The smallest code of each pair that has one. -/
  smallest : KeyedList Pair UInt32

namespace Registry

/-- The registry without systems. -/
def empty : Registry := ⟨.empty, .empty, .empty⟩

/-- The number of systems. -/
def size (registry : Registry) : Nat :=
  registry.systems.size

/-- The systems in ascending order of their codes. -/
def list (registry : Registry) : List ReferenceSystem :=
  registry.systems.values

/-- The system with a code. -/
def get (registry : Registry) (id : UInt32) : Except Error ReferenceSystem :=
  match registry.systems.get? id with
  | some system => .ok system
  | none => .error (.unknownSystem id)

/-- The parts of a compound system. -/
def components? (registry : Registry) (id : UInt32) : Option Pair :=
  registry.components.get? id

/-- The two systems of a pair, which have to be registered, one as a horizontal system and the other
as a vertical one. -/
def parts (registry : Registry) (pair : Pair) :
    Except Error (ReferenceSystem × ReferenceSystem) := do
  let horizontal ← registry.get pair.horizontal
  let vertical ← registry.get pair.vertical
  if !horizontal.kind.isHorizontal then
    throw (.format (.notHorizontal horizontal.id horizontal.kind))
  if !vertical.kind.isVertical then
    throw (.format (.notVertical vertical.id vertical.kind))
  return (horizontal, vertical)

/-! ## Registering -/

/-- The registry with a system that is not compound. -/
def register (registry : Registry) (system : ReferenceSystem) : Except Error Registry := do
  if system.kind = .compound then throw (.format (.compoundAsSingle system.id))
  if system.id = 0 then throw (.format .zeroId)
  match registry.systems.get? system.id with
  | some existing =>
    if existing.kind ≠ system.kind then
      throw (.format (.kindTaken system.id existing.kind))
  | none => pure ()
  return { registry with systems := registry.systems.put system.id system }

/-- The registry with a compound system, unchecked. -/
def putCompound (registry : Registry) (id : UInt32) (name : String) (pair : Pair) : Registry where
  systems := registry.systems.put id { id, name, kind := .compound }
  components := registry.components.put id pair
  smallest :=
    let best :=
      match registry.smallest.get? pair with
      | some other => min other id
      | none => id
    registry.smallest.put pair best

/-- The registry with a compound system. -/
def registerCompound (registry : Registry) (id : UInt32) (name : String) (pair : Pair) :
    Except Error Registry := do
  if id = 0 then throw (.format .zeroId)
  -- the parts come first: a code that is taken is reported only for a pair that could stand
  let _ ← registry.parts pair
  match registry.systems.get? id with
  | some existing =>
    match registry.components.get? id with
    | some held => if held ≠ pair then throw (.format (.pairTaken id held))
    | none => throw (.format (.kindTaken id existing.kind))
  | none => pure ()
  return registry.putCompound id name pair

/-! ## Looking up -/

/-- The compound system of a pair. -/
def getCompound (registry : Registry) (pair : Pair) : Except Error Compound := do
  let (horizontal, vertical) ← registry.parts pair
  match registry.smallest.get? pair with
  | some id =>
    let system ← registry.get id
    return { id, name := system.name, horizontal, vertical, registered := true }
  | none =>
    let name := s!"{horizontal.name} + {vertical.name}"
    return { id := synthesizedId pair, name, horizontal, vertical, registered := false }

/-- What a code stands for. A compound system keeps the code and the name it is asked for by, also
where a smaller code stands for its pair. -/
def resolve (registry : Registry) (id : UInt32) : Except Error Resolved := do
  match registry.components? id with
  | none => return .single (← registry.get id)
  | some pair =>
    let compound ← registry.getCompound pair
    if compound.id = id then return .compound compound
    return .compound { compound with id, name := (← registry.get id).name }

end Registry

end Georef.Crs
