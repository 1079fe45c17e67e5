import Georef.Cache

/-!
# Lists of recent values

The plain form of a cache: a list of keys with their values, the one used last in front. A value
that is loaded into a full list displaces the last one.
-/

namespace Georef

/-- Keys with values, the one used last in front. -/
structure RecentList (κ ν : Type) where
  /-- The most entries that are kept. -/
  capacity : Nat
  entries : List (κ × ν) := []
  deriving Repr

namespace RecentList

variable {κ ν ε : Type}

/-- An empty list; at least one entry fits. -/
def ofCapacity (capacity : Nat) : RecentList κ ν :=
  { capacity := max 1 capacity }

/-- The number of entries. -/
def size (list : RecentList κ ν) : Nat :=
  list.entries.length

/-- The list without entries. -/
def clear (list : RecentList κ ν) : RecentList κ ν :=
  { list with entries := [] }

/-- The list with room for one more entry. -/
def withRoom (list : RecentList κ ν) : RecentList κ ν :=
  { list with entries := list.entries.take (list.capacity - 1) }

variable [DecidableEq κ]

/-- The value of a key. -/
def find? (list : RecentList κ ν) (key : κ) : Option ν :=
  (list.entries.find? fun entry => entry.1 = key).map Prod.snd

/-- The value of a key, and the list without it. -/
def remove (list : RecentList κ ν) (key : κ) : Option ν × RecentList κ ν :=
  (list.find? key, { list with entries := list.entries.filter fun entry => entry.1 ≠ key })

/-- The list with an entry in front. -/
def use (list : RecentList κ ν) (key : κ) (value : ν) : RecentList κ ν :=
  { list with entries := (key, value) :: (list.remove key).2.entries }

/-- The value of a key, which comes to the front. -/
def get (list : RecentList κ ν) (key : κ) : Option ν × RecentList κ ν :=
  match list.find? key with
  | some value => (some value, list.use key value)
  | none => (none, list)

/-- The value of a key, loaded if it is not there. -/
def getOrLoad (list : RecentList κ ν) (key : κ) (load : Unit → Except ε ν) :
    Except ε (Fetched ν) × RecentList κ ν :=
  match list.find? key with
  | some value => (.ok { value, loaded := false }, list.use key value)
  | none =>
    match load () with
    | .ok value => (.ok { value, loaded := true }, list.withRoom.use key value)
    | .error fault => (.error fault, list.withRoom)

end RecentList

end Georef
