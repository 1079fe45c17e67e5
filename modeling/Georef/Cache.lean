/-!
# Caches

A cache keeps the values of the keys that were used last. Every use takes a stamp from a clock. The
entry of the key keeps the stamp, and a mark with the key and the stamp joins the end of a queue. A
mark is live while its stamp is that of the entry; marks of earlier uses and of entries that are
gone stay in the queue until they are met.

Room is made by taking marks from the front of the queue. A live mark takes its entry along, so
entries go in the order of their last uses. A queue that has grown longer than four marks for each
entry that fits is reduced to its live marks.

* `Cache`, `Cache.ofCapacity`: caches, and a new one.
* `Cache.get`, `Cache.getOrLoad`: the value of a key, and the same with a way to load it.
* `Cache.remove`, `Cache.clear`: dropping entries.
-/

namespace Georef

/-- A value with the stamp of its last use. -/
structure Cached (ν : Type) where
  value : ν
  lastUse : Nat
  deriving DecidableEq, Repr

/-- A use of a key. -/
structure Mark (κ : Type) where
  key : κ
  stamp : Nat
  deriving DecidableEq, Repr

/-- A cache of values. -/
structure Cache (κ ν : Type) where
  /-- The most entries that are kept. -/
  capacity : Nat
  capacity_pos : 0 < capacity
  entries : List (κ × Cached ν) := []
  /-- The uses, the earliest first. -/
  queue : List (Mark κ) := []
  /-- The stamp that was given last. -/
  clock : Nat := 0

/-- A value, and whether it had to be loaded. -/
structure Fetched (ν : Type) where
  value : ν
  loaded : Bool
  deriving DecidableEq, Repr

namespace Cache

variable {κ ν ε : Type}

/-- An empty cache; at least one entry fits. -/
def ofCapacity (capacity : Nat) : Cache κ ν where
  capacity := max 1 capacity
  capacity_pos := Nat.lt_of_lt_of_le Nat.one_pos (Nat.le_max_left ..)

/-- The number of entries. -/
def size (cache : Cache κ ν) : Nat :=
  cache.entries.length

/-- The values. -/
def values (cache : Cache κ ν) : List ν :=
  cache.entries.map fun entry => entry.2.value

/-- The most marks for each entry that fits. -/
def marksPerEntry : Nat := 4

/-- The cache with the clock moved on. -/
def tick (cache : Cache κ ν) : Cache κ ν :=
  { cache with clock := cache.clock + 1 }

/-- The cache without entries and marks; the clock goes on. -/
def clear (cache : Cache κ ν) : Cache κ ν :=
  { cache with entries := [], queue := [] }

variable [DecidableEq κ]

/-! ## Entries -/

/-- The entry of a key. -/
def findIn (key : κ) (entries : List (κ × Cached ν)) : Option (Cached ν) :=
  (entries.find? fun entry => entry.1 = key).map Prod.snd

/-- Entries without that of a key. -/
def dropFrom (key : κ) (entries : List (κ × Cached ν)) : List (κ × Cached ν) :=
  entries.filter fun entry => entry.1 ≠ key

/-- Entries with a new one in place of that of its key, or behind the others. -/
def putIn (key : κ) (cached : Cached ν) : List (κ × Cached ν) → List (κ × Cached ν)
  | [] => [(key, cached)]
  | entry :: rest =>
    if entry.1 = key then (key, cached) :: rest else entry :: putIn key cached rest

/-- The entry of a key. -/
def find? (cache : Cache κ ν) (key : κ) : Option (Cached ν) :=
  findIn key cache.entries

/-- Whether a key has an entry. -/
def contains (cache : Cache κ ν) (key : κ) : Bool :=
  (cache.find? key).isSome

/-! ## Marks -/

/-- Whether a mark is that of the last use of its key. -/
def isLive (entries : List (κ × Cached ν)) (mark : Mark κ) : Bool :=
  match findIn mark.key entries with
  | some cached => cached.lastUse == mark.stamp
  | none => false

/-- The cache with its live marks only. -/
def compact (cache : Cache κ ν) : Cache κ ν :=
  { cache with queue := cache.queue.filter (isLive cache.entries) }

/-- The cache with a mark for a use of a key at the present stamp.

The length at which the queue is reduced is the product of the marks for each entry and the
capacity. It is taken to fit a machine word, so that it is an exact product here. A bound that wraps
around would reduce the queue at other times, but reducing it drops no live mark, so answers would be
the same. -/
def mark (cache : Cache κ ν) (key : κ) : Cache κ ν :=
  let marked := { cache with queue := cache.queue ++ [{ key, stamp := cache.clock }] }
  -- compaction is rare enough to cost little for each use
  if marksPerEntry * marked.capacity < marked.queue.length then marked.compact else marked

/-- The cache with a value entered for a key, which is used at the present stamp. -/
def use (cache : Cache κ ν) (key : κ) (value : ν) : Cache κ ν :=
  ({ cache with entries := putIn key { value, lastUse := cache.clock } cache.entries }).mark key

/-! ## Eviction -/

/-- Entries and marks after marks were taken until at most `target` entries are left. -/
def evictFrom (target : Nat) :
    List (κ × Cached ν) → List (Mark κ) → List (κ × Cached ν) × List (Mark κ)
  | entries, [] => (entries, [])
  | entries, mark :: rest =>
    -- marks in front may be out of date even now; they are met when room is needed again
    if entries.length ≤ target then (entries, mark :: rest)
    else evictFrom target (if isLive entries mark then dropFrom mark.key entries else entries) rest

/-- The cache after eviction down to `target` entries. -/
def evictTo (cache : Cache κ ν) (target : Nat) : Cache κ ν :=
  let (entries, queue) := evictFrom target cache.entries cache.queue
  { cache with entries, queue }

/-! ## Access -/

/-- The value of a key, which is a use of it. -/
def get (cache : Cache κ ν) (key : κ) : Option ν × Cache κ ν :=
  -- the clock moves on for misses as well, so every stamp is given once
  let cache := cache.tick
  match cache.find? key with
  | some cached => (some cached.value, cache.use key cached.value)
  | none => (none, cache)

/-- The value of a key. A value that is not there is loaded after room was made for it; it is kept
if the loading succeeds. -/
def getOrLoad (cache : Cache κ ν) (key : κ) (load : Unit → Except ε ν) :
    Except ε (Fetched ν) × Cache κ ν :=
  match cache.get key with
  | (some value, cache) => (.ok { value, loaded := false }, cache)
  | (none, cache) =>
    let cache := (cache.evictTo (cache.capacity - 1)).tick
    match load () with
    | .ok value => (.ok { value, loaded := true }, cache.use key value)
    | .error fault => (.error fault, cache)

/-- The value of a key, and the cache without it. -/
def remove (cache : Cache κ ν) (key : κ) : Option ν × Cache κ ν :=
  ((cache.find? key).map Cached.value, { cache with entries := dropFrom key cache.entries })

end Cache

end Georef
