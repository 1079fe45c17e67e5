/-!
# Lists with keys

A finite map, kept as a list of keys and values in ascending order of the keys. The order makes the
list the only one with its entries, so maps that answer alike are equal.

* `KeyedList`, with its order as part of the type.
* `KeyedList.get?`, `KeyedList.put`: looking up and entering; `get?_put` says what is found after
  an entry was made.
-/

namespace Georef

/-- Keys that are told apart by a natural number. -/
class Ranked (κ : Type) where
  rank : κ → Nat
  injective : ∀ a b, rank a = rank b → a = b

export Ranked (rank)

instance : Ranked UInt32 where
  rank := UInt32.toNat
  injective _ _ := UInt32.toNat_inj.1

variable {κ ν : Type} [Ranked κ]

/-- Entries with a value put in the place of its key. -/
def putEntry (key : κ) (value : ν) : List (κ × ν) → List (κ × ν)
  | [] => [(key, value)]
  | (other, held) :: rest =>
    if rank key < rank other then (key, value) :: (other, held) :: rest
    else if rank key = rank other then (key, value) :: rest
    else (other, held) :: putEntry key value rest

/-- The value of a key. -/
def findEntry (key : κ) : List (κ × ν) → Option ν
  | [] => none
  | (other, held) :: rest => if rank key = rank other then some held else findEntry key rest

/-- The keys ascend. -/
def Ascending (entries : List (κ × ν)) : Prop :=
  entries.Pairwise fun a b => rank a.1 < rank b.1

theorem mem_putEntry {key : κ} {value : ν} {entry : κ × ν} {entries : List (κ × ν)}
    (h : entry ∈ putEntry key value entries) : entry = (key, value) ∨ entry ∈ entries := by
  induction entries with
  | nil => simpa [putEntry] using h
  | cons head rest ih =>
    obtain ⟨other, held⟩ := head
    rw [putEntry] at h
    split at h
    · simpa using h
    · split at h
      · rcases List.mem_cons.1 h with h | h
        · exact .inl h
        · exact .inr (List.mem_cons_of_mem _ h)
      · rcases List.mem_cons.1 h with h | h
        · exact .inr (h ▸ List.mem_cons_self)
        · exact (ih h).imp id (List.mem_cons_of_mem _)

/-- Putting a value keeps the order. -/
theorem Ascending.putEntry {entries : List (κ × ν)} (h : Ascending entries) (key : κ)
    (value : ν) : Ascending (putEntry key value entries) := by
  induction entries with
  | nil => simp [Ascending, Georef.putEntry]
  | cons head rest ih =>
    obtain ⟨other, held⟩ := head
    obtain ⟨hhead, hrest⟩ := List.pairwise_cons.1 h
    rw [Georef.putEntry]
    split
    -- the new key stands in front of all others
    · rename_i hlt
      refine List.pairwise_cons.2 ⟨fun entry hmem => ?_, h⟩
      rcases List.mem_cons.1 hmem with rfl | hmem
      · exact hlt
      · exact Nat.lt_trans hlt (hhead entry hmem)
    · split
      -- an equal key takes the place of the old one
      · rename_i heq
        exact List.pairwise_cons.2 ⟨fun entry hmem => heq ▸ hhead entry hmem, hrest⟩
      · rename_i hnlt hne
        refine List.pairwise_cons.2 ⟨fun entry hmem => ?_, ih hrest⟩
        rcases mem_putEntry hmem with rfl | hmem
        · exact Nat.lt_of_le_of_ne (Nat.le_of_not_lt hnlt) (Ne.symm hne)
        · exact hhead entry hmem

theorem findEntry_putEntry (key other : κ) (value : ν) (entries : List (κ × ν)) :
    findEntry other (putEntry key value entries) =
      if rank other = rank key then some value else findEntry other entries := by
  induction entries with
  | nil => simp [putEntry, findEntry]
  | cons head rest ih =>
    obtain ⟨first, held⟩ := head
    rw [putEntry]
    split
    · simp [findEntry]
    · split
      · grind [findEntry]
      · grind [findEntry]

/-- A finite map from keys to values. -/
structure KeyedList (κ ν : Type) [Ranked κ] where
  entries : List (κ × ν)
  ascending : Ascending entries

namespace KeyedList

/-- The map without entries. -/
def empty : KeyedList κ ν := ⟨[], List.Pairwise.nil⟩

instance : Inhabited (KeyedList κ ν) := ⟨empty⟩

/-- The value of a key. -/
def get? (map : KeyedList κ ν) (key : κ) : Option ν :=
  findEntry key map.entries

/-- The map with a value entered under a key, in the place of any earlier one. -/
def put (map : KeyedList κ ν) (key : κ) (value : ν) : KeyedList κ ν :=
  ⟨putEntry key value map.entries, map.ascending.putEntry key value⟩

/-- The number of keys. -/
def size (map : KeyedList κ ν) : Nat :=
  map.entries.length

/-- The values in ascending order of their keys. -/
def values (map : KeyedList κ ν) : List ν :=
  map.entries.map Prod.snd

/-- What was put under a key is found there, and nothing else changes. -/
theorem get?_put (map : KeyedList κ ν) (key other : κ) (value : ν) :
    (map.put key value).get? other =
      if rank other = rank key then some value else map.get? other :=
  findEntry_putEntry key other value map.entries

end KeyedList

end Georef
