import Georef.KeyedList
import Mathlib.Tactic.Common

/-!
# Lists with keys as maps

The entries of a list with keys ascend, so that there is one list for each map: lists in which the
same is found are equal, and values put under different keys can be put in either order.

* `findEntry_eq_some_iff` — what is found under a key is its entry.
* `KeyedList.ext_get?`, `KeyedList.put_put`, `KeyedList.put_comm` — equal maps.
-/

namespace Georef

variable {κ ν : Type} [Ranked κ]

theorem Ranked.rank_inj {a b : κ} : rank a = rank b ↔ a = b :=
  ⟨Ranked.injective a b, congrArg rank⟩

/-- What is found under a key is the entry of the key. -/
theorem findEntry_eq_some_iff {entries : List (κ × ν)} (h : Ascending entries) {key : κ}
    {value : ν} : findEntry key entries = some value ↔ (key, value) ∈ entries := by
  induction entries with
  | nil => simp [findEntry]
  | cons head rest ih =>
    obtain ⟨other, held⟩ := head
    obtain ⟨hhead, hrest⟩ := List.pairwise_cons.1 h
    rw [findEntry, List.mem_cons, Prod.mk.injEq]
    split
    · rename_i heq
      obtain rfl := Ranked.rank_inj.1 heq
      -- the keys behind the first one are greater
      have hnew : (key, value) ∉ rest := fun hmem => Nat.lt_irrefl (rank key) (hhead _ hmem)
      simp [hnew, eq_comm]
    · rename_i hne
      have hne : key ≠ other := fun heq => hne (heq ▸ rfl)
      simp [ih hrest, hne]

theorem Ascending.nodup {entries : List (κ × ν)} (h : Ascending entries) : entries.Nodup := by
  refine h.imp fun hlt heq => ?_
  rw [heq] at hlt
  exact Nat.lt_irrefl _ hlt

namespace KeyedList

theorem get?_eq_some_iff {map : KeyedList κ ν} {key : κ} {value : ν} :
    map.get? key = some value ↔ (key, value) ∈ map.entries :=
  findEntry_eq_some_iff map.ascending

theorem get?_put_self (map : KeyedList κ ν) (key : κ) (value : ν) :
    (map.put key value).get? key = some value := by
  rw [get?_put, if_pos rfl]

theorem get?_put_of_ne (map : KeyedList κ ν) {key other : κ} (h : other ≠ key) (value : ν) :
    (map.put key value).get? other = map.get? other := by
  rw [get?_put, if_neg (mt Ranked.rank_inj.1 h)]

/-- Maps in which the same is found are equal. -/
theorem ext_get? {first second : KeyedList κ ν} (h : ∀ key, first.get? key = second.get? key) :
    first = second := by
  have hmem : ∀ entry, entry ∈ first.entries ↔ entry ∈ second.entries := by
    rintro ⟨key, value⟩
    rw [← get?_eq_some_iff, ← get?_eq_some_iff, h key]
  have hperm : first.entries.Perm second.entries :=
    (List.perm_ext_iff_of_nodup first.ascending.nodup second.ascending.nodup).2 hmem
  -- there is one way to put entries in ascending order
  have heq : first.entries = second.entries :=
    hperm.eq_of_pairwise (fun _ _ _ _ hlt hgt => absurd hlt (Nat.lt_asymm hgt)) first.ascending
      second.ascending
  cases first
  cases second
  cases heq
  rfl

/-- The later of two values under one key is kept. -/
theorem put_put (map : KeyedList κ ν) (key : κ) (first second : ν) :
    (map.put key first).put key second = map.put key second := by
  refine ext_get? fun other => ?_
  simp only [get?_put]
  split <;> rfl

/-- Values under different keys can be put in either order. -/
theorem put_comm (map : KeyedList κ ν) {key other : κ} (h : key ≠ other) (first second : ν) :
    (map.put key first).put other second = (map.put other second).put key first := by
  refine ext_get? fun asked => ?_
  simp only [get?_put]
  by_cases hkey : rank asked = rank key
  · have hother : rank asked ≠ rank other := fun heq => h (Ranked.rank_inj.1 (hkey ▸ heq))
    rw [if_neg hother, if_pos hkey, if_pos hkey]
  · rw [if_neg hkey, if_neg hkey]

end KeyedList

end Georef
