import Georef.GridFile.Cache
import Georef.Proofs.Cache.UseOrder
import Georef.RecentList

/-!
# Caches answer like lists of recent values

Read from the end of its queue, a cache is a plain list of keys and values with the one used last in
front. Every call on the cache is answered as the same call on that list, and leaves a cache that
stands for the list that the call on the list leaves.

The module introduces:

* `Cache.toRecentList`: the list that a cache stands for.
* `Cache.Sound`: the state of a cache between calls.
* `ValueStore`, `CacheRequest`, `CacheAnswer`, `ValueStore.run`: the calls that caches and lists
  have in common, and the answers to a sequence of them.

`Cache.Sound.run` carries the agreement from single calls to sequences, and
`GridCache.run_eq_recentList_run` states it for caches of grid files.
-/

namespace Georef

/-! ## Calls -/

/-- Stores that keep values by key and load those that are not there. -/
class ValueStore (σ : Type) (κ ν : outParam Type) where
  get : σ → κ → Option ν × σ
  remove : σ → κ → Option ν × σ
  clear : σ → σ
  getOrLoad {ε : Type} : σ → κ → (Unit → Except ε ν) → Except ε (Fetched ν) × σ

section Instances

variable {κ ν : Type} [DecidableEq κ]

instance : ValueStore (Cache κ ν) κ ν :=
  ⟨Cache.get, Cache.remove, Cache.clear, Cache.getOrLoad⟩

instance : ValueStore (RecentList κ ν) κ ν :=
  ⟨RecentList.get, RecentList.remove, RecentList.clear, RecentList.getOrLoad⟩

instance {α : Type} : ValueStore (GridCache α) String (GridFile α) :=
  ⟨GridCache.get, GridCache.remove, GridCache.clear, GridCache.getOrLoad⟩

end Instances

/-- A call on a store. -/
inductive CacheRequest (κ ν ε : Type) where
  | get (key : κ)
  | remove (key : κ)
  | clear
  | getOrLoad (key : κ) (load : Unit → Except ε ν)

/-- The call with its key read in another way. -/
def CacheRequest.mapKey {κ κ' ν ε : Type} (f : κ → κ') : CacheRequest κ ν ε → CacheRequest κ' ν ε
  | get key => .get (f key)
  | remove key => .remove (f key)
  | clear => .clear
  | getOrLoad key load => .getOrLoad (f key) load

/-- What a store answers to a call. -/
inductive CacheAnswer (ν ε : Type) where
  | held (value : Option ν)
  | cleared
  | fetched (outcome : Except ε (Fetched ν))

namespace ValueStore

variable {σ κ ν ε : Type} [ValueStore σ κ ν]

/-- The answer to a call, and the store behind it. -/
def answer (store : σ) : CacheRequest κ ν ε → CacheAnswer ν ε × σ
  | .get key => (get store key).map .held id
  | .remove key => (remove store key).map .held id
  | .clear => (.cleared, clear store)
  | .getOrLoad key load => (getOrLoad store key load).map .fetched id

/-- The answers to calls that are made one after the other, and the store behind the last. -/
def run (store : σ) : List (CacheRequest κ ν ε) → List (CacheAnswer ν ε) × σ
  | [] => ([], store)
  | request :: rest =>
    let (first, store) := answer store request
    let (others, store) := run store rest
    (first :: others, store)

end ValueStore

namespace Cache

variable {κ ν ε : Type} [DecidableEq κ] {cache : Cache κ ν}

/-- The list of a cache: its entries, the one used last in front. -/
def toRecentList (cache : Cache κ ν) : RecentList κ ν where
  capacity := cache.capacity
  entries := (usesIn cache.entries cache.queue).reverse

/-- Entries and queue are in order, and no stamp is ahead of the clock. -/
structure Sound (cache : Cache κ ν) : Prop where
  ordered : Ordered cache.entries cache.queue
  stamp_le : ∀ mark ∈ cache.queue, mark.stamp ≤ cache.clock

/-- The state inside a call once the clock has moved on: the present stamp is new. -/
structure Ticked (cache : Cache κ ν) : Prop where
  ordered : Ordered cache.entries cache.queue
  stamp_lt : ∀ mark ∈ cache.queue, mark.stamp < cache.clock

theorem Sound.find?_toRecentList (h : cache.Sound) (key : κ) :
    cache.toRecentList.find? key = (cache.find? key).map Cached.value :=
  h.ordered.find?_reverse_usesIn key

theorem Sound.size_toRecentList (h : cache.Sound) : cache.toRecentList.size = cache.size := by
  rw [RecentList.size, toRecentList, List.length_reverse, h.ordered.length_usesIn, size]

/-! ## Parts of calls -/

theorem Sound.tick (h : cache.Sound) : cache.tick.Ticked where
  ordered := h.ordered
  stamp_lt mark hmem := Nat.lt_succ_of_le (h.stamp_le mark hmem)

theorem Sound.ofCapacity (capacity : Nat) : (Cache.ofCapacity capacity : Cache κ ν).Sound where
  ordered := ⟨List.nodup_nil, List.Pairwise.nil, by simp [findIn, Cache.ofCapacity]⟩
  stamp_le := by simp [Cache.ofCapacity]

theorem Sound.compact (h : cache.Sound) : cache.compact.Sound where
  ordered := h.ordered.filter_isLive
  stamp_le mark hmem := h.stamp_le mark (List.mem_of_mem_filter hmem)

/-- Compaction does not touch the list. -/
theorem toRecentList_compact : cache.compact.toRecentList = cache.toRecentList := by
  rw [toRecentList, compact, usesIn_filter_isLive, toRecentList]

/-- The cache of a use before its marks may be compacted. -/
def useLoosely (cache : Cache κ ν) (key : κ) (value : ν) : Cache κ ν :=
  { cache with
    entries := putIn key { value, lastUse := cache.clock } cache.entries
    queue := cache.queue ++ [{ key, stamp := cache.clock }] }

theorem use_eq (key : κ) (value : ν) :
    cache.use key value = cache.useLoosely key value ∨
      cache.use key value = (cache.useLoosely key value).compact := by
  simp only [use, mark]
  split
  · exact .inr rfl
  · exact .inl rfl

theorem Ticked.useLoosely (h : cache.Ticked) (key : κ) (value : ν) :
    (cache.useLoosely key value).Sound ∧
      (cache.useLoosely key value).toRecentList = cache.toRecentList.use key value := by
  refine ⟨⟨h.ordered.putIn h.stamp_lt, fun mark hmem => ?_⟩, ?_⟩
  · rcases List.mem_append.1 hmem with hold | hlast
    · exact Nat.le_of_lt (h.stamp_lt mark hold)
    · rw [List.mem_singleton.1 hlast]
      exact Nat.le_refl _
  · simp only [toRecentList, Cache.useLoosely, usesIn_putIn h.stamp_lt, RecentList.use,
      RecentList.remove, List.reverse_append, List.reverse_singleton, List.singleton_append,
      List.filter_reverse]

/-- A use at a new stamp brings its key to the front of the list. -/
theorem Ticked.use (h : cache.Ticked) (key : κ) (value : ν) :
    (cache.use key value).Sound ∧
      (cache.use key value).toRecentList = cache.toRecentList.use key value := by
  obtain ⟨hsound, hlist⟩ := h.useLoosely key value
  -- compaction, if the use sets it off, leaves the list as it is
  rcases use_eq key value with heq | heq
  · rw [heq]
    exact ⟨hsound, hlist⟩
  · rw [heq, toRecentList_compact]
    exact ⟨hsound.compact, hlist⟩

theorem evictFrom_sublist (target : Nat) (entries : List (κ × Cached ν))
    (queue : List (Mark κ)) : (evictFrom target entries queue).2.Sublist queue := by
  induction queue generalizing entries with
  | nil => exact List.Sublist.refl _
  | cons mark rest ih =>
    rw [evictFrom]
    split
    · exact List.Sublist.refl _
    · exact (ih _).cons mark

/-- Making room for one more entry drops the last ones of the list. -/
theorem Ticked.makeRoom (h : cache.Ticked) :
    (cache.evictTo (cache.capacity - 1)).tick.Ticked ∧
      (cache.evictTo (cache.capacity - 1)).tick.toRecentList = cache.toRecentList.withRoom := by
  obtain ⟨hordered, huses⟩ := h.ordered.evictFrom (cache.capacity - 1)
  refine ⟨⟨hordered, fun mark hmem => ?_⟩, ?_⟩
  · have hmem' := (evictFrom_sublist _ _ _).subset hmem
    exact Nat.lt_succ_of_lt (h.stamp_lt mark hmem')
  · simp only [toRecentList, tick, evictTo, huses, RecentList.withRoom, List.reverse_drop,
      ← h.ordered.length_usesIn]
  -- the entries dropped from the old end are those that do not fit in front
    congr 1
    rw [List.take_eq_take_iff, List.length_reverse]
    omega

/-! ## Calls on a cache and on its list -/

/-- A call on a cache leaves a sound one, and answers and acts like the call on its list. -/
def Agrees {α : Type} (call : α × Cache κ ν) (plain : α × RecentList κ ν) : Prop :=
  call.2.Sound ∧ (call.1, call.2.toRecentList) = plain

theorem Agrees.map {α β : Type} {call : α × Cache κ ν} {plain : α × RecentList κ ν}
    (h : Agrees call plain) (f : α → β) : Agrees (call.map f id) (plain.map f id) := by
  obtain ⟨hsound, rfl⟩ := h
  exact ⟨hsound, rfl⟩

/-- A call to `get` that finds nothing only moves the clock. -/
theorem get_of_find?_eq_none {key : κ} (h : cache.find? key = none) :
    cache.get key = (none, cache.tick) := by
  have hfind : cache.tick.find? key = none := h
  simp [get, hfind]

theorem get_of_find?_eq_some {key : κ} {cached : Cached ν} (h : cache.find? key = some cached) :
    cache.get key = (some cached.value, cache.tick.use key cached.value) := by
  have hfind : cache.tick.find? key = some cached := h
  simp [get, hfind]

theorem Sound.get (h : cache.Sound) (key : κ) :
    Agrees (cache.get key) (cache.toRecentList.get key) := by
  have hlist := h.find?_toRecentList key
  cases hfind : cache.find? key with
  | none =>
    rw [hfind, Option.map_none] at hlist
    rw [get_of_find?_eq_none hfind, RecentList.get, hlist]
    -- only the clock has moved, and the list does not know it
    exact ⟨⟨h.ordered, fun mark hmem => Nat.le_succ_of_le (h.stamp_le mark hmem)⟩, rfl⟩
  | some cached =>
    rw [hfind, Option.map_some] at hlist
    obtain ⟨hsound, huse⟩ := h.tick.use key cached.value
    rw [get_of_find?_eq_some hfind, RecentList.get, hlist]
    exact ⟨hsound, congrArg _ huse⟩

theorem Sound.getOrLoad (h : cache.Sound) (key : κ) (load : Unit → Except ε ν) :
    Agrees (cache.getOrLoad key load) (cache.toRecentList.getOrLoad key load) := by
  have hlist := h.find?_toRecentList key
  cases hfind : cache.find? key with
  | none =>
    rw [hfind, Option.map_none] at hlist
    -- room is made before the load, whether the load succeeds or not
    obtain ⟨hticked, hroom⟩ := h.tick.makeRoom
    rw [Cache.getOrLoad, get_of_find?_eq_none hfind, RecentList.getOrLoad, hlist]
    simp only
    cases load () with
    | ok value =>
      obtain ⟨hsound, huse⟩ := hticked.use key value
      rw [hroom] at huse
      exact ⟨hsound, congrArg _ huse⟩
    | error fault =>
      -- nothing is entered, but the entries that made room are gone
      refine ⟨⟨hticked.ordered, fun mark hmem => ?_⟩, congrArg _ hroom⟩
      exact Nat.le_of_lt (hticked.stamp_lt mark hmem)
  | some cached =>
    rw [hfind, Option.map_some] at hlist
    obtain ⟨hsound, huse⟩ := h.tick.use key cached.value
    rw [Cache.getOrLoad, get_of_find?_eq_some hfind, RecentList.getOrLoad, hlist]
    exact ⟨hsound, congrArg _ huse⟩

theorem Sound.remove (h : cache.Sound) (key : κ) :
    Agrees (cache.remove key) (cache.toRecentList.remove key) := by
  refine ⟨⟨h.ordered.dropFrom key, h.stamp_le⟩, ?_⟩
  rw [RecentList.remove, h.find?_toRecentList]
  simp only [Cache.remove, toRecentList, usesIn_dropFrom, List.filter_reverse]

theorem Sound.clear (cache : Cache κ ν) : cache.clear.Sound where
  ordered := ⟨List.nodup_nil, List.Pairwise.nil, by simp [findIn, Cache.clear]⟩
  stamp_le := by simp [Cache.clear]

theorem Sound.answer (h : cache.Sound) (request : CacheRequest κ ν ε) :
    Agrees (ValueStore.answer cache request) (ValueStore.answer cache.toRecentList request) := by
  cases request with
  | get key => exact (h.get key).map _
  | remove key => exact (h.remove key).map _
  | clear => exact ⟨Sound.clear cache, rfl⟩
  | getOrLoad key load => exact (h.getOrLoad key load).map _

/-- A cache and its list answer every sequence of calls alike. -/
theorem Sound.run (h : cache.Sound) (requests : List (CacheRequest κ ν ε)) :
    Agrees (ValueStore.run cache requests) (ValueStore.run cache.toRecentList requests) := by
  induction requests generalizing cache with
  | nil => exact ⟨h, rfl⟩
  | cons request rest ih =>
    obtain ⟨hsound, hanswer⟩ := h.answer request
    have hrest := ih hsound
    rw [ValueStore.run, ValueStore.run, ← hanswer]
    exact hrest.map _

end Cache

/-! ## The size of lists -/

namespace RecentList

variable {κ ν ε : Type} {list : RecentList κ ν}

/-- A list of some capacity that holds no more than that. -/
def Within (capacity : Nat) (list : RecentList κ ν) : Prop :=
  list.capacity = capacity ∧ list.size ≤ capacity

theorem size_withRoom_le (list : RecentList κ ν) : list.withRoom.size ≤ list.capacity - 1 := by
  rw [size, withRoom, List.length_take]
  exact Nat.min_le_left ..

variable [DecidableEq κ]

theorem size_use_le (key : κ) (value : ν) : (list.use key value).size ≤ list.size + 1 := by
  rw [size, use, List.length_cons]
  exact Nat.succ_le_succ (List.length_filter_le ..)

/-- Using a key that is there does not make the list longer. -/
theorem size_use_le_of_find? {key : κ} {held : ν} (h : list.find? key = some held) (value : ν) :
    (list.use key value).size ≤ list.size := by
  rw [find?, Option.map_eq_some_iff] at h
  obtain ⟨entry, hfind, -⟩ := h
  have hkey : entry.1 = key := by simpa using List.find?_some hfind
  -- the entry is taken out before it is put in front
  have hshorter : ((list.remove key).2.entries).length < list.entries.length := by
    rw [remove, List.length_filter_lt_length_iff_exists]
    exact ⟨entry, List.mem_of_find?_eq_some hfind, by simp [hkey]⟩
  rw [size, use, List.length_cons]
  exact hshorter

theorem Within.answer {capacity : Nat} (hpos : 0 < capacity) (h : list.Within capacity)
    (request : CacheRequest κ ν ε) : (ValueStore.answer list request).2.Within capacity := by
  obtain ⟨hcapacity, hsize⟩ := h
  cases request with
  | get key =>
    change (list.get key).2.Within capacity
    rw [get]
    cases hfind : list.find? key with
    | none => exact ⟨hcapacity, hsize⟩
    | some value => exact ⟨hcapacity, Nat.le_trans (size_use_le_of_find? hfind value) hsize⟩
  | remove key => exact ⟨hcapacity, Nat.le_trans (List.length_filter_le ..) hsize⟩
  | clear => exact ⟨hcapacity, Nat.zero_le _⟩
  | getOrLoad key load =>
    change (list.getOrLoad key load).2.Within capacity
    rw [getOrLoad]
    -- only a loaded value makes the list longer, and room has been made for it
    have hroom := size_withRoom_le list
    cases hfind : list.find? key with
    | some value => exact ⟨hcapacity, Nat.le_trans (size_use_le_of_find? hfind value) hsize⟩
    | none =>
      cases load () with
      | error fault => exact ⟨hcapacity, by simp only; omega⟩
      | ok value =>
        have huse : (list.withRoom.use key value).size ≤ list.withRoom.size + 1 :=
          size_use_le key value
        exact ⟨hcapacity, by simp only; omega⟩

/-- A list never holds more than its capacity. -/
theorem Within.run {capacity : Nat} (hpos : 0 < capacity) (h : list.Within capacity)
    (requests : List (CacheRequest κ ν ε)) : (ValueStore.run list requests).2.Within capacity := by
  induction requests generalizing list with
  | nil => exact h
  | cons request rest ih => exact ih (h.answer hpos request)

end RecentList

/-! ## Caches of grid files -/

namespace GridCache

variable {α ε : Type}

/-- A cache of grid files is a cache in which paths stand for their components. -/
theorem run_eq (grids : GridCache α) (requests : List (CacheRequest String (GridFile α) ε)) :
    ValueStore.run grids requests =
      (ValueStore.run grids.cache (requests.map (·.mapKey PathName.components))).map id
        fun cache => { grids with cache } := by
  induction requests generalizing grids with
  | nil => rfl
  | cons request rest ih =>
    have hanswer : ValueStore.answer grids request =
        (ValueStore.answer grids.cache (request.mapKey PathName.components)).map id
          fun cache => { grids with cache } := by
      cases request <;> rfl
    rw [List.map_cons, ValueStore.run, ValueStore.run, hanswer]
    simp only [Prod.map_fst, Prod.map_snd, id_eq, ih, Prod.map_apply]

/-- Sequences of calls on an empty cache of grid files are answered as by a plain list of recent
files, whatever the capacity: the same calls are hits, the same files come back, the same paths are
held behind them, as many as in the list, and never more than fit. -/
theorem run_eq_recentList_run (capacity : Nat) (mapped : Bool)
    (requests : List (CacheRequest String (GridFile α) ε)) :
    let grids := ValueStore.run (GridCache.ofCapacity capacity mapped) requests
    let list := ValueStore.run (RecentList.ofCapacity capacity)
      (requests.map (·.mapKey PathName.components))
    grids.1 = list.1 ∧
      (∀ steps, (grids.2.cache.find? steps).map Cached.value = list.2.find? steps) ∧
      grids.2.size = list.2.size ∧
      grids.2.size ≤ max 1 capacity := by
  intro grids list
  -- once paths are split into steps, this is the agreement of a cache and its list
  have hgrids : grids = _ := run_eq _ requests
  obtain ⟨hsound, hlist⟩ := (Cache.Sound.ofCapacity capacity).run
    (requests.map (·.mapKey PathName.components))
  have hpos : 0 < max 1 capacity := Nat.le_max_left 1 capacity
  have hwithin : list.2.Within (max 1 capacity) :=
    RecentList.Within.run hpos ⟨rfl, Nat.zero_le _⟩ _
  have hlist : _ = list := hlist
  have hsize : grids.2.size = list.2.size := by
    rw [← hlist, hgrids]
    exact hsound.size_toRecentList.symm
  refine ⟨?_, fun steps => ?_, hsize, hsize ▸ hwithin.2⟩
  · rw [← hlist, hgrids]
    rfl
  · rw [← hlist, hgrids]
    exact (hsound.find?_toRecentList steps).symm

end GridCache

end Georef
