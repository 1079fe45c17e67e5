import Georef.Proofs.Cache.FailedLoads

/-!
# The marks in the queue of a cache

Marks go out of date whenever a key is used again, dropped, or loaded anew, and they stay in the
queue until they are met. The queue stays short all the same: a use that makes it longer than four
marks for each entry that fits sweeps it once from the front, and what is left are the live marks,
one for each entry. And no live mark is ever lost, so that every entry can be evicted when its time
comes.

The module introduces:

* `Cache.sweep entries turns queue` — the queue after a number of turns; `Cache.sweep_append` says
  that live marks come behind the others in their order.
* `Cache.Tended capacity cache` — what holds of a cache between calls; `Cache.Tended.answer` and
  `Cache.Tended.run` carry it through calls.

`GridCache.run_marks` states it for caches of grid files.
-/

namespace Georef

namespace Cache

variable {κ ν ε : Type} [DecidableEq κ] {cache : Cache κ ν}

/-! ## Sweeping the queue -/

/-- The queue after turns, each of which takes the mark in front and puts it behind the others if it
is live. -/
def sweep (entries : List (κ × Cached ν)) : (turns : Nat) → List (Mark κ) → List (Mark κ)
  | 0, queue => queue
  | _ + 1, [] => []
  | turns + 1, mark :: rest =>
    sweep entries turns (if isLive entries mark then rest ++ [mark] else rest)

/-- Marks that are passed come behind those that are not, if they are live. -/
theorem sweep_append (entries : List (κ × Cached ν)) (front back : List (Mark κ)) :
    sweep entries front.length (front ++ back) = back ++ front.filter (isLive entries) := by
  induction front generalizing back with
  | nil => simp [sweep]
  | cons mark rest ih =>
    rw [List.cons_append, List.length_cons, sweep]
    by_cases hlive : isLive entries mark = true
    · rw [if_pos hlive, List.append_assoc, ih, List.filter_cons_of_pos hlive, List.append_assoc,
        List.singleton_append]
    · rw [if_neg hlive, ih, List.filter_cons_of_neg hlive]

/-- A full sweep leaves the live marks in their order, as compaction does. -/
theorem sweep_eq_filter (entries : List (κ × Cached ν)) (queue : List (Mark κ)) :
    sweep entries queue.length queue = queue.filter (isLive entries) := by
  have h := sweep_append entries queue []
  rwa [List.append_nil, List.nil_append] at h

/-! ## Live marks -/

section LiveMarks

variable {entries : List (κ × Cached ν)} {queue : List (Mark κ)}

/-- There are as many live marks as entries. -/
theorem Ordered.length_filter_isLive (h : Ordered entries queue) :
    (queue.filter (isLive entries)).length = entries.length := by
  rw [← h.length_usesIn, usesIn, List.length_filterMap_eq_countP, List.countP_eq_length_filter]
  simp only [isSome_valueAt]

/-- The stamp of an entry is on one mark of the queue, which is that of its key. -/
theorem Ordered.filter_stamp (h : Ordered entries queue) {key : κ} {cached : Cached ν}
    (hfind : findIn key entries = some cached) :
    queue.filter (fun mark => mark.stamp = cached.lastUse) = [⟨key, cached.lastUse⟩] := by
  have hmem : (⟨key, cached.lastUse⟩ : Mark κ) ∈ queue := h.marked key cached hfind
  obtain ⟨before, after, rfl⟩ := List.append_of_mem hmem
  -- stamps ascend, so those in front are smaller and those behind are greater
  have hascending := h.ascending
  rw [List.pairwise_append, List.pairwise_cons] at hascending
  obtain ⟨-, ⟨hafter, -⟩, hbefore⟩ := hascending
  have hfront : before.filter (fun mark => mark.stamp = cached.lastUse) = [] := by
    refine List.filter_eq_nil_iff.2 fun mark hmark => ?_
    have hlt := hbefore mark hmark _ List.mem_cons_self
    simpa using Nat.ne_of_lt hlt
  have hback : after.filter (fun mark => mark.stamp = cached.lastUse) = [] := by
    refine List.filter_eq_nil_iff.2 fun mark hmark => ?_
    simpa using Nat.ne_of_gt (hafter mark hmark)
  rw [List.filter_append, List.filter_cons_of_pos (by simp), hfront, hback, List.nil_append]

end LiveMarks

/-! ## Between calls -/

/-- `Tended capacity cache`: entries and queue are in order, no more entries are held than fit, and
no more marks than four for each of them. -/
structure Tended (capacity : Nat) (cache : Cache κ ν) : Prop where
  sound : cache.Sound
  within : cache.toRecentList.Within capacity
  short : cache.queue.length ≤ marksPerEntry * capacity

/-- A use leaves a short queue, whether it sweeps it or not. -/
theorem Ticked.length_queue_use (h : cache.Ticked) {key : κ} {value : ν}
    (hsize : (cache.use key value).size ≤ cache.capacity) :
    (cache.use key value).queue.length ≤ marksPerEntry * cache.capacity := by
  have hsound := (h.useLoosely key value).1
  by_cases hlong : marksPerEntry * cache.capacity < (cache.useLoosely key value).queue.length
  · have hswept : cache.use key value = (cache.useLoosely key value).compact := if_pos hlong
    rw [hswept] at hsize ⊢
    -- each entry has kept one mark
    have hlength := hsound.ordered.length_filter_isLive
    calc ((cache.useLoosely key value).compact).queue.length
        = (cache.useLoosely key value).entries.length := hlength
      _ ≤ cache.capacity := hsize
      _ ≤ marksPerEntry * cache.capacity := Nat.le_mul_of_pos_left _ (by decide)
  · have hloose : cache.use key value = cache.useLoosely key value := if_neg hlong
    rw [hloose]
    exact Nat.not_lt.1 hlong

theorem size_le_of_within {capacity : Nat} (h : cache.Sound)
    (hwithin : cache.toRecentList.Within capacity) : cache.size ≤ capacity :=
  h.size_toRecentList ▸ hwithin.2

/-- A call leaves a short queue, if it leaves no more entries than fit. -/
theorem Sound.length_queue_answer (h : cache.Sound)
    (hshort : cache.queue.length ≤ marksPerEntry * cache.capacity) (request : CacheRequest κ ν ε)
    (hsize : (ValueStore.answer cache request).2.size ≤ cache.capacity) :
    (ValueStore.answer cache request).2.queue.length ≤ marksPerEntry * cache.capacity := by
  cases request with
  | get key =>
    change (cache.get key).2.size ≤ _ at hsize
    change (cache.get key).2.queue.length ≤ _
    cases hfind : cache.find? key with
    | none =>
      rw [get_of_find?_eq_none hfind]
      exact hshort
    | some cached =>
      rw [get_of_find?_eq_some hfind] at hsize ⊢
      exact h.tick.length_queue_use hsize
  | remove key => exact hshort
  | clear => exact Nat.zero_le _
  | getOrLoad key load =>
    change (cache.getOrLoad key load).2.size ≤ _ at hsize
    change (cache.getOrLoad key load).2.queue.length ≤ _
    cases hfind : cache.find? key with
    | some cached =>
      rw [Cache.getOrLoad, get_of_find?_eq_some hfind] at hsize ⊢
      exact h.tick.length_queue_use hsize
    | none =>
      rw [Cache.getOrLoad, get_of_find?_eq_none hfind] at hsize ⊢
      simp only at hsize ⊢
      cases hload : load () with
      | ok value =>
        rw [hload] at hsize
        exact h.tick.makeRoom.1.length_queue_use hsize
      | error fault =>
        -- eviction only takes marks away
        exact Nat.le_trans (evictFrom_sublist _ _ _).length_le hshort

namespace Tended

variable {capacity : Nat}

theorem ofCapacity (capacity : Nat) :
    (Cache.ofCapacity capacity : Cache κ ν).Tended (max 1 capacity) where
  sound := Sound.ofCapacity capacity
  within := ⟨rfl, Nat.zero_le _⟩
  short := Nat.zero_le _

theorem answer (h : cache.Tended capacity) (hpos : 0 < capacity) (request : CacheRequest κ ν ε) :
    (ValueStore.answer cache request).2.Tended capacity := by
  obtain ⟨hsound, hlist⟩ := h.sound.answer request
  have hcapacity : cache.capacity = capacity := h.within.1
  have hwithin : (ValueStore.answer cache request).2.toRecentList.Within capacity := by
    have hplain := h.within.answer hpos request
    rwa [← hlist] at hplain
  refine ⟨hsound, hwithin, ?_⟩
  rw [← hcapacity]
  refine h.sound.length_queue_answer ?_ request ?_
  · rw [hcapacity]
    exact h.short
  · rw [hcapacity]
    exact size_le_of_within hsound hwithin

theorem run (h : cache.Tended capacity) (hpos : 0 < capacity)
    (requests : List (CacheRequest κ ν ε)) :
    (ValueStore.run cache requests).2.Tended capacity := by
  induction requests generalizing cache with
  | nil => exact h
  | cons request rest ih => exact ih (h.answer hpos request)

end Tended

/-! ## The clock -/

@[simp]
theorem clock_use (key : κ) (value : ν) : (cache.use key value).clock = cache.clock := by
  rcases (use_eq key value : cache.use key value = _ ∨ _) with h | h <;> rw [h] <;> rfl

theorem clock_get (cache : Cache κ ν) (key : κ) : (cache.get key).2.clock = cache.clock + 1 := by
  cases hfind : cache.find? key with
  | none => rw [get_of_find?_eq_none hfind]; rfl
  | some cached => rw [get_of_find?_eq_some hfind]; exact clock_use key cached.value

/-- A call moves the clock on at most twice: for the look-up, and for a load behind it. -/
theorem clock_answer_le (cache : Cache κ ν) (request : CacheRequest κ ν ε) :
    (ValueStore.answer cache request).2.clock ≤ cache.clock + 2 := by
  cases request with
  | get key =>
    have hclock : (ValueStore.answer cache (.get key : CacheRequest κ ν ε)).2.clock = _ :=
      clock_get cache key
    omega
  | remove key => exact Nat.le_add_right _ _
  | clear => exact Nat.le_add_right _ _
  | getOrLoad key load =>
    change (cache.getOrLoad key load).2.clock ≤ _
    cases hfind : cache.find? key with
    | some cached =>
      rw [Cache.getOrLoad, get_of_find?_eq_some hfind]
      simp [tick]
    | none =>
      rw [Cache.getOrLoad, get_of_find?_eq_none hfind]
      cases hload : load () with
      | ok value => simp [tick, evictTo]
      | error fault => simp [tick, evictTo]

/-- Calls move the clock on at most twice each, so it takes very many of them to use up the stamps
of a machine word. -/
theorem clock_run_le (cache : Cache κ ν) (requests : List (CacheRequest κ ν ε)) :
    (ValueStore.run cache requests).2.clock ≤ cache.clock + 2 * requests.length := by
  induction requests generalizing cache with
  | nil => exact Nat.le_add_right _ _
  | cons request rest ih =>
    calc (ValueStore.run cache (request :: rest)).2.clock
        ≤ (ValueStore.answer cache request).2.clock + 2 * rest.length := ih _
      _ ≤ cache.clock + 2 + 2 * rest.length :=
        Nat.add_le_add_right (clock_answer_le cache request) _
      _ = cache.clock + 2 * (request :: rest).length := by rw [List.length_cons]; omega

end Cache

/-! ## Caches of grid files -/

namespace GridCache

variable {α ε : Type}

/-- Behind any calls, stamps ascend along the queue and none is ahead of the clock, the stamp of
each entry is on one mark, which is that of its key, and the queue holds at most four marks for each
file that fits. Compaction is one sweep of the queue, and leaves its live marks in their order. -/
theorem run_marks (capacity : Nat) (mapped : Bool)
    (requests : List (CacheRequest String (GridFile α) ε)) :
    let cache := (ValueStore.run (GridCache.ofCapacity capacity mapped) requests).2.cache
    (cache.queue.Pairwise fun earlier later => earlier.stamp < later.stamp) ∧
      (∀ mark ∈ cache.queue, mark.stamp ≤ cache.clock) ∧
      cache.clock ≤ 2 * requests.length ∧
      (∀ steps cached, cache.find? steps = some cached →
        cache.queue.filter (fun mark => mark.stamp = cached.lastUse) =
          [⟨steps, cached.lastUse⟩]) ∧
      cache.queue.length ≤ Cache.marksPerEntry * max 1 capacity ∧
      ∀ long : Cache (List PathStep) (GridFile α),
        long.compact.queue = Cache.sweep long.entries long.queue.length long.queue ∧
          long.compact.queue = long.queue.filter (Cache.isLive long.entries) := by
  intro cache
  have hcache : cache = (ValueStore.run (Cache.ofCapacity capacity)
      (requests.map (·.mapKey PathName.components))).2 :=
    congrArg (·.2.cache) (run_eq _ requests)
  have htended : cache.Tended (max 1 capacity) := by
    rw [hcache]
    exact (Cache.Tended.ofCapacity capacity).run (Nat.le_max_left 1 capacity) _
  have hclock : cache.clock ≤ 2 * requests.length := by
    have h := Cache.clock_run_le (Cache.ofCapacity capacity)
      (requests.map (·.mapKey PathName.components))
    rw [← hcache, List.length_map] at h
    simpa [Cache.ofCapacity] using h
  exact ⟨htended.sound.ordered.ascending, htended.sound.stamp_le, hclock,
    fun steps cached hfind => htended.sound.ordered.filter_stamp hfind, htended.short,
    fun long => ⟨(Cache.sweep_eq_filter long.entries long.queue).symm, rfl⟩⟩

/-- The load of a file and four more uses of it. -/
def busyRequests : List (CacheRequest String (GridFile α) Error) :=
  (.getOrLoad "a.gsb" fun _ => .ok (blankFile "a.gsb")) :: List.replicate 4 (.get "a.gsb")

/-- With room for one file, the fifth use sweeps the queue, and one mark is left. -/
theorem run_marks_busy :
    let cache :=
      (ValueStore.run (GridCache.ofCapacity 1 true : GridCache Float) busyRequests).2.cache
    let cached : Cached (GridFile Float) := { value := blankFile "a.gsb", lastUse := 6 }
    cache.find? (PathName.components "a.gsb") = some cached ∧
      cache.queue.filter (fun mark => mark.stamp = 6) = [⟨PathName.components "a.gsb", 6⟩] ∧
      cache.queue.length = 1 := by
  intro cache cached
  have hfind : cache.find? (PathName.components "a.gsb") = some cached := rfl
  obtain ⟨-, -, -, hmarked, -⟩ := run_marks 1 true (busyRequests (α := Float))
  exact ⟨hfind, hmarked _ cached hfind, rfl⟩

end GridCache

end Georef
