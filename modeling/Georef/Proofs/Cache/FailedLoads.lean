import Georef.Proofs.Cache.Refinement

/-!
# Loads that fail

Room for a file is made before the file is loaded, since nobody knows then whether the load will
succeed. So a load that fails reports its error and enters nothing, but it is not without effect: a
full cache has lost the file that was used least recently. A cache with room to spare stays as it
was.

The module introduces:

* `RecentList.oldest?` — the key that was used least recently.
* `RecentList.find?_withRoom` — what is left of a list after room was made.

`GridCache.getOrLoad_failed` says what a failing load leaves in a reachable cache, and
`GridCache.exists_failed_load_evicting` that this need not be what was there.
-/

namespace Georef

/-! ## Making room in a list -/

namespace RecentList

variable {κ ν : Type}

/-- The key that was used least recently. -/
def oldest? (list : RecentList κ ν) : Option κ :=
  list.entries.getLast?.map Prod.fst

variable [DecidableEq κ] {list : RecentList κ ν}

/-- A list with room to spare stays as it is when room is made; a full one loses the key that was
used least recently, and no other. -/
theorem find?_withRoom (hdistinct : (list.entries.map Prod.fst).Nodup)
    (hsize : list.size ≤ list.capacity) (hpos : 0 < list.capacity) (key : κ) :
    list.withRoom.find? key =
      if list.size = list.capacity ∧ list.oldest? = some key then none else list.find? key := by
  rw [size] at hsize ⊢
  by_cases hfull : list.entries.length = list.capacity
  · -- the entry that goes is the last one, so it helps to see it apart
    have hne : list.entries ≠ [] := List.ne_nil_of_length_pos (hfull ▸ hpos)
    obtain ⟨kept, ⟨oldest, value⟩, hentries⟩ :=
      (List.eq_nil_or_concat list.entries).resolve_left hne
    rw [List.concat_eq_append] at hentries
    have hroom : list.withRoom.entries = kept := by
      rw [withRoom, ← hfull, hentries]
      simp
    have holdest : list.oldest? = some oldest := by
      rw [oldest?, hentries]
      simp
    rw [hentries, List.map_append, List.nodup_append] at hdistinct
    -- keys are different, so looking up another key never comes to the last entry
    have hkept : oldest ∉ kept.map Prod.fst := fun hmem =>
      hdistinct.2.2 _ hmem _ (by simp) rfl
    rw [find?, find?, hroom, hentries, holdest, List.find?_append]
    by_cases hkey : oldest = key
    · rw [if_pos ⟨hentries ▸ hfull, congrArg some hkey⟩, Option.map_eq_none_iff, List.find?_eq_none]
      intro entry hmem heq
      have heq : entry.1 = key := by simpa using heq
      exact hkept (hkey ▸ heq ▸ List.mem_map_of_mem hmem)
    · rw [if_neg fun h => hkey (Option.some.inj h.2)]
      simp [hkey]
  · have hroom : list.withRoom.entries = list.entries := by
      rw [withRoom, List.take_of_length_le (by omega)]
    rw [if_neg fun h => hfull h.1, find?, find?, hroom]

end RecentList

/-! ## Failing loads -/

namespace Cache

variable {κ ν ε : Type} [DecidableEq κ] {cache : Cache κ ν}

theorem Sound.nodup_toRecentList (h : cache.Sound) :
    (cache.toRecentList.entries.map Prod.fst).Nodup := by
  rw [toRecentList, List.map_reverse, List.nodup_reverse]
  exact h.ordered.nodup_usesIn

/-- A failing load of a key that is not held reports its error, and makes room. -/
theorem Sound.getOrLoad_error (h : cache.Sound) {key : κ} (hkey : cache.find? key = none)
    (fault : ε) :
    (cache.getOrLoad key fun _ => .error fault).1 = .error fault ∧
      (cache.getOrLoad key fun _ => .error fault).2.Sound ∧
      (cache.getOrLoad key fun _ => .error fault).2.toRecentList = cache.toRecentList.withRoom := by
  obtain ⟨hsound, hplain⟩ := h.getOrLoad key fun _ => Except.error fault
  have hlist : cache.toRecentList.find? key = none := by
    rw [h.find?_toRecentList, hkey]
    rfl
  rw [RecentList.getOrLoad, hlist] at hplain
  obtain ⟨hanswer, hleft⟩ := Prod.mk.inj hplain
  exact ⟨hanswer, hsound, hleft⟩

/-- What is held after a failing load: what was held before it, without the key used least recently
if the cache was full. -/
theorem Sound.find?_getOrLoad_error (h : cache.Sound)
    (hsize : cache.toRecentList.size ≤ cache.capacity) {key : κ} (hkey : cache.find? key = none)
    (fault : ε) (other : κ) :
    ((cache.getOrLoad key fun _ => Except.error fault).2.find? other).map Cached.value =
      if cache.size = cache.capacity ∧ cache.toRecentList.oldest? = some other then none
      else (cache.find? other).map Cached.value := by
  obtain ⟨-, hsound, hleft⟩ := h.getOrLoad_error hkey fault
  rw [← hsound.find?_toRecentList, hleft,
    RecentList.find?_withRoom h.nodup_toRecentList hsize cache.capacity_pos, h.size_toRecentList,
    h.find?_toRecentList]
  rfl

end Cache

namespace GridCache

variable {α ε : Type}

/-- A load that fails for a path that is not held reports its error. The paths that are held behind
it, and their files, are those that were held before, but a full cache has lost the path that was
used least recently. -/
theorem getOrLoad_failed (capacity : Nat) (mapped : Bool)
    (requests : List (CacheRequest String (GridFile α) ε)) {path : String} (fault : ε)
    (hpath : (ValueStore.run (GridCache.ofCapacity capacity mapped) requests).2.cache.find?
      (PathName.components path) = none) :
    let grids := (ValueStore.run (GridCache.ofCapacity capacity mapped) requests).2
    let list := (ValueStore.run (RecentList.ofCapacity capacity)
      (requests.map (·.mapKey PathName.components))).2
    let failed := grids.getOrLoad path fun _ => .error fault
    failed.1 = .error fault ∧
      ∀ steps, (failed.2.cache.find? steps).map Cached.value =
        if grids.size = max 1 capacity ∧ list.oldest? = some steps then none
        else (grids.cache.find? steps).map Cached.value := by
  intro grids list failed
  have hgrids : ValueStore.run (GridCache.ofCapacity capacity mapped) requests = _ :=
    run_eq _ requests
  obtain ⟨hsound, hlist⟩ := (Cache.Sound.ofCapacity capacity).run
    (requests.map (·.mapKey PathName.components))
  have hpos : 0 < max 1 capacity := Nat.le_max_left 1 capacity
  have hwithin : list.Within (max 1 capacity) :=
    RecentList.Within.run hpos ⟨rfl, Nat.zero_le _⟩ _
  have hcache : grids.cache = (ValueStore.run (Cache.ofCapacity capacity)
      (requests.map (·.mapKey PathName.components))).2 := congrArg (·.2.cache) hgrids
  rw [← hcache] at hsound hlist
  have hlist : grids.cache.toRecentList = list := congrArg Prod.snd hlist
  have hcapacity : grids.cache.capacity = max 1 capacity := by
    rw [← hwithin.1, ← hlist]
    rfl
  have hsize : grids.cache.toRecentList.size ≤ grids.cache.capacity := by
    rw [hlist, hcapacity]
    exact hwithin.2
  refine ⟨(hsound.getOrLoad_error hpath fault).1, fun steps => ?_⟩
  have hleft := hsound.find?_getOrLoad_error hsize hpath fault steps
  rw [hcapacity, hlist] at hleft
  exact hleft

/-- A file without sub-grids. -/
def blankFile (name : String) : GridFile α where
  name := name
  order := .little
  overview :=
    { fileCount := 0, unitName := "SECONDS", units := .seconds, version := "NTv2.0"
      source := "NAD27", target := "NAD83", sourceMajor := ⟨0⟩, sourceMinor := ⟨0⟩
      targetMajor := ⟨0⟩, targetMinor := ⟨0⟩ }
  grids := #[]
  precedence := []

/-- The loads of two files and another use of the first one. -/
def sampleRequests : List (CacheRequest String (GridFile α) Error) :=
  [.getOrLoad "a.gsb" fun _ => .ok (blankFile "a.gsb"),
    .getOrLoad "b.gsb" fun _ => .ok (blankFile "b.gsb"), .get "a.gsb"]

/-- With room for two files, the second one goes when a third cannot be loaded, since the first one
was used after it. -/
theorem getOrLoad_failed_full :
    let grids := (ValueStore.run (GridCache.ofCapacity 2 true : GridCache Float) sampleRequests).2
    let failed := grids.getOrLoad "c.gsb" fun _ => .error (Error.grid .noByteOrder)
    grids.cache.find? (PathName.components "c.gsb") = none ∧
      failed.1 = .error (.grid .noByteOrder) ∧
      (failed.2.cache.find? (PathName.components "a.gsb")).map Cached.value =
        some (blankFile "a.gsb") ∧
      (failed.2.cache.find? (PathName.components "b.gsb")).map Cached.value = none := by
  intro grids failed
  have hpath : grids.cache.find? (PathName.components "c.gsb") = none := by decide +kernel
  obtain ⟨hanswer, hleft⟩ := getOrLoad_failed 2 true sampleRequests (Error.grid .noByteOrder) hpath
  let list : RecentList (List PathStep) (GridFile Float) :=
    (ValueStore.run (RecentList.ofCapacity 2)
      (sampleRequests.map (·.mapKey PathName.components))).2
  have hfirst : ¬(grids.size = max 1 2 ∧
      list.oldest? = some (PathName.components "a.gsb")) := by decide +kernel
  have hsecond : grids.size = max 1 2 ∧
      list.oldest? = some (PathName.components "b.gsb") := by decide +kernel
  refine ⟨hpath, hanswer, ?_, ?_⟩
  · rw [hleft, if_neg hfirst]
    rfl
  · rw [hleft, if_pos hsecond]

/-- The only file of a cache goes when another one cannot be loaded. -/
theorem exists_failed_load_evicting :
    ∃ (requests : List (CacheRequest String (GridFile Float) Error)) (fault : Error),
      let grids := (ValueStore.run (GridCache.ofCapacity 1 true) requests).2
      let failed := grids.getOrLoad "b.gsb" fun _ => Except.error fault
      grids.cache.find? (PathName.components "b.gsb") = none ∧
        grids.cache.contains (PathName.components "a.gsb") = true ∧
        failed.2.cache.contains (PathName.components "a.gsb") = false := by
  refine ⟨[.getOrLoad "a.gsb" fun _ => .ok (blankFile "a.gsb")], .grid .noByteOrder, ?_⟩
  refine ⟨?_, ?_, ?_⟩ <;> decide +kernel

end GridCache

end Georef
