import Georef.Cache
import Mathlib.Data.List.Nodup
import Mathlib.Data.List.Pairwise
import Mathlib.Data.List.Perm.Basic

/-!
# The order of uses in a cache

A cache keeps the order of uses as marks in a queue, most of which may be out of date. The live
marks alone, read along the queue, are the entries in the order of their last uses.

The module introduces:

* `Cache.usesIn`: the entries in the order of their live marks.
* `Cache.Ordered`: what holds of entries and queue between and inside calls. Keys are different,
  stamps ascend along the queue, and the last use of every entry is marked.

It then says what the parts of a call do to the order: `Cache.usesIn_filter_isLive` for dropping
marks that are out of date, `Cache.usesIn_dropFrom` for dropping an entry, `Cache.usesIn_putIn` for
a use, and `Cache.Ordered.evictFrom` for making room.
-/

namespace Georef

namespace Cache

variable {κ ν : Type} [DecidableEq κ]

/-! ## Entries by key -/

section Entries

variable {entries : List (κ × Cached ν)} {key other : κ} {cached : Cached ν}

theorem findIn_cons (entry : κ × Cached ν) (rest : List (κ × Cached ν)) (key : κ) :
    findIn key (entry :: rest) = if entry.1 = key then some entry.2 else findIn key rest := by
  by_cases h : entry.1 = key <;> simp [findIn, h]

theorem findIn_isSome_iff : (findIn key entries).isSome ↔ key ∈ entries.map Prod.fst := by
  induction entries with
  | nil => simp [findIn]
  | cons entry rest ih =>
    rw [findIn_cons, List.map_cons, List.mem_cons, ← ih]
    split
    · rename_i hkey
      simp [hkey]
    · rename_i hkey
      simp [Ne.symm hkey]

theorem findIn_dropFrom : findIn other (dropFrom key entries) =
    if other = key then none else findIn other entries := by
  induction entries with
  | nil => simp [findIn, dropFrom]
  | cons entry rest ih =>
    unfold dropFrom at ih ⊢
    rw [List.filter_cons]
    split <;> grind [findIn_cons]

theorem findIn_putIn : findIn other (putIn key cached entries) =
    if other = key then some cached else findIn other entries := by
  induction entries with
  | nil => simp [putIn, findIn, eq_comm]
  | cons entry rest ih =>
    rw [putIn]
    split <;> grind [findIn_cons]

/-- Putting an entry keeps the keys and adds its own. -/
theorem map_fst_putIn : (putIn key cached entries).map Prod.fst =
    if key ∈ entries.map Prod.fst then entries.map Prod.fst
    else entries.map Prod.fst ++ [key] := by
  induction entries with
  | nil => simp [putIn]
  | cons entry rest ih =>
    rw [putIn]
    by_cases hkey : entry.1 = key
    · simp [hkey]
    · simp only [hkey, if_false, List.map_cons, ih, List.mem_cons, Ne.symm hkey, false_or]
      split <;> simp

theorem nodup_putIn (h : (entries.map Prod.fst).Nodup) :
    ((putIn key cached entries).map Prod.fst).Nodup := by
  rw [map_fst_putIn]
  split
  · exact h
  · rename_i hnew
    rw [List.nodup_append]
    refine ⟨h, List.nodup_singleton key, fun a ha b hb => ?_⟩
    rw [List.mem_singleton.1 hb]
    exact fun hab => hnew (hab ▸ ha)

theorem nodup_dropFrom (h : (entries.map Prod.fst).Nodup) :
    ((dropFrom key entries).map Prod.fst).Nodup :=
  h.sublist (List.filter_sublist.map Prod.fst)

end Entries

/-! ## The order of uses -/

/-- The value that a mark stands for: that of its key, if the mark is live. -/
def valueAt (entries : List (κ × Cached ν)) (mark : Mark κ) : Option (κ × ν) :=
  match findIn mark.key entries with
  | some cached => if cached.lastUse = mark.stamp then some (mark.key, cached.value) else none
  | none => none

/-- Keys with their values in the order of their live marks. -/
def usesIn (entries : List (κ × Cached ν)) (queue : List (Mark κ)) : List (κ × ν) :=
  queue.filterMap (valueAt entries)

/-- Entries have different keys, stamps ascend along the queue, and every entry has the mark of its
last use there. -/
structure Ordered (entries : List (κ × Cached ν)) (queue : List (Mark κ)) : Prop where
  distinct : (entries.map Prod.fst).Nodup
  ascending : queue.Pairwise fun earlier later => earlier.stamp < later.stamp
  marked : ∀ key cached, findIn key entries = some cached → ⟨key, cached.lastUse⟩ ∈ queue

section Uses

variable {entries : List (κ × Cached ν)} {queue : List (Mark κ)} {key : κ} {value : ν}

theorem valueAt_eq_some_iff {mark : Mark κ} {use : κ × ν} :
    valueAt entries mark = some use ↔
      use.1 = mark.key ∧ findIn mark.key entries = some ⟨use.2, mark.stamp⟩ := by
  obtain ⟨used, value⟩ := use
  unfold valueAt
  split
  · rename_i cached hfind
    obtain ⟨held, stamp⟩ := cached
    grind
  · rename_i hfind
    simp [hfind]

theorem isSome_valueAt (mark : Mark κ) : (valueAt entries mark).isSome = isLive entries mark := by
  unfold valueAt isLive
  cases findIn mark.key entries with
  | none => rfl
  | some cached => by_cases hstamp : cached.lastUse = mark.stamp <;> simp [hstamp]

theorem mem_usesIn_iff {use : κ × ν} :
    use ∈ usesIn entries queue ↔
      ∃ stamp, ⟨use.1, stamp⟩ ∈ queue ∧ findIn use.1 entries = some ⟨use.2, stamp⟩ := by
  simp only [usesIn, List.mem_filterMap, valueAt_eq_some_iff]
  constructor
  · rintro ⟨mark, hmem, hkey, hfind⟩
    rw [hkey]
    exact ⟨mark.stamp, hmem, hfind⟩
  · rintro ⟨stamp, hmem, hfind⟩
    exact ⟨⟨use.1, stamp⟩, hmem, rfl, hfind⟩

/-- An entry is met among the uses exactly if it is held. -/
theorem Ordered.mem_usesIn (h : Ordered entries queue) :
    (key, value) ∈ usesIn entries queue ↔
      ∃ stamp, findIn key entries = some ⟨value, stamp⟩ := by
  rw [mem_usesIn_iff]
  constructor
  · rintro ⟨stamp, -, hfind⟩
    exact ⟨stamp, hfind⟩
  · rintro ⟨stamp, hfind⟩
    exact ⟨stamp, h.marked _ _ hfind, hfind⟩

/-- A key is used once: two live marks of it would have the same stamp. -/
theorem Ordered.nodup_usesIn (h : Ordered entries queue) :
    ((usesIn entries queue).map Prod.fst).Nodup := by
  rw [List.Nodup, List.pairwise_map, usesIn, List.pairwise_filterMap]
  refine h.ascending.imp fun {earlier later} hlt first hfirst second hsecond hkey => ?_
  obtain ⟨hfirst, hfind⟩ := valueAt_eq_some_iff.1 hfirst
  obtain ⟨hsecond, hfind'⟩ := valueAt_eq_some_iff.1 hsecond
  -- both marks are live, so both carry the last stamp of their key; but stamps ascend
  have hsame : earlier.key = later.key := by rw [← hfirst, hkey, hsecond]
  rw [hsame, hfind'] at hfind
  have hstamp := congrArg Cached.lastUse (Option.some.inj hfind)
  exact Nat.ne_of_lt hlt hstamp.symm

/-- The uses are the entries in another order. -/
theorem Ordered.length_usesIn (h : Ordered entries queue) :
    (usesIn entries queue).length = entries.length := by
  -- neither side repeats a key, so it is enough that the same keys occur
  have hperm : ((usesIn entries queue).map Prod.fst).Perm (entries.map Prod.fst) := by
    rw [List.perm_ext_iff_of_nodup h.nodup_usesIn h.distinct]
    intro key
    rw [← findIn_isSome_iff, Option.isSome_iff_exists, List.mem_map]
    constructor
    · rintro ⟨⟨used, value⟩, hmem, rfl⟩
      obtain ⟨stamp, hfind⟩ := h.mem_usesIn.1 hmem
      exact ⟨_, hfind⟩
    · rintro ⟨cached, hfind⟩
      exact ⟨(key, cached.value), h.mem_usesIn.2 ⟨cached.lastUse, hfind⟩, rfl⟩
  simpa using hperm.length_eq

/-- Looking up among the uses finds the value that is held. -/
theorem Ordered.find?_reverse_usesIn (h : Ordered entries queue) (key : κ) :
    ((usesIn entries queue).reverse.find? fun use => use.1 = key).map Prod.snd =
      (findIn key entries).map Cached.value := by
  cases hfind : findIn key entries with
  | none =>
    rw [Option.map_none, Option.map_eq_none_iff, List.find?_eq_none]
    intro use hmem hkey
    obtain ⟨stamp, hheld⟩ := h.mem_usesIn.1 (List.mem_reverse.1 hmem)
    rw [of_decide_eq_true hkey, hfind] at hheld
    cases hheld
  | some cached =>
    have hmem : (key, cached.value) ∈ usesIn entries queue := h.mem_usesIn.2 ⟨_, hfind⟩
    -- whichever use of the key is found, it has the value that is held
    cases hfound : (usesIn entries queue).reverse.find? fun use => use.1 = key with
    | none =>
      rw [List.find?_eq_none] at hfound
      exact absurd (by simp) (hfound _ (List.mem_reverse.2 hmem))
    | some use =>
      have hkey : use.1 = key := by simpa using List.find?_some hfound
      have huse := List.mem_reverse.1 (List.mem_of_find?_eq_some hfound)
      obtain ⟨stamp, hheld⟩ := h.mem_usesIn.1 huse
      rw [hkey, hfind] at hheld
      simp [Option.some.inj hheld]

/-! ## What calls do to the order -/

/-- Marks that are not live can go. -/
theorem usesIn_filter_isLive :
    usesIn entries (queue.filter (isLive entries)) = usesIn entries queue := by
  rw [usesIn, usesIn, List.filterMap_filter]
  congr 1
  funext mark
  rw [← isSome_valueAt]
  cases valueAt entries mark <;> rfl

theorem Ordered.filter_isLive (h : Ordered entries queue) :
    Ordered entries (queue.filter (isLive entries)) where
  distinct := h.distinct
  ascending := h.ascending.filter _
  marked key cached hfind := by
    -- the mark of a last use is live, so it is kept
    refine List.mem_filter.2 ⟨h.marked _ _ hfind, ?_⟩
    simp [isLive, hfind]

theorem usesIn_dropFrom :
    usesIn (dropFrom key entries) queue =
      (usesIn entries queue).filter fun use => use.1 ≠ key := by
  rw [usesIn, usesIn, List.filter_filterMap]
  congr 1
  funext mark
  simp only [valueAt, findIn_dropFrom]
  cases findIn mark.key entries with
  | none => by_cases hkey : mark.key = key <;> simp [hkey]
  | some cached =>
    -- marks of the key die with its entry, and the others stay what they are
    by_cases hkey : mark.key = key <;> by_cases hstamp : cached.lastUse = mark.stamp <;>
      simp [Option.filter, hkey, hstamp]

theorem Ordered.dropFrom (h : Ordered entries queue) (key : κ) :
    Ordered (dropFrom key entries) queue where
  distinct := nodup_dropFrom h.distinct
  ascending := h.ascending
  marked other cached hfind := by
    rw [findIn_dropFrom] at hfind
    split at hfind
    · cases hfind
    · exact h.marked _ _ hfind

/-- A use at a new stamp outdates the earlier marks of its key and adds one at the end. -/
theorem usesIn_putIn {stamp : Nat} (hnew : ∀ mark ∈ queue, mark.stamp < stamp) :
    usesIn (putIn key ⟨value, stamp⟩ entries) (queue ++ [⟨key, stamp⟩]) =
      ((usesIn entries queue).filter fun use => use.1 ≠ key) ++ [(key, value)] := by
  -- no earlier mark has the new stamp, so the earlier marks of the key are dead now
  have hold : usesIn (putIn key ⟨value, stamp⟩ entries) queue =
      usesIn (Cache.dropFrom key entries) queue := by
    refine List.filterMap_congr fun mark hmem => ?_
    have hne := Nat.ne_of_gt (hnew mark hmem)
    simp only [valueAt, findIn_dropFrom, findIn_putIn]
    by_cases hkey : mark.key = key <;> simp [hkey, hne]
  have hlast : usesIn (putIn key ⟨value, stamp⟩ entries) [⟨key, stamp⟩] = [(key, value)] := by
    simp [usesIn, valueAt, findIn_putIn]
  rw [usesIn, List.filterMap_append, ← usesIn, ← usesIn, hold, hlast, usesIn_dropFrom]

theorem Ordered.putIn (h : Ordered entries queue) {stamp : Nat}
    (hnew : ∀ mark ∈ queue, mark.stamp < stamp) :
    Ordered (putIn key ⟨value, stamp⟩ entries) (queue ++ [⟨key, stamp⟩]) where
  distinct := nodup_putIn h.distinct
  ascending := by
    rw [List.pairwise_append]
    -- the new mark has the latest stamp, and it is the last one
    refine ⟨h.ascending, List.pairwise_singleton _ _, fun mark hmem last hlast => ?_⟩
    rw [List.mem_singleton.1 hlast]
    exact hnew mark hmem
  marked other cached hfind := by
    rw [findIn_putIn] at hfind
    split at hfind
    · rename_i hkey
      rw [hkey, ← Option.some.inj hfind]
      simp
    · exact List.mem_append_left _ (h.marked _ _ hfind)

/-- The first live mark is that of the entry used least recently; eviction takes entries from that
end of the order and no others. -/
theorem Ordered.evictFrom (target : Nat) (h : Ordered entries queue) :
    Ordered (evictFrom target entries queue).1 (evictFrom target entries queue).2 ∧
      usesIn (evictFrom target entries queue).1 (evictFrom target entries queue).2 =
        (usesIn entries queue).drop (entries.length - target) := by
  -- the oldest mark decides what goes next: itself, if it is dead, and else its entry as well
  induction queue generalizing entries with
  | nil => exact ⟨h, by simp [Cache.evictFrom, usesIn]⟩
  | cons mark rest ih =>
    rw [Cache.evictFrom]
    split
    · rename_i hle
      exact ⟨h, by rw [Nat.sub_eq_zero_of_le hle, List.drop_zero]⟩
    · rename_i hgt
      have hrest := (List.pairwise_cons.1 h.ascending).2
      cases hlive : valueAt entries mark with
      | none =>
        -- a mark that is out of date goes alone
        have hdead : isLive entries mark = false := by rw [← isSome_valueAt, hlive]; rfl
        have hordered : Ordered entries rest := by
          refine ⟨h.distinct, hrest, fun key cached hfind => ?_⟩
          -- the mark of an entry that is held is live, so it is another one
          rcases List.mem_cons.1 (h.marked _ _ hfind) with hmark | hmem
          · rw [← hmark] at hdead
            simp [isLive, hfind] at hdead
          · exact hmem
        have huses : usesIn entries (mark :: rest) = usesIn entries rest := by
          rw [usesIn, List.filterMap_cons, hlive]
          rfl
        simpa [hdead, huses] using ih hordered
      | some use =>
        -- a live mark takes its entry along, and no later mark of the key is live
        have hlive' : isLive entries mark = true := by rw [← isSome_valueAt, hlive]; rfl
        obtain ⟨hkey, hfind⟩ := valueAt_eq_some_iff.1 hlive
        have hordered : Ordered (Cache.dropFrom mark.key entries) rest := by
          refine ⟨nodup_dropFrom h.distinct, hrest, fun key cached hheld => ?_⟩
          rw [findIn_dropFrom] at hheld
          split at hheld
          · cases hheld
          · rename_i hother
            rcases List.mem_cons.1 (h.marked _ _ hheld) with hmark | hmem
            · exact absurd (congrArg Mark.key hmark) hother
            · exact hmem
        have huses : usesIn entries (mark :: rest) = use :: usesIn entries rest := by
          rw [usesIn, List.filterMap_cons, hlive]
          rfl
        have hdropped : usesIn (Cache.dropFrom mark.key entries) rest = usesIn entries rest := by
          rw [usesIn_dropFrom, List.filter_eq_self]
          intro later hlater
          have hnodup := h.nodup_usesIn
          rw [huses, List.map_cons, List.nodup_cons, hkey] at hnodup
          have hne : later.1 ≠ mark.key := fun heq => hnodup.1 (heq ▸ List.mem_map_of_mem hlater)
          simpa using hne
        -- entries and live marks get fewer by one each
        have hlength : (Cache.dropFrom mark.key entries).length + 1 = entries.length := by
          rw [← h.length_usesIn, ← hordered.length_usesIn, hdropped, huses, List.length_cons]
        have hsteps : entries.length - target =
            (Cache.dropFrom mark.key entries).length - target + 1 := by omega
        rw [if_pos hlive', huses, hsteps, List.drop_succ_cons, ← hdropped]
        exact ih hordered

end Uses

end Cache

end Georef
