import Georef.Proofs.Outcome
import Georef.Tiff.File
import Mathlib.Tactic.Common

/-!
# Walks along chains of directories

The directories of a file form a chain, and whoever wrote the file decides where it leads: back into
itself, out of the file, or on without end. A walk follows the chain as far as it likes; a tidy walk
keeps to what a reader allows. Such a walk halts in one way only, so that a chain has one end.

The module introduces:

* `Walk decode first directories reached` — following the chain from `first`, the directories were
  decoded one after the other, and the last one leads to `reached`.
* `Tidy directories` — there are not too many of them, and no two at one position.
* `Halts decode directories reached outcome` — why the chain is not followed to `reached`.
* `Ends decode first outcome` — a tidy walk halts with the outcome; `Ends.unique`: with no other.
-/

namespace Georef.Tiff

variable (decode : (number offset : Nat) → Except Error Directory) (first : Nat)

/-- `Faithful decode`: what is decoded carries the number and the position that were asked for. -/
def Faithful : Prop :=
  ∀ {number offset : Nat} {directory : Directory}, decode number offset = .ok directory →
    directory.number = number ∧ directory.offset = offset

/-- `Walk decode first directories reached`: the chain that starts at `first` consists of the
directories so far, and leads to `reached` from there. Each is decoded where the one before it
leads, with the number of those before it. -/
inductive Walk : List Directory → Nat → Prop
  | nil : Walk [] first
  | snoc {directories : List Directory} {offset : Nat} {directory : Directory}
    (h : Walk directories offset) (hoffset : offset ≠ 0)
    (hdecode : decode directories.length offset = .ok directory) :
    Walk (directories ++ [directory]) directory.next

/-- `Tidy directories`: no more directories than are allowed, at different positions. -/
structure Tidy (directories : List Directory) : Prop where
  length_le : directories.length ≤ maxDirectories
  nodup : (directories.map Directory.offset).Nodup

/-- `Halts decode directories reached outcome`: after the directories, which lead to `reached`, the
chain is not followed any further, with this outcome. The number of directories is looked at first,
and a position that has been seen is not decoded again. -/
inductive Halts (directories : List Directory) : Nat → Except Error (List Directory) → Prop
  | complete : Halts directories 0 (.ok directories)
  | tooMany {reached : Nat} (hreached : reached ≠ 0)
    (hfull : maxDirectories ≤ directories.length) :
    Halts directories reached (.error (.format .tooManyDirectories))
  | loop {reached : Nat} (hreached : reached ≠ 0) (hroom : directories.length < maxDirectories)
    (hseen : reached ∈ directories.map Directory.offset) :
    Halts directories reached (.error (.format (.directoryLoop reached)))
  | undecodable {reached : Nat} {fault : Error} (hreached : reached ≠ 0)
    (hroom : directories.length < maxDirectories)
    (hnew : reached ∉ directories.map Directory.offset)
    (hdecode : decode directories.length reached = .error fault) :
    Halts directories reached (.error fault)

/-- `Ends decode first outcome`: a tidy walk along the chain from `first` halts with the outcome. -/
def Ends (outcome : Except Error (List Directory)) : Prop :=
  ∃ directories reached, Walk decode first directories reached ∧ Tidy directories ∧
    Halts decode directories reached outcome

/-! ## Walks of one chain -/

variable {decode first} {directories others : List Directory} {reached reached' : Nat}
  {outcome outcome' : Except Error (List Directory)}

/-- The directory at place `i` of a walk is what a shorter walk leads to. -/
theorem Walk.getElem (h : Walk decode first directories reached) {i : Nat}
    (hi : i < directories.length) :
    ∃ offset ≠ 0, Walk decode first (directories.take i) offset ∧
      decode i offset = .ok directories[i] := by
  induction h with
  | nil => cases hi
  | @snoc directories offset directory h hoffset hdecode ih =>
    rw [List.length_append, List.length_singleton] at hi
    rcases Nat.lt_or_eq_of_le (Nat.le_of_lt_succ hi) with hlt | rfl
    · rw [List.take_append_of_le_length (Nat.le_of_lt hlt), List.getElem_append_left hlt]
      exact ih hlt
    · rw [List.take_left, List.getElem_concat_length rfl]
      exact ⟨offset, hoffset, h, hdecode⟩

/-- The length of a walk tells the directories and where they lead. -/
theorem Walk.unique (h : Walk decode first directories reached)
    (h' : Walk decode first others reached') (hlength : directories.length = others.length) :
    directories = others ∧ reached = reached' := by
  induction h generalizing others reached' with
  | nil =>
    cases h' with
    | nil => exact ⟨rfl, rfl⟩
    | snoc => simp at hlength
  | snoc h hoffset hdecode ih =>
    cases h' with
    | nil => simp at hlength
    | snoc h' hoffset' hdecode' =>
      simp only [List.length_append, List.length_singleton, Nat.add_right_cancel_iff] at hlength
      obtain ⟨rfl, rfl⟩ := ih h' hlength
      obtain rfl := Except.ok.inj (hdecode.symm.trans hdecode')
      exact ⟨rfl, rfl⟩

/-- There is room for a directory at a new position. -/
theorem Tidy.snoc (h : Tidy directories) {directory : Directory}
    (hnew : directory.offset ∉ directories.map Directory.offset)
    (hroom : directories.length < maxDirectories) : Tidy (directories ++ [directory]) where
  length_le := by
    rw [List.length_append, List.length_singleton]
    omega
  nodup := by
    rw [List.map_append, List.map_singleton]
    refine List.nodup_append.2 ⟨h.nodup, by simp, ?_⟩
    rintro offset hmem _ hlast rfl
    exact hnew (List.mem_singleton.1 hlast ▸ hmem)

/-! ## Where walks halt -/

/-- A tidy walk to zero is the end; nothing follows its directories. -/
theorem Walk.ends (h : Walk decode first directories 0) (htidy : Tidy directories) :
    Ends decode first ((Except.ok []).map (directories ++ ·)) := by
  refine ⟨directories, 0, h, htidy, ?_⟩
  show Halts decode directories 0 (.ok (directories ++ []))
  rw [List.append_nil]
  exact .complete

/-- What a chain ends with is a tidy walk to zero. -/
theorem Ends.walk (h : Ends decode first (.ok directories)) :
    Walk decode first directories 0 ∧ Tidy directories := by
  obtain ⟨_, reached, hwalk, htidy, hhalts⟩ := h
  cases hhalts
  exact ⟨hwalk, htidy⟩

/-- A tidy walk does not halt before its end. -/
theorem Walk.not_halts (hfaithful : Faithful decode) (h : Walk decode first directories reached)
    (htidy : Tidy directories) (h' : Walk decode first others reached')
    (hlt : others.length < directories.length) : ¬Halts decode others reached' outcome := by
  obtain ⟨offset, hoffset, hshort, hdecode⟩ := h.getElem hlt
  have hlength : (directories.take others.length).length = others.length :=
    List.length_take_of_le (Nat.le_of_lt hlt)
  obtain ⟨hothers, rfl⟩ := hshort.unique h' hlength
  intro hhalts
  cases hhalts with
  | complete => exact hoffset rfl
  | tooMany _ hfull => exact absurd htidy.length_le (by omega)
  | loop _ _ hseen =>
    -- the directory that comes next is at a position of its own
    have hnodup := htidy.nodup
    rw [← List.take_append_drop others.length directories, hothers,
      List.drop_eq_getElem_cons hlt, List.map_append, List.map_cons,
      (hfaithful hdecode).2] at hnodup
    exact (List.nodup_append.1 hnodup).2.2 _ hseen _ List.mem_cons_self rfl
  | undecodable _ _ _ hfault =>
    rw [hdecode] at hfault
    cases hfault

/-- A walk halts in one way. -/
theorem Halts.unique (h : Halts decode directories reached outcome)
    (h' : Halts decode directories reached outcome') : outcome = outcome' := by
  cases h with
  | complete =>
    cases h' with
    | complete => rfl
    | tooMany hreached | loop hreached | undecodable hreached => exact absurd rfl hreached
  | tooMany hreached hfull =>
    cases h' with
    | complete => exact absurd rfl hreached
    | tooMany => rfl
    | loop _ hroom | undecodable _ hroom => omega
  | loop hreached hroom hseen =>
    cases h' with
    | complete => exact absurd rfl hreached
    | tooMany _ hfull => omega
    | loop => rfl
    | undecodable _ _ hnew => exact absurd hseen hnew
  | undecodable hreached hroom hnew hdecode =>
    cases h' with
    | complete => exact absurd rfl hreached
    | tooMany _ hfull => omega
    | loop _ _ hseen => exact absurd hseen hnew
    | undecodable _ _ _ hdecode' => rw [Except.error.inj (hdecode.symm.trans hdecode')]

/-- A chain ends in one way. -/
theorem Ends.unique (hfaithful : Faithful decode) (h : Ends decode first outcome)
    (h' : Ends decode first outcome') : outcome = outcome' := by
  obtain ⟨directories, reached, hwalk, htidy, hhalts⟩ := h
  obtain ⟨others, reached', hwalk', htidy', hhalts'⟩ := h'
  -- of two walks the shorter one is a part of the other, which did not halt there
  rcases Nat.lt_trichotomy directories.length others.length with hlt | heq | hgt
  · exact absurd hhalts (hwalk'.not_halts hfaithful htidy' hwalk hlt)
  · obtain ⟨rfl, rfl⟩ := hwalk.unique hwalk' heq
    exact hhalts.unique hhalts'
  · exact absurd hhalts' (hwalk.not_halts hfaithful htidy hwalk' hgt)

end Georef.Tiff
