import Georef.Proofs.Source.Settling

/-!
# Sources that are cut short

Bytes may be missing at the end of a source. An action that comes to the place of the cut should say
so: it should not take what is left for something else, and not refuse it for another reason. Until
it comes there it cannot tell the part from the whole, so the two are followed side by side.

The module introduces:

* `Cursor.CutShort data cut start whole part` — from one place, `whole` on all bytes and `part` on
  the first `cut` of them go the same way until the part ends; both are one action except for what
  depends on the length of the source.
* `Cursor.TellsEnd data cut action` — wherever the action starts inside the part, it goes the same
  way on both, or tells that the part ends.
* one rule for each way actions are put together, and for the operations that read bytes.
-/

namespace Georef

/-- Slices of the start of a run of bytes are slices of all of it. -/
theorem Bytes.slice_slice_zero (bytes : Bytes) {cut start count : Nat} (h : start + count ≤ cut) :
    (bytes.slice 0 cut).slice start count = bytes.slice start count := by
  apply Array.toList_inj.1
  rw [toList_slice, toList_slice, toList_slice, List.drop_zero, List.drop_take, List.take_take,
    Nat.min_eq_left (by omega)]

theorem Bytes.size_slice_zero {bytes : Bytes} {cut : Nat} (h : cut ≤ bytes.size) :
    (bytes.slice 0 cut).size = cut := by
  rw [size_slice, Nat.sub_zero, Nat.min_eq_left h]

namespace Cursor

variable {ρ : Type} [Reader ρ] [LawfulReader ρ] {α β : Type} {data : Bytes} {cut : Nat}
  {start : Place}

/-- `CutShort data cut start whole part`: from `start`, `whole` fails on `data`, or on the first
`cut` bytes `part` comes to the same as `whole` and at the same place, or fails there because they
end. -/
inductive CutShort (data : Bytes) (cut : Nat) (start : Place) (whole part : Action ρ α) : Prop where
  | fails (hwhole : Fails data start whole)
  | same (a : α) (finish : Place) (hforward : start.position ≤ finish.position)
      (hinside : finish.position ≤ cut) (hwhole : Runs data start whole (.ok a) finish)
      (hpart : Runs (data.slice 0 cut) start part (.ok a) finish)
  | ends (fault : Error) (finish : Place) (hend : fault.isEndOfData = true)
      (hpart : Runs (data.slice 0 cut) start part (.error fault) finish)

/-- `TellsEnd data cut action`: wherever the action starts in the first `cut` bytes of `data`, it
goes the same way on them as on all bytes, or tells that they end. -/
def TellsEnd (data : Bytes) (cut : Nat) (action : Action ρ α) : Prop :=
  ∀ start : Place, start.position ≤ cut → CutShort data cut start action action

namespace CutShort

/-- An action that does not move comes to the same. -/
theorem stay {whole part : Action ρ α} {a : α} (hstart : start.position ≤ cut)
    (hwhole : Runs data start whole (.ok a) start)
    (hpart : Runs (data.slice 0 cut) start part (.ok a) start) :
    CutShort data cut start whole part :=
  .same a start (Nat.le_refl _) hstart hwhole hpart

/-- Behind a step that both have made, they go on side by side. -/
theorem after {whole part : Action ρ α} {rest rest' : α → Action ρ β} {a : α} {middle : Place}
    (hforward : start.position ≤ middle.position) (hwhole : Runs data start whole (.ok a) middle)
    (hpart : Runs (data.slice 0 cut) start part (.ok a) middle)
    (hrest : CutShort data cut middle (rest a) (rest' a)) :
    CutShort data cut start (whole >>= rest) (part >>= rest') := by
  cases hrest with
  | fails hwhole' => exact .fails (hwhole.bind_fails hwhole')
  | ends fault finish hend hpart' => exact .ends fault finish hend (hpart.bind hpart')
  | same b finish hforward' hinside hwhole' hpart' =>
    exact .same b finish (Nat.le_trans hforward hforward') hinside (hwhole.bind hwhole')
      (hpart.bind hpart')

theorem bind {whole part : Action ρ α} {rest rest' : α → Action ρ β}
    (hfirst : CutShort data cut start whole part)
    (hrest : ∀ (a : α) (place : Place), start.position ≤ place.position → place.position ≤ cut →
      CutShort data cut place (rest a) (rest' a)) :
    CutShort data cut start (whole >>= rest) (part >>= rest') := by
  cases hfirst with
  | fails hwhole => exact .fails hwhole.bind
  | ends fault finish hend hpart => exact .ends fault finish hend hpart.bind_error
  | same a middle hforward hinside hwhole hpart =>
    exact .after hforward hwhole hpart (hrest a middle hforward hinside)

/-- The place where a step starts is told alike. -/
theorem here_bind {rest rest' : Nat → Action ρ β}
    (hrest : CutShort data cut start (rest start.position) (rest' start.position)) :
    CutShort data cut start (here >>= rest) (here >>= rest') :=
  .after (Nat.le_refl _) .here .here hrest

/-- The length of the source is that of all bytes, and that of the part. -/
theorem get_bind {rest : Cursor ρ → Action ρ β} {whole part : Action ρ β}
    (h : CutShort data cut start whole part)
    (hwhole : ∀ cursor : Cursor ρ, cursor.Stands data start → rest cursor = whole)
    (hpart : ∀ cursor : Cursor ρ, cursor.Stands (data.slice 0 cut) start → rest cursor = part) :
    CutShort data cut start (get >>= rest) (get >>= rest) := by
  cases h with
  | fails hfails =>
    obtain ⟨fault, finish, hruns⟩ := hfails
    exact .fails ⟨fault, finish, .get_bind fun cursor hcursor => hwhole cursor hcursor ▸ hruns⟩
  | ends fault finish hend hruns =>
    exact .ends fault finish hend (.get_bind fun cursor hcursor => hpart cursor hcursor ▸ hruns)
  | same b finish hforward hinside hruns hruns' =>
    exact .same b finish hforward hinside
      (.get_bind fun cursor hcursor => hwhole cursor hcursor ▸ hruns)
      (.get_bind fun cursor hcursor => hpart cursor hcursor ▸ hruns')

/-- A use of bytes sees the same bytes if they are all in the part, and tells the end if not. -/
theorem taking_bind (hcut : cut ≤ data.size) (hstart : start.position ≤ cut)
    (operation : Operation α) (count : Nat)
    (h : ∀ place, ∃ use, ∀ data, operation.answer data place = place.taking data count use)
    {rest rest' : α → Action ρ β}
    (hrest : ∀ a, start.position + count ≤ cut →
      CutShort data cut (start.advance count) (rest a) (rest' a)) :
    CutShort data cut start (operation.action >>= rest) (operation.action >>= rest') := by
  obtain ⟨use, h⟩ := h start
  have hsize := Bytes.size_slice_zero hcut
  have hwhole : Runs (ρ := ρ) data start operation.action _ _ :=
    operation.answered (by omega)
  have hpart : Runs (ρ := ρ) (data.slice 0 cut) start operation.action _ _ :=
    operation.answered (by omega)
  rw [h, Place.taking] at hwhole hpart
  by_cases hfits : start.position + count ≤ cut
  · rw [if_pos (by omega)] at hwhole
    rw [if_pos (by omega), Bytes.slice_slice_zero data hfits] at hpart
    cases huse : use (data.slice start.position count) with
    | ok a =>
      rw [huse] at hwhole hpart
      exact .after (Nat.le_add_right _ _) hwhole hpart (hrest a hfits)
    | error refusal =>
      rw [huse] at hwhole
      exact .fails ⟨_, _, hwhole.bind_error⟩
  · rw [if_neg (by omega)] at hpart
    exact .ends _ _ rfl hpart.bind_error

end CutShort

namespace TellsEnd

theorem pure (a : α) : TellsEnd (ρ := ρ) data cut (Pure.pure a) :=
  fun _ hstart => .stay hstart (.pure a) (.pure a)

/-- What fails on all bytes is not asked about. -/
theorem throw (fault : Error) : TellsEnd data cut (MonadExcept.throw fault : Action ρ α) :=
  fun _ _ => .fails (Runs.throw fault).fails

theorem throw_bind (fault : Error) (rest : α → Action ρ β) :
    TellsEnd data cut (MonadExcept.throw fault >>= rest) :=
  fun _ _ => .fails (Runs.throw fault).fails.bind

theorem ofExcept (outcome : Except Error α) :
    TellsEnd (ρ := ρ) data cut (MonadExcept.ofExcept outcome) := by
  cases outcome with
  | ok a => exact pure a
  | error fault => exact throw fault

theorem bind {first : Action ρ α} {rest : α → Action ρ β} (hfirst : TellsEnd data cut first)
    (hrest : ∀ a, TellsEnd data cut (rest a)) : TellsEnd data cut (first >>= rest) :=
  fun start hstart => (hfirst start hstart).bind fun a place _ hplace => hrest a place hplace

theorem here : TellsEnd (ρ := ρ) data cut here :=
  fun _ hstart => .stay hstart .here .here

theorem setOrder (order : ByteOrder) : TellsEnd (ρ := ρ) data cut (setOrder order) :=
  fun start hstart =>
    .same ⟨⟩ ⟨order, start.position⟩ (Nat.le_refl _) hstart (.setOrder order) (.setOrder order)

section Reading

variable (hcut : cut ≤ data.size)

include hcut

theorem taking (operation : Operation α) (count : Nat)
    (h : ∀ place, ∃ use, ∀ data, operation.answer data place = place.taking data count use) :
    TellsEnd (ρ := ρ) data cut operation.action := by
  intro start hstart
  rw [← bind_pure operation.action]
  exact .taking_bind hcut hstart operation count h fun a hfits => pure a _ hfits

theorem bytes (count : Nat) : TellsEnd (ρ := ρ) data cut (bytes count) :=
  taking hcut (.bytes count) count fun _ => ⟨_, fun _ => by rw [Operation.answer]⟩

theorem next (α : Type) [FixedWidth α] : TellsEnd (ρ := ρ) data cut (next α) :=
  taking hcut (.next α) (FixedWidth.width α) fun _ => ⟨_, fun _ => by rw [Operation.answer]⟩

theorem text (count : Nat) (encoding : TextEncoding) (policy : Terminator) :
    TellsEnd (ρ := ρ) data cut (text count encoding policy) :=
  taking hcut (.text count encoding policy) count fun _ =>
    ⟨_, fun _ => by rw [Operation.answer]⟩

theorem skip (count : Nat) : TellsEnd (ρ := ρ) data cut (skip count) :=
  taking hcut (.skip count) count fun _ => ⟨_, fun _ => by rw [Operation.answer]⟩

/-- A range that is not all in the part is refused since the part ends. -/
theorem ensureRange (offset needed : Nat) :
    TellsEnd (ρ := ρ) data cut (ensureRange offset needed) := by
  intro start hstart
  have hsize := Bytes.size_slice_zero hcut
  by_cases hfits : offset + needed ≤ cut
  · exact .stay hstart (.ensureRange (by omega)) (.ensureRange (by omega))
  · exact .ends _ _ rfl (.ensureRange_of_lt (by omega))

/-- Bytes elsewhere are read in the part, or end in it. The way there may not lead out of the part,
since that is refused for another reason. -/
theorem bytes_atOffset {offset : Nat} (hoffset : offset ≤ cut) (count : Nat) :
    TellsEnd (ρ := ρ) data cut (atOffset offset (Cursor.bytes count)) := by
  intro start hstart
  have hsize := Bytes.size_slice_zero hcut
  cases bytes (ρ := ρ) hcut count ⟨start.order, offset⟩ hoffset with
  | fails hwhole =>
    obtain ⟨fault, finish, hwhole⟩ := hwhole
    exact .fails ⟨_, _, .atOffset (by omega) (by omega) hwhole⟩
  | ends fault finish hend hpart =>
    exact .ends _ _ hend (.atOffset (by omega) (by omega) hpart)
  | same chunk finish hforward hinside hwhole hpart =>
    exact .same chunk ⟨finish.order, start.position⟩ (Nat.le_refl _) hstart
      (.atOffset (by omega) (by omega) hwhole) (.atOffset (by omega) (by omega) hpart)

end Reading

/-- A repeated action tells the end if it does so once. -/
theorem repeatOnto {action : Action ρ α} (h : TellsEnd data cut action) (count : Nat)
    (done : Array α) : TellsEnd data cut (repeatOnto action count done) := by
  induction count generalizing done with
  | zero => exact pure done
  | succ count ih => exact h.bind fun result => ih (done.push result)

end TellsEnd

end Cursor

end Georef
