import Georef.Proofs.Source.CursorRuns

/-!
# Reading what was written

An action that reads a record of a format takes the bytes of the record, whatever stands before and
behind them. Records that follow each other are read by actions that follow each other, so reading a
file back is put together as writing it is.

The module introduces:

* `Holds data p written` — the bytes `written` stand in `data` from position `p` on.
* `Takes order written action a` — wherever the bytes `written` stand, the action moves behind them
  and gives `a`.
* `Refuses order written action fault` — wherever the bytes `written` stand, the action fails.
* one rule for each way actions are put together, and for the actions that read values.
-/

namespace Georef

namespace Cursor

/-! ## Bytes in a source -/

/-- `Holds data p written`: the bytes `written` stand in `data` from position `p` on. -/
structure Holds (data : Bytes) (p : Nat) (written : List UInt8) : Prop where
  fits : p + written.length ≤ data.size
  slice_eq : (data.slice p written.length).toList = written

variable {data : Bytes} {p : Nat} {first second : List UInt8}

/-- Bytes stand at the start of a source that begins with them. -/
theorem holds_start (written trailing : List UInt8) :
    Holds (written ++ trailing).toArray 0 written where
  fits := by
    rw [List.size_toArray, List.length_append, Nat.zero_add]
    exact Nat.le_add_right _ _
  slice_eq := by
    rw [Bytes.toList_slice, List.drop_zero, List.take_left]

theorem Holds.slice_eq_toArray {written : List UInt8} (h : Holds data p written) :
    data.slice p written.length = written.toArray :=
  Array.toList_inj.1 h.slice_eq

theorem Holds.left (h : Holds data p (first ++ second)) : Holds data p first where
  fits := by
    have hfits := h.fits
    rw [List.length_append] at hfits
    omega
  slice_eq := by
    -- the first bytes of the slice are a slice themselves
    have hslice := congrArg (List.take first.length) h.slice_eq
    rw [Bytes.toList_slice, List.take_take, List.length_append, List.take_left,
      Nat.min_eq_left (Nat.le_add_right _ _)] at hslice
    rw [Bytes.toList_slice, hslice]

theorem Holds.right (h : Holds data p (first ++ second)) :
    Holds data (p + first.length) second where
  fits := by
    have hfits := h.fits
    rw [List.length_append] at hfits
    omega
  slice_eq := by
    -- and so are the bytes behind them
    have hslice := congrArg (List.drop first.length) h.slice_eq
    rw [Bytes.toList_slice, List.length_append, List.drop_take, List.drop_left, List.drop_drop,
      Nat.add_sub_cancel_left] at hslice
    rw [Bytes.toList_slice, hslice]

/-- Items that were written one after the other in one width stand that far apart. -/
theorem Holds.item {ι : Type} {encode : ι → List UInt8} {width : Nat} {items : List ι}
    (h : Holds data p (items.flatMap encode))
    (hwidth : ∀ item ∈ items, (encode item).length = width) {i : Nat} (hi : i < items.length) :
    Holds data (p + i * width) (encode items[i]) := by
  induction items generalizing p i with
  | nil => exact absurd hi (Nat.not_lt_zero i)
  | cons item rest ih =>
    obtain ⟨hitem, hrest⟩ := List.forall_mem_cons.1 hwidth
    rw [List.flatMap_cons] at h
    cases i with
    | zero =>
      rw [Nat.zero_mul, Nat.add_zero]
      exact h.left
    | succ i =>
      -- behind the first item the others stand as they do among themselves
      have hplace : p + (i + 1) * width = p + (encode item).length + i * width := by
        rw [hitem, Nat.succ_mul]
        omega
      rw [hplace]
      exact ih h.right hrest (Nat.lt_of_succ_lt_succ hi)

/-! ## Actions on written bytes -/

variable {ρ : Type} [Reader ρ] [LawfulReader ρ] {α β : Type} {order : ByteOrder}

/-- `Takes order written action a`: wherever the bytes `written` stand, the action moves behind them
and gives `a`. -/
def Takes (order : ByteOrder) (written : List UInt8) (action : Action ρ α) (a : α) : Prop :=
  ∀ (data : Bytes) (start : Place), start.order = order → Holds data start.position written →
    Runs data start action (.ok a) (start.advance written.length)

/-- `Refuses order written action fault`: wherever the bytes `written` stand, the action fails. -/
def Refuses (order : ByteOrder) (written : List UInt8) (action : Action ρ α) (fault : Error) :
    Prop :=
  ∀ (data : Bytes) (start : Place), start.order = order → Holds data start.position written →
    ∀ cursor : Cursor ρ, cursor.Stands data start → (cursor.run action).1 = .error fault

namespace Takes

theorem pure (a : α) : Takes (ρ := ρ) order [] (Pure.pure a) a :=
  fun _ _ _ _ => Runs.pure a

/-- What stands behind the bytes that one action takes is left for the next one. -/
theorem bind {action : Action ρ α} {rest : α → Action ρ β} {a : α} {b : β}
    (haction : Takes order first action a) (hrest : Takes order second (rest a) b) :
    Takes order (first ++ second) (action >>= rest) b := by
  intro data start horder hholds
  rw [List.length_append, ← Place.advance_advance]
  exact (haction data start horder hholds.left).bind
    (hrest data (start.advance first.length) horder hholds.right)

/-- An action that takes no bytes. -/
theorem bind_nil {action : Action ρ α} {rest : α → Action ρ β} {a : α} {b : β}
    (haction : Takes order [] action a) (hrest : Takes order first (rest a) b) :
    Takes order first (action >>= rest) b :=
  haction.bind hrest

/-- An action that takes all bytes, and one behind it that takes none. -/
theorem bind_end {action : Action ρ α} {rest : α → Action ρ β} {a : α} {b : β}
    (haction : Takes order first action a) (hrest : Takes order [] (rest a) b) :
    Takes order first (action >>= rest) b := by
  have hbind := haction.bind hrest
  rwa [List.append_nil] at hbind

/-- An action fails if what it goes on with does. -/
theorem bind_refuses {action : Action ρ α} {rest : α → Action ρ β} {a : α} {fault : Error}
    (haction : Takes order first action a) (hrest : Refuses order second (rest a) fault) :
    Refuses order (first ++ second) (action >>= rest) fault := by
  intro data start horder hholds cursor hcursor
  obtain ⟨cursor', hrun, hcursor'⟩ := haction data start horder hholds.left cursor hcursor
  rw [run_bind_of_ok hrun]
  exact hrest data (start.advance first.length) horder hholds.right cursor' hcursor'

/-- An action that takes all bytes, and one behind it that fails. -/
theorem bind_end_refuses {action : Action ρ α} {rest : α → Action ρ β} {a : α} {fault : Error}
    (haction : Takes order first action a) (hrest : Refuses order [] (rest a) fault) :
    Refuses order first (action >>= rest) fault := by
  have hbind := haction.bind_refuses hrest
  rwa [List.append_nil] at hbind

theorem ofExcept {outcome : Except Error α} {a : α} (h : outcome = .ok a) :
    Takes (ρ := ρ) order [] (MonadExcept.ofExcept outcome) a := by
  subst h
  exact pure a

/-- Where bytes are taken does not matter to an action that only tells it in its failures. -/
theorem here_bind {rest : Nat → Action ρ α} {a : α} (h : ∀ p, Takes order first (rest p) a) :
    Takes order first (here >>= rest) a :=
  fun data start horder hholds => Runs.here.bind (h start.position data start horder hholds)

/-- An action that looks at the length of the source sees that the bytes fit. -/
theorem get_bind {rest : Cursor ρ → Action ρ α} {a : α}
    (h : ∀ cursor : Cursor ρ, first.length ≤ cursor.length → Takes order first (rest cursor) a) :
    Takes order first (get >>= rest) a := by
  intro data start horder hholds
  refine Runs.get_bind fun cursor hcursor => h cursor ?_ data start horder hholds
  have hfits := hholds.fits
  rw [hcursor.length_eq]
  omega

/-- Bytes that are to be taken are there. -/
theorem ensureRange_bind {action : Action ρ α} {a : α} {needed : Nat}
    (haction : Takes order first action a) (hneeded : needed ≤ first.length) :
    Takes order first (do ensureRange (← here) needed; action) a := by
  intro data start horder hholds
  have hfits : start.position + needed ≤ data.size := by
    have := hholds.fits
    omega
  exact Runs.here.bind ((Runs.ensureRange hfits).bind (haction data start horder hholds))

theorem skip (written : List UInt8) :
    Takes (ρ := ρ) order written (Cursor.skip written.length) ⟨⟩ :=
  fun _ _ _ hholds => Runs.skip hholds.fits

/-- A value of a fixed width is read as it was written. -/
theorem next [FixedWidth α] (a : α) :
    Takes (ρ := ρ) order (FixedWidth.encode order a) (Cursor.next α) a := by
  intro data start horder hholds
  have hlength : (FixedWidth.encode order a).length = FixedWidth.width α :=
    FixedWidth.length_encode order a
  have hslice := hholds.slice_eq
  have hfits := hholds.fits
  rw [hlength] at hslice hfits ⊢
  have hnext : Runs (ρ := ρ) data start (Cursor.next α)
      (.ok (FixedWidth.decode start.order
        (data.slice start.position (FixedWidth.width α)).toList))
      (start.advance (FixedWidth.width α)) :=
    Runs.next α hfits
  rwa [horder, hslice, FixedWidth.decode_encode] at hnext

/-- A text is read as its encoding says and cut as the policy says. -/
theorem text {written : List UInt8} {encoding : TextEncoding} {content : String}
    (policy : Terminator) (h : encoding.decode order written = .ok content) :
    Takes (ρ := ρ) order written (Cursor.text written.length encoding policy)
      (policy.trim content) := by
  intro data start horder hholds
  refine Runs.text hholds.fits ?_
  rw [horder, hholds.slice_eq, h]

/-- Items that were written one after the other are read one after the other. -/
theorem repeatOnto {ι : Type} {action : Action ρ α} (encode : ι → List UInt8) (value : ι → α)
    (h : ∀ item, Takes order (encode item) action (value item)) (items : List ι)
    (done : Array α) :
    Takes order (items.flatMap encode) (Cursor.repeatOnto action items.length done)
      (done ++ (items.map value).toArray) := by
  -- the items that are done are in front of those still to be read
  induction items generalizing done with
  | nil =>
    rw [List.map_nil, Array.append_empty]
    exact pure done
  | cons item rest ih =>
    have hresults : done ++ ((item :: rest).map value).toArray =
        done.push (value item) ++ (rest.map value).toArray := by
      apply Array.toList_inj.1
      simp
    rw [hresults]
    exact (h item).bind (ih (done.push (value item)))

end Takes

namespace Refuses

theorem throw (fault : Error) :
    Refuses order first (MonadExcept.throw fault : Action ρ α) fault :=
  fun _ _ _ _ _ _ => rfl

theorem ofExcept {outcome : Except Error α} {fault : Error} (h : outcome = .error fault) :
    Refuses (ρ := ρ) order first (MonadExcept.ofExcept outcome) fault := by
  subst h
  exact throw fault

/-- A failure is not made good by what would have come after it. -/
theorem bind {action : Action ρ α} {rest : α → Action ρ β} {fault : Error}
    (h : Refuses order first action fault) : Refuses order first (action >>= rest) fault := by
  intro data start horder hholds cursor hcursor
  have hfault := h data start horder hholds cursor hcursor
  -- where the cursor is left does not matter, since nothing is done there
  have hrun : cursor.run action = (.error fault, (cursor.run action).2) := Prod.ext hfault rfl
  rw [run_bind_of_error hrun]

/-- Bytes behind those that are refused do not matter. -/
theorem append {action : Action ρ α} {fault : Error} (h : Refuses order first action fault)
    (second : List UInt8) : Refuses order (first ++ second) action fault :=
  fun data start horder hholds => h data start horder hholds.left

theorem here_bind {rest : Nat → Action ρ α} {fault : Error}
    (h : ∀ p, Refuses order first (rest p) fault) : Refuses order first (here >>= rest) fault :=
  fun data start horder hholds cursor hcursor =>
    h cursor.position data start horder hholds cursor hcursor

theorem get_bind {rest : Cursor ρ → Action ρ α} {fault : Error}
    (h : ∀ cursor : Cursor ρ, first.length ≤ cursor.length →
      Refuses order first (rest cursor) fault) :
    Refuses order first (get >>= rest) fault := by
  intro data start horder hholds cursor hcursor
  have hfits := hholds.fits
  rw [run_bind_of_ok (run_get cursor)]
  exact h cursor (by rw [hcursor.length_eq]; omega) data start horder hholds cursor hcursor

end Refuses

end Cursor

end Georef
