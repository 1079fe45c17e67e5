import Georef.Proofs.Source.Settling

/-!
# Opening resources

Whatever a resource is, once it has been opened there are bytes that it holds, and the cursor on it
stands at their start. That they are not too many to be counted needs no assumption: opening asks
for the length of the source, and is refused if it cannot be counted.

So resources of the same bytes are opened alike, and an action that settles comes to the same on all
of them, whether they are read from memory or through a window.

The module introduces:

* `Cursor.Alike first second` — the cursors stand at one place of one source.
* `Resource.exists_bytes_of_cursor` — the bytes behind a cursor that a resource has opened.
* `Resource.cursor_alike`, `Resource.read_eq` — resources of the same bytes.
-/

namespace Georef

open LawfulReader (Serves)

/-! ## Sources that are too long -/

/-- The end of a source whose length cannot be counted is not found. -/
theorem SeekTarget.resolve_fromEnd_of_le {length : Nat} (h : positionBound ≤ length)
    (position : Nat) : (SeekTarget.fromEnd 0).resolve length position = .error .badPosition := by
  rw [resolve, shiftPosition?, if_neg (by omega)]
  rfl

theorem ResourceReader.seek_fromEnd_of_le {data : Bytes} {p : Nat} {reader : ResourceReader}
    (h : Serves data p reader) (hlong : positionBound ≤ data.size) :
    Reader.seek (.fromEnd 0) reader = .error .badPosition := by
  cases reader with
  | memory reader =>
    obtain ⟨rfl, -⟩ : reader.data = data ∧ reader.position = p := h
    simp only [Reader.seek, SeekTarget.resolve_fromEnd_of_le hlong, Except.error_bind]
    rfl
  | buffered reader =>
    have hcarries : reader.Carries data p := h
    obtain ⟨rfl, -⟩ : reader.inner.data = data ∧ _ := hcarries.synced.inner_stands
    simp only [Reader.seek, BufferedReader.seek, BufferedReader.seekInner,
      SeekTarget.resolve_fromEnd_of_le hlong, Except.error_bind]
    rfl

/-- No cursor is opened on a source whose length cannot be counted. -/
theorem Cursor.ofReader_of_le {data : Bytes} {reader : ResourceReader} (h : Serves data 0 reader)
    (hlong : positionBound ≤ data.size) (order : ByteOrder) :
    ofReader order reader = .error (.io .badPosition) := by
  obtain ⟨reader', hposition, hserves⟩ := h.position (by decide)
  have hend := ResourceReader.seek_fromEnd_of_le hserves hlong
  rw [ofReader, Reader.sourceLength, hposition]
  simp only [Except.ok_bind, hend, Except.error_bind]
  rfl

/-! ## Cursors at one place -/

namespace Cursor

variable {ρ α : Type} [Reader ρ] [LawfulReader ρ] {first second : Cursor ρ}

/-- `first.Alike second`: the cursors stand at one place of one source, however they read it. -/
def Alike (first second : Cursor ρ) : Prop :=
  ∃ data place, place.position ≤ data.size ∧ first.Stands data place ∧ second.Stands data place

/-- Cursors that stand alike end an action that settles with the same outcome, and stand alike
afterwards. -/
theorem Alike.run (h : first.Alike second) {action : Action ρ α}
    (hsettles : ∀ data, Settles data action) :
    (first.run action).1 = (second.run action).1 ∧
      (first.run action).2.Alike (second.run action).2 := by
  obtain ⟨data, place, hplace, hfirst, hsecond⟩ := h
  obtain ⟨outcome, finish, hruns, hfinish⟩ := hsettles data place hplace
  obtain ⟨first', hrun, hfirst'⟩ := hruns first hfirst
  obtain ⟨second', hrun', hsecond'⟩ := hruns second hsecond
  rw [hrun, hrun']
  exact ⟨rfl, data, finish, hfinish, hfirst', hsecond'⟩

end Cursor

/-! ## Opening -/

namespace Resource

variable {resource first second : Resource} {α : Type}

/-- A resource without bytes is refused for the reason that it has none. -/
theorem cursor_of_bytes_error {fault : Error} (h : resource.bytes = .error fault)
    (order : ByteOrder) : resource.cursor order = .error fault := by
  have hreader : resource.reader = .error fault := by
    cases resource with
    | memory name data => cases h
    | file name contents access =>
      have hcontents : contents.mapError Error.io = .error fault := h
      rw [reader, hcontents, Except.error_bind]
    | compressed name contents =>
      rw [bytes] at h
      rw [reader]
      cases hstored : contents.mapError Error.io with
      | error other =>
        rw [hstored, Except.error_bind] at h
        rw [Except.error_bind, Except.error.inj h]
      | ok stored =>
        rw [hstored, Except.ok_bind] at h
        rw [Except.ok_bind, h, Except.error_bind]
  rw [cursor, hreader, Except.error_bind]

/-- A resource with more bytes than can be counted is refused. -/
theorem cursor_of_le {data : Bytes} (h : resource.bytes = .ok data)
    (hlong : positionBound ≤ data.size) (order : ByteOrder) :
    resource.cursor order = .error (.io .badPosition) := by
  obtain ⟨reader, hreader, hserves⟩ := exists_reader_serves h
  rw [cursor, hreader, Except.ok_bind, Cursor.ofReader_of_le hserves hlong]

/-- On any other resource the cursor stands at the start of its bytes. -/
theorem exists_cursor_of_bytes {data : Bytes} (h : resource.bytes = .ok data)
    (hsize : data.size < positionBound) (order : ByteOrder) :
    ∃ cursor, resource.cursor order = .ok cursor ∧ cursor.Stands data ⟨order, 0⟩ := by
  obtain ⟨reader, hreader, hserves⟩ := exists_reader_serves h
  rw [cursor, hreader, Except.ok_bind]
  exact Cursor.exists_ofReader_stands hserves (by decide) hsize order

/-- A cursor that a resource has opened stands at the start of the bytes it holds. -/
theorem exists_bytes_of_cursor {order : ByteOrder} {cursor : Cursor ResourceReader}
    (h : resource.cursor order = .ok cursor) :
    ∃ data, resource.bytes = .ok data ∧ cursor.Stands data ⟨order, 0⟩ := by
  cases hbytes : resource.bytes with
  | error fault =>
    rw [cursor_of_bytes_error hbytes] at h
    cases h
  | ok data =>
    by_cases hsize : data.size < positionBound
    · obtain ⟨cursor', hcursor, hstands⟩ := exists_cursor_of_bytes hbytes hsize order
      obtain rfl : cursor' = cursor := Except.ok.inj (hcursor.symm.trans h)
      exact ⟨data, rfl, hstands⟩
    · rw [cursor_of_le hbytes (Nat.not_lt.1 hsize)] at h
      cases h

/-- Resources of the same bytes are refused for the same reason, or opened alike. -/
theorem cursor_alike (h : first.bytes = second.bytes) (order : ByteOrder) :
    (∃ fault, first.cursor order = .error fault ∧ second.cursor order = .error fault) ∨
      ∃ cursor cursor', first.cursor order = .ok cursor ∧ second.cursor order = .ok cursor' ∧
        cursor.Alike cursor' := by
  cases hsecond : second.bytes with
  | error fault =>
    exact .inl ⟨fault, cursor_of_bytes_error (h.trans hsecond) order,
      cursor_of_bytes_error hsecond order⟩
  | ok data =>
    by_cases hsize : data.size < positionBound
    · obtain ⟨cursor, hcursor, hstands⟩ := exists_cursor_of_bytes (h.trans hsecond) hsize order
      obtain ⟨cursor', hcursor', hstands'⟩ := exists_cursor_of_bytes hsecond hsize order
      exact .inr ⟨cursor, cursor', hcursor, hcursor', data, _, Nat.zero_le _, hstands, hstands'⟩
    · have hlong := Nat.not_lt.1 hsize
      exact .inl ⟨_, cursor_of_le (h.trans hsecond) hlong order, cursor_of_le hsecond hlong order⟩

/-- An action that settles comes to the same on resources of the same bytes. -/
theorem read_eq (h : first.bytes = second.bytes) (order : ByteOrder)
    {action : Cursor.Action ResourceReader α} (hsettles : ∀ data, Cursor.Settles data action) :
    (first.cursor order >>= fun cursor => (cursor.run action).1) =
      (second.cursor order >>= fun cursor => (cursor.run action).1) := by
  obtain ⟨fault, hfirst, hsecond⟩ | ⟨cursor, cursor', hfirst, hsecond, halike⟩ :=
    cursor_alike h order
  · rw [hfirst, hsecond]
  · rw [hfirst, hsecond]
    exact (halike.run hsettles).1

end Resource

end Georef
