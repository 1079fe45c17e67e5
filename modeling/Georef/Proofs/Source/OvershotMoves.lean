import Georef.Proofs.Source.BufferedAnswers

/-!
# Moves that overshoot

A move by a distance may have a target before the start of the source, or one that is out of count.
A reader in memory refuses it and stays where it is, and so does a buffered reader if the distance
is one from the end. If it is one from the present position, a buffered reader does not refuse: it
drops its window, goes to the start of the source, and reports success.

The module introduces:

* `ReaderRequest.Expressible`, `Reader.replyAll` — the requests whose numbers can be counted, and
  the replies to any number of them.
* `BufferedReader.Standing` — the buffered readers over bytes in memory that stand somewhere in
  their source; `Standing.reply` and `Standing.replyAll` lead from one to the next, overshot moves
  included.

`BufferedReader.reply_fromCurrent` tells what a relative move does to every buffered reader that
requests lead to, and `BufferedReader.exists_reply_overshot` is one that overshoots.
-/

namespace Georef

/-! ## Requests one after the other -/

/-- A position in a request can be counted. -/
def ReaderRequest.Expressible : ReaderRequest → Prop
  | seek (.fromStart offset) => offset < positionBound
  | _ => True

/-- The replies to requests, one after the other, and the reader after them. -/
def Reader.replyAll {ρ : Type} [Reader ρ] (reader : ρ) :
    List ReaderRequest → List ReaderReply × ρ
  | [] => ([], reader)
  | request :: rest =>
    let (first, reader) := reply reader request
    let (replies, reader) := replyAll reader rest
    (first :: replies, reader)

theorem shiftPosition?_lt {p q : Nat} {delta : Int} (h : shiftPosition? p delta = some q) :
    q < positionBound := by
  simp only [shiftPosition?] at h
  split at h
  · cases h
    omega
  · cases h

/-- An expressible request is out of range only if it is a move by a distance whose target cannot be
counted. -/
theorem ReaderRequest.inRange_or_overshoots {request : ReaderRequest}
    (hrequest : request.Expressible) (length p : Nat) :
    request.InRange length p ∨
      (∃ delta, request = .seek (.fromCurrent delta) ∧ shiftPosition? p delta = none) ∨
      ∃ delta, request = .seek (.fromEnd delta) ∧ shiftPosition? length delta = none := by
  cases request with
  | seek target =>
    cases target with
    | fromStart offset => exact .inl ⟨offset, hrequest, rfl⟩
    | fromCurrent delta =>
      cases hshift : shiftPosition? p delta with
      | none => exact .inr (.inl ⟨delta, rfl, hshift⟩)
      | some q => exact .inl ⟨q, shiftPosition?_lt hshift, by simp [SeekTarget.resolve, hshift]⟩
    | fromEnd delta =>
      cases hshift : shiftPosition? length delta with
      | none => exact .inr (.inr ⟨delta, rfl, hshift⟩)
      | some q => exact .inl ⟨q, shiftPosition?_lt hshift, by simp [SeekTarget.resolve, hshift]⟩
  | read count => exact .inl trivial
  | chunk count => exact .inl trivial
  | position => exact .inl trivial
  | length => exact .inl trivial

/-! ## Readers in memory -/

namespace MemoryReader

variable {reader : MemoryReader} {delta : Int}

theorem reply_fromCurrent_of_none (hshift : shiftPosition? reader.position delta = none) :
    Reader.reply reader (.seek (.fromCurrent delta)) = (.failed .badPosition, reader) := by
  simp only [Reader.reply, Reader.seek, SeekTarget.resolve, hshift]
  rfl

theorem reply_fromCurrent_of_some {q : Nat}
    (hshift : shiftPosition? reader.position delta = some q) :
    Reader.reply reader (.seek (.fromCurrent delta)) =
      (.place q, { reader with position := q }) := by
  simp only [Reader.reply, Reader.seek, SeekTarget.resolve, hshift]
  rfl

end MemoryReader

/-! ## Buffered readers -/

namespace BufferedReader

open LawfulReader (Serves)

variable {data : Bytes} {reader : BufferedReader MemoryReader} {delta : Int}

/-- `Standing data reader`: the reader serves the bytes `data`, and its position can be counted. -/
structure Standing (data : Bytes) (reader : BufferedReader MemoryReader) : Prop where
  serves : Serves data reader.position reader
  position_lt : reader.position < positionBound

theorem standing_of_serves {p : Nat} (h : Serves data p reader) (hp : p < positionBound) :
    Standing data reader := by
  obtain rfl : reader.position = p := h.position_eq
  exact ⟨h, hp⟩

/-- A new reader stands where the one behind it does. -/
theorem standing_ofReader {start : Nat} (hstart : start < positionBound) (capacity : Nat) :
    Standing data (ofReader capacity ({ data, position := start } : MemoryReader)) := by
  have hinner : Serves data start ({ data, position := start } : MemoryReader) := ⟨rfl, rfl⟩
  exact standing_of_serves (serves_ofReader hinner hstart capacity) hstart

namespace Standing

/-- After an overshot move the reader is a new one at the start of the source, whatever it held
before. -/
theorem reply_overshot (h : Standing data reader)
    (hshift : shiftPosition? reader.position delta = none) :
    Reader.reply reader (.seek (.fromCurrent delta)) =
      (.place 0, ofReader reader.capacity { data }) := by
  obtain ⟨hinner, -⟩ := h.serves.synced.inner_stands
  -- a window holds a byte at least, so a new reader of the same capacity is not made larger
  have hcapacity : max reader.capacity 1 = reader.capacity :=
    Nat.max_eq_left h.serves.synced.capacity_pos
  have hseek : seek (.fromCurrent delta) reader =
      .ok (0, reader.discard 0 { data, position := 0 }) := by
    simp only [seek, hshift]
    rw [← hinner]
    rfl
  have hposition : Reader.position ({ data } : MemoryReader) = .ok (0, { data }) := by
    have hzero : shiftPosition? 0 0 = some 0 := shiftPosition?_zero (by decide)
    simp only [Reader.position, Reader.seek, SeekTarget.resolve, hzero]
    rfl
  have hnew : reader.discard 0 { data, position := 0 } = ofReader reader.capacity { data } := by
    rw [ofReader, hposition, hcapacity]
    rfl
  rw [← hnew]
  show Reader.replyPlace reader (seek (.fromCurrent delta) reader) = _
  rw [hseek]
  rfl

/-- A distance from the end that overshoots is refused, and nothing moves. -/
theorem reply_fromEnd_of_none (h : Standing data reader)
    (hshift : shiftPosition? data.size delta = none) :
    Reader.reply reader (.seek (.fromEnd delta)) = (.failed .badPosition, reader) := by
  obtain ⟨hinner, -⟩ := h.serves.synced.inner_stands
  have hseek : seek (.fromEnd delta) reader = .error .badPosition := by
    simp only [seek, seekInner, Reader.seek, SeekTarget.resolve, hinner, hshift]
    rfl
  show Reader.replyPlace reader (seek (.fromEnd delta) reader) = _
  rw [hseek]
  rfl

/-- Every request leads from one place in the source to another. -/
theorem reply (h : Standing data reader) (hsize : data.size < positionBound)
    {request : ReaderRequest} (hrequest : request.Expressible) :
    Standing data (Reader.reply reader request).2 := by
  -- in range the laws of readers apply; out of range the reader is as new, or as it was
  rcases ReaderRequest.inRange_or_overshoots hrequest data.size reader.position with
    hrange | ⟨delta, rfl, hshift⟩ | ⟨delta, rfl, hshift⟩
  · obtain ⟨q, -, hserves, hq⟩ := h.serves.reply h.position_lt hsize hrange
    exact standing_of_serves hserves hq
  · have hnew : Standing data (ofReader reader.capacity ({ data } : MemoryReader)) :=
      standing_ofReader (by decide) reader.capacity
    simp only [h.reply_overshot hshift]
    exact hnew
  · rw [h.reply_fromEnd_of_none hshift]
    exact h

/-- And so does any number of them. -/
theorem replyAll (h : Standing data reader) (hsize : data.size < positionBound)
    {requests : List ReaderRequest} (hrequests : ∀ request ∈ requests, request.Expressible) :
    Standing data (Reader.replyAll reader requests).2 := by
  induction requests generalizing reader with
  | nil => exact h
  | cons request rest ih =>
    obtain ⟨hrequest, hrest⟩ := List.forall_mem_cons.1 hrequests
    exact ih (h.reply hsize hrequest) hrest

/-- A move whose target can be counted leads there. -/
theorem reply_fromCurrent_of_some (h : Standing data reader) {q : Nat}
    (hshift : shiftPosition? reader.position delta = some q) :
    (Reader.reply reader (.seek (.fromCurrent delta))).1 = .place q ∧
      Serves data q (Reader.reply reader (.seek (.fromCurrent delta))).2 := by
  have htarget : (SeekTarget.fromCurrent delta).resolve data.size reader.position = .ok q := by
    rw [SeekTarget.resolve, hshift]
    rfl
  obtain ⟨moved, hseek, hserves⟩ := LawfulReader.seek h.serves htarget
  have hreply : Reader.reply reader (.seek (.fromCurrent delta)) = (.place q, moved) := by
    simp only [Reader.reply, hseek, Reader.replyPlace]
  rw [hreply]
  exact ⟨rfl, hserves⟩

end Standing

/-- Whatever has been asked before, moves by a distance from the present position among them, such a
move is answered as from memory if its target can be counted. If it cannot, the reader in memory
refuses and stays where it is, but the buffered one moves to the start, where it is as new. -/
theorem reply_fromCurrent (hsize : data.size < positionBound) {start : Nat}
    (hstart : start < positionBound) (capacity : Nat) {requests : List ReaderRequest}
    (hrequests : ∀ request ∈ requests, request.Expressible) (delta : Int) :
    let reader := (Reader.replyAll
      (ofReader capacity ({ data, position := start } : MemoryReader)) requests).2
    let plain : MemoryReader := { data, position := reader.position }
    (∀ q, shiftPosition? reader.position delta = some q →
      Reader.reply plain (.seek (.fromCurrent delta)) = (.place q, { data, position := q }) ∧
      (Reader.reply reader (.seek (.fromCurrent delta))).1 = .place q ∧
      Serves data q (Reader.reply reader (.seek (.fromCurrent delta))).2) ∧
    (shiftPosition? reader.position delta = none →
      Reader.reply plain (.seek (.fromCurrent delta)) = (.failed .badPosition, plain) ∧
      Reader.reply reader (.seek (.fromCurrent delta)) =
        (.place 0, ofReader reader.capacity { data })) := by
  intro reader plain
  have hstanding : Standing data reader :=
    (standing_ofReader hstart capacity).replyAll hsize hrequests
  constructor
  · intro q hshift
    exact ⟨MemoryReader.reply_fromCurrent_of_some hshift,
      hstanding.reply_fromCurrent_of_some hshift⟩
  · intro hshift
    exact ⟨MemoryReader.reply_fromCurrent_of_none hshift, hstanding.reply_overshot hshift⟩

/-- Three bytes are read from a window of four, a move by seven bytes back is tried and another one
by two bytes back: the first one overshoots, and so does the second one from the start. -/
theorem reply_fromCurrent_twice :
    let data : Bytes := #[1, 2, 3, 4, 5]
    let requests : List ReaderRequest := [.read 3, .seek (.fromCurrent (-7))]
    let reader := (Reader.replyAll (ofReader 4 ({ data, position := 0 } : MemoryReader))
      requests).2
    (∀ request ∈ requests, request.Expressible) ∧ shiftPosition? reader.position (-2) = none ∧
      Reader.reply reader (.seek (.fromCurrent (-2))) =
        (.place 0, ofReader reader.capacity { data }) := by
  intro data requests reader
  have hrequests : ∀ request ∈ requests, request.Expressible := by
    intro request hmem
    rcases List.mem_cons.1 hmem with rfl | hmem
    · trivial
    · rw [List.mem_singleton.1 hmem]
      trivial
  have hshift : shiftPosition? reader.position (-2) = none := by decide +kernel
  have hsize : data.size < positionBound := by decide
  have hstart : 0 < positionBound := by decide
  obtain ⟨-, hovershot⟩ := reply_fromCurrent hsize hstart 4 hrequests (-2)
  exact ⟨hrequests, hshift, (hovershot hshift).2⟩

/-- A buffered reader that has one byte left in its window, and that a move by more bytes back than
it has read takes to the start instead of nowhere. -/
theorem exists_reply_overshot :
    ∃ (data : Bytes) (reader : BufferedReader MemoryReader) (delta : Int),
      reader = (Reader.replyAll (ofReader 4 ({ data } : MemoryReader)) [.read 3]).2 ∧
      shiftPosition? reader.position delta = none ∧
      (Reader.reply ({ data, position := reader.position } : MemoryReader)
        (.seek (.fromCurrent delta))).1 = .failed .badPosition ∧
      (Reader.replyAll reader [.read 2]).1 = [.bytes #[4]] ∧
      (Reader.replyAll reader [.seek (.fromCurrent delta), .read 2]).1 =
        [.place 0, .bytes #[1, 2]] :=
  ⟨#[1, 2, 3, 4, 5], _, -4, rfl, by decide +kernel, by decide +kernel, by decide +kernel,
    by decide +kernel⟩

end BufferedReader

end Georef
