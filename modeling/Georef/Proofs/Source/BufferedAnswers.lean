import Georef.Proofs.Source.LawfulReader

/-!
# Buffered readers answer like unbuffered ones

A reader is asked for bytes, moved, and asked where it stands and how long its source is. What an
unbuffered reader answers depends on the bytes of the source and its position. A buffered reader has
nothing else to say, whatever is in its window and however short the answers of the reader behind it
are.

The module introduces:

* `ReaderRequest`, `ReaderReply`, `Reader.reply` — what readers are asked, and what they answer.
* `Answers data p request reply q` — an unbuffered reader over `data` at `p` may answer so, and then
  stands at `q`; `Transcript` says so for requests that follow each other.
* `BufferedReader.Reached` — the buffered readers that requests lead to, as long as every move has a
  target that can be counted.
* `BufferedReader.Reached.answers` — their answers, their positions and their windows.
-/

namespace Georef

/-! ## Requests and replies -/

/-- A request to a reader. -/
inductive ReaderRequest where
  /-- At most so many of the next bytes. -/
  | read (count : Nat)
  /-- So many of the next bytes, or a failure. -/
  | chunk (count : Nat)
  | seek (target : SeekTarget)
  /-- The present position. -/
  | position
  /-- The length of the source. -/
  | length
  deriving DecidableEq, Repr

/-- What a reader replies. -/
inductive ReaderReply where
  | bytes (chunk : Bytes)
  /-- A position, or the length of the source. -/
  | place (position : Nat)
  | failed (fault : IoFault)
  deriving DecidableEq, Repr

/-- Whether a request leaves the reader a choice of how much to do. -/
def ReaderRequest.isRead : ReaderRequest → Bool
  | read _ => true
  | _ => false

/-- `request.InRange length p`: if the request is a move from `p` in a source of that length, then
its target can be counted. -/
def ReaderRequest.InRange (length p : Nat) : ReaderRequest → Prop
  | seek target => ∃ q < positionBound, target.resolve length p = .ok q
  | _ => True

namespace Reader

variable {ρ : Type} [Reader ρ]

/-- The reply to a request for bytes. -/
def replyBytes : Except IoFault Bytes × ρ → ReaderReply × ρ
  | (.ok chunk, reader) => (.bytes chunk, reader)
  | (.error fault, reader) => (.failed fault, reader)

/-- The reply to a request for a place. A failure leaves the reader as it was. -/
def replyPlace (reader : ρ) : Except IoFault (Nat × ρ) → ReaderReply × ρ
  | .ok (position, moved) => (.place position, moved)
  | .error fault => (.failed fault, reader)

/-- The reply to a request, and the reader after it. -/
def reply (reader : ρ) : ReaderRequest → ReaderReply × ρ
  | .read count =>
    let (chunk, reader) := read count reader
    (.bytes chunk, reader)
  | .chunk count => replyBytes (readExact count reader)
  | .seek target => replyPlace reader (seek target reader)
  | .position => replyPlace reader (position reader)
  | .length => replyPlace reader (sourceLength reader)

end Reader

/-! ## Unbuffered answers -/

/-- `Answers data p request reply q`: an unbuffered reader that stands at `p` in a source of the
bytes `data` may reply so, and stands at `q` then. Only a single read leaves it a choice. -/
inductive Answers (data : Bytes) (p : Nat) : ReaderRequest → ReaderReply → Nat → Prop
  /-- A read gives bytes from the position on, and none only if none are asked for or left. -/
  | read {count size : Nat} (hle : size ≤ count) (hend : p + size ≤ max p data.size)
    (hempty : size = 0 → count = 0 ∨ data.size ≤ p) :
    Answers data p (.read count) (.bytes (data.slice p size)) (p + size)
  | chunk {count : Nat} (h : count = 0 ∨ p + count ≤ data.size) :
    Answers data p (.chunk count) (.bytes (data.slice p count)) (p + count)
  /-- A chunk that is not there uses up what is. -/
  | shortChunk {count : Nat} (hcount : 0 < count) (h : data.size < p + count) :
    Answers data p (.chunk count) (.failed .truncated) (max p data.size)
  | seek {target : SeekTarget} {q : Nat} (h : target.resolve data.size p = .ok q) :
    Answers data p (.seek target) (.place q) q
  | position : Answers data p .position (.place p) p
  | length : Answers data p .length (.place data.size) p

/-- `Transcript data start trace finish`: the exchange of requests and replies may take an
unbuffered reader over `data` from `start` to `finish`. -/
inductive Transcript (data : Bytes) (start : Nat) :
    List (ReaderRequest × ReaderReply) → Nat → Prop
  | nil : Transcript data start [] start
  | snoc {trace : List (ReaderRequest × ReaderReply)} {request : ReaderRequest}
    {reply : ReaderReply} {p q : Nat} (h : Transcript data start trace p)
    (hreply : Answers data p request reply q) :
    Transcript data start (trace ++ [(request, reply)]) q

/-- But for single reads there is one answer. -/
theorem Answers.unique {data : Bytes} {p q q' : Nat} {request : ReaderRequest}
    {reply reply' : ReaderReply} (h : Answers data p request reply q)
    (h' : Answers data p request reply' q') (hread : request.isRead = false) :
    reply = reply' ∧ q = q' := by
  cases h with
  | read => cases hread
  | chunk h =>
    cases h' with
    | chunk => exact ⟨rfl, rfl⟩
    | shortChunk => omega
  | shortChunk =>
    cases h' with
    | chunk => omega
    | shortChunk => exact ⟨rfl, rfl⟩
  | seek h =>
    cases h' with
    | seek h' =>
      obtain rfl := Except.ok.inj (h.symm.trans h')
      exact ⟨rfl, rfl⟩
  | position =>
    cases h'
    exact ⟨rfl, rfl⟩
  | length =>
    cases h'
    exact ⟨rfl, rfl⟩

namespace LawfulReader.Serves

variable {ρ : Type} [Reader ρ] [LawfulReader ρ] {data : Bytes} {p : Nat} {r : ρ}

/-- The reply to a request for a chunk. -/
theorem reply_chunk (h : Serves data p r) (count : Nat) :
    ∃ q, Answers data p (.chunk count) (Reader.reply r (.chunk count)).1 q ∧
      Serves data q (Reader.reply r (.chunk count)).2 ∧ q ≤ max p data.size := by
  simp only [Reader.reply]
  rcases Nat.eq_zero_or_pos count with rfl | hcount
  · -- nothing is read, also behind the end of the source
    rw [Reader.readExact, Reader.readRest, if_pos rfl, ← data.slice_zero p]
    exact ⟨p, .chunk (.inl rfl), h, Nat.le_max_left ..⟩
  · by_cases hfit : p + count ≤ data.size
    · obtain ⟨r', hread, h'⟩ := h.readExact hfit
      rw [hread]
      exact ⟨p + count, .chunk (.inr hfit), h', by omega⟩
    · have hshort : data.size < p + count := Nat.not_le.1 hfit
      obtain ⟨r', hread, h'⟩ := h.readExact_of_short hcount hshort
      rw [hread]
      exact ⟨max p data.size, .shortChunk hcount hshort, h', Nat.le_refl _⟩

/-- A lawful reader replies like an unbuffered one, and stands where that would. -/
theorem reply (h : Serves data p r) (hp : p < positionBound) (hsize : data.size < positionBound)
    {request : ReaderRequest} (hrange : request.InRange data.size p) :
    ∃ q, Answers data p request (Reader.reply r request).1 q ∧
      Serves data q (Reader.reply r request).2 ∧ q < positionBound := by
  cases request with
  | read count =>
    obtain ⟨size, r', hread, hle, hend, hpos, h'⟩ := LawfulReader.read h count
    simp only [Reader.reply, hread]
    refine ⟨p + size, .read hle hend fun hzero => ?_, h', by omega⟩
    by_contra hnot
    have := hpos (by omega) (by omega)
    omega
  | chunk count =>
    obtain ⟨q, hanswers, h', hq⟩ := h.reply_chunk count
    exact ⟨q, hanswers, h', by omega⟩
  | seek target =>
    obtain ⟨q, hq, htarget⟩ := hrange
    obtain ⟨r', hseek, h'⟩ := LawfulReader.seek h htarget
    simp only [Reader.reply, hseek, Reader.replyPlace]
    exact ⟨q, .seek htarget, h', hq⟩
  | position =>
    obtain ⟨r', hposition, h'⟩ := h.position hp
    simp only [Reader.reply, hposition, Reader.replyPlace]
    exact ⟨p, .position, h', hp⟩
  | length =>
    obtain ⟨r', hlength, h'⟩ := h.sourceLength hp hsize
    simp only [Reader.reply, hlength, Reader.replyPlace]
    exact ⟨p, .length, h', hp⟩

/-- But for single reads, lawful readers at one place of a source reply alike. -/
theorem reply_eq {σ : Type} [Reader σ] [LawfulReader σ] {s : σ} (hr : Serves data p r)
    (hs : Serves data p s) (hp : p < positionBound) (hsize : data.size < positionBound)
    {request : ReaderRequest} (hrange : request.InRange data.size p)
    (hread : request.isRead = false) :
    (Reader.reply r request).1 = (Reader.reply s request).1 := by
  obtain ⟨q, hanswers, -⟩ := hr.reply hp hsize hrange
  obtain ⟨q', hanswers', -⟩ := hs.reply hp hsize hrange
  exact (hanswers.unique hanswers' hread).1

end LawfulReader.Serves

/-! ## Buffered readers -/

namespace BufferedReader

open LawfulReader (Serves)

variable {ρ : Type} [Reader ρ]

/-- `Reached length capacity inner trace reader`: a new buffered reader of the capacity, over the
reader `inner` of a source of the given length, has exchanged the requests and replies in `trace`
and has become `reader`. Every move on the way had a target that can be counted. -/
inductive Reached (length capacity : Nat) (inner : ρ) :
    List (ReaderRequest × ReaderReply) → BufferedReader ρ → Prop
  | new : Reached length capacity inner [] (ofReader capacity inner)
  | reply {trace : List (ReaderRequest × ReaderReply)} {reader : BufferedReader ρ}
    (h : Reached length capacity inner trace reader) (request : ReaderRequest)
    (hrange : request.InRange length reader.position) :
    Reached length capacity inner (trace ++ [(request, (Reader.reply reader request).1)])
      (Reader.reply reader request).2

variable [LawfulReader ρ] {data : Bytes} {start capacity : Nat} {inner : ρ}
  {trace : List (ReaderRequest × ReaderReply)} {reader : BufferedReader ρ}

/-- Whatever has been asked, a buffered reader stands where the replies would have led an unbuffered
one. -/
theorem Reached.exists_transcript (h : Reached data.size capacity inner trace reader)
    (hinner : Serves data start inner) (hstart : start < positionBound)
    (hsize : data.size < positionBound) :
    ∃ p < positionBound, Transcript data start trace p ∧ Serves data p reader := by
  induction h with
  | new => exact ⟨start, hstart, .nil, serves_ofReader hinner hstart capacity⟩
  | reply _ request hrange ih =>
    obtain ⟨p, hp, htrace, hserves⟩ := ih
    rw [hserves.position_eq] at hrange
    obtain ⟨q, hanswers, hserves', hq⟩ := hserves.reply hp hsize hrange
    exact ⟨q, hq, htrace.snoc hanswers, hserves'⟩

/-- A buffered reader of any capacity answers like an unbuffered one over the same bytes, wherever
it starts and as long as targets can be counted: its replies are a transcript of such a reader,
whose position is its own; its window holds the bytes from its start on, with the reader behind at
the end of it; and anything but a single read is answered as from memory. Positions have 64 bits, so
the source is shorter than they can count. -/
theorem Reached.answers (h : Reached data.size capacity inner trace reader)
    (hinner : Serves data start inner) (hstart : start < positionBound)
    (hsize : data.size < positionBound) :
    Transcript data start trace reader.position ∧
      reader.Synced data (Serves data) ∧
      ∀ request : ReaderRequest, request.InRange data.size reader.position →
        request.isRead = false →
        (Reader.reply reader request).1 =
          (Reader.reply ({ data, position := reader.position } : MemoryReader) request).1 := by
  obtain ⟨p, hp, htrace, hserves⟩ := h.exists_transcript hinner hstart hsize
  obtain rfl : reader.position = p := hserves.position_eq
  refine ⟨htrace, hserves.synced, fun request hrange hread => ?_⟩
  have hmemory : Serves data reader.position
      ({ data, position := reader.position } : MemoryReader) := ⟨rfl, rfl⟩
  exact hserves.reply_eq hmemory hp hsize hrange hread

/-- A window of three bytes over a stream that hands out two at a time: a chunk that takes two
fillings, a move back into the window, a read that ends where the window does, and a chunk that is
not there. -/
theorem Reached.answers_stream :
    let data : Bytes := #[10, 20, 30, 40, 50]
    let inner : StreamReader := { data, pace := fun _ => 2, position := 1 }
    let trace : List (ReaderRequest × ReaderReply) :=
      [(.chunk 3, .bytes #[20, 30, 40]), (.seek (.fromCurrent (-1)), .place 3),
        (.read 2, .bytes #[40, 50]), (.length, .place 5), (.chunk 2, .failed .truncated)]
    ∃ reader, Reached data.size 3 inner trace reader ∧
      Transcript data 1 trace reader.position ∧ reader.Synced data (Serves data) := by
  intro data inner trace
  have hserves : Serves data 1 inner := ⟨rfl, rfl⟩
  have hreached := (((((Reached.new : Reached data.size 3 inner [] _).reply
    (.chunk 3) trivial).reply (.seek (.fromCurrent (-1))) ⟨3, by decide, by decide +kernel⟩).reply
    (.read 2) trivial).reply .length trivial).reply (.chunk 2) trivial
  obtain ⟨htrace, hsynced, -⟩ := hreached.answers hserves (by decide) (by decide)
  refine ⟨_, ?_, ?_, hsynced⟩
  · convert hreached using 1
    decide +kernel
  · convert htrace using 1
    decide +kernel

end BufferedReader

end Georef
