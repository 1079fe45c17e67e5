import Georef.Proofs.Outcome
import Georef.Source.Resource
import Mathlib.Tactic.Common

/-!
# Readers that keep to the bytes of their source

A lawful reader has contents and a place in them. A read hands out bytes of the contents from that
place on, possibly fewer than asked for, but none only where nothing was asked for or the contents
have ended. A move whose target can be counted leads there.

The module introduces:

* `LawfulReader ρ` — the readers in `ρ` with the laws of reads and moves; `Serves data p r` — the
  reader `r` is over a source of the bytes `data` and stands at `p`.
* instances for readers in memory, for streams of any pace, for windows of any capacity over a
  lawful reader, and for the readers that resources open.
* `Serves.readExact`, `Serves.readExact_of_short`, `Serves.sourceLength` — what the operations built
  from reads and moves do on a lawful reader.
-/

namespace Georef

/-- `Grants Serves data p count answer`: a read of `count` bytes at `p` is answered with bytes of
`data` from there on, and the reader moves behind them. Only the end of the source, or a request for
nothing, is answered with nothing. -/
def Grants {ρ : Type} (Serves : Nat → ρ → Prop) (data : Bytes) (p count : Nat)
    (answer : Bytes × ρ) : Prop :=
  ∃ size r, answer = (data.slice p size, r) ∧ size ≤ count ∧ p + size ≤ max p data.size ∧
    (0 < count → p < data.size → 0 < size) ∧ Serves (p + size) r

/-- `LawfulReader ρ`: the readers in `ρ` serve the bytes of a source. -/
class LawfulReader (ρ : Type) [Reader ρ] where
  /-- The reader is over a source of these bytes and stands at this position. -/
  Serves : Bytes → Nat → ρ → Prop
  read : ∀ {data : Bytes} {p : Nat} {r : ρ}, Serves data p r → ∀ count,
    Grants (Serves data) data p count (Reader.read count r)
  /-- A move to a position that can be counted leads there. -/
  seek : ∀ {data : Bytes} {p : Nat} {r : ρ}, Serves data p r → ∀ {target : SeekTarget} {q : Nat},
    target.resolve data.size p = .ok q →
    ∃ r', Reader.seek target r = .ok (q, r') ∧ Serves data q r'

/-! ## Slices -/

namespace Bytes

@[simp]
theorem slice_zero (data : Bytes) (start : Nat) : data.slice start 0 = #[] := by
  apply Array.toList_inj.1
  rw [toList_slice, List.take_zero]

/-- Asking for more than there is gives what there is. -/
theorem slice_min (data : Bytes) (start count : Nat) :
    data.slice start (min count (data.size - start)) = data.slice start count := by
  apply Array.toList_inj.1
  rw [toList_slice, toList_slice, List.take_eq_take_iff, List.length_drop, Array.length_toList]
  omega

/-- Two slices that meet make up one. -/
theorem slice_append_slice (data : Bytes) (start first second : Nat) :
    data.slice start first ++ data.slice (start + first) second =
      data.slice start (first + second) := by
  apply Array.toList_inj.1
  rw [Array.toList_append, toList_slice, toList_slice, toList_slice, List.take_add,
    List.drop_drop]

/-- A slice of a slice is a slice, cut at the end of the outer one. -/
theorem slice_slice (data : Bytes) (start count inner width : Nat) (h : inner + width ≤ count) :
    (data.slice start count).slice inner width = data.slice (start + inner) width := by
  apply Array.toList_inj.1
  rw [toList_slice, toList_slice, toList_slice, List.drop_take, List.take_take, List.drop_drop]
  congr 1
  omega

end Bytes

/-- A move by no distance leads to the position itself. -/
theorem shiftPosition?_zero {p : Nat} (hp : p < positionBound) : shiftPosition? p 0 = some p := by
  rw [shiftPosition?, if_pos (by omega)]
  simp

/-! ## Exact reads -/

namespace LawfulReader.Serves

variable {ρ : Type} [Reader ρ] [LawfulReader ρ] {data : Bytes} {p : Nat} {r : ρ}

/-- As long as the source goes on, reading the rest completes what has been read. -/
theorem readRest {count : Nat} (got : Bytes) (h : Serves data p r) (hfit : p + count ≤ data.size) :
    ∃ r', Reader.readRest count got r = (.ok (got ++ data.slice p count), r') ∧
      Serves data (p + count) r' := by
  -- an answer may be short but not empty, so less is left to read after it
  induction count using Nat.strongRecOn generalizing got p r with
  | ind count ih =>
    rw [Reader.readRest]
    by_cases hzero : count = 0
    · subst hzero
      exact ⟨r, by simp, h⟩
    · obtain ⟨size, r₁, hread, hle, hend, hpos, h₁⟩ := LawfulReader.read h count
      have hsize : (data.slice p size).size = size := by
        rw [Bytes.size_slice]
        omega
      have hpos : 0 < size := hpos (by omega) (by omega)
      obtain ⟨r', hrest, h'⟩ :=
        ih (count - size) (by omega) (got ++ data.slice p size) h₁ (by omega)
      have hjoin := data.slice_append_slice p size (count - size)
      rw [show size + (count - size) = count by omega] at hjoin
      rw [show p + size + (count - size) = p + count by omega] at h'
      refine ⟨r', ?_, h'⟩
      rw [if_neg hzero, hread]
      simp only [hsize]
      rw [if_neg (by omega), hrest, Array.append_assoc, hjoin]

/-- An exact read inside the source gives the bytes there. -/
theorem readExact {count : Nat} (h : Serves data p r) (hfit : p + count ≤ data.size) :
    ∃ r', Reader.readExact count r = (.ok (data.slice p count), r') ∧
      Serves data (p + count) r' := by
  obtain ⟨r', hrun, h'⟩ := h.readRest #[] hfit
  exact ⟨r', by rw [Reader.readExact, hrun, Array.empty_append], h'⟩

/-- An exact read that the source does not cover fails at its end. -/
theorem readExact_of_short {count : Nat} (h : Serves data p r) (hcount : 0 < count)
    (hshort : data.size < p + count) :
    ∃ r', Reader.readExact count r = (.error .truncated, r') ∧
      Serves data (max p data.size) r' := by
  unfold Reader.readExact
  -- what has been read so far does not matter to the outcome
  generalize (#[] : Bytes) = got
  induction count using Nat.strongRecOn generalizing got p r with
  | ind count ih =>
    rw [Reader.readRest, if_neg (by omega)]
    obtain ⟨size, r₁, hread, hle, hend, hpos, h₁⟩ := LawfulReader.read h count
    rw [hread]
    by_cases hsize : (data.slice p size).size = 0
    · -- the source has ended, so that the reader has not moved
      rw [Bytes.size_slice] at hsize
      have hplace : p + size = max p data.size := by
        by_contra hne
        have := hpos hcount (by omega)
        omega
      refine ⟨r₁, ?_, hplace ▸ h₁⟩
      simp only [Bytes.size_slice, hsize, ↓reduceIte]
    · have hslice : (data.slice p size).size = size := by
        rw [Bytes.size_slice] at hsize ⊢
        omega
      have hcover : p + size ≤ data.size := by
        rw [Bytes.size_slice] at hsize
        omega
      obtain ⟨r', hrest, h'⟩ :=
        ih (count - size) (by omega) h₁ (by omega) (by omega) (got ++ data.slice p size)
      rw [show max (p + size) data.size = max p data.size by omega] at h'
      refine ⟨r', ?_, h'⟩
      simp only [hslice, hrest]
      rw [if_neg (by omega)]

/-! ## The position and the length -/

/-- Where positions can be counted, asking for the position moves nothing. -/
theorem position (h : Serves data p r) (hp : p < positionBound) :
    ∃ r', Reader.position r = .ok (p, r') ∧ Serves data p r' := by
  refine LawfulReader.seek h ?_
  rw [SeekTarget.resolve, shiftPosition?_zero hp]
  rfl

/-- The length of the source is found from any place in it, and the reader comes back. -/
theorem sourceLength (h : Serves data p r) (hp : p < positionBound)
    (hlength : data.size < positionBound) :
    ∃ r', Reader.sourceLength r = .ok (data.size, r') ∧ Serves data p r' := by
  -- to the end and back again, unless the reader stands at the end already
  obtain ⟨r₁, hposition, h₁⟩ := h.position hp
  have hresolve : (SeekTarget.fromEnd 0).resolve data.size p = .ok data.size := by
    rw [SeekTarget.resolve, shiftPosition?_zero hlength]
    rfl
  obtain ⟨r₂, hend, h₂⟩ := LawfulReader.seek h₁ hresolve
  have hstart : (SeekTarget.fromStart p).resolve data.size data.size = .ok p := rfl
  obtain ⟨r₃, hback, h₃⟩ := LawfulReader.seek h₂ hstart
  unfold Reader.sourceLength
  by_cases heq : p = data.size
  · refine ⟨r₂, ?_, heq ▸ h₂⟩
    rw [hposition]
    simp only [bind, Except.bind, hend, if_pos heq]
    rfl
  · refine ⟨r₃, ?_, h₃⟩
    rw [hposition]
    simp only [bind, Except.bind, hend, if_neg heq, hback]
    rfl

end LawfulReader.Serves

/-! ## Readers of the library -/

/-- What is cut from a source at a place answers a read there. -/
theorem grants_slice {ρ : Type} {Serves : Nat → ρ → Prop} {data chunk : Bytes} {p count asked : Nat}
    {r : ρ} (hchunk : chunk = data.slice p asked) (hasked : asked ≤ count)
    (hpos : 0 < count → 0 < asked) (h : Serves (p + chunk.size) r) :
    Grants Serves data p count (chunk, r) := by
  subst hchunk
  rw [Bytes.size_slice] at h
  refine ⟨min asked (data.size - p), r, by rw [data.slice_min], ?_, ?_, ?_, h⟩
  · omega
  · omega
  · intro hcount hp
    have := hpos hcount
    omega

/-- An answer stays right when the reader in it is represented in another way. -/
theorem Grants.map {ρ σ : Type} {Serves : Nat → ρ → Prop} {Serves' : Nat → σ → Prop} {data : Bytes}
    {p count : Nat} {answer : Bytes × ρ} (h : Grants Serves data p count answer) (f : ρ → σ)
    (hf : ∀ q r, Serves q r → Serves' q (f r)) :
    Grants Serves' data p count (answer.1, f answer.2) := by
  obtain ⟨size, r, rfl, hle, hend, hpos, hserves⟩ := h
  exact ⟨size, f r, rfl, hle, hend, hpos, hf _ _ hserves⟩

instance : LawfulReader MemoryReader where
  Serves data p r := r.data = data ∧ r.position = p
  read := by
    rintro data p r ⟨rfl, rfl⟩ count
    exact grants_slice rfl (Nat.le_refl _) id ⟨rfl, rfl⟩
  seek := by
    rintro data p r ⟨rfl, rfl⟩ target q htarget
    refine ⟨{ r with position := q }, ?_, rfl, rfl⟩
    simp only [Reader.seek, htarget, Except.ok_bind]
    rfl

instance : LawfulReader StreamReader where
  Serves data p r := r.data = data ∧ r.position = p
  read := by
    rintro data p r ⟨rfl, rfl⟩ count
    exact grants_slice rfl (Nat.min_le_left _ _) (fun hcount => by omega) ⟨rfl, rfl⟩
  seek := by
    rintro data p r ⟨rfl, rfl⟩ target q htarget
    refine ⟨{ r with position := q }, ?_, rfl, rfl⟩
    simp only [Reader.seek, htarget, Except.ok_bind]
    rfl

namespace BufferedReader

open LawfulReader (Serves)

variable {ρ : Type} [Reader ρ] [LawfulReader ρ]

/-- `Carries data p reader`: the window agrees with a source of the bytes `data`, as does the reader
behind, and the place in the window is `p`. -/
structure Carries (data : Bytes) (p : Nat) (reader : BufferedReader ρ) : Prop where
  synced : reader.Synced data (Serves data)
  position_eq : reader.position = p

variable {data : Bytes} {p : Nat} {reader : BufferedReader ρ}

/-- With an empty window the reader behind tells everything. -/
theorem carries_discard {inner : ρ} (h : Serves data p inner) (hcapacity : 0 < reader.capacity) :
    (reader.discard p inner).Carries data p where
  synced := ⟨by simp [discard], (Nat.le_refl _), h, hcapacity⟩
  position_eq := rfl

/-- A read from a window hands out bytes of the source. -/
theorem Carries.grants_take (h : reader.Carries data p) {count : Nat}
    (hleft : p < data.size → reader.used < reader.window.size) :
    Grants (Carries data) data p count (reader.take count) := by
  obtain ⟨⟨hwindow, hused, hinner, hcapacity⟩, rfl⟩ := h
  set size := min count (reader.window.size - reader.used) with hsize
  have hchunk : reader.window.slice reader.used count = data.slice reader.position size := by
    rw [← Bytes.slice_min, ← hsize]
    conv_lhs => rw [hwindow]
    exact Bytes.slice_slice _ _ _ _ _ (by omega)
  have hchunk_size : (reader.window.slice reader.used count).size = size := by
    rw [Bytes.size_slice]
  refine ⟨size, (reader.take count).2, by rw [← hchunk]; rfl, by omega, ?_, ?_,
    ⟨hwindow, ?_, hinner, hcapacity⟩, ?_⟩
  · -- the window ends where the source does, or before
    have := congrArg Array.size hwindow
    rw [Bytes.size_slice] at this
    simp only [position]
    omega
  · intro hcount hp
    have := hleft hp
    omega
  · simp only [BufferedReader.take, hchunk_size]
    omega
  · simp only [BufferedReader.take, position, hchunk_size]
    omega

/-- Where the window is used up, the reader behind stands at the same place. -/
theorem Carries.serves_inner (h : reader.Carries data p)
    (hempty : reader.window.size ≤ reader.used) : Serves data p reader.inner := by
  obtain ⟨⟨-, hused, hinner, -⟩, rfl⟩ := h
  rwa [position, show reader.used = reader.window.size by omega]

/-- Filling a window that is used up moves nothing. -/
theorem Carries.fill (h : reader.Carries data p) (hempty : reader.window.size ≤ reader.used) :
    reader.fill.Carries data p ∧ (p < data.size → reader.fill.used < reader.fill.window.size) := by
  obtain ⟨size, inner, hread, -, hend, hpos, hserves⟩ :=
    LawfulReader.read (h.serves_inner hempty) reader.capacity
  obtain ⟨⟨-, hused, -, hcapacity⟩, rfl⟩ := h
  have hsize : (data.slice reader.position size).size = size := by
    rw [Bytes.size_slice]
    omega
  -- the new window begins where the old one ended
  have hfill : reader.fill = { reader with
      inner, window := data.slice reader.position size, used := 0, start := reader.position } := by
    simp only [BufferedReader.fill, hread, position]
    rw [show reader.used = reader.window.size by omega]
  rw [hfill]
  refine ⟨⟨⟨?_, Nat.zero_le _, ?_, hcapacity⟩, rfl⟩, fun hp => ?_⟩
  · simp only [hsize]
  · simpa only [hsize] using hserves
  · simpa only [hsize] using hpos hcapacity hp

/-- A read hands out bytes of the source, from the window or past it. -/
theorem Carries.grants_read (h : reader.Carries data p) (count : Nat) :
    Grants (Carries data) data p count (reader.read count) := by
  unfold BufferedReader.read
  split
  · rename_i hempty
    -- a request as long as the window goes past it
    split
    · obtain ⟨size, inner, hread, hle, hend, hpos, hserves⟩ :=
        LawfulReader.read (h.serves_inner hempty) count
      obtain ⟨⟨-, hused, -, hcapacity⟩, rfl⟩ := h
      have hsize : (data.slice reader.position size).size = size := by
        rw [Bytes.size_slice]
        omega
      refine ⟨size, reader.discard (reader.position + size) inner, ?_, hle, hend, hpos,
        carries_discard hserves hcapacity⟩
      simp only [hread, hsize]
    · obtain ⟨hfill, hleft⟩ := h.fill hempty
      exact hfill.grants_take hleft
  · exact h.grants_take fun _ => by omega

/-- A move to a position that can be counted leads there, inside the window or not. -/
theorem Carries.seek (h : reader.Carries data p) {target : SeekTarget} {q : Nat}
    (htarget : target.resolve data.size p = .ok q) :
    ∃ reader', reader.seek target = .ok (q, reader') ∧ reader'.Carries data q := by
  obtain ⟨⟨hwindow, hused, hinner, hcapacity⟩, rfl⟩ := h
  -- behind the window the reader is moved itself, and the window emptied
  have hinside : ∀ other, other.resolve data.size (reader.start + reader.window.size) = .ok q →
      ∃ reader', reader.seekInner other = .ok (q, reader') ∧ reader'.Carries data q := by
    intro other hother
    obtain ⟨inner, hseek, hserves⟩ := LawfulReader.seek hinner hother
    exact ⟨reader.discard q inner, by rw [seekInner, hseek]; rfl,
      carries_discard hserves hcapacity⟩
  -- inside the window only the place in it changes
  have hto : ∃ reader', reader.seekTo q = .ok (q, reader') ∧ reader'.Carries data q := by
    unfold seekTo
    split
    · refine ⟨_, rfl, ⟨hwindow, ?_, hinner, hcapacity⟩, ?_⟩
      · show q - reader.start ≤ reader.window.size
        omega
      · show reader.start + (q - reader.start) = q
        omega
    · exact hinside _ rfl
  cases target with
  | fromStart offset =>
    -- a target from the start or from the present place is known before the move
    cases htarget
    exact hto
  | fromCurrent delta =>
    rw [SeekTarget.resolve] at htarget
    cases hshift : shiftPosition? reader.position delta with
    | none => simp [hshift] at htarget
    | some position =>
      obtain rfl : position = q := by simpa [hshift] using htarget
      simpa only [seek, hshift] using hto
  | fromEnd delta => exact hinside _ htarget

instance : LawfulReader (BufferedReader ρ) where
  Serves := Carries
  read h count := h.grants_read count
  seek h := h.seek

/-- A new reader with an empty window stands where the reader behind does. -/
theorem serves_ofReader {inner : ρ} (h : Serves data p inner) (hp : p < positionBound)
    (capacity : Nat) : Serves data p (ofReader capacity inner) := by
  obtain ⟨inner', hposition, hserves⟩ := h.position hp
  rw [ofReader, hposition]
  exact ⟨⟨by simp, Nat.le_refl _, hserves, Nat.lt_of_lt_of_le Nat.one_pos (Nat.le_max_right _ _)⟩,
    rfl⟩

end BufferedReader

namespace ResourceReader

open LawfulReader (Serves)

/-- `Carries data p reader`: the reader that was opened serves `data` and stands at `p`. -/
def Carries (data : Bytes) (p : Nat) : ResourceReader → Prop
  | .memory reader => Serves data p reader
  | .buffered reader => Serves data p reader

instance : LawfulReader ResourceReader where
  Serves := Carries
  read {data p r} h count := by
    cases r with
    | memory reader => exact (LawfulReader.read h count).map ResourceReader.memory fun _ _ => id
    | buffered reader => exact (LawfulReader.read h count).map ResourceReader.buffered fun _ _ => id
  seek {data p r} h target q htarget := by
    cases r with
    | memory reader =>
      obtain ⟨reader', hseek, hserves⟩ := LawfulReader.seek h htarget
      exact ⟨.memory reader', congrArg (Except.map _) hseek, hserves⟩
    | buffered reader =>
      obtain ⟨reader', hseek, hserves⟩ := LawfulReader.seek h htarget
      exact ⟨.buffered reader', congrArg (Except.map _) hseek, hserves⟩

theorem serves_memory {data : Bytes} {p : Nat} {reader : MemoryReader} (h : Serves data p reader) :
    Serves data p (memory reader) := h

theorem serves_buffered {data : Bytes} {p : Nat} {reader : BufferedReader StreamReader}
    (h : Serves data p reader) : Serves data p (buffered reader) := h

end ResourceReader

namespace Resource

open LawfulReader (Serves)

/-- The bytes that a resource holds, inflated if they are compressed. -/
def bytes : Resource → Except Error Bytes
  | memory _ data => .ok data
  | file _ contents _ => contents.mapError .io
  | compressed _ contents => do
    let data ← contents.mapError .io
    (Gzip.gunzip data).mapError .io

/-- However a resource is read, its reader serves the bytes it holds. -/
theorem exists_reader_serves {resource : Resource} {data : Bytes} (h : resource.bytes = .ok data) :
    ∃ reader, resource.reader = .ok reader ∧ Serves data 0 reader := by
  have hmemory : Serves data 0 (ResourceReader.memory { data }) :=
    ResourceReader.serves_memory ⟨rfl, rfl⟩
  cases resource with
  | memory name stored =>
    cases h
    exact ⟨_, rfl, hmemory⟩
  | file name contents access =>
    have hcontents : contents.mapError Error.io = .ok data := h
    cases access with
    | mapped => exact ⟨_, by rw [reader, hcontents]; rfl, hmemory⟩
    | streamed pace =>
      have hstream : Serves data 0 ({ data, pace } : StreamReader) := ⟨rfl, rfl⟩
      refine ⟨.buffered (.ofReader BufferedReader.defaultCapacity { data, pace }), ?_,
        ResourceReader.serves_buffered (BufferedReader.serves_ofReader hstream (by decide) _)⟩
      rw [reader, hcontents]
      rfl
  | compressed name contents =>
    obtain ⟨stored, hstored, hinflated⟩ := Except.bind_eq_ok_iff.1 h
    exact ⟨_, by rw [reader, hstored, Except.ok_bind, hinflated]; rfl, hmemory⟩

end Resource

end Georef
