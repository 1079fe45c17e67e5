import Georef.Source.Reader

/-!
# Buffered reading

A buffered reader holds a window of its source in memory. Small reads are served from the window,
which is filled again when it is used up; a read of at least the window's capacity goes past it.
A move that stays inside the window, its end included, does not touch the source.

Moves to a distance from the end always go to the source. So do moves that leave the window; a
relative move whose target is out of count ends at the start of the source.

* `BufferedReader`: the window, the place in it, and the reader behind it.
* `BufferedReader.Synced`: the window holds the bytes of the source from `start` on, and the reader
  behind stands at the end of the window.
-/

namespace Georef

/-- A reader with a window over another reader. -/
structure BufferedReader (ρ : Type) where
  /-- The reader behind; it stands at the end of the window. -/
  inner : ρ
  /-- The most bytes the window holds; at least one. -/
  capacity : Nat
  /-- The bytes in the window. -/
  window : Bytes := #[]
  /-- How many bytes of the window have been read. -/
  used : Nat := 0
  /-- The position of the window in the source. -/
  start : Nat

namespace BufferedReader

variable {ρ : Type} [Reader ρ]

/-- The capacity of a window if none is asked for. -/
def defaultCapacity : Nat := 8192

/-- A buffered reader with an empty window at the current position of the reader behind. -/
def ofReader (capacity : Nat) (inner : ρ) : BufferedReader ρ :=
  match Reader.position inner with
  | .ok (start, inner) => { inner, capacity := max capacity 1, start }
  | .error _ => { inner, capacity := max capacity 1, start := 0 }

/-- The bytes in the window that have not been read. -/
def buffered (reader : BufferedReader ρ) : Nat :=
  reader.window.size - reader.used

/-- The position in the source. -/
def position (reader : BufferedReader ρ) : Nat :=
  reader.start + reader.used

/-- The reader with an empty window at a position. -/
def discard (position : Nat) (inner : ρ) (reader : BufferedReader ρ) : BufferedReader ρ :=
  { reader with inner, window := #[], used := 0, start := position }

/-- The reader with its window filled from behind its old end. -/
def fill (reader : BufferedReader ρ) : BufferedReader ρ :=
  let (window, inner) := Reader.read reader.capacity reader.inner
  { reader with inner, window, used := 0, start := reader.start + reader.window.size }

/-- At most `count` bytes from the window. -/
def take (count : Nat) (reader : BufferedReader ρ) : Bytes × BufferedReader ρ :=
  let chunk := reader.window.slice reader.used count
  (chunk, { reader with used := reader.used + chunk.size })

/-- At most `count` of the next bytes. -/
def read (count : Nat) (reader : BufferedReader ρ) : Bytes × BufferedReader ρ :=
  if reader.window.size ≤ reader.used then
    -- filling the window first would copy the bytes twice
    if reader.capacity ≤ count then
      let (chunk, inner) := Reader.read count reader.inner
      (chunk, reader.discard (reader.position + chunk.size) inner)
    else reader.fill.take count
  else reader.take count

/-- Moves the reader behind and drops the window. -/
def seekInner (target : SeekTarget) (reader : BufferedReader ρ) :
    Except IoFault (Nat × BufferedReader ρ) := do
  let (position, inner) ← Reader.seek target reader.inner
  return (position, reader.discard position inner)

/-- Moves inside the window if the position lies there, and else the reader behind. -/
def seekTo (position : Nat) (reader : BufferedReader ρ) :
    Except IoFault (Nat × BufferedReader ρ) :=
  if reader.start ≤ position ∧ position ≤ reader.start + reader.window.size then
    .ok (position, { reader with used := position - reader.start })
  else reader.seekInner (.fromStart position)

/-- Moves the reader. -/
def seek (target : SeekTarget) (reader : BufferedReader ρ) :
    Except IoFault (Nat × BufferedReader ρ) :=
  match target with
  | .fromStart offset => reader.seekTo offset
  | .fromCurrent delta =>
    match shiftPosition? reader.position delta with
    | some position => reader.seekTo position
    | none => reader.seekInner (.fromStart 0)
  | .fromEnd delta => reader.seekInner (.fromEnd delta)

instance : Reader (BufferedReader ρ) where
  read := read
  seek := seek

/-- The window holds bytes of a source with the contents `data`, and the reader behind stands at the
end of the window; `Stands` says what that means for it. -/
structure Synced (data : Bytes) (Stands : Nat → ρ → Prop) (reader : BufferedReader ρ) : Prop where
  window_eq : reader.window = data.slice reader.start reader.window.size
  used_le : reader.used ≤ reader.window.size
  inner_stands : Stands (reader.start + reader.window.size) reader.inner
  capacity_pos : 0 < reader.capacity

end BufferedReader

end Georef
