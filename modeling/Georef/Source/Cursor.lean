import Georef.Scalar
import Georef.Source.Reader
import Georef.Text.Encoding

/-!
# Cursors

A cursor reads typed values from a source, one after the other, in a byte order that may change on
the way. Every read is checked against the length of the source first: a read that does not fit
fails with the number of bytes needed and the number left, and moves nothing.

Actions on a cursor are in the monad `Cursor.Action`. Its state outlives a failure, so a failing
action leaves the cursor where the failure found it.

* `Cursor.next`: the next value of any fixed-width type.
* `Cursor.bytes`, `Cursor.text`: fields of a given length.
* `Cursor.seek`, `Cursor.skip`, `Cursor.atOffset`, `Cursor.peek`: moving, and reading elsewhere.
-/

namespace Georef

/-- The text of bytes; UTF-16 of odd length is refused. -/
def TextEncoding.decode (encoding : TextEncoding) (order : ByteOrder) (bytes : List UInt8) :
    Except Error String :=
  match encoding.decode? order bytes with
  | some text => .ok text
  | none => .error (.format (.oddUtf16 bytes.length))

/-- A place in a source, with the byte order to read in. -/
structure Cursor (ρ : Type) where
  reader : ρ
  order : ByteOrder
  position : Nat
  /-- The length of the source. -/
  length : Nat

namespace Cursor

variable {ρ : Type} [Reader ρ] {α : Type}

/-- Actions that may fail and that move a cursor. -/
abbrev Action (ρ α : Type) : Type :=
  ExceptT Error (StateM (Cursor ρ)) α

/-- A cursor at the current position of a reader. -/
def ofReader (order : ByteOrder) (reader : ρ) : Except Error (Cursor ρ) :=
  let measured : Except IoFault (Cursor ρ) := do
    let (length, reader) ← Reader.sourceLength reader
    let (position, reader) ← Reader.position reader
    return { reader, order, position, length }
  measured.mapError .io

/-- The outcome of an action and the cursor after it. -/
def run (action : Action ρ α) (cursor : Cursor ρ) : Except Error α × Cursor ρ :=
  (ExceptT.run action).run cursor

/-- The bytes between the position and the end of the source. -/
def remaining (cursor : Cursor ρ) : Nat :=
  cursor.length - cursor.position

/-- An action on the reader. -/
def onReader (action : ρ → Except IoFault α × ρ) : Action ρ α := do
  let cursor ← get
  match action cursor.reader with
  | (.ok result, reader) =>
    set { cursor with reader }
    return result
  -- the reader may have moved before it failed
  | (.error fault, reader) =>
    set { cursor with reader }
    throw (.io fault)

/-- The current position. -/
def here : Action ρ Nat := do
  return (← get).position

/-- Reads in another byte order from here on. -/
def setOrder (order : ByteOrder) : Action ρ Unit :=
  modify fun cursor => { cursor with order }

/-- Fails unless `needed` bytes are left. -/
def ensure (needed : Nat) : Action ρ Unit := do
  let cursor ← get
  if cursor.remaining < needed then
    throw (.endOfData cursor.position needed cursor.remaining)

/-- Fails unless the source has `needed` bytes from `offset` on. -/
def ensureRange (offset needed : Nat) : Action ρ Unit := do
  let cursor ← get
  -- an offset past the end is refused even where nothing is needed
  let available := cursor.length - offset
  if cursor.length < offset ∨ available < needed then
    throw (.endOfData offset needed available)

/-- Moves to a position; the end of the source is the last one allowed. -/
def seek (offset : Nat) : Action ρ Unit := do
  let cursor ← get
  if cursor.length < offset then throw (.badOffset offset)
  match Reader.seek (.fromStart offset) cursor.reader with
  | .ok (_, reader) => set { cursor with reader, position := offset }
  | .error fault => throw (.io fault)

/-- Moves forward. -/
def skip (count : Nat) : Action ρ Unit := do
  ensure count
  seek ((← here) + count)

/-- The next `count` bytes. -/
def bytes (count : Nat) : Action ρ Bytes := do
  ensure count
  let chunk ← onReader (Reader.readExact count)
  modify fun cursor => { cursor with position := cursor.position + count }
  return chunk

/-- The next value of a fixed-width type. -/
def next (α : Type) [FixedWidth α] : Action ρ α := do
  let chunk ← bytes (FixedWidth.width α)
  return FixedWidth.decode (← get).order chunk.toList

/-- Goes to a position, does something there, whether it succeeds or not comes back, and ends as
that action ended. -/
def atOffset (offset : Nat) (action : Action ρ α) : Action ρ α := do
  let saved ← here
  seek offset
  -- the outcome is kept as a value, so that a failure does not skip the way back
  let outcome ← ExceptT.lift (ExceptT.run action)
  seek saved
  MonadExcept.ofExcept outcome

/-- The next `count` bytes, without moving. -/
def peek (count : Nat) : Action ρ Bytes := do
  let saved ← here
  let chunk ← bytes count
  seek saved
  return chunk

/-- A text field of `count` bytes. -/
def text (count : Nat) (encoding : TextEncoding) (policy : Terminator) : Action ρ String := do
  let chunk ← bytes count
  return policy.trim (← MonadExcept.ofExcept (encoding.decode (← get).order chunk.toList))

/-- The results of doing an action `count` times, after those in `done`. -/
def repeatOnto (action : Action ρ α) : (count : Nat) → (done : Array α) → Action ρ (Array α)
  | 0, done => return done
  | count + 1, done => do
    let result ← action
    repeatOnto action count (done.push result)

/-- The results of doing an action `count` times. -/
def times (count : Nat) (action : Action ρ α) : Action ρ (List α) := do
  return (← repeatOnto action count #[]).toList

end Cursor

/-! ## Stored numbers to compute with -/

/-- The value of an unsigned fraction; none if the denominator is zero. -/
def Fraction.unsigned? {α : Type} [Scalar α] (x : Fraction UInt32) : Option α :=
  if x.denominator = 0 then none
  else some (Scalar.ofNat x.numerator.toNat / Scalar.ofNat x.denominator.toNat)

/-- The value of a signed fraction; none if the denominator is zero. -/
def Fraction.signed? {α : Type} [Scalar α] (x : Fraction Int32) : Option α :=
  if x.denominator = 0 then none
  else some (Scalar.ofInt x.numerator.toInt / Scalar.ofInt x.denominator.toInt)

/-- The value of a fixed-point number. -/
def Fixed16.value {α : Type} [Scalar α] (x : Fixed16) : α :=
  Scalar.ofInt x.parts.toInt / Scalar.ofNat 65536

end Georef
