import Georef.Bytes

/-!
# UTF-8 and UTF-16 with replacement

Bytes and units that encode no character are read as U+FFFD. In UTF-8 one replacement stands for
the longest run of bytes that starts a character and cannot be continued; in UTF-16 for each
surrogate without its partner.

UTF-8 is read one byte at a time by a machine whose state is the character under way, so every byte
is looked at once, or twice where it breaks off a character and starts the next.
-/

namespace Georef.Text

/-- The character that stands for what cannot be read. -/
def replacement : Char := '\uFFFD'

/-! ## UTF-8 -/

/-- A character under way: the bits read so far, how many bytes are still to come, and the least
and greatest value of the next one. -/
structure Underway where
  bits : Nat
  missing : Nat
  low : Nat
  high : Nat

/-- What a byte between characters is. -/
inductive Lead where
  | complete (c : Char)
  | opens (state : Underway)
  | invalid

/-- The role of a byte that comes first. The narrower ranges of the second byte shut out overlong
forms, surrogates and numbers above the last code point. -/
def lead (byte : UInt8) : Lead :=
  let b := byte.toNat
  if b < 0x80 then .complete (Char.ofNat b)
  else if b < 0xC2 then .invalid
  else if b < 0xE0 then .opens ⟨b - 0xC0, 1, 0x80, 0xBF⟩
  else if b = 0xE0 then .opens ⟨0, 2, 0xA0, 0xBF⟩
  else if b = 0xED then .opens ⟨0xD, 2, 0x80, 0x9F⟩
  else if b < 0xF0 then .opens ⟨b - 0xE0, 2, 0x80, 0xBF⟩
  else if b = 0xF0 then .opens ⟨0, 3, 0x90, 0xBF⟩
  else if b < 0xF4 then .opens ⟨b - 0xF0, 3, 0x80, 0xBF⟩
  else if b = 0xF4 then .opens ⟨4, 3, 0x80, 0x8F⟩
  else .invalid

/-- The characters that bytes hold, given the character under way. -/
def readUtf8 : Option Underway → List UInt8 → List Char
  | none, [] => []
  | some _, [] => [replacement]
  | none, byte :: rest => begins byte rest
  | some state, byte :: rest =>
    let b := byte.toNat
    if state.low ≤ b ∧ b ≤ state.high then
      let bits := state.bits * 64 + b % 64
      if state.missing ≤ 1 then Char.ofNat bits :: readUtf8 none rest
      else readUtf8 (some ⟨bits, state.missing - 1, 0x80, 0xBF⟩) rest
    -- the byte that breaks off a character may start the next one
    else replacement :: begins byte rest
where
  /-- The characters from a byte that comes first. -/
  begins (byte : UInt8) (rest : List UInt8) : List Char :=
    match lead byte with
    | .complete c => c :: readUtf8 none rest
    | .opens state => readUtf8 (some state) rest
    | .invalid => replacement :: readUtf8 none rest

/-- The text of UTF-8 bytes; what encodes no character is replaced. -/
def ofUtf8 (bytes : List UInt8) : String :=
  String.ofList (readUtf8 none bytes)

/-- The text of UTF-8 bytes, if they encode one. -/
def ofUtf8? (bytes : Bytes) : Option String :=
  String.fromUTF8? ⟨bytes⟩

/-! ## UTF-16 -/

/-- The characters that 16-bit units hold. -/
def readUtf16 : List UInt16 → List Char
  | [] => []
  | unit :: rest =>
    let u := unit.toNat
    if u < 0xD800 ∨ 0xE000 ≤ u then Char.ofNat u :: readUtf16 rest
    else if 0xDC00 ≤ u then replacement :: readUtf16 rest
    else
      match rest with
      | [] => [replacement]
      | next :: tail =>
        let v := next.toNat
        if 0xDC00 ≤ v ∧ v < 0xE000 then
          Char.ofNat (0x10000 + (u - 0xD800) * 0x400 + (v - 0xDC00)) :: readUtf16 tail
        -- the unit behind a lone first half is read on its own
        else replacement :: readUtf16 (next :: tail)

/-- The text of UTF-16 units; a surrogate without its partner is replaced. -/
def ofUtf16 (units : List UInt16) : String :=
  String.ofList (readUtf16 units)

end Georef.Text
