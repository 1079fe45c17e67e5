import Georef.Text.Hexadecimal

/-!
# Reading JSON

A text is read as a tree, which tells apart what the readers of documents tell apart: a natural
number is kept and any other number is only known to be one, and a text that names half of a
surrogate pair has no value. The fields of an object keep their order, and a name may occur more
than once.

* `Json.Tree`, `Json.Tree.ofText?`: trees, and the tree of a text.
* `Json.Tree.text?`, `Json.Tree.natural?`, ...: what a tree holds.
-/

namespace Georef.Json

/-- What a JSON text holds. -/
inductive Tree where
  | null
  | flag (value : Bool)
  | natural (value : Nat)
  /-- A number with a sign, a fraction or an exponent. -/
  | otherNumber
  /-- A text; none if it names half of a surrogate pair. -/
  | text (value : Option String)
  | list (items : List Tree)
  | object (fields : List (Option String × Tree))

namespace Tree

/-! ## Texts -/

/-- The code unit of four hexadecimal digits. -/
def unit? (a b c d : Char) : Option Nat :=
  [a, b, c, d].foldlM
    (fun unit digit => (Text.hexValue? digit).map fun value => 16 * unit + value) 0

/-- Whether a code unit is the first half of a surrogate pair. -/
def isHighHalf (unit : Nat) : Bool :=
  0xD800 ≤ unit && unit < 0xDC00

/-- Whether a code unit is the second half of a surrogate pair. -/
def isLowHalf (unit : Nat) : Bool :=
  0xDC00 ≤ unit && unit < 0xE000

/-- The character of a surrogate pair. -/
def pairChar (high low : Nat) : Char :=
  Char.ofNat (0x10000 + (high - 0xD800) * 0x400 + (low - 0xDC00))

/-- The character that stands behind a backslash for another one. -/
def escaped? : Char → Option Char
  | '"' => some '"'
  | '\\' => some '\\'
  | '/' => some '/'
  | 'b' => some '\x08'
  | 'f' => some '\x0c'
  | 'n' => some '\n'
  | 'r' => some '\r'
  | 't' => some '\t'
  | _ => none

/-- What was read of a text. -/
structure TextScan where
  /-- The characters, latest first. -/
  done : List Char := []
  /-- The first half of a surrogate pair that was read last. -/
  half : Option Nat := none
  /-- Whether no half of a pair stood alone. -/
  whole : Bool := true

namespace TextScan

/-- The scan behind a character. -/
def add (scan : TextScan) (c : Char) : TextScan :=
  { done := c :: scan.done, whole := scan.whole && scan.half.isNone }

/-- The scan behind a code unit. -/
def addUnit (scan : TextScan) (unit : Nat) : TextScan :=
  if isLowHalf unit then
    match scan.half with
    | some high => { done := pairChar high unit :: scan.done, whole := scan.whole }
    | none => { scan with whole := false }
  else if isHighHalf unit then
    { scan with half := some unit, whole := scan.whole && scan.half.isNone }
  else scan.add (Char.ofNat unit)

/-- The text at its closing quote. -/
def finish (scan : TextScan) : Option String :=
  if scan.whole && scan.half.isNone then some (String.ofList scan.done.reverse) else none

end TextScan

/-- Reads a text up to its closing quote. -/
def readText (scan : TextScan) : List Char → Option (Option String × List Char)
  | [] => none
  | '"' :: rest => some (scan.finish, rest)
  | '\\' :: 'u' :: a :: b :: c :: d :: rest =>
    match unit? a b c d with
    | some unit => readText (scan.addUnit unit) rest
    | none => none
  | '\\' :: c :: rest =>
    match escaped? c with
    | some c => readText (scan.add c) rest
    | none => none
  | c :: rest => if c < ' ' then none else readText (scan.add c) rest

/-! ## Numbers -/

/-- The number of decimal digits. -/
def decimal (digits : List Char) : Nat :=
  digits.foldl (fun number c => 10 * number + (c.toNat - 48)) 0

/-- Skips a part of a number that takes at least one digit. -/
def skipDigits (chars : List Char) : Option (List Char) :=
  match chars.span Char.isDigit with
  | ([], _) => none
  | (_, rest) => some rest

/-- Skips a fraction, and tells whether there is one. -/
def skipFraction : List Char → Option (Bool × List Char)
  | '.' :: rest => (skipDigits rest).map fun rest => (true, rest)
  | chars => some (false, chars)

/-- Skips an exponent, and tells whether there is one. -/
def skipExponent : List Char → Option (Bool × List Char)
  | mark :: rest =>
    if mark = 'e' ∨ mark = 'E' then
      let digits :=
        match rest with
        | '+' :: digits => digits
        | '-' :: digits => digits
        | digits => digits
      (skipDigits digits).map fun rest => (true, rest)
    else some (false, mark :: rest)
  | [] => some (false, [])

/-- Reads a number. -/
def readNumber (chars : List Char) : Option (Tree × List Char) := do
  let (negative, chars) :=
    match chars with
    | '-' :: rest => (true, rest)
    | _ => (false, chars)
  let (whole, chars) := chars.span Char.isDigit
  -- a zero in front of other digits is not allowed
  if whole.isEmpty || (whole.head? == some '0' && whole.length != 1) then none
  let (hasFraction, chars) ← skipFraction chars
  let (hasExponent, chars) ← skipExponent chars
  return (if negative || hasFraction || hasExponent then .otherNumber
    else .natural (decimal whole), chars)

/-! ## Trees -/

/-- The text behind blank characters. -/
def skipBlanks (chars : List Char) : List Char :=
  chars.dropWhile fun c => c == ' ' || c == '\n' || c == '\t' || c == '\r'

mutual

/-- Reads a tree. -/
def read : (fuel : Nat) → List Char → Option (Tree × List Char)
  | 0, _ => none
  | fuel + 1, chars =>
    match skipBlanks chars with
    | '\x7b' :: rest =>
      match skipBlanks rest with
      | '\x7d' :: rest => some (.object [], rest)
      | _ => readFields fuel [] rest
    | '[' :: rest =>
      match skipBlanks rest with
      | ']' :: rest => some (.list [], rest)
      | _ => readItems fuel [] rest
    | '"' :: rest => (readText {} rest).map fun (value, rest) => (.text value, rest)
    | 'n' :: 'u' :: 'l' :: 'l' :: rest => some (.null, rest)
    | 't' :: 'r' :: 'u' :: 'e' :: rest => some (.flag true, rest)
    | 'f' :: 'a' :: 'l' :: 's' :: 'e' :: rest => some (.flag false, rest)
    | rest => readNumber rest

/-- Reads the items of a list up to its closing bracket; `done` are those so far, latest first. -/
def readItems : (fuel : Nat) → (done : List Tree) → List Char → Option (Tree × List Char)
  | 0, _, _ => none
  | fuel + 1, done, chars =>
    match read fuel chars with
    | none => none
    | some (item, rest) =>
      match skipBlanks rest with
      | ',' :: rest => readItems fuel (item :: done) rest
      | ']' :: rest => some (.list (item :: done).reverse, rest)
      | _ => none

/-- Reads the fields of an object up to its closing brace; `done` are those so far, latest first. -/
def readFields : (fuel : Nat) → (done : List (Option String × Tree)) → List Char →
    Option (Tree × List Char)
  | 0, _, _ => none
  | fuel + 1, done, chars =>
    match skipBlanks chars with
    | '"' :: rest =>
      match readText {} rest with
      | none => none
      | some (name, rest) =>
        match skipBlanks rest with
        | ':' :: rest =>
          match read fuel rest with
          | none => none
          | some (value, rest) =>
            match skipBlanks rest with
            | ',' :: rest => readFields fuel ((name, value) :: done) rest
            | '\x7d' :: rest => some (.object ((name, value) :: done).reverse, rest)
            | _ => none
        | _ => none
    | _ => none

end

/-- The tree of a text. A tree takes at most two steps for each character. -/
def ofText? (source : String) : Option Tree :=
  let chars := source.toList
  match read (2 * chars.length + 2) chars with
  | some (tree, rest) => if (skipBlanks rest).isEmpty then some tree else none
  | none => none

/-! ## What a tree holds -/

/-- The flag of a tree. -/
def flag? : Tree → Option Bool
  | flag value => some value
  | _ => none

/-- The natural number below `bound` of a tree. -/
def natural? (bound : Nat) : Tree → Option Nat
  | natural value => if value < bound then some value else none
  | _ => none

/-- The text of a tree. -/
def text? : Tree → Option String
  | text value => value
  | _ => none

/-- The texts of a list. -/
def texts? : Tree → Option (List String)
  | list items => items.mapM text?
  | _ => none

/-- The text of a tree; null is none. -/
def optionalText? : Tree → Option (Option String)
  | null => some none
  | tree => (text? tree).map some

/-- The name of a choice: a text, or an object with that name as its only field and null in it. -/
def choice? : Tree → Option String
  | object [(name, null)] => name
  | tree => text? tree

end Tree

end Georef.Json
