import Georef.Text.Encoding

/-!
# Reading numbers from text

A whole number is an optional plus sign and decimal digits. A number with a fraction is an optional
sign, digits with at most one point among them, and an optional exponent; the words for infinity
and for an undefined value are read in any letter case. Blanks are not allowed anywhere.
-/

namespace Georef.Decimal

/-- The value of a decimal digit. -/
def digit? (c : Char) : Option Nat :=
  if '0' ≤ c ∧ c ≤ '9' then some (c.toNat - 48) else none

/-- The digits at the start of a text as a number and their count, with the rest of the text. -/
def takeDigits (number count : Nat) : List Char → Nat × Nat × List Char
  | [] => (number, count, [])
  | c :: rest =>
    match digit? c with
    | some d => takeDigits (10 * number + d) (count + 1) rest
    | none => (number, count, c :: rest)

/-- The natural number that a text of digits holds. -/
def readDigits? (text : List Char) : Option Nat :=
  match takeDigits 0 0 text with
  | (number, count, []) => if count = 0 then none else some number
  | _ => none

/-- A whole number below `bound`, with an optional plus sign. -/
def readNat? (bound : Nat) (text : String) : Option Nat :=
  let digits :=
    match text.toList with
    | '+' :: rest => rest
    | chars => chars
  (readDigits? digits).filter (· < bound)

/-- A whole number of 32 bits. -/
def readUInt32? (text : String) : Option UInt32 :=
  (readNat? 0x100000000 text).map UInt32.ofNat

/-- Lower-case form of the letters of the alphabet. -/
def lowerAscii (text : List Char) : List Char :=
  text.map Char.toLower

/-- The double nearest to `number * 10 ^ power`. Numbers far outside the range of doubles are
settled by their size alone; `count` bounds the digits of the number. -/
def scale (number count : Nat) (power : Int) : Float :=
  if number = 0 then 0.0
  else if 400 < power then 1.0 / 0.0
  -- the number has at most `count` digits, so it is less than the least double
  else if (count : Int) + power < -400 then 0.0
  else if 0 ≤ power then Float.ofScientific (number * Nat.pow 10 power.toNat) false 0
  else Float.ofScientific number true (-power).toNat

/-- The exponent at the end of a number: none is zero. -/
def readExponent? : List Char → Option Int
  | [] => some 0
  | mark :: rest =>
    if mark = 'e' ∨ mark = 'E' then
      match rest with
      | '+' :: digits => (readDigits? digits).map Int.ofNat
      | '-' :: digits => (readDigits? digits).map fun n => -(n : Int)
      | digits => (readDigits? digits).map Int.ofNat
    else none

/-- The double of a number without a sign. -/
def readUnsigned? (text : List Char) : Option Float :=
  let word := lowerAscii text
  if word = ['n', 'a', 'n'] then some (0.0 / 0.0)
  else if word = ['i', 'n', 'f'] ∨ word = ['i', 'n', 'f', 'i', 'n', 'i', 't', 'y'] then
    some (1.0 / 0.0)
  else
    let (whole, wholeCount, afterWhole) := takeDigits 0 0 text
    let (number, count, rest) :=
      match afterWhole with
      | '.' :: fraction => takeDigits whole wholeCount fraction
      | other => (whole, wholeCount, other)
    if count = 0 then none
    else (readExponent? rest).map fun exponent =>
      -- every digit behind the point lowers the power by one
      scale number count (exponent - (count - wholeCount : Nat))

/-- The double nearest to the number in a text. -/
def readDouble? (text : String) : Option Float :=
  match text.toList with
  | '+' :: rest => readUnsigned? rest
  | '-' :: rest => (readUnsigned? rest).map fun x => -x
  | chars => readUnsigned? chars

end Georef.Decimal
