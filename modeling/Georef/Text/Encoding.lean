import Georef.ByteOrder
import Georef.Text.Utf8

/-!
# Text fields of fixed length

A field holds text in one of four encodings and is often filled up with NUL characters or spaces.
Decoding never fails on what the bytes say; only UTF-16 can fail, on a field of odd length.

* `TextEncoding.decode?`: the text of the bytes.
* `Terminator.trim`: the text without what fills up the field, under one of three policies.
-/

namespace Georef

/-- The encoding of a text field. -/
inductive TextEncoding where
  /-- One byte a character; bytes from 128 on are replaced. -/
  | ascii
  /-- One byte a character, its code point. -/
  | latin1
  /-- UTF-8 with replacement. -/
  | utf8
  /-- UTF-16 with replacement, in the byte order of the file. -/
  | utf16
  deriving DecidableEq, Repr

/-- The text of bytes of which each is a code point. -/
def Text.ofLatin1 (bytes : List UInt8) : String :=
  String.ofList (bytes.map fun byte => Char.ofNat byte.toNat)

/-- The text of seven-bit bytes. -/
def Text.ofAscii (bytes : List UInt8) : String :=
  String.ofList (bytes.map fun byte =>
    if byte < 128 then Char.ofNat byte.toNat else Text.replacement)

/-- The text of the bytes; none for UTF-16 of odd length. -/
def TextEncoding.decode? (order : ByteOrder) (bytes : List UInt8) : TextEncoding → Option String
  | ascii => some (Text.ofAscii bytes)
  | latin1 => some (Text.ofLatin1 bytes)
  | utf8 => some (Text.ofUtf8 bytes)
  | utf16 =>
    if bytes.length % 2 = 0 then some (Text.ofUtf16 (order.units16 bytes)) else none

/-- What to do with the characters that fill up a field. -/
inductive Terminator where
  /-- Keep every character. -/
  | preserve
  /-- Drop NUL characters at the end. -/
  | trimNul
  /-- Drop NUL characters and spaces at the end. -/
  | trimPadding
  deriving DecidableEq, Repr, Inhabited

/-- The characters without those at the end that satisfy `p`. -/
def Text.trimEnd (p : Char → Bool) (text : String) : String :=
  String.ofList (text.toList.reverse.dropWhile p).reverse

namespace Terminator

/-- Whether a character is dropped at the end of a field. -/
def drops : Terminator → Char → Bool
  | preserve, _ => false
  | trimNul, c => c == '\x00'
  | trimPadding, c => c == '\x00' || c == ' '

/-- The name of a policy. -/
def name : Terminator → String
  | preserve => "preserve"
  | trimNul => "trim_nul"
  | trimPadding => "trim_padding"

/-- The policy of a name. -/
def ofName? (name : String) : Option Terminator :=
  [preserve, trimNul, trimPadding].find? fun policy => policy.name == name

/-- The text under the policy. -/
def trim (policy : Terminator) (text : String) : String :=
  Text.trimEnd policy.drops text

end Terminator

end Georef
