import Georef.Json.Document
import Georef.Source.Cursor

/-!
# Field types and values

A directory entry declares the type of its values. Sixteen types are known; an entry of any other
type keeps the bytes it was found with.

* `ElementType`, `FieldType`: the known types, and all type codes.
* `Value`: the values of an entry, with views as text and as numbers of different kinds.
* `Value.load`: reads a number of values of a known type.
-/

namespace Georef.Tiff

/-! ## Types -/

/-- A known type of values. -/
inductive ElementType where
  | byte
  | ascii
  | short
  | long
  | rational
  | signedByte
  | undefined
  | signedShort
  | signedLong
  | signedRational
  | float
  | double
  | ifd
  | long8
  | signedLong8
  | ifd8
  deriving DecidableEq, Repr

/-- What is fixed about a type: its code, its width in bytes and its name. -/
structure ElementFacts where
  code : UInt16
  width : Nat
  name : String
  /-- The name in documents. -/
  label : String

namespace ElementType

/-- Every known type. -/
def all : List ElementType :=
  [byte, ascii, short, long, rational, signedByte, undefined, signedShort, signedLong,
    signedRational, float, double, ifd, long8, signedLong8, ifd8]

/-- The facts about a type. -/
def facts : ElementType → ElementFacts
  | byte => ⟨1, 1, "BYTE", "Byte"⟩
  | ascii => ⟨2, 1, "ASCII", "Ascii"⟩
  | short => ⟨3, 2, "SHORT", "Short"⟩
  | long => ⟨4, 4, "LONG", "Long"⟩
  | rational => ⟨5, 8, "RATIONAL", "Rational"⟩
  | signedByte => ⟨6, 1, "SBYTE", "SByte"⟩
  | undefined => ⟨7, 1, "UNDEFINED", "Undefined"⟩
  | signedShort => ⟨8, 2, "SSHORT", "SShort"⟩
  | signedLong => ⟨9, 4, "SLONG", "SLong"⟩
  | signedRational => ⟨10, 8, "SRATIONAL", "SRational"⟩
  | float => ⟨11, 4, "FLOAT", "Float"⟩
  | double => ⟨12, 8, "DOUBLE", "Double"⟩
  | ifd => ⟨13, 4, "IFD", "Ifd"⟩
  | long8 => ⟨16, 8, "LONG8", "Long8"⟩
  | signedLong8 => ⟨17, 8, "SLONG8", "SLong8"⟩
  | ifd8 => ⟨18, 8, "IFD8", "Ifd8"⟩

/-- The bytes that one value takes. -/
def width (type : ElementType) : Nat := type.facts.width

/-- The known type with a given code. -/
def ofCode? (code : UInt16) : Option ElementType :=
  all.find? fun type => type.facts.code == code

end ElementType

/-- The type of an entry. -/
inductive FieldType where
  | known (type : ElementType)
  | unknown (code : UInt16)
  deriving DecidableEq, Repr

namespace FieldType

/-- The type that a code stands for. -/
def ofCode (code : UInt16) : FieldType :=
  match ElementType.ofCode? code with
  | some type => known type
  | none => unknown code

/-- The code of a type. -/
def code : FieldType → UInt16
  | known type => type.facts.code
  | unknown code => code

/-- The bytes that one value takes; not known for unknown types. -/
def width? : FieldType → Option Nat
  | known type => some type.width
  | unknown _ => none

/-- The name of a type. -/
def name : FieldType → String
  | known type => type.facts.name
  | unknown _ => "UNKNOWN"

instance : Json.ToDocument FieldType where
  document
    | known type => .text type.facts.label
    | unknown code => .object [("Unknown", Json.document code)]

end FieldType

/-! ## Values -/

/-- The values of an entry. -/
inductive Value where
  | bytes (values : List UInt8)
  /-- A text with one character for each byte. -/
  | ascii (text : String)
  | shorts (values : List UInt16)
  | longs (values : List UInt32)
  | rationals (values : List (Fraction UInt32))
  | signedBytes (values : List Int8)
  | undefined (values : List UInt8)
  | signedShorts (values : List Int16)
  | signedLongs (values : List Int32)
  | signedRationals (values : List (Fraction Int32))
  | floats (values : List Binary32)
  | doubles (values : List Binary64)
  /-- Positions of other directories. -/
  | offsets (values : List UInt64)
  | long8s (values : List UInt64)
  | signedLong8s (values : List Int64)
  /-- The bytes of an entry of unknown type. -/
  | raw (code : UInt16) (bytes : List UInt8)
  deriving DecidableEq, Repr

namespace Value

/-- The number of values: characters of a text, bytes of unknown type. -/
def length : Value → Nat
  | bytes values | undefined values => values.length
  | ascii text => text.length
  | shorts values => values.length
  | longs values => values.length
  | rationals values => values.length
  | signedBytes values => values.length
  | signedShorts values => values.length
  | signedLongs values => values.length
  | signedRationals values => values.length
  | floats values => values.length
  | doubles values => values.length
  | offsets values | long8s values => values.length
  | signedLong8s values => values.length
  | raw _ stored => stored.length

/-- Whether the values are of unknown type. -/
def isRaw : Value → Bool
  | raw .. => true
  | _ => false

/-- A text as it is stored. -/
def text? : Value → Option String
  | ascii text => some text
  | _ => none

/-- A text without NUL characters at its end. -/
def trimmedText? (value : Value) : Option String :=
  value.text?.map Terminator.trimNul.trim

/-- Values of type SHORT. -/
def shorts? : Value → Option (List UInt16)
  | shorts values => some values
  | _ => none

/-- Values of any unsigned type. -/
def naturals? : Value → Option (List UInt64)
  | bytes values => some (values.map UInt8.toUInt64)
  | shorts values => some (values.map UInt16.toUInt64)
  | longs values => some (values.map UInt32.toUInt64)
  | offsets values | long8s values => some values
  | _ => none

/-- The first value of an unsigned type. -/
def natural? (value : Value) : Option UInt64 :=
  value.naturals?.bind List.head?

/-- Values to compute with; a fraction with denominator zero is undefined. -/
def numbers? {α : Type} [Scalar α] : Value → Option (List α)
  | doubles values => some (values.map Scalar.ofDouble)
  | floats values => some (values.map Scalar.ofSingle)
  | rationals values => some (values.map fun x => x.unsigned?.getD Scalar.undefined)
  | signedRationals values => some (values.map fun x => x.signed?.getD Scalar.undefined)
  | signedShorts values => some (values.map fun x => Scalar.ofInt x.toInt)
  | signedLongs values => some (values.map fun x => Scalar.ofInt x.toInt)
  | other => other.naturals?.map fun values => values.map fun x => Scalar.ofNat x.toNat

/-- The next values of a known type, as many as are asked for. -/
def load {ρ : Type} [Reader ρ] (count : Nat) (policy : Terminator) :
    ElementType → Cursor.Action ρ Value
  | .byte => return bytes (← Cursor.bytes count).toList
  | .undefined => return undefined (← Cursor.bytes count).toList
  | .ascii => return ascii (← Cursor.text count .latin1 policy)
  | .signedByte => return signedBytes (← Cursor.times count (Cursor.next Int8))
  | .short => return shorts (← Cursor.times count (Cursor.next UInt16))
  | .signedShort => return signedShorts (← Cursor.times count (Cursor.next Int16))
  | .long => return longs (← Cursor.times count (Cursor.next UInt32))
  | .signedLong => return signedLongs (← Cursor.times count (Cursor.next Int32))
  | .rational => return rationals (← Cursor.times count (Cursor.next (Fraction UInt32)))
  | .signedRational => return signedRationals (← Cursor.times count (Cursor.next (Fraction Int32)))
  | .float => return floats (← Cursor.times count (Cursor.next Binary32))
  | .double => return doubles (← Cursor.times count (Cursor.next Binary64))
  | .ifd => do
    let values ← Cursor.times count (Cursor.next UInt32)
    return offsets (values.map UInt32.toUInt64)
  | .ifd8 => return offsets (← Cursor.times count (Cursor.next UInt64))
  | .long8 => return long8s (← Cursor.times count (Cursor.next UInt64))
  | .signedLong8 => return signedLong8s (← Cursor.times count (Cursor.next Int64))

/-- The next values of a type; unknown types cannot be read. -/
def loadField {ρ : Type} [Reader ρ] (type : FieldType) (count : Nat) (policy : Terminator) :
    Cursor.Action ρ Value :=
  match type with
  | .known type => load count policy type
  | .unknown code => throw (.unsupported (.fieldType code))

/-- The kind and the values in a document. -/
def parts : Value → String × Json.Document
  | bytes values => ("bytes", Json.document values)
  | ascii text => ("ascii", Json.document text)
  | shorts values => ("shorts", Json.document values)
  | longs values => ("longs", Json.document values)
  | rationals values => ("rationals", Json.document values)
  | signedBytes values => ("s_bytes", Json.document values)
  | undefined values => ("undefined", Json.document values)
  | signedShorts values => ("s_shorts", Json.document values)
  | signedLongs values => ("s_longs", Json.document values)
  | signedRationals values => ("s_rationals", Json.document values)
  | floats values => ("floats", Json.document values)
  | doubles values => ("doubles", Json.document values)
  | offsets values => ("offsets", Json.document values)
  | long8s values => ("long8s", Json.document values)
  | signedLong8s values => ("s_long8s", Json.document values)
  | raw code stored =>
    ("raw", .object [("field_type", Json.document code), ("bytes", Json.document stored)])

instance : Json.ToDocument Value where
  document value := .object [("kind", .text value.parts.1), ("values", value.parts.2)]

end Value

end Georef.Tiff
