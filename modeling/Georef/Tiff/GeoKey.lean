import Georef.Tiff.Directory

/-!
# Geographic keys

The key table of a directory is a list of shorts: a header of four, then four for each key: its
number, the tag where its value is stored, the number of values, and the value itself or where it
starts. Tag zero means that the value is in the key; shorts may be stored in the key table, doubles
and texts in entries of their own.

The header says how many keys there are; a table that ends earlier has as many as are complete. A
key whose value does not exist is left out.

* `GeoKey`, `GeoKeyValue`: keys and their values.
* `KeySource`: what the keys of a directory refer to.
* `GeoKey.table`: the keys of a directory.
-/

namespace Georef.Tiff

/-- The value of a key. -/
inductive GeoKeyValue (α : Type) where
  | shorts (values : List UInt16)
  | doubles (values : List α)
  | ascii (text : String)
  deriving DecidableEq, Repr

/-- A geographic key. -/
structure GeoKey (α : Type) where
  id : UInt16
  /-- The tag where the value is stored; zero if it is in the key. -/
  location : UInt16
  count : UInt16
  value : GeoKeyValue α
  deriving DecidableEq, Repr

/-- A key as it is stored. -/
structure RawKey where
  id : UInt16
  location : UInt16
  count : UInt16
  /-- The value or where it starts. -/
  offset : UInt16
  deriving DecidableEq, Repr

/-- Groups of four. -/
def RawKey.ofShorts : List UInt16 → List RawKey
  | id :: location :: count :: offset :: rest => ⟨id, location, count, offset⟩ :: ofShorts rest
  | _ => []

/-- The elements of a range, if all of them exist. -/
def range? {α : Type} (values : Array α) (start count : Nat) : Option (List α) :=
  if start + count ≤ values.size then some (values.extract start (start + count)).toList else none

/-- What the keys of a directory refer to. -/
structure KeySource (α : Type) where
  /-- The whole key table. -/
  shorts : Array UInt16
  doubles : Option (Array α)
  /-- The characters of the text. -/
  text : Option (Array Char)

/-- What keys refer to, given the key table. -/
def KeySource.ofDirectory {α : Type} [Scalar α] (directory : Directory) (shorts : List UInt16) :
    KeySource α where
  shorts := shorts.toArray
  doubles := ((directory.value? Tag.geoDoubleParams).bind Value.numbers?).map List.toArray
  text := ((directory.value? Tag.geoAsciiParams).bind Value.text?).map fun text =>
    text.toList.toArray

/-- Whether a character ends a text of a key. -/
def endsKeyText (c : Char) : Bool :=
  c == '|' || c == '\x00'

namespace GeoKey

variable {α : Type}

/-- The registered name of a key. -/
def name (key : GeoKey α) : String :=
  GeoKeyId.name key.id

/-- The first of the shorts of a key. -/
def short? (key : GeoKey α) : Option UInt16 :=
  match key.value with
  | .shorts values => values.head?
  | _ => none

/-- The text of a key, if it has one that is not empty. -/
def text? (key : GeoKey α) : Option String :=
  match key.value with
  | .ascii text => if text.isEmpty then none else some text
  | _ => none

/-- The value of a stored key. -/
def resolve? (source : KeySource α) (raw : RawKey) : Option (GeoKeyValue α) :=
  let start := raw.offset.toNat
  let count := raw.count.toNat
  -- in the key itself there is room for one value, whatever its count says
  if raw.location = 0 then some (.shorts [raw.offset])
  else if raw.location = Tag.geoKeyDirectory then (range? source.shorts start count).map .shorts
  else if raw.location = Tag.geoDoubleParams then
    (source.doubles.bind fun values => range? values start count).map .doubles
  else if raw.location = Tag.geoAsciiParams then
    (source.text.bind fun text => range? text start count).map fun part =>
      .ascii (Text.trimEnd endsKeyText (String.ofList part))
  else none

/-- The keys of a directory with the given key table. -/
def ofShorts [Scalar α] (directory : Directory) (shorts : List UInt16) :
    Except Error (List (GeoKey α)) :=
  match shorts with
  | _ :: _ :: _ :: declared :: rest =>
    let source := KeySource.ofDirectory directory shorts
    .ok <| ((RawKey.ofShorts rest).take declared.toNat).filterMap fun raw =>
      (resolve? source raw).map fun value =>
        { id := raw.id, location := raw.location, count := raw.count, value }
  | _ => .error (.format (.keyTableTooShort shorts.length))

/-- The keys of a directory. A key table of another type than SHORT is refused. -/
def table [Scalar α] (directory : Directory) : Except Error (List (GeoKey α)) :=
  match directory.value? Tag.geoKeyDirectory with
  | none => .ok []
  | some value =>
    match value.shorts? with
    | some shorts => ofShorts directory shorts
    | none => .error (.format .keyTableNotShort)

/-- A key in one line. -/
def describe [Scalar α] (key : GeoKey α) : String :=
  match key.value with
  | .shorts [value] => s!"{key.name} = {value.toNat}"
  | .shorts values =>
    let list := String.intercalate ", " (values.map fun value => toString value.toNat)
    s!"{key.name} = [{list}]"
  | .doubles values =>
    let list := String.intercalate ", "
      (values.map fun value => (Scalar.toDouble value).displayPrecise)
    s!"{key.name} = [{list}]"
  | .ascii text => s!"{key.name} = \"{text}\""

end GeoKey

instance {α : Type} [Scalar α] : Json.ToDocument (GeoKeyValue α) where
  document
    | .shorts values => .object [("kind", .text "shorts"), ("value", Json.document values)]
    | .doubles values =>
      .object [("kind", .text "doubles"), ("value", .list (values.map Json.ofScalar))]
    | .ascii text => .object [("kind", .text "ascii"), ("value", .text text)]

instance {α : Type} [Scalar α] : Json.ToDocument (GeoKey α) where
  document key := .object [
    ("id", Json.document key.id), ("location", Json.document key.location),
    ("count", Json.document key.count), ("value", Json.document key.value)]

end Georef.Tiff
