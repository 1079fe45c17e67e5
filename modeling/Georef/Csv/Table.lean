import Georef.Decimal.Reading
import Georef.Text.Hexadecimal
import Georef.Text.Utf8

/-!
# Tables of comma-separated values

Fields are separated by commas and records by line ends: a carriage return, a line feed, or both.
Empty lines do not count. A field may be put in quotes, inside of which commas and line ends are
plain characters and a quote is written twice; what follows the closing quote belongs to the field.
A byte order mark at the start is skipped.

The first record is the header. Every other record has to have as many fields as the header, and
all of them have to be UTF-8.

* `Csv.records`: the fields of each record.
* `Csv.Table`, `Csv.Table.ofBytes`: a header with its rows.
* `Csv.Table.pick`: the columns of a row by their names.
-/

namespace Georef.Csv

/-! ## Records -/

/-- Where the reading of a table stands. -/
inductive Place where
  | recordStart
  | fieldStart
  | inField
  | inQuotes
  /-- Behind a quote that may close the field or be the first of two. -/
  | afterQuote

/-- What was read so far, latest first. -/
structure Scan where
  place : Place := .recordStart
  field : List UInt8 := []
  fields : List (List UInt8) := []
  records : List (List (List UInt8)) := []

namespace Scan

def comma : UInt8 := 0x2C
def quote : UInt8 := 0x22

/-- Whether a byte ends a record. -/
def isLineEnd (byte : UInt8) : Bool :=
  byte == 0x0A || byte == 0x0D

def add (scan : Scan) (place : Place) (byte : UInt8) : Scan :=
  { scan with place, field := byte :: scan.field }

def endField (scan : Scan) : Scan :=
  { scan with place := .fieldStart, field := [], fields := scan.field.reverse :: scan.fields }

def endRecord (scan : Scan) : Scan :=
  let scan := scan.endField
  { scan with place := .recordStart, fields := [], records := scan.fields.reverse :: scan.records }

/-- A byte that is not inside quotes and does not open or close them. -/
def plain (scan : Scan) (byte : UInt8) : Scan :=
  if byte = comma then scan.endField
  else if isLineEnd byte then scan.endRecord
  else scan.add .inField byte

/-- The reading after one more byte. -/
def step (scan : Scan) (byte : UInt8) : Scan :=
  match scan.place with
  | .recordStart =>
    if isLineEnd byte then scan
    else if byte = quote then { scan with place := .inQuotes }
    else scan.plain byte
  | .fieldStart => if byte = quote then { scan with place := .inQuotes } else scan.plain byte
  | .inField => scan.plain byte
  | .inQuotes =>
    if byte = quote then { scan with place := .afterQuote } else scan.add .inQuotes byte
  -- a second quote stands for a quote; anything else goes on behind the closed ones
  | .afterQuote => if byte = quote then scan.add .inQuotes byte else scan.plain byte

/-- The records at the end of the input, which ends the last one. -/
def finish (scan : Scan) : List (List (List UInt8)) :=
  match scan.place with
  | .recordStart => scan.records.reverse
  | _ => scan.endRecord.records.reverse

end Scan

/-- The bytes behind a byte order mark, if there is one. -/
def skipMark : List UInt8 → List UInt8
  | 0xEF :: 0xBB :: 0xBF :: rest => rest
  | bytes => bytes

/-- The records of a table. -/
def records (bytes : Bytes) : List (List (List UInt8)) :=
  ((skipMark bytes.toList).foldl Scan.step {}).finish

/-! ## Tables -/

/-- A table. -/
structure Table where
  /-- The names of the columns; none if they cannot be read. -/
  header : Option (List String)
  /-- The rows; none for a row that cannot be read. -/
  rows : List (Option (List String))

/-- The texts of the fields of a record. -/
def texts? (record : List (List UInt8)) : Option (List String) :=
  record.mapM fun field => Text.ofUtf8? field.toArray

/-- The table that bytes hold. -/
def Table.ofBytes (bytes : Bytes) : Table :=
  match records bytes with
  | [] => { header := some [], rows := [] }
  | first :: rest =>
    { header := texts? first
      rows := rest.map fun record =>
        -- the number of fields is compared before their texts are read
        if record.length = first.length then texts? record else none }

/-- The values of the columns with the given names in a row; none for a column that the table does
not have. A column that occurs twice makes the row unreadable. If the names of the columns cannot
be read, the columns are taken in order. -/
def Table.pick (table : Table) (names : List String) (row : List String) :
    Option (List (Option String)) :=
  match table.header with
  | none => some ((List.range names.length).map fun place => row[place]?)
  | some header =>
    names.mapM fun name =>
      match (header.zip row).filter fun column => column.1 == name with
      | [] => some none
      | [column] => some (some column.2)
      | _ => none

/-! ## Fields -/

/-- A number of 32 bits, in decimal or, behind `0x`, in hexadecimal digits. -/
def uint32? (text : String) : Option UInt32 :=
  match text.toList with
  | '0' :: 'x' :: digits => (hexadecimal? digits).map UInt32.ofNat
  | _ => Decimal.readUInt32? text
where
  /-- The number of hexadecimal digits, if 32 bits hold it. -/
  hexadecimal? (digits : List Char) : Option Nat :=
    let digits :=
      match digits with
      | '+' :: rest => rest
      | other => other
    if digits.isEmpty then none
    else
      (digits.foldlM (fun number c => (Text.hexValue? c).map fun d => 16 * number + d) 0).filter
        (· < 0x100000000)

/-- An optional field: no column and an empty field are none. -/
def optional? {α : Type} (read : String → Option α) : Option String → Option (Option α)
  | none => some none
  | some text => if text.isEmpty then some none else (read text).map some

/-- A field that has to be there. -/
def required? {α : Type} (read : String → Option α) (field : Option String) : Option α :=
  field.bind read

end Georef.Csv
