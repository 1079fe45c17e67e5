import Georef.Bytes
import Georef.PathName
import Georef.Text.Hexadecimal
import Georef.Text.Utf8

/-!
# Requests

A request names a method and a target, which is a path with an optional query, and may bring a form
of named parts. In the target, a percent sign and two hexadecimal digits stand for a byte; in a
query a plus sign stands for a space as well.

* `Request`, `Request.path`, `Request.query`: requests and the pieces of the target.
* `Request.queryField?`: the value of a field of the query.
-/

namespace Georef.Service

/-- A part of a form. -/
structure Part where
  name : String := ""
  fileName : Option String := none
  data : Bytes

/-- A request. -/
structure Request where
  method : String
  target : String
  /-- The parts of the form; none if the request brings no form. -/
  form : Option (List Part) := none

/-! ## Bytes in targets -/

/-- The bytes that a piece of a target stands for. -/
def percentDecode : List UInt8 → List UInt8
  | [] => []
  | [a] => [a]
  | [a, b] => [a, b]
  | a :: b :: c :: rest =>
    let digits := (Text.hexValue? (Char.ofNat b.toNat), Text.hexValue? (Char.ofNat c.toNat))
    match a == 0x25, digits with
    | true, (some high, some low) => UInt8.ofNat (16 * high + low) :: percentDecode rest
    | _, _ => a :: percentDecode (b :: c :: rest)

/-- The text of a piece of a path; none if its bytes are not UTF-8. -/
def pathText? (piece : String) : Option String :=
  Text.ofUtf8? (percentDecode (Bytes.ofText piece).toList).toArray

/-- The text of a piece of a query. -/
def queryText (piece : List Char) : String :=
  let spaced := String.ofList (piece.map fun c => if c = '+' then ' ' else c)
  Text.ofUtf8 (percentDecode (Bytes.ofText spaced).toList)

/-! ## Pieces of the target -/

namespace Request

/-- The characters of the target up to its fragment. -/
def address (request : Request) : List Char :=
  request.target.toList.takeWhile (· != '#')

/-- The path, in pieces between slashes. -/
def path (request : Request) : List String :=
  (splitOn '/' (request.address.takeWhile (· != '?'))).map String.ofList

/-- The names and values of the query. -/
def query (request : Request) : List (String × String) :=
  let text := (request.address.dropWhile (· != '?')).drop 1
  ((splitOn '&' text).filter fun piece => !piece.isEmpty).map fun piece =>
    (queryText (piece.takeWhile (· != '=')), queryText ((piece.dropWhile (· != '=')).drop 1))

/-- The value of a field of the query: none inside if the field is not there, and none at all if it
occurs more than once. -/
def queryField? (request : Request) (name : String) : Option (Option String) :=
  match request.query.filter fun field => field.1 == name with
  | [] => some none
  | [field] => some (some field.2)
  | _ => none

/-- The value of a field that has to be there once, as `read` understands it. -/
def required? {α : Type} (request : Request) (read : String → Option α) (name : String) :
    Option α := do
  read (← ← request.queryField? name)

/-- The value of a field that may be left out. -/
def optional? {α : Type} (request : Request) (read : String → Option α) (fallback : α)
    (name : String) : Option α := do
  match ← request.queryField? name with
  | some text => read text
  | none => some fallback

end Request

end Georef.Service
