import Georef.Service.Request
import Georef.Service.Response
import Georef.Service.State
import Georef.Shift.Batch
import Georef.Text.Blank
import Georef.Tiff.Image

/-!
# Routes

The paths that a service answers, with the operation behind each of them.

* `Route`, `Route.ofPath?`: the operations, and the one at a path.
* `Service.answer`: the outcome of an operation.
* `Service.respond`: the response to a request.
-/

namespace Georef

namespace Service

/-! ## Paths -/

/-- An operation of the service. -/
inductive Route where
  /-- The compound system of two systems. -/
  | compound
  /-- The system of an identifier. -/
  | system (id : String)
  /-- The shift of a point. -/
  | shift
  /-- The shift of a table of points. -/
  | batch
  /-- The directories of a file. -/
  | directory
  deriving DecidableEq, Repr

/-- The operation at a path. -/
def Route.ofPath? : List String → Option Route
  | ["", "api", "crs", "compound"] => some .compound
  | ["", "api", "crs", id] => if id.isEmpty then none else some (.system id)
  | ["", "api", "shift"] => some .shift
  | ["", "api", "shift", "batch"] => some .batch
  | ["", "api", "directory"] => some .directory
  | _ => none

/-- The method of an operation. -/
def Route.method : Route → String
  | batch => "POST"
  | directory => "POST"
  | _ => "GET"

/-! ## Forms -/

/-- The file of a form, and the flag that may stand beside it. -/
structure Upload where
  data : Bytes
  fileName : Option String
  inverse : Bool

/-- The text of two-byte units; a byte left over at the end is replaced. -/
def unitText (order : ByteOrder) (bytes : List UInt8) : String :=
  let text := Text.ofUtf16 (order.units16 bytes)
  if bytes.length % 2 = 0 then text else text.push Text.replacement

/-- The text of a part; a mark at its start tells how it is encoded. -/
def partText (data : Bytes) : String :=
  match data.toList with
  | 0xEF :: 0xBB :: 0xBF :: rest => Text.ofUtf8 rest
  | 0xFF :: 0xFE :: rest => unitText .little rest
  | 0xFE :: 0xFF :: rest => unitText .big rest
  | bytes => Text.ofUtf8 bytes

/-- Whether a text asks for the inverse. -/
def asksInverse (text : String) : Bool :=
  ["1", "true", "yes"].contains (Text.trim text)

/-- The upload of a form, where the file is in a part of the given name. The last part of a name
counts. -/
def uploadOf (name : String) (form : List Part) : Except Refusal Upload :=
  let last (key : String) := (form.filter fun part => part.name == key).getLast?
  match last name with
  | none => .error (.missingFile name)
  | some file => .ok {
      data := file.data
      fileName := file.fileName
      inverse := ((last "inverse").map fun part => asksInverse (partText part.data)).getD false }

end Service

namespace Service

variable {α : Type} [Scalar α]

/-! ## Operations -/

/-- The outcome of an operation of the library. -/
def lift {β : Type} (outcome : Except Error β) : Except Refusal β :=
  outcome.mapError .failed

/-- A value that was read from a request. -/
def understood {β : Type} (value : Option β) : Except Refusal β :=
  value.elim (.error .malformed) .ok

/-- The shift of the service. -/
def configuredShift (service : Service α) : Except Refusal (GridShift α) :=
  service.shift.elim (.error (.failed (.config .noGrids))) .ok

/-- Answers with a reference system. -/
def systemContent (system : Crs.Resolved) : Content :=
  .document (.object [("crs", Json.document system)])

/-- The system of an identifier. -/
def answerSystem (service : Service α) (id : String) : Except Refusal Content := do
  let id ← understood ((pathText? id).bind Decimal.readUInt32?)
  return systemContent (← lift (service.registry.resolve id))

/-- The compound system of the two systems that the query names. -/
def answerCompound (service : Service α) (request : Request) : Except Refusal Content := do
  let horizontal ← understood (request.required? Decimal.readUInt32? "horizontal")
  let vertical ← understood (request.required? Decimal.readUInt32? "vertical")
  return systemContent (.compound (← lift (service.registry.getCompound { horizontal, vertical })))

/-- The words for flags. -/
def flag? : String → Option Bool
  | "true" => some true
  | "false" => some false
  | _ => none

/-- A point after a shift, with the shift between the two datums, which is that at the point of the
source datum: the given point, or the one that an inverse shift leads to. -/
structure ShiftAnswer (α : Type) where
  point : Point α
  shifted : Bool
  value : Option (GridFile.ShiftValue α)
  deriving DecidableEq, Repr

/-- The answer for a point. -/
def ShiftAnswer.ofPoint (shift : GridShift α) (inverse : Bool) (point : Point α) :
    ShiftAnswer α :=
  if inverse then
    match shift.inverse? point with
    | some reached => { point := reached, shifted := true, value := shift.value? reached }
    | none => { point, shifted := false, value := none }
  else
    match shift.forward? point with
    | some reached => { point := reached, shifted := true, value := shift.value? point }
    | none => { point, shifted := false, value := shift.value? point }

instance : Json.ToDocument (ShiftAnswer α) where
  document answer := .object [
    ("latitude", Json.ofScalar answer.point.y),
    ("longitude", Json.ofScalar answer.point.x),
    ("shifted", .bool answer.shifted),
    ("latitude_shift_arcsec",
      Json.document (answer.value.map fun value => Json.ofScalar value.lat)),
    ("longitude_shift_arcsec",
      Json.document (answer.value.map fun value => Json.ofScalar value.lon))]

/-- The shift of the point that the query gives. -/
def answerShift (service : Service α) (request : Request) : Except Refusal Content := do
  let y ← understood (request.required? NamedPoint.coordinate? "latitude")
  let x ← understood (request.required? NamedPoint.coordinate? "longitude")
  let inverse ← understood (request.optional? flag? false "inverse")
  let shift ← service.configuredShift
  return .document (Json.document (ShiftAnswer.ofPoint shift inverse ({ x, y } : Point α)))

/-- The shift of the points in a form. -/
def answerBatch (service : Service α) (request : Request) : Except Refusal Content := do
  -- a form that cannot be read is reported before missing grid files are
  let form ← understood request.form
  let shift ← service.configuredShift
  let upload ← uploadOf "csv" form
  let shift := if upload.inverse then shift.reversed else shift
  return .table (← lift (Batch.ofBytes shift upload.data)).text

/-- The name of a file that comes without one. -/
def unnamedImage : String := "upload.tif"

/-- The directories of the file in a form. -/
def answerDirectory (service : Service α) (request : Request) : Except Refusal Content := do
  let form ← understood request.form
  let upload ← uploadOf "tiff" form
  let resource := Resource.memory (upload.fileName.getD unnamedImage) upload.data
  let file ← lift (Tiff.OpenTiff.ofResource service.terminator resource)
  let tiff ← lift (file.run Tiff.Header.chain).1
  let image : Tiff.Image α ← lift (Tiff.Image.ofResource service.terminator resource)
  let system := image.reference.bind fun reference =>
    (reference.resolve service.registry).toOption
  return .document (.object [
    ("name", .text resource.name),
    ("byte_order", .text tiff.order.label),
    ("big_tiff", .bool (tiff.layout == .large)),
    ("dimensions", Json.document image.size),
    ("data_type", Json.document image.sampleType),
    ("directories", Json.document tiff.directories),
    ("geo", Json.document image.reference),
    ("extent", Json.document image.extent?),
    ("crs", Json.document system)])

/-! ## Responses -/

/-- The outcome of an operation for a request. -/
def answer (service : Service α) (request : Request) : Route → Except Refusal Content
  | .compound => service.answerCompound request
  | .system id => service.answerSystem id
  | .shift => service.answerShift request
  | .batch => service.answerBatch request
  | .directory => service.answerDirectory request

/-- The response to a request. Asking for the options succeeds anywhere, and asking for the head of
an answer gives the answer without its content. -/
def respond (service : Service α) (request : Request) : Response :=
  if request.method = "OPTIONS" then { status := 200 }
  else
    match Route.ofPath? request.path with
    | none => .ofOutcome (.error .noSuchPath)
    | some route =>
      if request.method = route.method then .ofOutcome (service.answer request route)
      -- the answer is worked out all the same, since its status is sent
      else if request.method = "HEAD" ∧ route.method = "GET" then
        { Response.ofOutcome (service.answer request route) with content := none }
      else .ofOutcome (.error .noSuchMethod)

end Service

end Georef
