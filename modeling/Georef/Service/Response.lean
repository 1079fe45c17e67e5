import Georef.Error
import Georef.Json.Document

/-!
# Responses

A response has a status and may carry a document or a table. A request that is refused tells why
only if it reached an operation.

* `Refusal`, `Refusal.status`: reasons to refuse a request, and their numbers.
* `Response`, `Response.ofOutcome`: responses, and that to the outcome of an operation.
-/

namespace Georef.Service

/-- What a response carries. -/
inductive Content where
  | document (value : Json.Document)
  | table (text : String)

/-- A response. -/
structure Response where
  status : Nat
  content : Option Content := none

/-- A reason not to answer a request. -/
inductive Refusal where
  /-- An operation failed. -/
  | failed (error : Error)
  /-- A form lacks the part that holds the file. -/
  | missingFile (part : String)
  /-- The request cannot be understood. -/
  | malformed
  | noSuchPath
  | noSuchMethod
  deriving DecidableEq, Repr

namespace Refusal

/-- The status of a failure. -/
def statusOf : Error → Nat
  | .unknownSystem _ => 404
  | .io _ => 500
  | .config _ => 500
  | _ => 422

/-- The status of a refusal. -/
def status : Refusal → Nat
  | failed error => statusOf error
  | missingFile _ => 400
  | malformed => 400
  | noSuchPath => 404
  | noSuchMethod => 405

/-- The text of a refusal; none before an operation was reached. -/
def message? : Refusal → Option String
  | failed error => some error.message
  | missingFile part => some s!"Missing {part} file"
  | _ => none

end Refusal

/-- The response to the outcome of an operation. -/
def Response.ofOutcome : Except Refusal Content → Response
  | .ok content => { status := 200, content := some content }
  | .error refusal =>
    { status := refusal.status
      content := refusal.message?.map fun text => .document (.object [("error", .text text)]) }

end Georef.Service
