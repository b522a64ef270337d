import SearchOperator.Error
import SearchOperator.Json.Comparison
import SearchOperator.Json.Document
import SearchOperator.Text.Blank

/-!
# Operations

An operation declares a document that an API path of a cluster must at least hold. A blank body
stands for the empty object.
-/

namespace SearchOperator

/-- A declared setting: a path, and the document it must at least hold, as text. -/
structure Operation where
  url : String
  body : String
deriving DecidableEq, Repr

namespace Operation

def emptyObject : String := "\x7b\x7d"

def desired (op : Operation) : Except Error Json :=
  if Text.isBlankText op.body then .ok (.object [])
  else
    match Json.ofText op.body with
    | .ok document => .ok document
    | .error fault =>
      let reason := fault.text (Json.bytesOf op.body)
      .error (.serialization ("invalid body for " ++ op.url ++ ": " ++ reason)
        (some "ConfigOperation"))

/-- The bytes to send with a write. -/
def desiredBytes (op : Operation) : Bytes :=
  Json.bytesOf (if Text.isBlankText op.body then emptyObject else op.body)

end Operation

/-- How an observed body relates to a desired one. What does not parse never matches; a desired
body of ASCII blanks stands for the empty object. -/
def compareBodies (observed desired : Bytes) : Match :=
  let desired := if desired.all Text.isAsciiBlank then .ok (.object []) else Json.read desired
  match desired, Json.read observed with
  | .ok desired, .ok observed => Json.compare observed desired
  | _, _ => .none

end SearchOperator
