import SearchOperator.Text.Quoted
import SearchOperator.Time.Duration

/-!
# Errors

What can go wrong in a pass, each cause with the data that a reader needs to act on it. An error
has a text, and it is either worth retrying or waits for a change of the declared intent.
-/

namespace SearchOperator

inductive KubeFailure where
  /-- The server answered with a failure status. -/
  | api (status message reason : String) (code : Nat)
  /-- A line of a streamed answer has no end. -/
  | unendedLine
  /-- The request cannot be formed, or its answer cannot be read. -/
  | unreadable
deriving DecidableEq, Repr

inductive Error where
  /-- The Kubernetes API failed. -/
  | kube (failure : KubeFailure)
  /-- A declared spec breaks a rule. -/
  | validation (resource message : String) (field : Option String)
  /-- A text is no version. -/
  | malformedVersion (version message : String)
  /-- The search cluster answered with a status outside the accepted ones. -/
  | unacceptableStatus (method url : String) (status : Nat)
  /-- A request did not complete before its deadline. -/
  | timeout (method url : String) (limit : Duration)
  /-- A request could not be sent or its answer not received. -/
  | transport (url message : String)
  /-- A referenced object does not exist. -/
  | notFound (kind space name : String)
  /-- Stored or declared text does not parse. -/
  | serialization (message : String) (what : Option String)
  /-- Anything else. -/
  | internal (message context : String)
deriving DecidableEq, Repr

def KubeFailure.message : KubeFailure → String
  | .api status message reason code =>
    "ApiError: " ++ message ++ ": " ++ reason ++ " (ErrorResponse \x7b status: " ++
      Text.quoted status ++ ", message: " ++ Text.quoted message ++ ", reason: " ++
      Text.quoted reason ++ ", code: " ++ toString code ++ " \x7d)"
  | .unendedLine => "Error finding newline character"
  | .unreadable => "the request or its answer cannot be read"

namespace Error

/-- The name that stands for a resource or a context nobody gave. -/
def unknownContext : String := "unknown"

/-- A broken rule of a spec whose resource is not known yet. -/
def invalidField (field message : String) : Error :=
  .validation unknownContext message (some field)

/-- Name the resource of a validation error that was raised without one. -/
def withResource (name : String) : Error → Error
  | .validation resource message field =>
    .validation (if resource = unknownContext then name else resource) message field
  | e => e

def message : Error → String
  | .kube failure => "kubernetes error: " ++ failure.message
  | .validation resource message _ => "validation error for " ++ resource ++ ": " ++ message
  | .malformedVersion version message => "malformed version '" ++ version ++ "': " ++ message
  | .unacceptableStatus method url status =>
    "unacceptable status " ++ toString status ++ " from " ++ method ++ " " ++ url
  | .timeout method url limit =>
    "request " ++ method ++ " " ++ url ++ " timed out after " ++ limit.text
  | .transport url message => "transport error for " ++ url ++ ": " ++ message
  | .notFound kind space name => kind ++ " " ++ space ++ "/" ++ name ++ " not found"
  | .serialization message _ => "serialization error: " ++ message
  | .internal message context => "internal error [" ++ context ++ "]: " ++ message

/-- Whether a later pass may succeed without a change of the declared intent. A request that the
API refused as the client's fault will be refused again. -/
def isRetryable : Error → Bool
  | .kube (.api _ _ _ code) => !(400 ≤ code && code < 500)
  | .kube _ => true
  | .validation .. => false
  | .malformedVersion .. => false
  | .unacceptableStatus .. => true
  | .timeout .. => true
  | .transport .. => true
  | .notFound .. => true
  | .serialization .. => false
  | .internal .. => true

end Error

end SearchOperator
