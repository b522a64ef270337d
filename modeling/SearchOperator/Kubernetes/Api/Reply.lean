import SearchOperator.Json.Typed
import SearchOperator.SearchClient
import SearchOperator.Text.Utf8

/-!
# Replies of the Kubernetes API

A reply with the status of a failure tells why in a document; if the document cannot be read, its
text is told instead. All other replies hold what was asked for.
-/

namespace SearchOperator

def failurePhrases : List (Nat × String) :=
  [(400, "Bad Request"), (401, "Unauthorized"), (402, "Payment Required"), (403, "Forbidden"),
    (404, "Not Found"), (405, "Method Not Allowed"), (406, "Not Acceptable"),
    (407, "Proxy Authentication Required"), (408, "Request Timeout"), (409, "Conflict"),
    (410, "Gone"), (411, "Length Required"), (412, "Precondition Failed"),
    (413, "Payload Too Large"), (414, "URI Too Long"), (415, "Unsupported Media Type"),
    (416, "Range Not Satisfiable"), (417, "Expectation Failed"), (418, "I'm a teapot"),
    (421, "Misdirected Request"), (422, "Unprocessable Entity"), (423, "Locked"),
    (424, "Failed Dependency"), (425, "Too Early"), (426, "Upgrade Required"),
    (428, "Precondition Required"), (429, "Too Many Requests"),
    (431, "Request Header Fields Too Large"), (451, "Unavailable For Legal Reasons"),
    (500, "Internal Server Error"), (501, "Not Implemented"), (502, "Bad Gateway"),
    (503, "Service Unavailable"), (504, "Gateway Timeout"), (505, "HTTP Version Not Supported"),
    (506, "Variant Also Negotiates"), (507, "Insufficient Storage"), (508, "Loop Detected"),
    (510, "Not Extended"), (511, "Network Authentication Required")]

def statusText (status : Nat) : String :=
  toString status ++ " " ++ (failurePhrases.lookup status).getD "<unknown status code>"

namespace KubeFailure

open Json.Reader

structure Draft where
  status : Option String
  message : Option String
  reason : Option String
  code : Option Int

def layout : Json.Record Draft where
  name := "ErrorResponse"
  unique := true
  blank := ⟨none, none, none, none⟩
  fields := [
    ⟨"status", true, (·.status.isSome), fun _ => do
      let v ← string
      return fun d => { d with status := some v }⟩,
    ⟨"message", false, (·.message.isSome), fun _ => do
      let v ← string
      return fun d => { d with message := some v }⟩,
    ⟨"reason", false, (·.reason.isSome), fun _ => do
      let v ← string
      return fun d => { d with reason := some v }⟩,
    ⟨"code", true, (·.code.isSome), fun _ => do
      let v ← integer "u16" 0 65535
      return fun d => { d with code := some v }⟩]

def reader : Json.Typed KubeFailure := fun depth => do
  let d ← layout.read depth
  return .api (d.status.getD "") (d.message.getD "") (d.reason.getD "") (d.code.getD 0).toNat

/-- A failure whose document cannot be read. -/
def ofText (status : Nat) (text : String) : KubeFailure :=
  .api (statusText status) (Text.quoted text) "Failed to parse error data" status

end KubeFailure

structure ApiReply where
  status : Nat
  body : Bytes
deriving DecidableEq

namespace ApiReply

def isFailure (r : ApiReply) : Bool := 400 ≤ r.status && r.status < 600

def decode {α : Type} (reader : Json.Typed α) (r : ApiReply) : Except KubeFailure α :=
  match Text.Utf8.decode r.body with
  | .error _ => .error .unreadable
  | .ok text =>
    if r.isFailure then
      match Json.readTyped KubeFailure.reader r.body with
      | .ok failure => .error failure
      | .error _ => .error (.ofText r.status text)
    else
      match Json.readTyped reader r.body with
      | .ok a => .ok a
      | .error _ => .error .unreadable

end ApiReply

end SearchOperator
