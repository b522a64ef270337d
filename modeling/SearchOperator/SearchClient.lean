import SearchOperator.Json.Fault
import SearchOperator.Kubernetes.Event
import SearchOperator.Step

/-!
# Search clients

All that a pass needs from a search cluster: send a request, get a status and a body back. An
answer takes time, or never comes; a deadline turns it into a response or an error.
-/

namespace SearchOperator

inductive Method where
  | get
  | put
  | post
  | patch
  /-- A method that no pass uses, by its name. -/
  | other (name : String)
deriving DecidableEq, Repr

def Method.text : Method → String
  | .get => "GET"
  | .put => "PUT"
  | .post => "POST"
  | .patch => "PATCH"
  | .other name => name

def Method.ofText (name : String) : Method :=
  if name = "GET" then .get
  else if name = "PUT" then .put
  else if name = "POST" then .post
  else if name = "PATCH" then .patch
  else .other name

structure Response where
  status : Nat
  body : Bytes
deriving DecidableEq

def Response.isSuccess (r : Response) : Bool := 200 ≤ r.status && r.status < 300

/-- How a request ends: never, or after some time with a response or a failure. -/
inductive Answer where
  | never
  | after (delay : Duration) (result : Except Error Response)

/-- The result of a request by a deadline. An answer at the deadline still counts. -/
def Answer.by (limit : Duration) (method : Method) (url : String) :
    Answer → Except Error Response
  | .never => .error (.timeout method.text url limit)
  | .after delay result =>
    if delay.nanoseconds ≤ limit.nanoseconds then result
    else .error (.timeout method.text url limit)

structure SearchClient (σ : Type) where
  request : Method → String → Option Bytes → StateM σ Answer

/-- Send a request that must be answered by a deadline. -/
def SearchClient.send {σ : Type} (client : SearchClient σ) (limit : Duration) (method : Method)
    (url : String) (body : Option Bytes) : Step σ Response := do
  let answer ← Step.act (client.request method url body)
  Step.ofExcept (answer.by limit method url)

/-- A way to get clients for clusters, by namespace and name. -/
structure ClientFactory (σ : Type) where
  clientFor : String → String → Step σ (SearchClient σ)

/-- A way to publish events. Publishing never fails a pass. -/
structure EventPublisher (σ : Type) where
  publish : PublishedEvent → StateM σ Unit

end SearchOperator
