import SearchOperator.Kubernetes.Api.Server

/-!
# Events behind the Kubernetes API

An event is published as an object of its own, next to the object it is on. When it is published
again, with whatever note, the object is not created again: it becomes a series that counts how
often the event came, and keeps its first note. Whether the server takes an event is of no concern
to those who publish it, but one it did not take does not begin a series.
-/

namespace SearchOperator

/-- An event that was published, under the name of its object, so many times. -/
structure EventSeries where
  event : PublishedEvent
  name : String
  count : Nat

/-- Where a publisher keeps the series it published, and where it gets a text from that sets the
name of an object apart from all others. -/
structure EventLog (σ : Type) where
  read : σ → List EventSeries
  write : List EventSeries → σ → σ
  mark : StateM σ String

namespace EventSeries

def continues (s : EventSeries) (e : PublishedEvent) : Bool :=
  decide ({ s.event with note := none } = { e with note := none })

/-- Put a series in the place of the one it continues. -/
def store (s : EventSeries) (all : List EventSeries) : List EventSeries :=
  s :: all.filter fun other => !other.continues s.event

def referenceJson (r : ObjectReference) : Json :=
  .ofMembers <| [("apiVersion", r.apiVersion), ("kind", r.kind), ("name", r.name),
    ("namespace", r.space), ("uid", r.uid)].filterMap fun (key, value) =>
      value.map fun v => (key, Json.string v)

def json (reporter : String) (s : EventSeries) : Json :=
  let e := s.event
  let optional (key : String) (value : Option String) : List (String × Json) :=
    match value with
    | some v => [(key, .string v)]
    | none => []
  .ofMembers <| [("action", .string e.action), ("apiVersion", .string "events.k8s.io/v1"),
    ("kind", .string "Event"),
    ("metadata", .ofMembers (("name", .string s.name) :: optional "namespace" e.regarding.space)),
    ("reason", .string e.reason), ("regarding", referenceJson e.regarding),
    ("reportingController", .string reporter), ("reportingInstance", .string reporter),
    ("series", if s.count ≤ 1 then .null else .ofMembers [("count", .ofNat s.count)]),
    ("type", .string e.type.text)] ++ optional "note" e.note

/-- The request that publishes a series: its object is created the first time and patched after. -/
def request? (reporter : String) (s : EventSeries) : Option ApiRequest :=
  let space := s.event.regarding.space.getD "default"
  if s.count ≤ 1 then ApiRequest.create? .events space (s.json reporter)
  else ApiRequest.merge? .events space s.name (s.json reporter)

end EventSeries

namespace ApiServer

variable {σ : Type}

def nextSeries (log : EventLog σ) (reporter : String) (e : PublishedEvent) :
    StateM σ EventSeries := do
  match (log.read (← get)).find? (·.continues e) with
  | some s => return { s with count := s.count + 1 }
  | none =>
    let mark ← log.mark
    return ⟨e, e.regarding.name.getD reporter ++ "." ++ mark, 1⟩

def publisher (server : ApiServer σ) (log : EventLog σ) (reporter : String) :
    EventPublisher σ where
  publish e := do
    let series ← nextSeries log reporter e
    match ← (server.exchange eventReader (series.request? reporter)).run with
    | .ok _ => modify fun s => log.write (series.store (log.read s)) s
    | .error _ => pure ()

end ApiServer

end SearchOperator
