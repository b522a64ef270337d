import SearchOperator.Error
import SearchOperator.Json.Text
import SearchOperator.Json.Typed
import SearchOperator.Kubernetes.Metadata

/-!
# Hints

Facts about a cluster that its current observation cannot tell, such as the version it was created
at. They live as a JSON object in one annotation; a pass loads them at its start and writes them
back with its result.
-/

namespace SearchOperator

/-- Named facts that outlive a pass. -/
structure Hints where
  values : Dictionary Json

namespace Hints

/-- The hint with the version the cluster was first reconciled at. -/
def createdAtVersion : String := "createdAtVersion"

/-- The hint that tells whether a version is being rolled out. -/
def rollingUpgradeInProgress : String := "rollingUpgradeInProgress"

def none : Hints := ⟨∅⟩

instance : Inhabited Hints := ⟨none⟩

def same (h other : Hints) : Bool := Json.sameMembers h.values.entries other.values.entries

instance : BEq Hints := ⟨same⟩

def ofText (raw : String) : Except Error Hints :=
  match Json.readTyped (Json.Reader.dictionaryOf Json.Reader.document) (Json.bytesOf raw) with
  | .ok values => .ok ⟨values⟩
  | .error reason =>
    .error (.serialization ("failed to parse orchestration hints: " ++ reason)
      (some hintsKey))

/-- Load hints from annotations; a missing or blank annotation holds none. -/
def ofAnnotations (annotations : Option (Dictionary String)) : Except Error Hints :=
  match annotations.bind (·.get? hintsKey) with
  | some raw => if Text.isBlankText raw then .ok none else ofText raw
  | Option.none => .ok none

def text (h : Hints) : String := (Json.object h.values.entries).text

/-- Take over other hints; of the same name the other one counts. -/
def merge (h other : Hints) : Hints := ⟨h.values.merge other.values⟩

def set (h : Hints) (key : String) (value : Json) : Hints := ⟨h.values.insert key value⟩

/-- Set a hint that was never set. -/
def setOnce (h : Hints) (key : String) (value : Json) : Hints :=
  if h.values.contains key then h else h.set key value

def get? (h : Hints) (key : String) : Option Json := h.values.get? key

/-- Whether a hint is there and true. -/
def flag (h : Hints) (key : String) : Bool := ((h.get? key).bind Json.bool?).getD false

def string? (h : Hints) (key : String) : Option String := (h.get? key).bind Json.string?

end Hints

end SearchOperator
