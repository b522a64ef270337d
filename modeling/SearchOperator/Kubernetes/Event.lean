import SearchOperator.Kubernetes.Metadata

/-!
# Events

What a pass reports on a resource. Events are queued during a pass and published when it is done,
in the order of the queue.
-/

namespace SearchOperator

inductive EventType where
  | normal
  | warning
deriving DecidableEq, Repr

def EventType.text : EventType → String
  | .normal => "Normal"
  | .warning => "Warning"

structure Event where
  type : EventType
  reason : String
  message : String
deriving DecidableEq, Repr

inductive EventReason where
  /-- A change of topology waits for data to move. -/
  | delayed
  /-- The shutdown of a node makes no progress. -/
  | stalled
  /-- The declared spec is invalid. -/
  | validation
  /-- Health or availability of a cluster went down. -/
  | unhealthy
  /-- The referenced cluster was not found. -/
  | associationError
  /-- The recorded and the own controller version could not be compared. -/
  | compatibilityCheckError
  /-- A declared operation failed. -/
  | operationFailed
deriving DecidableEq, Repr

def EventReason.text : EventReason → String
  | .delayed => "Delayed"
  | .stalled => "Stalled"
  | .validation => "Validation"
  | .unhealthy => "Unhealthy"
  | .associationError => "AssociationError"
  | .compatibilityCheckError => "CompatibilityCheckError"
  | .operationFailed => "OperationFailed"

def Event.normal (reason : EventReason) (message : String) : Event :=
  ⟨.normal, reason.text, message⟩

def Event.warning (reason : EventReason) (message : String) : Event :=
  ⟨.warning, reason.text, message⟩

/-- The action that published events name. -/
def reconcileAction : String := "Reconcile"

structure PublishedEvent where
  type : EventType
  reason : String
  action : String
  note : Option String
  regarding : ObjectReference
deriving DecidableEq

def Event.published (regarding : ObjectReference) (e : Event) : PublishedEvent :=
  ⟨e.type, e.reason, reconcileAction, some e.message, regarding⟩

end SearchOperator
