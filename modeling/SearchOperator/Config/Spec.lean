import SearchOperator.Config.Operation
import SearchOperator.Kubernetes.Metadata
import SearchOperator.Url.Resolve

/-!
# The declared settings of a cluster

A config names a cluster and lists the operations that must hold on it, in order. A valid config
names its cluster, and each of its operations has an absolute path that resolves and a body that
parses.
-/

namespace SearchOperator

structure ClusterRef where
  name : String
  space : Option String
deriving DecidableEq, Repr

/-- The namespace of the cluster, the config's own unless told otherwise. -/
def ClusterRef.spaceOr (r : ClusterRef) (own : String) : String := r.space.getD own

structure ConfigSpec where
  cluster : ClusterRef
  operations : List Operation
deriving DecidableEq, Repr

inductive ConfigPhase where
  /-- No pass took it yet. -/
  | pending
  /-- Every operation holds. -/
  | applied
  /-- The declared operations are invalid. -/
  | invalid
  /-- An operation failed and will be tried again. -/
  | failed
deriving DecidableEq, Repr

def ConfigPhase.names : List (String × ConfigPhase) :=
  [("Pending", .pending), ("Applied", .applied), ("Invalid", .invalid), ("Failed", .failed)]

def ConfigPhase.text : ConfigPhase → String
  | .pending => "Pending"
  | .applied => "Applied"
  | .invalid => "Invalid"
  | .failed => "Failed"

/-- The status of a config: its phase with a message, how many operations held in the last
successful pass, and the generation it was computed for. -/
structure ConfigStatus where
  phase : ConfigPhase
  message : Option String
  appliedOperations : Nat
  observedGeneration : Option Int
deriving DecidableEq, Repr

/-- The status of a config that has none yet. -/
def ConfigStatus.initial : ConfigStatus := ⟨.pending, none, 0, none⟩

instance : Inhabited ConfigStatus := ⟨ConfigStatus.initial⟩

/-- A status put onto an earlier one, whose message and generation stay where the new one has
none. -/
def ConfigStatus.onto (next prev : ConfigStatus) : ConfigStatus :=
  { next with
    message := next.message.or prev.message
    observedGeneration := next.observedGeneration.or prev.observedGeneration }

structure SearchConfig where
  metadata : Metadata
  spec : ConfigSpec
  status : Option ConfigStatus
deriving DecidableEq

namespace ConfigSpec

/-- The address against which the paths of operations are tried. -/
def trialBase : Url :=
  ⟨"https", some ⟨[], none, some (.domain "cluster.invalid".toList), some 9200⟩, ['/'], none, none⟩

/-- Check the operation with an index: its path, whether the path resolves, then its body. -/
def checkOperation (index : Nat) (op : Operation) : Except Error Unit :=
  let field := "spec.operations[" ++ toString index ++ "]"
  if op.url.toList.head? ≠ some '/' then
    .error (.invalidField (field ++ ".url") ("url '" ++ op.url ++ "' must be an absolute path"))
  else
    match trialBase.join op.url with
    | .error fault =>
      .error (.invalidField (field ++ ".url")
        ("url '" ++ op.url ++ "' does not parse: " ++ fault.text))
    | .ok _ =>
      match op.desired with
      | .error e => .error (.invalidField (field ++ ".body") e.message)
      | .ok _ => .ok ()

def checkOperations : Nat → List Operation → Except Error Unit
  | _, [] => .ok ()
  | index, op :: rest => do
    checkOperation index op
    checkOperations (index + 1) rest

/-- Check the name of the cluster, then the operations. -/
def validate (spec : ConfigSpec) : Except Error Unit :=
  if Text.isBlankText spec.cluster.name then
    .error (.invalidField "spec.clusterRef.name" "cluster reference name cannot be empty")
  else checkOperations 0 spec.operations

end ConfigSpec

namespace SearchConfig

def name (c : SearchConfig) : String := c.metadata.anyName

def space (c : SearchConfig) : String := c.metadata.spaceOrEmpty

def reference (c : SearchConfig) : ObjectReference :=
  ⟨some apiVersion, some "SearchConfig", c.metadata.name, c.metadata.space, c.metadata.uid⟩

end SearchConfig

end SearchOperator
