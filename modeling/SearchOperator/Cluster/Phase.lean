import SearchOperator.Cluster.Observation
import SearchOperator.Cluster.Spec

/-!
# The phase of a cluster

Which phase the observed pods and StatefulSets put a cluster in. A stalled shutdown comes first,
then data that has to move, then changes to be rolled out, then readiness.
-/

namespace SearchOperator

inductive PhaseDecision where
  /-- A pod has been shutting down for too long. -/
  | shutdownStalled (detail : String)
  /-- A node set runs more replicas than declared. -/
  | migratingData
  /-- Declared node sets are missing, of another size or of another version. -/
  | applyingChanges
  /-- All declared nodes are available. -/
  | ready
  /-- Nothing speaks for another phase. -/
  | unchanged
deriving DecidableEq, Repr

namespace PhaseDecision

/-- The seconds after which a shutdown counts as stalled. -/
def stallSeconds : Nat := 300

/-- How a node set compares with its StatefulSet. -/
inductive NodeSetState where
  | settled
  | pending
  | shrinking
deriving DecidableEq, Repr

def nodeSetState (cluster : SearchCluster) (resources : Resources) (s : NodeSet) : NodeSetState :=
  match resources.statefulSet? (statefulSetName cluster.name s.name) with
  | none => .pending
  | some set =>
    if s.count < set.replicas then .shrinking
    else if set.replicas ≠ s.count ∨ set.templateVersion? ≠ some cluster.spec.version then .pending
    else .settled

/-- What node sets come to, taken in order. One that shrinks ends the search; that one is pending is
kept in mind until the end. -/
def survey (state : NodeSet → NodeSetState) : Bool → List NodeSet → NodeSetState
  | pending, [] => if pending then .pending else .settled
  | pending, s :: rest =>
    match state s with
    | .shrinking => .shrinking
    | .pending => survey state true rest
    | .settled => survey state pending rest

def stallDetail (p : Pod) : String :=
  "Pod " ++ p.metadata.anyName ++ " has been terminating for more than " ++
    toString stallSeconds ++ "s."

/-- Decide the phase of a cluster at a time in milliseconds. -/
def decide (cluster : SearchCluster) (resources : Resources) (now : Int) : PhaseDecision :=
  match resources.stalledPod? now (stallSeconds * 1000) with
  | some pod => .shutdownStalled (stallDetail pod)
  | none =>
    match survey (nodeSetState cluster resources) false cluster.spec.nodeSets with
    | .shrinking => .migratingData
    | .pending => .applyingChanges
    | .settled =>
      if cluster.spec.nodeCount ≤ resources.availableNodes then .ready else .unchanged

end PhaseDecision

/-- Whether the pods to be of some StatefulSet have a version other than the declared one. -/
def isUpgrading (cluster : SearchCluster) (resources : Resources) : Bool :=
  resources.statefulSets.any fun s => s.templateVersion?.any (· != cluster.spec.version)

end SearchOperator
