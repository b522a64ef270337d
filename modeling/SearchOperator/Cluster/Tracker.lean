import SearchOperator.Cluster.Hints
import SearchOperator.Cluster.Observation
import SearchOperator.Cluster.Spec
import SearchOperator.Kubernetes.Event

/-!
# The tracker of a pass

A tracker starts from the stored cluster, collects what a pass finds out, and says at the end what
has to be written back and which events to publish.
-/

namespace SearchOperator

/-- Status, hints and events of one pass. -/
structure Tracker where
  cluster : SearchCluster
  status : ClusterStatus
  hints : Hints
  persistedHints : Hints
  events : List Event

namespace Tracker

def migrationMessage : String :=
  "Requested topology change delayed by data migration. " ++
    "Ensure index settings allow node removal."

/-- What an event says about a shutdown without progress, before the details. -/
def stalledMessage : String :=
  "Requested topology change is stalled. " ++
    "User intervention may be required if this condition persists."

def degradedMessage : String := "Search cluster health degraded"

/-- Start from a stored cluster, whose hints must parse. -/
def start (cluster : SearchCluster) : Except Error Tracker := do
  let hints ← Hints.ofAnnotations cluster.metadata.annotations
  return ⟨cluster, cluster.status.getD .initial, hints, hints, []⟩

def queue (t : Tracker) (e : Event) : Tracker := { t with events := t.events ++ [e] }

/-- Enter a phase and take over what was observed. Without a lowest version the last one stays. -/
def enter (t : Tracker) (phase : ClusterPhase) (resources : Resources) (observed : Observation) :
    Tracker :=
  let version := match resources.lowestVersion with
    | some v => v.text
    | none => t.status.version
  { t with status := ⟨phase, observed.state, resources.availableNodes, version⟩ }

/-- All declared nodes are available. -/
def markReady (t : Tracker) (resources : Resources) (observed : Observation) : Tracker :=
  t.enter .ready resources observed

/-- Changes are being rolled out. Health is red by decree, and the version stays. -/
def markApplyingChanges (t : Tracker) (pods : List Pod) : Tracker :=
  { t with status :=
      ⟨.applyingChanges, .red, Resources.countReady pods, t.status.version⟩ }

/-- A change of topology waits for data to move. -/
def markMigratingData (t : Tracker) (resources : Resources) (observed : Observation) : Tracker :=
  (t.queue (.normal .delayed migrationMessage)).enter .migratingData resources observed

/-- A shutdown makes no progress. -/
def markShutdownStalled (t : Tracker) (resources : Resources) (observed : Observation)
    (detail : String) : Tracker :=
  (t.queue (.warning .stalled (stalledMessage ++ " " ++ detail))).enter .nodeShutdownStalled
    resources observed

/-- The declared spec is invalid. Only the phase changes. -/
def markInvalid (t : Tracker) (e : Error) : Tracker :=
  { t with status := { t.status with phase := .invalid } }.queue (.warning .validation e.message)

/-- Take over what was observed and keep the phase. `invalid` and `nodeShutdownStalled` hold only
for the pass that found their cause; without it the cluster is applying changes. -/
def refresh (t : Tracker) (resources : Resources) (observed : Observation) : Tracker :=
  match t.status.phase with
  | .invalid => t.markApplyingChanges resources.currentPods
  | .nodeShutdownStalled => t.markApplyingChanges resources.currentPods
  | phase => t.enter phase resources observed

def isReady (t : Tracker) : Bool := t.status.phase == .ready

def addHints (t : Tracker) (hints : Hints) : Tracker := { t with hints := t.hints.merge hints }

/-- Compare with what is stored. If status or hints changed, the result is the cluster to write
back; a status worse than before adds an event. What was written back counts as stored. -/
def commit (t : Tracker) : Tracker × Option SearchCluster :=
  let previous := t.cluster.status.getD .initial
  let statusChanged := previous != t.status
  let hintsChanged := t.persistedHints != t.hints
  if !statusChanged && !hintsChanged then (t, none)
  else
    let degraded := statusChanged && t.status.isDegraded previous
    let metadata :=
      if hintsChanged then t.cluster.metadata.annotate hintsKey t.hints.text
      else t.cluster.metadata
    let cluster := { t.cluster with metadata := metadata, status := some t.status }
    let events :=
      if degraded then t.events ++ [.warning .unhealthy degradedMessage] else t.events
    let persisted := if hintsChanged then t.hints else t.persistedHints
    ({ t with cluster := cluster, persistedHints := persisted, events := events }, some cluster)

end Tracker

end SearchOperator
