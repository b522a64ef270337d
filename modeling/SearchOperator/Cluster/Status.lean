import SearchOperator.Text.Blank

/-!
# The status of a search cluster

The phase of its life, the health it reports, how many of its nodes are available, and the lowest
version that runs in it.
-/

namespace SearchOperator

/-- The phase of a cluster's life; exactly one is active at a time. -/
inductive ClusterPhase where
  /-- Changes of topology or version are being rolled out. -/
  | applyingChanges
  /-- A change of topology waits for data to move off departing nodes. -/
  | migratingData
  /-- All declared nodes are available. -/
  | ready
  /-- The shutdown of a node makes no progress. -/
  | nodeShutdownStalled
  /-- The declared spec is invalid. -/
  | invalid
deriving DecidableEq, Repr

def ClusterPhase.names : List (String × ClusterPhase) :=
  [("ApplyingChanges", .applyingChanges), ("MigratingData", .migratingData), ("Ready", .ready),
    ("NodeShutdownStalled", .nodeShutdownStalled), ("Invalid", .invalid)]

def ClusterPhase.text : ClusterPhase → String
  | .applyingChanges => "ApplyingChanges"
  | .migratingData => "MigratingData"
  | .ready => "Ready"
  | .nodeShutdownStalled => "NodeShutdownStalled"
  | .invalid => "Invalid"

inductive Health where
  /-- A primary shard is unassigned. -/
  | red
  /-- All primaries are assigned, some replicas are not. -/
  | yellow
  /-- Nothing was observed. -/
  | unknown
  /-- All shards are assigned. -/
  | green
deriving DecidableEq, Repr

namespace Health

def names : List (String × Health) :=
  [("red", .red), ("yellow", .yellow), ("unknown", .unknown), ("green", .green)]

def text : Health → String
  | .red => "red"
  | .yellow => "yellow"
  | .unknown => "unknown"
  | .green => "green"

/-- How good a state of health is; to know nothing is better than yellow. -/
def rank : Health → Nat
  | .red => 0
  | .yellow => 1
  | .unknown => 2
  | .green => 3

/-- The health that a cluster reports; what is no known state counts as unknown. -/
def ofObserved (status : String) : Health :=
  let name := Text.lowerAscii (Text.trim status)
  if name = "red" then .red
  else if name = "yellow" then .yellow
  else if name = "green" then .green
  else .unknown

end Health

structure ClusterStatus where
  phase : ClusterPhase
  health : Health
  availableNodes : Int
  version : String
deriving DecidableEq, Repr

namespace ClusterStatus

/-- The status of a cluster that has none yet. -/
def initial : ClusterStatus := ⟨.applyingChanges, .unknown, 0, ""⟩

instance : Inhabited ClusterStatus := ⟨initial⟩

/-- Whether a status is worse than the one before it: fewer available nodes, or lower health
unless changes are being applied, when health is red by decree. -/
def isDegraded (current previous : ClusterStatus) : Bool :=
  current.availableNodes < previous.availableNodes ||
    (current.phase != .applyingChanges && current.health.rank < previous.health.rank)

end ClusterStatus

end SearchOperator
