import SearchOperator.Cluster.Phase
import SearchOperator.Cluster.Tracker

/-!
# A pass over a cluster

A pass loads a cluster, checks its spec and the step to its version, observes it, decides its
phase, and writes status and hints back at most once each, hints first. Events follow the writes,
whether or not those succeed.
-/

namespace SearchOperator

/-- What a pass asks of the Kubernetes API, by name and namespace. -/
structure ClusterApi (σ : Type) where
  getCluster : String → String → Step σ (Option SearchCluster)
  listPods : String → String → Step σ (List Pod)
  listStatefulSets : String → String → Step σ (List StatefulSet)
  patchStatus : String → String → ClusterStatus → Step σ Unit
  patchAnnotations : String → String → Dictionary String → Step σ Unit

structure ClusterContext (σ : Type) where
  kube : ClusterApi σ
  clients : ClientFactory σ
  events : EventPublisher σ
  requestTimeout : Duration

namespace SearchCluster

def controllerName : String := "searchop-cluster-controller"

/-- The version that the cluster last reported, or else the one it was created at. -/
def reportedVersion? (c : SearchCluster) (hints : Hints) : Option String :=
  match c.status.map (·.version) with
  | some v => if v = "" then hints.string? Hints.createdAtVersion else some v
  | none => hints.string? Hints.createdAtVersion

/-- Check that the declared version can be reached from the reported one. -/
def checkUpgrade (c : SearchCluster) (hints : Hints) : Except Error Unit :=
  match c.reportedVersion? hints with
  | none => .ok ()
  | some reported => do
    let source ← Version.parse reported
    let target ← Version.parse c.spec.version
    if source = target ∨ source.isUpgrade target then return ()
    else
      throw (.validation c.name
        ("unsupported version change from " ++ source.text ++ " to " ++ target.text)
        (some "spec.version"))

/-- Check the spec, then the step to its version. -/
def check (c : SearchCluster) (name : String) (hints : Hints) : Except Error Unit :=
  match c.spec.validate with
  | .error e => .error (e.withResource name)
  | .ok () => c.checkUpgrade hints

variable {σ : Type}

/-- Write hints, then status, each only if it changed. A failed write of the status leaves the
hints ahead of it, which the next pass makes up for. -/
def persist (kube : ClusterApi σ) (loaded updated : SearchCluster) : Step σ Unit := do
  match updated.metadata.annotation? hintsKey with
  | some hints =>
    if loaded.metadata.annotation? hintsKey ≠ some hints then
      kube.patchAnnotations loaded.name loaded.space (Dictionary.ofList [(hintsKey, hints)])
  | none => pure ()
  match updated.status with
  | some status =>
    if loaded.status ≠ some status then kube.patchStatus loaded.name loaded.space status
  | none => pure ()

def publishAll (events : EventPublisher σ) (regarding : ObjectReference) :
    List Event → StateM σ Unit
  | [] => pure ()
  | e :: rest => do
    events.publish (e.published regarding)
    publishAll events regarding rest

/-- Write back what a tracker collected and publish its events. -/
def finish (ctx : ClusterContext σ) (loaded : SearchCluster) (t : Tracker) : Step σ Unit := do
  let (t, updated) := t.commit
  let persisted ← Step.attempt <| match updated with
    | some updated => persist ctx.kube loaded updated
    | none => pure ()
  Step.act (publishAll ctx.events loaded.reference t.events)
  Step.ofExcept persisted

/-- Ask the cluster for its health, if a client for it can be had. -/
def observe (ctx : ClusterContext σ) (name space : String) : Step σ Observation := do
  match ← Step.attempt (ctx.clients.clientFor space name) with
  | .ok client => Observation.request client ctx.requestTimeout
  | .error _ => return .nothing

def mark (t : Tracker) (resources : Resources) (observed : Observation) : PhaseDecision → Tracker
  | .shutdownStalled detail => t.markShutdownStalled resources observed detail
  | .migratingData => t.markMigratingData resources observed
  | .applyingChanges => t.markApplyingChanges resources.currentPods
  | .ready => t.markReady resources observed
  | .unchanged => t.refresh resources observed

def passHints (c : SearchCluster) (resources : Resources) (hints : Hints) : Hints :=
  (hints.setOnce Hints.createdAtVersion (.string c.spec.version)).set
    Hints.rollingUpgradeInProgress (.bool (isUpgrading c resources))

/-- Observe a valid cluster at a time in milliseconds and write back what was found. -/
def track (ctx : ClusterContext σ) (now : Int) (name space : String) (latest : SearchCluster)
    (t : Tracker) : Step σ Schedule := do
  let pods ← ctx.kube.listPods name space
  let statefulSets ← ctx.kube.listStatefulSets name space
  let resources : Resources := ⟨pods, statefulSets⟩
  let observed ← observe ctx name space
  let marked := mark t resources observed (PhaseDecision.decide latest resources now)
  let hinted := marked.addHints (passHints latest resources marked.hints)
  finish ctx latest hinted
  return .after (if hinted.isReady then 60 else 10)

def reconcile (ctx : ClusterContext σ) (now : Int) (name space : String) : Step σ Schedule := do
  match ← ctx.kube.getCluster name space with
  | none => return .onChange
  | some latest =>
    if latest.metadata.isUnmanaged then return .onChange
    let t ← Step.ofExcept (Tracker.start latest)
    match latest.check name t.hints with
    | .error e =>
      finish ctx latest (t.markInvalid e)
      return .onChange
    | .ok () => track ctx now name space latest t

end SearchCluster

end SearchOperator
