import SearchOperator.Config.Convergence
import SearchOperator.Config.Spec
import SearchOperator.Version.Compatibility

/-!
# A pass over a config

A pass loads a config, leaves it alone unless it is managed and belongs to this controller or an
older one, checks its spec, records the controller's version, and makes its operations hold on the
cluster it names. Each outcome is stored in the status, and one that failed is reported when the
status did not hold it yet.
-/

namespace SearchOperator

structure ConfigApi (σ : Type) where
  getConfig : String → String → Step σ (Option SearchConfig)
  hasCluster : String → String → Step σ Bool
  patchStatus : String → String → ConfigStatus → Step σ Unit
  patchAnnotations : String → String → Dictionary String → Step σ Unit

structure ConfigContext (σ : Type) where
  kube : ConfigApi σ
  clients : ClientFactory σ
  events : EventPublisher σ
  controllerVersion : String
  requestTimeout : Duration

namespace SearchConfig

def controllerName : String := "searchop-config-controller"

def nextStatus (c : SearchConfig) (phase : ConfigPhase) (message : Option String)
    (applied : Nat) : ConfigStatus :=
  ⟨phase, message, applied, c.metadata.generation⟩

/-- How many operations the stored status counts. -/
def storedApplied (c : SearchConfig) : Nat := (c.status.map (·.appliedOperations)).getD 0

variable {σ : Type}

/-- Store a status unless it is stored already; the result tells whether it was not. -/
def updateStatus (kube : ConfigApi σ) (c : SearchConfig) (next : ConfigStatus) : Step σ Bool := do
  if c.status = some next then return false
  kube.patchStatus c.name c.space next
  return true

def warn (events : EventPublisher σ) (c : SearchConfig) (reason : EventReason) (e : Error) :
    Step σ Unit :=
  Step.act (events.publish ((Event.warning reason e.message).published c.reference))

/-- Store and report an outcome that failed; it is reported only if it was not stored already. -/
def reportFailure (ctx : ConfigContext σ) (c : SearchConfig) (phase : ConfigPhase)
    (applied : Nat) (reason : EventReason) (e : Error) : Step σ Unit := do
  if ← updateStatus ctx.kube c (c.nextStatus phase (some e.message) applied) then
    warn ctx.events c reason e

/-- Make the operations hold and store the outcome. -/
def apply (ctx : ConfigContext σ) (c : SearchConfig) (client : SearchClient σ) :
    Step σ Schedule := do
  match ← Step.attempt (Operation.convergeAll client ctx.requestTimeout c.spec.operations) with
  | .ok report =>
    let _ ← updateStatus ctx.kube c (c.nextStatus .applied none report.applied)
    return .onChange
  | .error e =>
    reportFailure ctx c .failed c.storedApplied .operationFailed e
    throw e

/-- Find the cluster of a config and a client for it. -/
def clientFor (ctx : ConfigContext σ) (c : SearchConfig) (space : String) :
    Step σ (SearchClient σ) := do
  let clusterName := c.spec.cluster.name
  let clusterSpace := c.spec.cluster.spaceOr space
  if !(← ctx.kube.hasCluster clusterName clusterSpace) then
    let e : Error := .notFound "SearchCluster" clusterSpace clusterName
    warn ctx.events c .associationError e
    throw e
  ctx.clients.clientFor clusterSpace clusterName

/-- Work on a config that this controller may take, recording the controller's version first if
need be. -/
def take (ctx : ConfigContext σ) (name space : String) (c : SearchConfig) (stamp : Bool) :
    Step σ Schedule := do
  match c.spec.validate with
  | .error e =>
    reportFailure ctx c .invalid 0 .validation (e.withResource name)
    return .onChange
  | .ok () =>
    if stamp then
      ctx.kube.patchAnnotations name space
        (Dictionary.ofList [(controllerVersionKey, ctx.controllerVersion)])
    let client ← clientFor ctx c space
    apply ctx c client

def reconcile (ctx : ConfigContext σ) (name space : String) : Step σ Schedule := do
  match ← ctx.kube.getConfig name space with
  | none => return .onChange
  | some latest =>
    if latest.metadata.isUnmanaged then return .onChange
    match Compatibility.check latest.metadata.controllerVersion? ctx.controllerVersion with
    | .ok .compatible => take ctx name space latest false
    | .ok .stamp => take ctx name space latest true
    | .ok (.incompatible _) => return .onChange
    | .error e =>
      warn ctx.events latest .compatibilityCheckError e
      throw e

end SearchConfig

end SearchOperator
