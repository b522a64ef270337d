import SearchOperator.Cluster.Status
import SearchOperator.Json.Typed
import SearchOperator.Kubernetes.Workload
import SearchOperator.SearchClient
import SearchOperator.Version.Order

/-!
# Observations

What a pass learns about a cluster: its pods and StatefulSets from Kubernetes, and its health from
the cluster itself. Whatever goes wrong when the cluster is asked, nothing is observed then. A
cluster is taken to have fewer than `2 ^ 31` pods, so that their number fits a signed word.
-/

namespace SearchOperator

structure Resources where
  pods : List Pod
  statefulSets : List StatefulSet

namespace Resources

def currentPods (r : Resources) : List Pod := r.pods.filter fun p => !p.isTerminating

def countReady (pods : List Pod) : Int := (pods.filter (·.isReady)).length

def availableNodes (r : Resources) : Int := countReady r.currentPods

def statefulSet? (r : Resources) (name : String) : Option StatefulSet :=
  r.statefulSets.find? fun s => s.metadata.anyName == name

/-- The first pod that has been shutting down for longer than a threshold. -/
def stalledPod? (r : Resources) (now threshold : Int) : Option Pod :=
  r.pods.find? fun p => p.isStalled now threshold

def lowestPodVersion (r : Resources) : Except Error (Option Version) :=
  Version.lowest? (r.pods.filterMap (·.version?))

/-- The lowest version among the labels of pods to be. -/
def lowestTemplateVersion (r : Resources) : Except Error (Option Version) :=
  Version.lowest? (r.statefulSets.filterMap (·.templateVersion?))

/-- The lowest version that runs or is about to. Labels that do not parse leave their side out. -/
def lowestVersion (r : Resources) : Option Version :=
  match r.lowestPodVersion.toOption.join, r.lowestTemplateVersion.toOption.join with
  | some v, some w => some (v.lower w)
  | some v, none => some v
  | none, w => w

end Resources

/-- What a cluster reports about itself: the text of its health, if it could be asked. -/
structure Observation where
  health : Option String
deriving DecidableEq

namespace Observation

def nothing : Observation := ⟨none⟩

/-- The health that an observation tells of; an empty text tells of none. -/
def state (o : Observation) : Health :=
  match o.health with
  | some s => if s = "" then .unknown else Health.ofObserved s
  | none => .unknown

def healthPath : String := "/_cluster/health"

/-- The part of a health report that counts. -/
def layout : Json.Record (Option String) where
  name := "ClusterHealth"
  unique := true
  blank := none
  fields := [⟨"status", false, Option.isSome, fun _ => do
    let v ← Json.Reader.string
    return fun _ => some v⟩]

def ofResponse (r : Response) : Observation :=
  if !r.isSuccess then nothing
  else
    match Json.readTyped layout.read r.body with
    | .ok status => ⟨some (status.getD "")⟩
    | .error _ => nothing

def request {σ : Type} (client : SearchClient σ) (limit : Duration) : Step σ Observation := do
  match ← Step.attempt (client.send limit .get healthPath none) with
  | .ok response => return ofResponse response
  | .error _ => return nothing

end Observation

end SearchOperator
