import SearchOperator.Cluster.Pass
import SearchOperator.Config.Pass

/-!
# Worlds in memory

A world holds the stored resources, the documents of the search cluster, and scripted answers and
failures. Passes run in it as they do outside, and it records every call they make, in order and
before the call can fail.
-/

namespace SearchOperator.Simulation

inductive Call where
  | request (method : Method) (url : String) (body : Option Bytes)
  | getCluster (name space : String)
  | getConfig (name space : String)
  | listPods (name space : String)
  | listStatefulSets (name space : String)
  | patchClusterStatus (name space : String) (status : ClusterStatus)
  | patchConfigStatus (name space : String) (status : ConfigStatus)
  | patchAnnotations (name space : String) (annotations : Dictionary String)
  | clientFor (name space : String)

/-- The name of the Kubernetes operation that a call asks for. -/
def Call.operation : Call → String
  | .request .. => "request"
  | .getCluster .. => "get_cluster"
  | .getConfig .. => "get_config"
  | .listPods .. => "list_pods"
  | .listStatefulSets .. => "list_stateful_sets"
  | .patchClusterStatus .. => "patch_status"
  | .patchConfigStatus .. => "patch_status"
  | .patchAnnotations .. => "patch_annotations"
  | .clientFor .. => "client_for"

/-- What becomes of the stored status of a config when a new one is patched onto it. -/
inductive StatusPatching where
  /-- The new one is merged into it, as a server of the API does. -/
  | merging
  /-- The new one takes its place. -/
  | replacing
deriving DecidableEq, Repr

def StatusPatching.patched : StatusPatching → Option ConfigStatus → ConfigStatus → ConfigStatus
  | .merging, some stored, next => next.onto stored
  | .merging, none, next => next
  | .replacing, _, next => next

/-- Everything a pass can see, and what it did. Rules give answers by method and path: the first
answer of a rule is used up, the last one stays. -/
structure World where
  store : Dictionary Bytes
  rules : Dictionary (List Answer)
  cluster : Option SearchCluster
  config : Option SearchConfig
  pods : List Pod
  statefulSets : List StatefulSet
  clusters : List String
  clientError : Option Error
  failures : Dictionary Error
  patching : StatusPatching
  calls : List Call
  events : List PublishedEvent

namespace World

def empty : World := ⟨∅, ∅, none, none, [], [], [], none, ∅, .replacing, [], []⟩

instance : Inhabited World := ⟨empty⟩

def record (call : Call) (w : World) : World := { w with calls := w.calls ++ [call] }

/-- Make a call of the Kubernetes API: record it, and fail if the world says so. -/
def call {α : Type} (call : Call) (run : StateM World α) : Step World α := fun w =>
  let w := w.record call
  match w.failures.get? call.operation with
  | some e => (.error e, w)
  | none =>
    let (a, w) := run w
    (.ok a, w)

/-- An answer without delay. -/
def immediate (status : Nat) (body : Bytes) : Answer := .after ⟨0⟩ (.ok ⟨status, body⟩)

/-- Answer a request from the stored documents: reading gives a document or says that there is
none, writing stores one, and nothing else is allowed. -/
def answerFromStore (method : Method) (url : String) (body : Option Bytes) :
    StateM World Answer := fun w =>
  match method with
  | .get =>
    match w.store.get? url with
    | some document => (immediate 200 document, w)
    | none => (immediate 404 [], w)
  | .put =>
    (immediate 200 (Json.bytesOf "\x7b\"acknowledged\":true\x7d"),
      { w with store := w.store.insert url (body.getD []) })
  | _ => (immediate 405 [], w)

/-- Answer a request by a rule, or else from the stored documents. -/
def answer (method : Method) (url : String) (body : Option Bytes) : StateM World Answer := fun w =>
  let key := method.text ++ " " ++ url
  match w.rules.get? key with
  | some (a :: b :: rest) => (a, { w with rules := w.rules.insert key (b :: rest) })
  | some [a] => (a, w)
  | _ => answerFromStore method url body w

def searchClient : SearchClient World where
  request method url body := fun w => answer method url body (w.record (.request method url body))

def clients : ClientFactory World where
  clientFor space name := fun w =>
    let w := w.record (.clientFor name space)
    match w.clientError with
    | some e => (.error e, w)
    | none => (.ok searchClient, w)

def publisher : EventPublisher World where
  publish e := modify fun w => { w with events := w.events ++ [e] }

/-- The Kubernetes API for passes over the cluster. A status that is patched takes the place of the
one before: a pass leaves out nothing that was there. -/
def clusterApi : ClusterApi World where
  getCluster name space := call (.getCluster name space) fun w => (w.cluster, w)
  listPods name space := call (.listPods name space) fun w => (w.pods, w)
  listStatefulSets name space :=
    call (.listStatefulSets name space) fun w => (w.statefulSets, w)
  patchStatus name space status := call (.patchClusterStatus name space status) <|
    modify fun w => { w with cluster := w.cluster.map fun c => { c with status := some status } }
  patchAnnotations name space annotations :=
    call (.patchAnnotations name space annotations) <| modify fun w =>
      { w with cluster := w.cluster.map fun c =>
          { c with metadata := c.metadata.annotateAll annotations } }

def withStatus (w : World) (status : ConfigStatus) : World :=
  { w with config := w.config.map fun c =>
      { c with status := some (w.patching.patched c.status status) } }

def configApi : ConfigApi World where
  getConfig name space := call (.getConfig name space) fun w => (w.config, w)
  hasCluster name space := call (.getCluster name space) fun w =>
    (w.clusters.contains (space ++ "/" ++ name), w)
  patchStatus name space status :=
    call (.patchConfigStatus name space status) <| modify (·.withStatus status)
  patchAnnotations name space annotations :=
    call (.patchAnnotations name space annotations) <| modify fun w =>
      { w with config := w.config.map fun c =>
          { c with metadata := c.metadata.annotateAll annotations } }

def clusterContext (timeout : Duration) : ClusterContext World :=
  ⟨clusterApi, clients, publisher, timeout⟩

def configContext (timeout : Duration) (version : String) : ConfigContext World :=
  ⟨configApi, clients, publisher, version, timeout⟩

end World

end SearchOperator.Simulation
