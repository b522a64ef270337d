import SearchOperator.Cluster.Pass
import SearchOperator.Config.Pass
import SearchOperator.Kubernetes.Api.Objects
import SearchOperator.Kubernetes.Api.Reply
import SearchOperator.Kubernetes.Api.Request

/-!
# Collaborators behind the Kubernetes API

A server of the API answers requests. What passes ask of Kubernetes becomes requests to it and
readings of its replies. An object that is not found is no error where passes ask whether there is
one: a cluster by the code of the failure, all else by its reason.
-/

namespace SearchOperator

structure ApiServer (σ : Type) where
  send : ApiRequest → StateM σ ApiReply

namespace ApiServer

variable {σ α : Type}

/-- Send a request, if one could be formed, and read its reply. -/
def exchange (server : ApiServer σ) (reader : Json.Typed α) : Option ApiRequest → Step σ α
  | none => throw (.kube .unreadable)
  | some request => do
    let reply ← Step.act (server.send request)
    match reply.decode reader with
    | .ok a => return a
    | .error failure => throw (.kube failure)

/-- The result of a step, or nothing if it fails in a way that means that there is none. -/
def ifPresent (isAbsence : KubeFailure → Bool) (step : Step σ α) : Step σ (Option α) := do
  match ← Step.attempt step with
  | .ok a => return some a
  | .error (.kube failure) => if isAbsence failure then return none else throw (.kube failure)
  | .error e => throw e

def hasAbsentCode : KubeFailure → Bool
  | .api _ _ _ code => code == 404
  | _ => false

def hasAbsentReason : KubeFailure → Bool
  | .api _ _ reason _ => reason == "NotFound"
  | _ => false

/-- Read a cluster; its absence shows in the code of the failure. -/
def cluster? (server : ApiServer σ) (name space : String) : Step σ (Option SearchCluster) :=
  ifPresent hasAbsentCode
    (server.exchange SearchCluster.reader (ApiRequest.get? .clusters space name))

/-- Read the cluster that a config refers to; its absence shows in the reason of the failure. -/
def referredCluster? (server : ApiServer σ) (name space : String) :
    Step σ (Option SearchCluster) :=
  ifPresent hasAbsentReason
    (server.exchange SearchCluster.reader (ApiRequest.get? .clusters space name))

def config? (server : ApiServer σ) (name space : String) : Step σ (Option SearchConfig) :=
  ifPresent hasAbsentReason
    (server.exchange SearchConfig.reader (ApiRequest.get? .configs space name))

/-- Patch an object of one of the operator's own kinds. The reply must be the object. -/
def patch (server : ApiServer σ) (reader : Json.Typed α) (c : Collection)
    (name space part : String) (document : Json) : Step σ Unit := do
  let _ ← server.exchange reader (ApiRequest.patch? c space name part document)

def statusPart : String := "/status"

def clusterApi (server : ApiServer σ) : ClusterApi σ where
  getCluster := server.cluster?
  listPods name space :=
    server.exchange (listReader Pod.reader) (ApiRequest.list? .pods space (clusterSelector name))
  listStatefulSets name space :=
    server.exchange (listReader StatefulSet.reader)
      (ApiRequest.list? .statefulSets space (clusterSelector name))
  patchStatus name space status :=
    server.patch SearchCluster.reader .clusters name space statusPart
      (ApiRequest.statusPatch status.toJson)
  patchAnnotations name space annotations :=
    server.patch SearchCluster.reader .clusters name space ""
      (ApiRequest.annotationsPatch annotations)

def configApi (server : ApiServer σ) : ConfigApi σ where
  getConfig := server.config?
  hasCluster name space := do return (← server.referredCluster? name space).isSome
  patchStatus name space status :=
    server.patch SearchConfig.reader .configs name space statusPart
      (ApiRequest.statusPatch status.toJson)
  patchAnnotations name space annotations :=
    server.patch SearchConfig.reader .configs name space ""
      (ApiRequest.annotationsPatch annotations)

/-- The value of a key in a secret, if there are both. -/
def secretValue? (server : ApiServer σ) (name space key : String) : Step σ (Option Bytes) := do
  let data ← ifPresent hasAbsentReason
    (server.exchange secretReader (ApiRequest.get? .secrets space name))
  return data.bind (·.get? key)

end ApiServer

end SearchOperator
