import SearchOperator.Kubernetes.Api.Publisher
import SearchOperator.Kubernetes.Api.Secrets
import SearchOperator.Simulation.World

/-!
# Scripted servers

A scripted server of the Kubernetes API answers with given replies in turn, whatever is asked, and
records what was asked. Once the replies are used up nothing is found any more. Beside the server
there is a world in memory whose collaborators can stand in for those behind the server. There is no
network: no request reaches a search cluster.
-/

namespace SearchOperator.Simulation

/-- A scripted server, what was asked of it, what was published on it, and a world beside it. -/
structure Server where
  replies : List ApiReply
  requests : List ApiRequest
  series : List EventSeries
  world : World

namespace Server

def start (replies : List ApiReply) (world : World) : Server := ⟨replies, [], [], world⟩

/-- The reply once the script is used up. -/
def exhausted : ApiReply :=
  let document := Json.ofMembers [("status", .string "Failure"),
    ("message", .string "script exhausted"), ("reason", .string "NotFound"), ("code", .ofNat 404)]
  ⟨404, Json.bytesOf document.text⟩

def api : ApiServer Server where
  send request := fun s =>
    let s := { s with requests := s.requests ++ [request] }
    match s.replies with
    | [] => (exhausted, s)
    | reply :: rest => (reply, { s with replies := rest })

/-- Where published series are kept. Objects are set apart by a star. -/
def log : EventLog Server where
  read s := s.series
  write all s := { s with series := all }
  mark := pure "*"

/-- The network, over which nothing is reached. -/
def network : Network Server where
  exchange _ _ url _ := pure (.error ("error sending request for url (" ++ url.text ++ ")"))

/-! ## Collaborators of the world -/

variable {α : Type}

def onWorld (m : StateM World α) : StateM Server α := fun s =>
  let (a, world) := m s.world
  (a, { s with world })

def inWorld (step : Step World α) : Step Server α := fun s =>
  let (result, world) := step s.world
  (result, { s with world })

def worldClient (client : SearchClient World) : SearchClient Server where
  request method url body := onWorld (client.request method url body)

def worldClients : ClientFactory Server where
  clientFor space name := do
    return worldClient (← inWorld (World.clients.clientFor space name))

def worldPublisher : EventPublisher Server where
  publish e := onWorld (World.publisher.publish e)

def worldClusterApi : ClusterApi Server where
  getCluster name space := inWorld (World.clusterApi.getCluster name space)
  listPods name space := inWorld (World.clusterApi.listPods name space)
  listStatefulSets name space := inWorld (World.clusterApi.listStatefulSets name space)
  patchStatus name space status := inWorld (World.clusterApi.patchStatus name space status)
  patchAnnotations name space annotations :=
    inWorld (World.clusterApi.patchAnnotations name space annotations)

def worldConfigApi : ConfigApi Server where
  getConfig name space := inWorld (World.configApi.getConfig name space)
  hasCluster name space := inWorld (World.configApi.hasCluster name space)
  patchStatus name space status := inWorld (World.configApi.patchStatus name space status)
  patchAnnotations name space annotations :=
    inWorld (World.configApi.patchAnnotations name space annotations)

/-! ## Passes -/

/-- Which collaborators of a pass the world stands in for. -/
structure StandIns where
  kube : Bool
  clients : Bool
  events : Bool
deriving DecidableEq, Repr

def clientsFor (standIns : StandIns) : ClientFactory Server :=
  if standIns.clients then worldClients else api.clients network

def publisherFor (standIns : StandIns) (reporter : String) : EventPublisher Server :=
  if standIns.events then worldPublisher else api.publisher log reporter

def requestTimeout : Duration := Duration.ofSeconds defaultRequestTimeoutSeconds

def clusterContext (standIns : StandIns) : ClusterContext Server :=
  ⟨if standIns.kube then worldClusterApi else api.clusterApi, clientsFor standIns,
    publisherFor standIns SearchCluster.controllerName, requestTimeout⟩

def configContext (standIns : StandIns) (version : String) : ConfigContext Server :=
  ⟨if standIns.kube then worldConfigApi else api.configApi, clientsFor standIns,
    publisherFor standIns SearchConfig.controllerName, version, requestTimeout⟩

/-- Run a step of a controller that has published nothing yet; what others published stays. -/
def withFreshSeries (step : Step Server α) : Step Server α := fun s =>
  let (result, after) := step { s with series := [] }
  (result, { after with series := s.series })

end Server

end SearchOperator.Simulation
