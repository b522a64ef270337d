import SearchOperator.Dictionary
import SearchOperator.Text.Blank

/-!
# Metadata of Kubernetes objects

What every object carries: its names, its labels and annotations, and the time at which it was
asked to go. The operator reads its own conventions from labels and annotations.
-/

namespace SearchOperator

/-- The metadata of an object. The deletion time is in milliseconds since 1970. -/
structure Metadata where
  name : Option String
  generateName : Option String
  space : Option String
  labels : Option (Dictionary String)
  annotations : Option (Dictionary String)
  generation : Option Int
  uid : Option String
  resourceVersion : Option String
  deletion : Option Int
deriving DecidableEq

/-- The address of an object in events about it. -/
structure ObjectReference where
  apiVersion : Option String
  kind : Option String
  name : Option String
  space : Option String
  uid : Option String
deriving DecidableEq

namespace Metadata

def blank : Metadata := ⟨none, none, none, none, none, none, none, none, none⟩

instance : Inhabited Metadata := ⟨blank⟩

/-- The name of the object, or the name it is generated from, or nothing. -/
def anyName (m : Metadata) : String := (m.name.orElse fun _ => m.generateName).getD ""

/-- The namespace of the object, or nothing. -/
def spaceOrEmpty (m : Metadata) : String := m.space.getD ""

def annotation? (m : Metadata) (key : String) : Option String :=
  m.annotations.bind (·.get? key)

def label? (m : Metadata) (key : String) : Option String :=
  m.labels.bind (·.get? key)

def annotate (m : Metadata) (key value : String) : Metadata :=
  { m with annotations := some ((m.annotations.getD ∅).insert key value) }

def annotateAll (m : Metadata) (annotations : Dictionary String) : Metadata :=
  { m with annotations := some ((m.annotations.getD ∅).merge annotations) }

end Metadata

/-! ## Conventions of the operator -/

def apiVersion : String := "searchop.dev/v1alpha1"

def clusterNameLabel : String := "searchop.dev/cluster-name"

def versionLabel : String := "searchop.dev/version"

def nodeSetLabel : String := "searchop.dev/node-set"

/-- The annotation that pauses reconciliation. -/
def managedKey : String := "searchop.dev/managed"

/-- The annotation with the version of the controller that took the resource. -/
def controllerVersionKey : String := "searchop.dev/controller-version"

def hintsKey : String := "searchop.dev/orchestration-hints"

/-- Who is named as the manager of every field that is patched. -/
def fieldManager : String := "searchop-controller"

def operatorVersion : String := "0.1.0"

def defaultRequestTimeoutSeconds : Nat := 180

/-- Whether a resource opted out of reconciliation. -/
def Metadata.isUnmanaged (m : Metadata) : Bool :=
  (m.annotation? managedKey).any fun v =>
    Text.sameIgnoringAsciiCase (Text.trim v) "false"

def Metadata.controllerVersion? (m : Metadata) : Option String :=
  m.annotation? controllerVersionKey

def clusterSelector (cluster : String) : String := clusterNameLabel ++ "=" ++ cluster

def statefulSetName (cluster nodeSet : String) : String := cluster ++ "-search-" ++ nodeSet

def clusterUrl (name space : String) : String :=
  "https://" ++ name ++ "-http." ++ space ++ ".svc:9200"

/-- The secret with the operator's credentials for a cluster. -/
def userSecretName (cluster : String) : String := cluster ++ "-search-user"

/-- The secret with the certificate authority of a cluster's HTTP service. -/
def caSecretName (cluster : String) : String := cluster ++ "-http-certs-public"

end SearchOperator
