import SearchOperator.Cluster.Status
import SearchOperator.Config.Spec
import SearchOperator.Json.Yaml

/-!
# Manifests

The operator's own kinds of resources are declared to Kubernetes by manifests: the names of a kind,
the columns of its listings, and the schema of its spec and status.
-/

namespace SearchOperator.Manifest

/-- A column of a listing: its name, its type, and the path of what it shows. -/
structure Column where
  name : String
  type : String
  path : String

structure Kind where
  name : String
  plural : String
  shortName : String
  columns : List Column
  spec : Json
  status : Json

/-! ## Schemas -/

def typed (type description : String) (more : List (String × Json)) : Json :=
  .ofMembers (("type", .string type) :: ("description", .string description) :: more)

def required (names : List String) : String × Json :=
  ("required", .array (names.map Json.string))

def properties (members : List (String × Json)) : String × Json :=
  ("properties", .ofMembers members)

def format (name : String) : String × Json := ("format", .string name)

def nullable : String × Json := ("nullable", .bool true)

def initial (value : Json) : String × Json := ("default", value)

def values (names : List String) : String × Json := ("enum", .array (names.map Json.string))

def clusterSpec : Json :=
  let nodeSet := typed "object" "One group of identically configured nodes" [
    required ["count", "name"],
    properties [
      ("count", typed "integer" "Number of nodes in the set" [format "int32"]),
      ("name", typed "string" "Name of the node set, unique within the cluster" [])]]
  typed "object" "Specification for a SearchCluster" [
    required ["nodeSets", "version"],
    properties [
      ("nodeSets", typed "array" "Node groups making up the cluster" [("items", nodeSet)]),
      ("version", typed "string" "Version of the search engine to run" [])]]

def clusterStatus : Json :=
  let start := ClusterStatus.initial
  typed "object" "Status for a SearchCluster" [
    nullable,
    properties [
      ("availableNodes", typed "integer" "Number of ready nodes"
        [format "int32", initial (.ofInt start.availableNodes)]),
      ("health", typed "string" "Health reported by the cluster"
        [initial (.string start.health.text), values (Health.names.map (·.1))]),
      ("phase", typed "string" "Current lifecycle phase"
        [initial (.string start.phase.text), values (ClusterPhase.names.map (·.1))]),
      ("version", typed "string" "Lowest version running or about to run in the cluster" [])]]

def configSpec : Json :=
  let operation := typed "object" "One declared setting: the body \x60url\x60 must at least contain" [
    required ["url"],
    properties [
      ("body", typed "string" "Desired JSON body. Empty means \x60\x7b\x7d\x60."
        [initial (.string "")]),
      ("url", typed "string" "API path on the cluster, e.g. \x60/_ilm/policy/logs\x60" [])]]
  typed "object" "Specification for a SearchConfig" [
    required ["clusterRef"],
    properties [
      ("clusterRef", typed "object" "Cluster the operations are applied to" [
        required ["name"],
        properties [
          ("name", typed "string" "Name of the SearchCluster" []),
          ("namespace", typed "string"
            "Namespace of the SearchCluster, defaults to the SearchConfig's namespace"
            [nullable])]]),
      ("operations", typed "array" "Operations, applied in order"
        [initial (.array []), ("items", operation)])]]

def configStatus : Json :=
  let start := ConfigStatus.initial
  typed "object" "Status for a SearchConfig" [
    nullable,
    properties [
      ("appliedOperations", typed "integer"
        "Number of operations converged in the last successful pass"
        [format "uint32", initial (.ofNat start.appliedOperations),
          ("minimum", .number (.float Binary64.zero))]),
      ("message", typed "string" "Human-readable detail for the phase" [nullable]),
      ("observedGeneration", typed "integer" "Generation the status was computed for"
        [format "int64", nullable]),
      ("phase", typed "string" "Current phase"
        [initial (.string start.phase.text), values (ConfigPhase.names.map (·.1))])]]

/-! ## Kinds -/

def age : Column := ⟨"Age", "date", ".metadata.creationTimestamp"⟩

def searchCluster : Kind where
  name := "SearchCluster"
  plural := "searchclusters"
  shortName := "sc"
  columns := [⟨"Health", "string", ".status.health"⟩, ⟨"Nodes", "integer", ".status.availableNodes"⟩,
    ⟨"Version", "string", ".status.version"⟩, ⟨"Phase", "string", ".status.phase"⟩, age]
  spec := clusterSpec
  status := clusterStatus

def searchConfig : Kind where
  name := "SearchConfig"
  plural := "searchconfigs"
  shortName := "scfg"
  columns := [⟨"Cluster", "string", ".spec.clusterRef.name"⟩, ⟨"Phase", "string", ".status.phase"⟩,
    ⟨"Applied", "integer", ".status.appliedOperations"⟩, age]
  spec := configSpec
  status := configStatus

namespace Kind

def group : String := "searchop.dev"

def version : String := "v1alpha1"

def schema (k : Kind) : Json :=
  let description :=
    "Auto-generated derived type for " ++ k.name ++ "Spec via \x60CustomResource\x60"
  typed "object" description [
    required ["spec"],
    ("title", .string k.name),
    properties [("spec", k.spec), ("status", k.status)]]

/-- The version of the kind that is served and stored. -/
def servedVersion (k : Kind) : Json :=
  let column (c : Column) : Json := .ofMembers [("jsonPath", .string c.path),
    ("name", .string c.name), ("type", .string c.type)]
  .ofMembers [("additionalPrinterColumns", .array (k.columns.map column)),
    ("name", .string version), ("schema", .ofMembers [("openAPIV3Schema", k.schema)]),
    ("served", .bool true), ("storage", .bool true),
    ("subresources", .ofMembers [("status", .ofMembers [])])]

def manifest (k : Kind) : Json :=
  let names := Json.ofMembers [("categories", .array []), ("kind", .string k.name),
    ("plural", .string k.plural), ("shortNames", .array [.string k.shortName]),
    ("singular", .string (Text.lowerAscii k.name))]
  .ofMembers [("apiVersion", .string "apiextensions.k8s.io/v1"),
    ("kind", .string "CustomResourceDefinition"),
    ("metadata", .ofMembers [("name", .string (k.plural ++ "." ++ group))]),
    ("spec", .ofMembers [("group", .string group), ("names", names),
      ("scope", .string "Namespaced"), ("versions", .array [k.servedVersion])])]

end Kind

def text : String :=
  searchCluster.manifest.yaml ++ "---\n" ++ searchConfig.manifest.yaml ++ "\n"

end SearchOperator.Manifest
