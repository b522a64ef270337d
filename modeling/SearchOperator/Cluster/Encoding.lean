import SearchOperator.Cluster.Spec
import SearchOperator.Json.Text
import SearchOperator.Json.Typed

/-!
# Clusters as JSON

How the spec and the status of a cluster are written, member by member, and how they are read. A
member of a status that is missing has the value of a cluster without status.
-/

namespace SearchOperator

open Json.Reader

/-- The bounds of a signed word of 32 bits. -/
def int32Reader : Json.Reader Int := integer "i32" (-0x80000000) 0x7FFFFFFF

namespace NodeSet

structure Draft where
  name : Option String
  count : Option Int

def layout : Json.Record Draft where
  name := "NodeSetSpec"
  unique := true
  blank := ⟨none, none⟩
  fields := [
    ⟨"name", true, (·.name.isSome), fun _ => do
      let v ← string
      return fun d => { d with name := some v }⟩,
    ⟨"count", true, (·.count.isSome), fun _ => do
      let v ← int32Reader
      return fun d => { d with count := some v }⟩]

def reader : Json.Typed NodeSet := fun depth => do
  let d ← layout.read depth
  return ⟨d.name.getD "", d.count.getD 0⟩

def jsonText (s : NodeSet) : String :=
  Json.orderedText [("name", (Json.string s.name).text), ("count", toString s.count)]

end NodeSet

namespace ClusterSpec

structure Draft where
  version : Option String
  nodeSets : Option (List NodeSet)

def layout : Json.Record Draft where
  name := "SearchClusterSpec"
  unique := true
  blank := ⟨none, none⟩
  fields := [
    ⟨"version", true, (·.version.isSome), fun _ => do
      let v ← string
      return fun d => { d with version := some v }⟩,
    ⟨"nodeSets", true, (·.nodeSets.isSome), fun depth => do
      let v ← listOf NodeSet.reader depth
      return fun d => { d with nodeSets := some v }⟩]

def reader : Json.Typed ClusterSpec := fun depth => do
  let d ← layout.read depth
  return ⟨d.version.getD "", d.nodeSets.getD []⟩

def jsonText (spec : ClusterSpec) : String :=
  let nodeSets := "[" ++ String.intercalate "," (spec.nodeSets.map NodeSet.jsonText) ++ "]"
  Json.orderedText [("version", (Json.string spec.version).text), ("nodeSets", nodeSets)]

def ofText (s : String) : Except String ClusterSpec := Json.readTyped reader (Json.bytesOf s)

end ClusterSpec

namespace ClusterStatus

structure Draft where
  phase : Option ClusterPhase
  health : Option Health
  availableNodes : Option Int
  version : Option String

def layout : Json.Record Draft where
  name := "SearchClusterStatus"
  unique := true
  blank := ⟨none, none, none, none⟩
  fields := [
    ⟨"phase", false, (·.phase.isSome), fun depth => do
      let v ← variant ClusterPhase.names depth
      return fun d => { d with phase := some v }⟩,
    ⟨"health", false, (·.health.isSome), fun depth => do
      let v ← variant Health.names depth
      return fun d => { d with health := some v }⟩,
    ⟨"availableNodes", false, (·.availableNodes.isSome), fun _ => do
      let v ← int32Reader
      return fun d => { d with availableNodes := some v }⟩,
    ⟨"version", false, (·.version.isSome), fun _ => do
      let v ← string
      return fun d => { d with version := some v }⟩]

def reader : Json.Typed ClusterStatus := fun depth => do
  let d ← layout.read depth
  let initial := ClusterStatus.initial
  return ⟨d.phase.getD initial.phase, d.health.getD initial.health,
    d.availableNodes.getD initial.availableNodes, d.version.getD initial.version⟩

/-- The members of a status as they are written; an empty version is left out. -/
def members (s : ClusterStatus) : List (String × Json) :=
  [("phase", .string s.phase.text), ("health", .string s.health.text),
    ("availableNodes", .ofInt s.availableNodes)] ++
    if s.version = "" then [] else [("version", .string s.version)]

def toJson (s : ClusterStatus) : Json := .ofMembers s.members

def jsonText (s : ClusterStatus) : String :=
  Json.orderedText (s.members.map fun (k, v) => (k, v.text))

def ofText (s : String) : Except String ClusterStatus := Json.readTyped reader (Json.bytesOf s)

end ClusterStatus

end SearchOperator
