import SearchOperator.Config.Spec
import SearchOperator.Json.Text
import SearchOperator.Json.Typed

/-!
# Configs as JSON

How the spec and the status of a config are written, member by member, and how they are read.
Absent optional members are left out, and a missing member of a status has its initial value.
-/

namespace SearchOperator

open Json.Reader

namespace ClusterRef

structure Draft where
  name : Option String
  space : Option (Option String)

def layout : Json.Record Draft where
  name := "ClusterRef"
  unique := true
  blank := ⟨none, none⟩
  fields := [
    ⟨"name", true, (·.name.isSome), fun _ => do
      let v ← string
      return fun d => { d with name := some v }⟩,
    ⟨"namespace", false, (·.space.isSome), fun _ => do
      let v ← optional string
      return fun d => { d with space := some v }⟩]

def reader : Json.Typed ClusterRef := fun depth => do
  let d ← layout.read depth
  return ⟨d.name.getD "", d.space.getD none⟩

def jsonText (r : ClusterRef) : String :=
  let space := match r.space with
    | some space => [("namespace", (Json.string space).text)]
    | none => []
  Json.orderedText (("name", (Json.string r.name).text) :: space)

end ClusterRef

namespace Operation

structure Draft where
  url : Option String
  body : Option String

def layout : Json.Record Draft where
  name := "ConfigOperation"
  unique := true
  blank := ⟨none, none⟩
  fields := [
    ⟨"url", true, (·.url.isSome), fun _ => do
      let v ← string
      return fun d => { d with url := some v }⟩,
    ⟨"body", false, (·.body.isSome), fun _ => do
      let v ← string
      return fun d => { d with body := some v }⟩]

def reader : Json.Typed Operation := fun depth => do
  let d ← layout.read depth
  return ⟨d.url.getD "", d.body.getD ""⟩

def jsonText (op : Operation) : String :=
  Json.orderedText [("url", (Json.string op.url).text), ("body", (Json.string op.body).text)]

end Operation

namespace ConfigSpec

structure Draft where
  cluster : Option ClusterRef
  operations : Option (List Operation)

def layout : Json.Record Draft where
  name := "SearchConfigSpec"
  unique := true
  blank := ⟨none, none⟩
  fields := [
    ⟨"clusterRef", true, (·.cluster.isSome), fun depth => do
      let v ← ClusterRef.reader depth
      return fun d => { d with cluster := some v }⟩,
    ⟨"operations", false, (·.operations.isSome), fun depth => do
      let v ← listOf Operation.reader depth
      return fun d => { d with operations := some v }⟩]

def reader : Json.Typed ConfigSpec := fun depth => do
  let d ← layout.read depth
  return ⟨d.cluster.getD ⟨"", none⟩, d.operations.getD []⟩

def jsonText (spec : ConfigSpec) : String :=
  let operations := "[" ++ String.intercalate "," (spec.operations.map Operation.jsonText) ++ "]"
  Json.orderedText [("clusterRef", spec.cluster.jsonText), ("operations", operations)]

def ofText (s : String) : Except String ConfigSpec := Json.readTyped reader (Json.bytesOf s)

end ConfigSpec

namespace ConfigStatus

structure Draft where
  phase : Option ConfigPhase
  message : Option (Option String)
  appliedOperations : Option Int
  observedGeneration : Option (Option Int)

def layout : Json.Record Draft where
  name := "SearchConfigStatus"
  unique := true
  blank := ⟨none, none, none, none⟩
  fields := [
    ⟨"phase", false, (·.phase.isSome), fun depth => do
      let v ← variant ConfigPhase.names depth
      return fun d => { d with phase := some v }⟩,
    ⟨"message", false, (·.message.isSome), fun _ => do
      let v ← optional string
      return fun d => { d with message := some v }⟩,
    ⟨"appliedOperations", false, (·.appliedOperations.isSome), fun _ => do
      let v ← integer "u32" 0 0xFFFFFFFF
      return fun d => { d with appliedOperations := some v }⟩,
    ⟨"observedGeneration", false, (·.observedGeneration.isSome), fun _ => do
      let v ← optional (integer "i64" (-0x8000000000000000) 0x7FFFFFFFFFFFFFFF)
      return fun d => { d with observedGeneration := some v }⟩]

def reader : Json.Typed ConfigStatus := fun depth => do
  let d ← layout.read depth
  return ⟨d.phase.getD .pending, d.message.getD none, (d.appliedOperations.getD 0).toNat,
    d.observedGeneration.getD none⟩

/-- The members of a status as they are written; absent ones are left out. -/
def members (s : ConfigStatus) : List (String × Json) :=
  let message := match s.message with
    | some message => [("message", Json.string message)]
    | none => []
  let generation := match s.observedGeneration with
    | some generation => [("observedGeneration", Json.ofInt generation)]
    | none => []
  [("phase", .string s.phase.text)] ++ message ++
    [("appliedOperations", .ofNat s.appliedOperations)] ++ generation

def toJson (s : ConfigStatus) : Json := .ofMembers s.members

def jsonText (s : ConfigStatus) : String :=
  Json.orderedText (s.members.map fun (k, v) => (k, v.text))

def ofText (s : String) : Except String ConfigStatus := Json.readTyped reader (Json.bytesOf s)

end ConfigStatus

end SearchOperator
