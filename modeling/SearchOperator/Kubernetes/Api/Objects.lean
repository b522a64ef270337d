import SearchOperator.Cluster.Encoding
import SearchOperator.Config.Encoding
import SearchOperator.Kubernetes.Workload
import SearchOperator.Text.Base64
import SearchOperator.Time.Instant

/-!
# Objects as the API sends them

How metadata, pods, StatefulSets, secrets, events and the operator's own resources are read. Members
that the operator makes no use of are checked where their shape is simple, and passed over where it
is not.
-/

namespace SearchOperator

open Json.Reader

namespace Json

def texts : Typed String := fun _ => Reader.string

def words : Typed Int := fun _ => int32Reader

def longWords : Typed Int := fun _ => Reader.integer "i64" (-0x8000000000000000) 0x7FFFFFFFFFFFFFFF

def booleans : Typed Bool := fun _ => Reader.boolean

def instants : Typed Int := fun _ => place do
  let s ← Reader.string
  match Instant.ofText? s with
  | some t => return t
  | none => mismatch "input contains invalid characters"

def base64 : Typed Bytes := fun _ => place do
  let s ← Reader.string
  match Text.Base64.decode? (bytesOf s) with
  | some bytes => return bytes
  | none => mismatch "invalid base64"

def textMap : Typed (Dictionary String) := dictionaryOf texts

def textList : Typed (List String) := listOf texts

def objectList : Typed (List Unit) := listOf anyObject

/-- Members that hold strings and are not kept. -/
def checkedTexts {δ : Type} (keys : List String) : List (Field δ) :=
  keys.map fun key => Field.checked key texts

/-- Members that hold arrays of objects and are not kept. -/
def checkedLists {δ : Type} (keys : List String) : List (Field δ) :=
  keys.map fun key => Field.checked key objectList

/-- The members that every object has besides its metadata: its version and its kind. -/
def header {δ : Type} (version kind : String) : List (Field δ) :=
  [Field.fixed "apiVersion" version, Field.fixed "kind" kind]

end Json

open Json

namespace Metadata

def ownerLayout : Record Unit :=
  Record.shape "OwnerReference" <|
    checkedTexts ["apiVersion", "kind", "name", "uid"] ++
      [Field.checked "blockOwnerDeletion" booleans, Field.checked "controller" booleans]

def managerLayout : Record Unit :=
  Record.shape "ManagedFieldsEntry" <|
    checkedTexts ["apiVersion", "fieldsType", "manager", "operation", "subresource"] ++
      [Field.checked "time" instants]

def layout : Record Metadata where
  name := "ObjectMeta"
  unique := false
  blank := blank
  fields := [
    Field.kept "annotations" textMap fun v d => { d with annotations := v },
    Field.kept "deletionTimestamp" instants fun v d => { d with deletion := v },
    Field.kept "generateName" texts fun v d => { d with generateName := v },
    Field.kept "generation" longWords fun v d => { d with generation := v },
    Field.kept "labels" textMap fun v d => { d with labels := v },
    Field.kept "name" texts fun v d => { d with name := v },
    Field.kept "namespace" texts fun v d => { d with space := v },
    Field.kept "resourceVersion" texts fun v d => { d with resourceVersion := v },
    Field.kept "uid" texts fun v d => { d with uid := v },
    Field.checked "creationTimestamp" instants,
    Field.checked "deletionGracePeriodSeconds" longWords,
    Field.checked "finalizers" textList,
    Field.checked "managedFields" (listOf managerLayout.read),
    Field.checked "ownerReferences" (listOf ownerLayout.read),
    Field.checked "selfLink" texts]

def reader : Typed Metadata := layout.read

end Metadata

namespace Pod

def conditionLayout : Record (String × String) where
  name := "PodCondition"
  unique := false
  blank := ("", "")
  fields := [
    Field.kept "type" texts fun v d => (v.getD "", d.2),
    Field.kept "status" texts fun v d => (d.1, v.getD ""),
    Field.checked "lastProbeTime" instants,
    Field.checked "lastTransitionTime" instants] ++ checkedTexts ["message", "reason"]

def statusLayout : Record PodStatus where
  name := "PodStatus"
  unique := false
  blank := ⟨none, []⟩
  fields := [
    Field.kept "phase" texts fun v d => { d with phase := v },
    Field.kept "conditions" (listOf conditionLayout.read) fun v d =>
      { d with conditions := v.getD [] },
    Field.checked "startTime" instants] ++
      checkedTexts ["hostIP", "message", "nominatedNodeName", "podIP", "qosClass", "reason",
        "resize"] ++
      checkedLists ["containerStatuses", "ephemeralContainerStatuses", "hostIPs",
        "initContainerStatuses", "podIPs", "resourceClaimStatuses"]

def layout : Record Pod where
  name := "Pod"
  unique := false
  blank := ⟨Metadata.blank, none⟩
  fields := header "v1" "Pod" ++ [
    Field.kept "metadata" Metadata.reader fun v d => { d with metadata := v.getD Metadata.blank },
    Field.checked "spec" anyObject,
    Field.kept "status" statusLayout.read fun v d => { d with status := v }]

def reader : Typed Pod := layout.read

end Pod

namespace StatefulSet

/-- The members of the template of pods; its metadata is kept. -/
def templateLayout : Record (Option Metadata) where
  name := "PodTemplateSpec"
  unique := false
  blank := none
  fields := [
    Field.kept "metadata" Metadata.reader fun v _ => v,
    Field.checked "spec" anyObject]

def specLayout : Record StatefulSetSpec where
  name := "StatefulSetSpec"
  unique := false
  blank := ⟨none, none⟩
  fields := [
    Field.kept "replicas" words fun v d => { d with replicas := v },
    Field.kept "template" templateLayout.read fun v d =>
      { d with templateLabels := (v.bind id).bind (·.labels) },
    Field.checked "minReadySeconds" words,
    Field.checked "revisionHistoryLimit" words,
    Field.checked "ordinals" anyObject,
    Field.checked "persistentVolumeClaimRetentionPolicy" anyObject,
    Field.checked "selector" anyObject,
    Field.checked "updateStrategy" anyObject,
    Field.checked "volumeClaimTemplates" objectList] ++
      checkedTexts ["podManagementPolicy", "serviceName"]

def layout : Record StatefulSet where
  name := "StatefulSet"
  unique := false
  blank := ⟨Metadata.blank, none⟩
  fields := header "apps/v1" "StatefulSet" ++ [
    Field.kept "metadata" Metadata.reader fun v d => { d with metadata := v.getD Metadata.blank },
    Field.kept "spec" specLayout.read fun v d => { d with spec := v },
    Field.checked "status" anyObject]

def reader : Typed StatefulSet := layout.read

end StatefulSet

/-- The members of a secret; its data is kept. -/
def secretLayout : Record (Option (Dictionary Bytes)) where
  name := "Secret"
  unique := false
  blank := none
  fields := header "v1" "Secret" ++ [
    Field.kept "data" (dictionaryOf base64) fun v _ => v,
    Field.checked "immutable" booleans,
    Field.checked "metadata" Metadata.reader,
    Field.checked "stringData" textMap,
    Field.checked "type" texts]

def secretReader : Typed (Dictionary Bytes) := fun depth => do
  return (← secretLayout.read depth).getD ∅

def referenceLayout : Record Unit :=
  Record.shape "ObjectReference" <|
    checkedTexts ["apiVersion", "fieldPath", "kind", "name", "namespace", "resourceVersion", "uid"]

def seriesLayout : Record Unit :=
  Record.shape "EventSeries" [Field.checked "count" words, Field.checked "lastObservedTime" instants]

/-- The members of an event, of which nothing is kept. -/
def eventLayout : Record Unit :=
  Record.shape "Event" <| header "events.k8s.io/v1" "Event" ++
    checkedTexts ["action", "note", "reason", "reportingController", "reportingInstance", "type"] ++ [
    Field.checked "deprecatedCount" words,
    Field.checked "deprecatedFirstTimestamp" instants,
    Field.checked "deprecatedLastTimestamp" instants,
    Field.checked "deprecatedSource"
      (Record.shape "EventSource" (checkedTexts ["component", "host"])).read,
    Field.checked "eventTime" instants,
    Field.checked "metadata" Metadata.reader,
    Field.checked "regarding" referenceLayout.read,
    Field.checked "related" referenceLayout.read,
    Field.checked "series" seriesLayout.read]

def eventReader : Typed Unit := eventLayout.read

/-! ## Lists -/

structure ListDraft (α : Type) where
  info : Option Unit
  items : Option (List α)

def listInfoLayout : Record Unit :=
  Record.shape "ListMeta" <| checkedTexts ["continue", "resourceVersion", "selfLink"] ++
    [Field.checked "remainingItemCount" longWords]

def listLayout {α : Type} (item : Typed α) : Record (ListDraft α) where
  name := "ObjectList"
  unique := true
  hasListForm := false
  blank := ⟨none, none⟩
  fields := [
    ⟨"metadata", false, (·.info.isSome), fun depth => do
      let v ← listInfoLayout.read depth
      return fun d => { d with info := some v }⟩,
    ⟨"items", true, (·.items.isSome), fun depth => do
      let v ← optional (listOf item depth)
      return fun d => { d with items := some (v.getD []) }⟩]

def listReader {α : Type} (item : Typed α) : Typed (List α) := fun depth => do
  return ((← (listLayout item).read depth).items).getD []

/-! ## The operator's own resources -/

structure ResourceDraft (α β : Type) where
  metadata : Option Metadata
  spec : Option α
  status : Option (Option β)

def resourceLayout {α β : Type} (name : String) (spec : Typed α) (status : Typed β) :
    Record (ResourceDraft α β) where
  name := name
  unique := true
  blank := ⟨none, none, none⟩
  fields := [
    ⟨"metadata", true, (·.metadata.isSome), fun depth => do
      let v ← Metadata.reader depth
      return fun d => { d with metadata := some v }⟩,
    ⟨"spec", true, (·.spec.isSome), fun depth => do
      let v ← spec depth
      return fun d => { d with spec := some v }⟩,
    ⟨"status", false, (·.status.isSome), fun depth => do
      let v ← optional (status depth)
      return fun d => { d with status := some v }⟩]

def SearchCluster.reader : Typed SearchCluster := fun depth => do
  let d ← (resourceLayout "SearchCluster" ClusterSpec.reader ClusterStatus.reader).read depth
  return ⟨d.metadata.getD Metadata.blank, d.spec.getD ⟨"", []⟩, d.status.getD none⟩

def SearchConfig.reader : Typed SearchConfig := fun depth => do
  let d ← (resourceLayout "SearchConfig" ConfigSpec.reader ConfigStatus.reader).read depth
  return ⟨d.metadata.getD Metadata.blank, d.spec.getD ⟨⟨"", none⟩, []⟩, d.status.getD none⟩

end SearchOperator
