import SearchOperator.Cluster.Encoding
import SearchOperator.Proofs.Config.StatusPatch

/-!
# Payloads read back

The specs and the statuses of clusters and configs are written member by member, in the order in
which their members are declared. Each of them is read back from its text as it was, whatever its
strings hold and however long its lists are, although what is absent or has its initial value may
be left out.
-/

namespace SearchOperator

open Json.Reader

/-! ## Clusters -/

def IsInt32 (n : Int) : Prop := -0x80000000 ≤ n ∧ n ≤ 0x7FFFFFFF

section

variable {n : Int} (fits : IsInt32 n)
include fits

theorem IsInt32.ofInt : ∃ w : WordInt, Json.ofInt n = .number (.integer w) ∧ w.val = n := by
  obtain ⟨low, high⟩ := fits
  exact ⟨_, ConfigStatus.ofInt_eq (by omega) (by omega), rfl⟩

theorem IsInt32.text : (Json.ofInt n).text = toString n := by
  obtain ⟨w, written, value⟩ := fits.ofInt
  rw [written, ← value, Json.text, Json.chars, Json.numberChars, String.ofList_toList]

theorem IsInt32.reads : Reads int32Reader (.ofInt n) n := by
  obtain ⟨w, written, value⟩ := fits.ofInt
  obtain ⟨low, high⟩ := fits
  rw [written, ← value]
  exact reads_integer "i32" (by omega) (by omega)

end

namespace NodeSet

def members (s : NodeSet) : List (String × Json) :=
  [("name", .string s.name), ("count", .ofInt s.count)]

def document (s : NodeSet) : Json := .object s.members

variable {s : NodeSet} (fits : IsInt32 s.count)
include fits

theorem jsonText_eq : s.jsonText = s.document.text := by
  rw [jsonText, ← fits.text]
  exact Json.orderedText_eq s.members

theorem reads_document (depth : Nat) : Reads (reader (depth + 1)) s.document s := by
  have filled : layout.Fills depth s.members layout.blank ⟨some s.name, some s.count⟩ :=
    .cons rfl rfl (reads_map (reads_string s.name) _)
      (.cons rfl rfl (reads_map fits.reads _) (.nil _))
  exact reads_map (Json.Record.reads_object filled (by simp [layout])) _

end NodeSet

namespace ClusterSpec

/-- The counts of a spec fit the words that hold them. -/
def Fits (spec : ClusterSpec) : Prop := ∀ s ∈ spec.nodeSets, IsInt32 s.count

def members (spec : ClusterSpec) : List (String × Json) :=
  [("version", .string spec.version), ("nodeSets", .array (spec.nodeSets.map NodeSet.document))]

def document (spec : ClusterSpec) : Json := .object spec.members

variable {spec : ClusterSpec} (fits : spec.Fits)
include fits

theorem jsonText_eq : spec.jsonText = spec.document.text := by
  have nodeSets : spec.nodeSets.map NodeSet.jsonText =
      (spec.nodeSets.map NodeSet.document).map Json.text := by
    rw [List.map_map]
    exact List.map_congr_left fun s member => NodeSet.jsonText_eq (fits s member)
  rw [jsonText, nodeSets, Json.text_array]
  exact Json.orderedText_eq spec.members

theorem reads_document (depth : Nat) : Reads (reader (depth + 3)) spec.document spec := by
  have nodeSets : Reads (listOf NodeSet.reader (depth + 2))
      (.array (spec.nodeSets.map NodeSet.document)) spec.nodeSets :=
    reads_listOf fun s member => NodeSet.reads_document (fits s member) depth
  have filled : layout.Fills (depth + 2) spec.members layout.blank
      ⟨some spec.version, some spec.nodeSets⟩ :=
    .cons rfl rfl (reads_map (reads_string spec.version) _)
      (.cons rfl rfl (reads_map nodeSets _) (.nil _))
  exact reads_map (Json.Record.reads_object filled (by simp [layout])) _

theorem ofText_jsonText : ofText spec.jsonText = .ok spec := by
  rw [jsonText_eq fits]
  -- the spec, its list and a node set take three of the 127 brackets that may be open
  exact Json.readTyped_of_reads (reads_document fits 124)

end ClusterSpec

namespace ClusterStatus

def Fits (s : ClusterStatus) : Prop := IsInt32 s.availableNodes

theorem phase_lookup (phase : ClusterPhase) :
    ClusterPhase.names.lookup phase.text = some phase := by
  cases phase <;> rfl

theorem health_lookup (health : Health) : Health.names.lookup health.text = some health := by
  cases health <;> rfl

def draft (s : ClusterStatus) : Draft :=
  ⟨some s.phase, some s.health, some s.availableNodes,
    if s.version = "" then none else some s.version⟩

variable {s : ClusterStatus} (fits : s.Fits)

theorem jsonText_eq (s : ClusterStatus) : s.jsonText = (Json.object s.members).text :=
  Json.orderedText_eq s.members

include fits in
theorem fills_draft (depth : Nat) : layout.Fills depth s.members layout.blank s.draft := by
  refine .append (.cons rfl rfl (reads_map (reads_variant (phase_lookup s.phase) depth) _)
    (.cons rfl rfl (reads_map (reads_variant (health_lookup s.health) depth) _)
      (.cons rfl rfl (reads_map (IsInt32.reads fits) _) (.nil _)))) ?_
  rw [draft]
  split
  · exact .nil _
  · exact .cons rfl rfl (reads_map (reads_string s.version) _) (.nil _)

theorem get?_version (s : ClusterStatus) : (Json.object s.members).get? "version" =
    if s.version = "" then none else some (.string s.version) := by
  rw [members]
  split
  · rfl
  · rfl

include fits in
theorem ofText_jsonText : ofText s.jsonText = .ok s := by
  have drafted := Json.Record.reads_object (fills_draft fits 126) (by simp [layout])
  have read : Reads (reader 127) (.object s.members)
      ⟨s.phase, s.health, s.availableNodes,
        (if s.version = "" then none else some s.version).getD ""⟩ := reads_map drafted _
  have version : (if s.version = "" then none else some s.version).getD "" = s.version := by
    split
    · rename_i empty
      exact empty.symm
    · rfl
  rw [version] at read
  rw [jsonText_eq]
  exact Json.readTyped_of_reads read

end ClusterStatus

/-! ## Configs -/

namespace ClusterRef

/-- The members of a reference as they are written; an absent namespace is left out. -/
def members (r : ClusterRef) : List (String × Json) :=
  ("name", .string r.name) :: ConfigStatus.optionalEntry "namespace" .string r.space

def document (r : ClusterRef) : Json := .object r.members

theorem jsonText_eq (r : ClusterRef) : r.jsonText = r.document.text := by
  have written := Json.orderedText_eq r.members
  obtain ⟨name, space⟩ := r
  cases space with
  | none => exact written
  | some space => exact written

theorem reads_document (r : ClusterRef) (depth : Nat) :
    Reads (reader (depth + 1)) r.document r := by
  obtain ⟨name, space⟩ := r
  have filled : layout.Fills depth (members ⟨name, space⟩) layout.blank
      ⟨some name, space.map some⟩ := by
    refine .cons rfl rfl (reads_map (reads_string name) _) ?_
    cases space with
    | none => exact .nil _
    | some space =>
        exact .cons rfl rfl (reads_map (reads_optional (reads_string space) (by simp)) _) (.nil _)
  have read := reads_map (Json.Record.reads_object filled (by simp [layout]))
    fun d => (⟨d.name.getD "", d.space.getD none⟩ : ClusterRef)
  cases space with
  | none => exact read
  | some space => exact read

end ClusterRef

namespace Operation

def members (op : Operation) : List (String × Json) :=
  [("url", .string op.url), ("body", .string op.body)]

def document (op : Operation) : Json := .object op.members

theorem jsonText_eq (op : Operation) : op.jsonText = op.document.text :=
  Json.orderedText_eq op.members

theorem reads_document (op : Operation) (depth : Nat) :
    Reads (reader (depth + 1)) op.document op := by
  have filled : layout.Fills depth op.members layout.blank ⟨some op.url, some op.body⟩ :=
    .cons rfl rfl (reads_map (reads_string op.url) _)
      (.cons rfl rfl (reads_map (reads_string op.body) _) (.nil _))
  exact reads_map (Json.Record.reads_object filled (by simp [layout])) _

end Operation

namespace ConfigSpec

def members (spec : ConfigSpec) : List (String × Json) :=
  [("clusterRef", spec.cluster.document),
    ("operations", .array (spec.operations.map Operation.document))]

def document (spec : ConfigSpec) : Json := .object spec.members

theorem jsonText_eq (spec : ConfigSpec) : spec.jsonText = spec.document.text := by
  have operations : spec.operations.map Operation.jsonText =
      (spec.operations.map Operation.document).map Json.text := by
    rw [List.map_map]
    exact List.map_congr_left fun op _ => op.jsonText_eq
  rw [jsonText, operations, Json.text_array, ClusterRef.jsonText_eq]
  exact Json.orderedText_eq spec.members

theorem reads_document (spec : ConfigSpec) (depth : Nat) :
    Reads (reader (depth + 3)) spec.document spec := by
  have operations : Reads (listOf Operation.reader (depth + 2))
      (.array (spec.operations.map Operation.document)) spec.operations :=
    reads_listOf fun op _ => op.reads_document depth
  have filled : layout.Fills (depth + 2) spec.members layout.blank
      ⟨some spec.cluster, some spec.operations⟩ :=
    .cons rfl rfl (reads_map (spec.cluster.reads_document (depth + 1)) _)
      (.cons rfl rfl (reads_map operations _) (.nil _))
  exact reads_map (Json.Record.reads_object filled (by simp [layout])) _

theorem get?_namespace (spec : ConfigSpec) :
    (spec.document.get? "clusterRef").bind (·.get? "namespace") =
      spec.cluster.space.map .string := by
  obtain ⟨⟨name, space⟩, operations⟩ := spec
  cases space with
  | none => rfl
  | some space => rfl

theorem ofText_jsonText (spec : ConfigSpec) : ofText spec.jsonText = .ok spec := by
  rw [jsonText_eq]
  exact Json.readTyped_of_reads (spec.reads_document 124)

end ConfigSpec

namespace ConfigStatus

theorem jsonText_eq (s : ConfigStatus) : s.jsonText = (Json.object s.members).text :=
  Json.orderedText_eq s.members

theorem members_eq (s : ConfigStatus) : s.members = [("phase", .string s.phase.text)] ++
    (optionalEntry "message" .string s.message ++
      ([("appliedOperations", .ofNat s.appliedOperations)] ++
        optionalEntry "observedGeneration" .ofInt s.observedGeneration)) := by
  obtain ⟨phase, message, applied, generation⟩ := s
  cases message with
  | none =>
      cases generation with
      | none => rfl
      | some g => rfl
  | some m =>
      cases generation with
      | none => rfl
      | some g => rfl

theorem get?_message (s : ConfigStatus) :
    (Json.object s.members).get? "message" = s.message.map .string := by
  rw [members_eq]
  cases s.message with
  | none => cases s.observedGeneration <;> rfl
  | some m => rfl

theorem get?_generation (s : ConfigStatus) :
    (Json.object s.members).get? "observedGeneration" = s.observedGeneration.map .ofInt := by
  rw [members_eq]
  cases s.observedGeneration with
  | none => cases s.message <;> rfl
  | some g => cases s.message <;> rfl

theorem ofText_jsonText {s : ConfigStatus} (fits : s.Fits) : ofText s.jsonText = .ok s := by
  have filled : layout.Fills 126 s.members layout.blank s.draft := by
    rw [members_eq]
    exact (s.fills_phase 126 none none none).append
      ((s.fills_message 126 _ none none).append
        ((fills_applied fits 126 _ _ none).append (fills_generation fits 126 _ _ _)))
  rw [jsonText_eq]
  exact Json.readTyped_of_reads (reads_of_fills filled)

end ConfigStatus

/-! ## All payloads -/

/-- Every spec and every status of a cluster or a config is read back from its text, as long as its
numbers fit their words. The text is that of an object that has no empty version, no absent
namespace, no absent message and no absent generation. -/
theorem payloads_read_back :
    (∀ spec : ClusterSpec, spec.Fits → ClusterSpec.ofText spec.jsonText = .ok spec) ∧
    (∀ spec : ConfigSpec, ConfigSpec.ofText spec.jsonText = .ok spec ∧
      spec.jsonText = spec.document.text ∧
      (spec.document.get? "clusterRef").bind (·.get? "namespace") =
        spec.cluster.space.map .string) ∧
    (∀ s : ClusterStatus, s.Fits → ClusterStatus.ofText s.jsonText = .ok s ∧
      s.jsonText = (Json.object s.members).text ∧
      (Json.object s.members).get? "version" =
        if s.version = "" then none else some (.string s.version)) ∧
    (∀ s : ConfigStatus, s.Fits → ConfigStatus.ofText s.jsonText = .ok s ∧
      s.jsonText = (Json.object s.members).text ∧
      (Json.object s.members).get? "message" = s.message.map .string ∧
      (Json.object s.members).get? "observedGeneration" = s.observedGeneration.map .ofInt) := by
  refine ⟨fun spec => ClusterSpec.ofText_jsonText, fun spec => ?_, fun s fits => ?_,
    fun s fits => ?_⟩
  · exact ⟨spec.ofText_jsonText, spec.jsonText_eq, spec.get?_namespace⟩
  · exact ⟨ClusterStatus.ofText_jsonText fits, s.jsonText_eq, s.get?_version⟩
  · exact ⟨ConfigStatus.ofText_jsonText fits, s.jsonText_eq, s.get?_message, s.get?_generation⟩

/-- A spec with names that need escapes, and with the bounds of the words as counts. -/
def boundarySpec : ClusterSpec := ⟨"", [⟨"hot \"1\"\n", 0x7FFFFFFF⟩, ⟨"é", -0x80000000⟩]⟩

/-- A status without message, and with the bounds of the words as numbers. -/
def boundaryStatus : ConfigStatus := ⟨.failed, none, 0xFFFFFFFF, some (-0x8000000000000000)⟩

/-- Payloads at the bounds are read back, and what is absent from them is left out. -/
theorem payloads_read_back_boundary :
    boundarySpec.Fits ∧ ClusterSpec.ofText boundarySpec.jsonText = .ok boundarySpec ∧
    ClusterStatus.initial.Fits ∧
      ClusterStatus.ofText ClusterStatus.initial.jsonText = .ok .initial ∧
      (Json.object ClusterStatus.initial.members).get? "version" = none ∧
    boundaryStatus.Fits ∧ ConfigStatus.ofText boundaryStatus.jsonText = .ok boundaryStatus ∧
      (Json.object boundaryStatus.members).get? "message" = none := by
  have specFits : boundarySpec.Fits := by
    intro s member
    simp only [boundarySpec, List.mem_cons, List.not_mem_nil, or_false] at member
    rcases member with rfl | rfl
    · exact ⟨by decide, by decide⟩
    · exact ⟨by decide, by decide⟩
  have initialFits : ClusterStatus.initial.Fits := ⟨by decide, by decide⟩
  have statusFits : boundaryStatus.Fits := ⟨by decide, by decide⟩
  obtain ⟨specs, -, clusterStatuses, configStatuses⟩ := payloads_read_back
  obtain ⟨initial, -, version⟩ := clusterStatuses .initial initialFits
  obtain ⟨status, -, message, -⟩ := configStatuses boundaryStatus statusFits
  exact ⟨specFits, specs boundarySpec specFits, initialFits, initial, version, statusFits, status,
    message⟩

end SearchOperator
