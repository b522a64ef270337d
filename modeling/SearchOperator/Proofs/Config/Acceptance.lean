import SearchOperator.Proofs.Config.Body
import SearchOperator.Proofs.Config.Trace
import SearchOperator.Proofs.Config.Validation

/-!
# Accepted bodies are read alike

Whether a body is blank and which document it holds is asked when it is validated, when it is
compared with what a cluster answers, and when it is written. The three agree: what validation
accepts is written as bytes that hold the declared document, and these satisfy themselves, so an
accepted operation is never written twice for the way its body is spelled.
-/

namespace SearchOperator

namespace Operation

/-- Bytes hold the declared document of an operation and match themselves in full. -/
def IsHeldIn (op : Operation) (bytes : Bytes) : Prop :=
  ∃ document, op.desired = .ok document ∧ Json.read bytes = .ok document ∧
    compareBodies bytes bytes = .full

theorem isHeldIn_desiredBytes {op : Operation} (acceptable : op.IsAcceptable) :
    op.IsHeldIn op.desiredBytes := by
  obtain ⟨document, declared⟩ := exists_desired_iff.mpr acceptable.body
  have read := read_desiredBytes declared
  exact ⟨document, declared, read, Json.compareBodies_self read⟩

/-- Whatever a run writes are the bytes of one of its operations. -/
theorem body_of_put {σ : Type} (client : SearchClient σ) (limit : Duration) (ops : List Operation)
    (s : σ) {x : Exchange} (sent : x ∈ (convergeAll client.recorded limit ops (s, [])).2.2)
    (put : x.method = .put) :
    ∃ op ∈ ops, x.url = op.url ∧ x.body = some op.desiredBytes := by
  obtain ⟨visits, result, after, -, recorded, -, ends⟩ :=
    convergeFrom_trace client limit ops .empty s
  have order : visits.map Visit.operation <+: ops := by
    cases result with
    | error e => exact ends.1
    | ok report => exact ends.1 ▸ List.prefix_rfl
  rw [convergeAll, recorded [], List.nil_append] at sent
  obtain ⟨v, visited, sent⟩ := List.mem_flatMap.mp sent
  refine ⟨v.operation, order.subset (List.mem_map_of_mem visited), ?_⟩
  simp only [Visit.exchanges, List.mem_cons, Option.mem_toList, Option.map_eq_some_iff] at sent
  rcases sent with rfl | ⟨answer, -, rfl⟩
  · cases put
  · exact ⟨rfl, rfl⟩

end Operation

namespace ConfigSpec

/-- Validation, comparison and writing read the body of an operation alike. An observed body is
compared with the bytes that are written as its document is with the declared one, and never matches
if there is none of either. Of an accepted config, these bytes hold the declared document and match
themselves in full, and no run writes others. Accepted is a config that names its cluster and whose
operations are acceptable; any other is rejected for the first fault. -/
theorem bodies_read_alike (spec : ConfigSpec) :
    (∀ (op : Operation) (observed : Bytes),
      compareBodies observed op.desiredBytes =
        match Json.read observed, op.desired with
        | .ok o, .ok d => Json.compare o d
        | _, _ => .none) ∧
    (spec.validate = .ok () →
      (∀ op ∈ spec.operations, op.IsHeldIn op.desiredBytes) ∧
      ∀ {σ : Type} (client : SearchClient σ) (limit : Duration) (s : σ),
        ∀ x ∈ (Operation.convergeAll client.recorded limit spec.operations (s, [])).2.2,
          x.method = .put → ∃ op ∈ spec.operations, ∃ bytes,
            x.url = op.url ∧ x.body = some bytes ∧ op.IsHeldIn bytes) ∧
    (spec.validate = .ok () ↔
      Text.isBlankText spec.cluster.name = false ∧ ∀ op ∈ spec.operations, op.IsAcceptable) ∧
    ∀ e, spec.validate = .error e ↔ spec.IsRejected e := by
  refine ⟨Operation.compareBodies_eq, fun accepted => ?_, validate_eq_ok,
    fun e => validate_eq_error⟩
  have held : ∀ op ∈ spec.operations, op.IsHeldIn op.desiredBytes := fun op member =>
    Operation.isHeldIn_desiredBytes ((validate_eq_ok.mp accepted).2 op member)
  refine ⟨held, fun client limit s x sent put => ?_⟩
  obtain ⟨op, member, url, body⟩ := Operation.body_of_put client limit _ s sent put
  exact ⟨op, member, op.desiredBytes, url, body, held op member⟩

/-- An operation whose body is blank, but not in ASCII. -/
def spacedOperation : Operation := ⟨"/_cluster/settings", "\u00a0\u2003"⟩

def spacedConfig : ConfigSpec :=
  ⟨⟨"logs", none⟩, [spacedOperation, ⟨"/_template/logs", " [1]\n"⟩]⟩

/-- A cluster without documents that takes whatever is written. -/
def bareCluster : SearchClient Unit where
  request method _ _ := return .after ⟨0⟩ (.ok ⟨if method = .get then 404 else 200, []⟩)

/-- The config is accepted, and what a run writes for the blank body is read as the empty object. -/
theorem bodies_read_alike_spaced :
    spacedConfig.validate = .ok () ∧
      ∃ x ∈ (Operation.convergeAll bareCluster.recorded ⟨0⟩ spacedConfig.operations ((), [])).2.2,
        x.method = .put ∧ x.url = spacedOperation.url ∧
          ∃ bytes, x.body = some bytes ∧ Json.read bytes = .ok (.object []) ∧
            compareBodies bytes bytes = .full := by
  have accepted : spacedConfig.validate = .ok () := by decide +kernel
  have log : (Operation.convergeAll bareCluster.recorded ⟨0⟩ spacedConfig.operations ((), [])).2.2 =
      [⟨.get, spacedOperation.url, none, .after ⟨0⟩ (.ok ⟨404, []⟩)⟩,
        ⟨.put, spacedOperation.url, some spacedOperation.desiredBytes, .after ⟨0⟩ (.ok ⟨200, []⟩)⟩,
        ⟨.get, "/_template/logs", none, .after ⟨0⟩ (.ok ⟨404, []⟩)⟩,
        ⟨.put, "/_template/logs", some (Json.bytesOf " [1]\n"), .after ⟨0⟩ (.ok ⟨200, []⟩)⟩] := rfl
  have sent : (⟨.put, spacedOperation.url, some spacedOperation.desiredBytes,
      .after ⟨0⟩ (.ok ⟨200, []⟩)⟩ : Exchange) ∈
        (Operation.convergeAll bareCluster.recorded ⟨0⟩ spacedConfig.operations ((), [])).2.2 := by
    simp [log]
  obtain ⟨-, writes, -, -⟩ := bodies_read_alike spacedConfig
  obtain ⟨op, member, bytes, url, body, document, declared, read, full⟩ :=
    (writes accepted).2 bareCluster ⟨0⟩ () _ sent rfl
  have blank : Text.isBlankText spacedOperation.body = true := by decide +kernel
  have same : op = spacedOperation := by
    simp only [spacedConfig, List.mem_cons, List.not_mem_nil, or_false] at member
    rcases member with rfl | rfl
    · rfl
    · exact absurd url (by decide)
  rw [same, Operation.desired, if_pos blank] at declared
  cases declared
  exact ⟨accepted, _, sent, rfl, rfl, bytes, body, read, full⟩

end ConfigSpec

end SearchOperator
