import SearchOperator.Config.Spec
import SearchOperator.Proofs.Config.Body
import SearchOperator.Proofs.Url.Origin
import SearchOperator.SearchClient.Http

/-!
# Accepted configs

What validation asks of a config, whom it blames if it gets something else, and where the operations
that it accepts lead. A path with two slashes at its start passes the check for an absolute path and
resolves, so it is accepted although it names a server of its own.
-/

namespace SearchOperator

open Url

/-! ## One operation -/

namespace Operation

/-- What validation asks of an operation: an absolute path that resolves, and a body that is blank or
holds a document. -/
structure IsAcceptable (op : Operation) : Prop where
  absolute : op.url.toList.head? = some '/'
  resolves : ∃ tried, ConfigSpec.trialBase.join op.url = .ok tried
  body : Text.isBlankText op.body = true ∨ ∃ document, Json.ofText op.body = .ok document

def fieldAt (index : Nat) (member : String) : String :=
  "spec.operations[" ++ toString index ++ "]" ++ member

/-- What an operation that is not acceptable is blamed for: its path before its body. -/
inductive IsBlamed (op : Operation) (index : Nat) : Error → Prop where
  | relative (relative : op.url.toList.head? ≠ some '/') :
      IsBlamed op index
        (.invalidField (fieldAt index ".url") ("url '" ++ op.url ++ "' must be an absolute path"))
  | unresolved {fault : Url.Fault} (absolute : op.url.toList.head? = some '/')
      (failed : ConfigSpec.trialBase.join op.url = .error fault) :
      IsBlamed op index
        (.invalidField (fieldAt index ".url")
          ("url '" ++ op.url ++ "' does not parse: " ++ fault.text))
  | malformed {tried : Url} {fault : Json.Fault} (absolute : op.url.toList.head? = some '/')
      (joined : ConfigSpec.trialBase.join op.url = .ok tried)
      (written : Text.isBlankText op.body = false) (failed : Json.ofText op.body = .error fault) :
      IsBlamed op index
        (.invalidField (fieldAt index ".body")
          ("serialization error: " ++
            ("invalid body for " ++ op.url ++ ": " ++ fault.text (Json.bytesOf op.body))))

variable {op : Operation} {index : Nat} {e : Error}

/-- Nobody is blamed for two faults. -/
theorem IsBlamed.unique {other : Error} (blamed : op.IsBlamed index e)
    (again : op.IsBlamed index other) : e = other := by
  cases blamed with
  | relative relative =>
      cases again with
      | relative _ => rfl
      | unresolved absolute _ => exact absurd absolute relative
      | malformed absolute _ _ _ => exact absurd absolute relative
  | unresolved absolute failed =>
      cases again with
      | relative relative => exact absurd absolute relative
      | unresolved _ otherwise =>
          cases failed.symm.trans otherwise
          rfl
      | malformed _ joined _ _ => cases failed.symm.trans joined
  | malformed absolute joined _ failed =>
      cases again with
      | relative relative => exact absurd absolute relative
      | unresolved _ otherwise => cases otherwise.symm.trans joined
      | malformed _ _ _ otherwise =>
          cases failed.symm.trans otherwise
          rfl

theorem IsBlamed.not_isAcceptable (blamed : op.IsBlamed index e) : ¬ op.IsAcceptable := by
  rintro ⟨absolute, ⟨tried, joined⟩, body⟩
  cases blamed with
  | relative relative => exact relative absolute
  | unresolved _ failed => cases failed.symm.trans joined
  | malformed _ _ written failed =>
      rcases body with blank | ⟨document, read⟩
      · cases written.symm.trans blank
      · cases failed.symm.trans read

end Operation

/-! ## Operations in turn -/

namespace ConfigSpec

section

variable {op : Operation} {operations : List Operation} {index : Nat} {e : Error}

/-- The check of an operation runs through its three questions in turn. -/
theorem checkOperation_cases (index : Nat) (op : Operation) :
    checkOperation index op = .ok () ∧ op.IsAcceptable ∨
      ∃ e, checkOperation index op = .error e ∧ op.IsBlamed index e := by
  rw [checkOperation]
  split
  · rename_i relative
    exact .inr ⟨_, rfl, .relative relative⟩
  · rename_i absolute
    have absolute := Decidable.not_not.mp absolute
    split
    · rename_i fault failed
      exact .inr ⟨_, rfl, .unresolved absolute failed⟩
    · rename_i tried joined
      split
      · rename_i e failed
        obtain ⟨fault, written, unread, rfl⟩ := Operation.desired_eq_error.mp failed
        exact .inr ⟨_, rfl, .malformed absolute joined written unread⟩
      · rename_i document declared
        exact .inl ⟨rfl, absolute, ⟨tried, joined⟩, Operation.exists_desired_iff.mp ⟨_, declared⟩⟩

theorem checkOperation_eq_ok : checkOperation index op = .ok () ↔ op.IsAcceptable := by
  rcases checkOperation_cases index op with ⟨accepted, acceptable⟩ | ⟨e, failed, blamed⟩
  · simp only [accepted, acceptable]
  · rw [failed]
    constructor
    · rintro ⟨⟩
    · exact fun acceptable => absurd acceptable blamed.not_isAcceptable

theorem checkOperation_eq_error : checkOperation index op = .error e ↔ op.IsBlamed index e := by
  rcases checkOperation_cases index op with ⟨accepted, acceptable⟩ | ⟨found, failed, blamed⟩
  · rw [accepted]
    constructor
    · rintro ⟨⟩
    · exact fun blamed => absurd acceptable blamed.not_isAcceptable
  · rw [failed, Except.error.injEq]
    constructor
    · rintro rfl
      exact blamed
    · exact fun other => blamed.unique other

theorem checkOperations_eq_ok :
    checkOperations index operations = .ok () ↔ ∀ op ∈ operations, op.IsAcceptable := by
  induction operations generalizing index with
  | nil => exact ⟨fun _ op member => (nomatch member), fun _ => rfl⟩
  | cons first rest ih =>
      rw [checkOperations, bind_eq_ok, List.forall_mem_cons]
      constructor
      · rintro ⟨⟨⟩, checked, others⟩
        exact ⟨checkOperation_eq_ok.mp checked, ih.mp others⟩
      · rintro ⟨acceptable, others⟩
        exact ⟨(), checkOperation_eq_ok.mpr acceptable, ih.mpr others⟩

/-- The check blames the first operation that is not acceptable. -/
theorem checkOperations_eq_error :
    checkOperations index operations = .error e ↔
      ∃ before op after, operations = before ++ op :: after ∧
        (∀ other ∈ before, other.IsAcceptable) ∧ op.IsBlamed (index + before.length) e := by
  induction operations generalizing index with
  | nil =>
      rw [checkOperations]
      constructor
      · rintro ⟨⟩
      · rintro ⟨before, op, after, none, -⟩
        exact absurd none.symm (by simp)
  | cons first rest ih =>
      rw [checkOperations, bind_eq_error, checkOperation_eq_error]
      constructor
      · rintro (blamed | ⟨⟨⟩, checked, failed⟩)
        · exact ⟨[], first, rest, rfl, fun _ member => (nomatch member), blamed⟩
        · obtain ⟨before, op, after, rfl, acceptable, blamed⟩ := ih.mp failed
          refine ⟨first :: before, op, after, rfl, ?_, ?_⟩
          · exact List.forall_mem_cons.mpr ⟨checkOperation_eq_ok.mp checked, acceptable⟩
          · rwa [List.length_cons, Nat.add_comm before.length, ← Nat.add_assoc]
      · rintro ⟨before, op, after, split, acceptable, blamed⟩
        cases before with
        | nil =>
            cases split
            exact .inl blamed
        | cons other before =>
            cases split
            rw [List.length_cons, Nat.add_comm before.length, ← Nat.add_assoc] at blamed
            obtain ⟨ahead, others⟩ := List.forall_mem_cons.mp acceptable
            exact .inr ⟨(), checkOperation_eq_ok.mpr ahead,
              ih.mpr ⟨before, op, after, rfl, others, blamed⟩⟩

end

/-! ## A spec -/

/-- What is wrong with a spec: that it names no cluster, else the first of its operations that is not
acceptable. -/
inductive IsRejected (spec : ConfigSpec) : Error → Prop where
  | nameless (blank : Text.isBlankText spec.cluster.name = true) :
      IsRejected spec
        (.invalidField "spec.clusterRef.name" "cluster reference name cannot be empty")
  | operation {before after : List Operation} {op : Operation} {e : Error}
      (named : Text.isBlankText spec.cluster.name = false)
      (first : spec.operations = before ++ op :: after)
      (acceptable : ∀ other ∈ before, other.IsAcceptable) (blamed : op.IsBlamed before.length e) :
      IsRejected spec e

variable {spec : ConfigSpec} {e : Error}

theorem validate_eq_ok :
    spec.validate = .ok () ↔
      Text.isBlankText spec.cluster.name = false ∧ ∀ op ∈ spec.operations, op.IsAcceptable := by
  rw [validate]
  split
  · rename_i blank
    simp [blank]
  · rename_i named
    rw [checkOperations_eq_ok, Bool.eq_false_iff.mpr named]
    simp

theorem validate_eq_error : spec.validate = .error e ↔ spec.IsRejected e := by
  rw [validate]
  split
  · rename_i blank
    constructor
    · rintro ⟨⟩
      exact .nameless blank
    · rintro (_ | ⟨named, -, -, -⟩)
      · rfl
      · cases named.symm.trans blank
  · rename_i named
    have named := Bool.eq_false_iff.mpr named
    simp only [checkOperations_eq_error, Nat.zero_add]
    constructor
    · rintro ⟨before, op, after, first, acceptable, blamed⟩
      exact .operation named first acceptable blamed
    · rintro (blank | ⟨-, first, acceptable, blamed⟩)
      · cases named.symm.trans blank
      · exact ⟨_, _, _, first, acceptable, blamed⟩

/-- Validation checks every operation. -/
theorem operation_of_validate (accepted : spec.validate = .ok ()) {op : Operation}
    (member : op ∈ spec.operations) :
    op.url.toList.head? = some '/' ∧ (∃ tried, trialBase.join op.url = .ok tried) ∧
      ∃ document, op.desired = .ok document := by
  obtain ⟨absolute, resolves, body⟩ := (validate_eq_ok.mp accepted).2 op member
  exact ⟨absolute, resolves, Operation.exists_desired_iff.mpr body⟩

/-! ## Where accepted operations lead -/

theorem isServer_trialBase : trialBase.IsServer := ⟨by decide, rfl⟩

/-- An accepted operation resolves on every cluster. It stays on the cluster exactly if it names no
server, or the one it names is the cluster's own; otherwise it leaves for one and the same address,
whichever cluster the config refers to. -/
theorem accepted_operation_origin {spec : ConfigSpec} (accepted : spec.validate = .ok ())
    {op : Operation} (member : op ∈ spec.operations) :
    ∃ tried, trialBase.join op.url = .ok tried ∧
      ∀ (name space : String) (credentials : Option Credentials) (base : Url),
        Url.parse (clusterUrl name space) = .ok base →
          ∃ u, HttpClient.urlFor ⟨base, credentials⟩ op.url = .ok u ∧ u.scheme = base.scheme ∧
            (u.SameOrigin base ↔ ¬ namesServer op.url ∨ tried.SameOrigin base) ∧
            (namesServer op.url = true → u = tried) := by
  obtain ⟨absolute, ⟨tried, joined⟩, -⟩ := operation_of_validate accepted member
  refine ⟨tried, joined, fun name space credentials base parsed => ?_⟩
  obtain ⟨https, web⟩ := isServer_of_clusterUrl parsed
  by_cases server : namesServer op.url = true
  · obtain ⟨text, resolved⟩ := join_of_server absolute server
    have read : afterSlashes "https" text = .ok tried := by
      rw [← joined]
      exact (resolved trialBase isServer_trialBase).symm
    have elsewhere : base.join op.url = .ok tried := by
      rw [resolved base web, https, read]
    have scheme : tried.scheme = base.scheme := by
      rw [https]
      exact (isServer_of_afterSlashes (by decide) read).1
    refine ⟨tried, by rw [HttpClient.urlFor, elsewhere], scheme, ?_, fun _ => rfl⟩
    simp [server]
  · obtain ⟨u, here, stays⟩ := join_of_path web absolute server
    refine ⟨u, by rw [HttpClient.urlFor, here], stays.1, ?_, fun named => absurd named server⟩
    exact ⟨fun _ => .inl server, fun _ => stays⟩

/-- An operation that names a server by an address of sixteen bytes. -/
def strayOperation : Operation := ⟨"//[fd00::2]:9200/_cluster/settings", ""⟩

def strayConfig : ConfigSpec := ⟨⟨"logs", none⟩, [strayOperation]⟩

/-- The address of a cluster whose name gives it another address of sixteen bytes. -/
def strayBase : Url :=
  ⟨"https", some ⟨[], none, some (.ipv6 [0xfd00, 0, 0, 0, 0, 0, 0, 1]), some 9200⟩,
    "/-http.ns.svc:9200".toList, none, none⟩

/-- The operation is accepted, and it leaves that cluster. -/
theorem accepted_operation_origin_stray :
    strayConfig.validate = .ok () ∧ strayOperation ∈ strayConfig.operations ∧
      Url.parse (clusterUrl "[fd00::1]:9200/" "ns") = .ok strayBase ∧
      ∃ u, HttpClient.urlFor ⟨strayBase, none⟩ strayOperation.url = .ok u ∧
        u.scheme = strayBase.scheme ∧ ¬ u.SameOrigin strayBase := by
  have accepted : strayConfig.validate = .ok () := by decide +kernel
  have member : strayOperation ∈ strayConfig.operations := by decide
  have parsed : Url.parse (clusterUrl "[fd00::1]:9200/" "ns") = .ok strayBase := by decide +kernel
  obtain ⟨tried, joined, reach⟩ := accepted_operation_origin accepted member
  obtain ⟨u, resolved, scheme, -, strays⟩ := reach _ _ none _ parsed
  have named : namesServer strayOperation.url = true := by decide +kernel
  refine ⟨accepted, member, parsed, u, resolved, scheme, ?_⟩
  rw [strays named]
  rintro ⟨-, server⟩
  have other : (trialBase.join strayOperation.url).toOption.map Url.server =
      some (some (some (.ipv6 [0xfd00, 0, 0, 0, 0, 0, 0, 2]), some 9200)) := by decide +kernel
  rw [joined] at other
  rw [Option.some.inj other] at server
  exact absurd server (by decide)

/-- Not every accepted operation stays on the cluster that its config refers to. -/
theorem accepted_operation_strays :
    ¬ ∀ (spec : ConfigSpec), spec.validate = .ok () → ∀ op ∈ spec.operations,
      ∀ (name space : String) (base : Url), Url.parse (clusterUrl name space) = .ok base →
        ∀ u, HttpClient.urlFor ⟨base, none⟩ op.url = .ok u → u.SameOrigin base := by
  intro stays
  have parsed : Url.parse (clusterUrl "[fd00::1]:9200/" "ns") = .ok strayBase := by decide +kernel
  have resolved : HttpClient.urlFor ⟨strayBase, none⟩ strayOperation.url =
      .ok ⟨"https", some ⟨[], none, some (.ipv6 [0xfd00, 0, 0, 0, 0, 0, 0, 2]), some 9200⟩,
        "/_cluster/settings".toList, none, none⟩ := by decide +kernel
  have origin := stays strayConfig (by decide +kernel) strayOperation (by decide) _ _ _ parsed _
    resolved
  exact absurd origin (by decide)

end ConfigSpec

end SearchOperator
