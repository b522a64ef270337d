import SearchOperator.Proofs.Config.Body
import SearchOperator.Proofs.Config.Trace
import SearchOperator.Proofs.Config.Validation
import SearchOperator.Proofs.Dictionary
import SearchOperator.Simulation.World

/-!
# Convergence against a cluster that stores documents

Against a cluster that gives back what was written to it, a run of accepted operations succeeds.
What it leaves is the fold of the operations through the stored documents: an operation that holds
leaves them as they are, any other replaces the document at its path by its own. Only operations of
the same path can undo each other, so a second run writes nothing at a path declared once.
-/

namespace SearchOperator

/-- A client of a cluster that stores documents, where `holds` tells which documents a world holds.
Reading a document gives it or says that there is none, writing one stores it, and both are answered
by the deadline. -/
structure SearchClient.Stores {σ : Type} (client : SearchClient σ) (limit : Duration)
    (holds : σ → Dictionary Bytes → Prop) : Prop where
  read : ∀ {s store}, holds s store → ∀ url, ∃ answer after,
    client.request .get url none s = (answer, after) ∧ holds after store ∧
      match store.get? url with
      | some document => answer.by limit .get url = .ok ⟨200, document⟩
      | none => ∃ body, answer.by limit .get url = .ok ⟨404, body⟩
  write : ∀ {s store}, holds s store → ∀ url document, ∃ answer after body,
    client.request .put url (some document) s = (answer, after) ∧
      holds after (store.insert url document) ∧ answer.by limit .put url = .ok ⟨200, body⟩

namespace Operation

/-! ## What an operation does to the stored documents -/

/-- The document at the path of an operation satisfies the declared one. -/
def HoldsIn (op : Operation) (store : Dictionary Bytes) : Prop :=
  ∃ document, store.get? op.url = some document ∧
    (compareBodies document op.desiredBytes).isSatisfied = true

instance (op : Operation) (store : Dictionary Bytes) : Decidable (op.HoldsIn store) :=
  decidable_of_iff
    ((store.get? op.url).any fun document =>
      (compareBodies document op.desiredBytes).isSatisfied)
    (by simp [HoldsIn, Option.any_eq_true])

def storeAfter (store : Dictionary Bytes) (op : Operation) : Dictionary Bytes :=
  if op.HoldsIn store then store else store.insert op.url op.desiredBytes

def storeAfterAll (store : Dictionary Bytes) (ops : List Operation) : Dictionary Bytes :=
  ops.foldl storeAfter store

theorem holdsIn_congr {op : Operation} {store other : Dictionary Bytes}
    (same : store.get? op.url = other.get? op.url) : op.HoldsIn store ↔ op.HoldsIn other := by
  rw [HoldsIn, HoldsIn, same]

theorem get?_storeAfter_of_ne {op : Operation} {url : String} (differ : op.url ≠ url)
    (store : Dictionary Bytes) : (storeAfter store op).get? url = store.get? url := by
  rw [storeAfter]
  split
  · rfl
  · exact store.get?_insert_of_ne differ.symm op.desiredBytes

/-- Operations leave every path alone that none of them declares. -/
theorem get?_storeAfterAll_of_undeclared {url : String} {ops : List Operation}
    (undeclared : ∀ op ∈ ops, op.url ≠ url) (store : Dictionary Bytes) :
    (storeAfterAll store ops).get? url = store.get? url := by
  induction ops generalizing store with
  | nil => rfl
  | cons op rest ih =>
      have others : ∀ other ∈ rest, other.url ≠ url :=
        fun other inside => undeclared other (List.mem_cons_of_mem op inside)
      have first : op.url ≠ url := undeclared op List.mem_cons_self
      calc (storeAfterAll (storeAfter store op) rest).get? url
          = (storeAfter store op).get? url := ih others _
        _ = store.get? url := get?_storeAfter_of_ne first store

theorem storeAfterAll_append_cons (store : Dictionary Bytes) (before later : List Operation)
    (op : Operation) :
    storeAfterAll store (before ++ op :: later) =
      storeAfterAll (storeAfter (storeAfterAll store before) op) later := by
  rw [storeAfterAll, List.foldl_append, List.foldl_cons]
  rfl

/-- An operation whose body reads holds after it was made to hold. -/
theorem holdsIn_storeAfter {op : Operation} {document : Json}
    (declared : op.desired = .ok document) (store : Dictionary Bytes) :
    op.HoldsIn (storeAfter store op) := by
  rw [storeAfter]
  split
  · assumption
  · refine ⟨op.desiredBytes, store.get?_insert_self op.url op.desiredBytes, ?_⟩
    rw [Json.compareBodies_self (read_desiredBytes declared)]
    rfl

/-- An operation holds after all operations if no later one has its path. -/
theorem holdsIn_storeAfterAll {before later : List Operation} {op : Operation} {document : Json}
    (declared : op.desired = .ok document) (last : ∀ other ∈ later, other.url ≠ op.url)
    (store : Dictionary Bytes) : op.HoldsIn (storeAfterAll store (before ++ op :: later)) := by
  rw [storeAfterAll_append_cons, holdsIn_congr (get?_storeAfterAll_of_undeclared last _)]
  exact holdsIn_storeAfter declared _

/-! ## Paths that are declared once -/

/-- A path is declared once if exactly one operation has it. -/
def DeclaredOnce (ops : List Operation) (url : String) : Prop :=
  (ops.map Operation.url).count url = 1

theorem undeclared_of_declaredOnce {before later : List Operation} {op : Operation}
    (once : DeclaredOnce (before ++ op :: later) op.url) :
    (∀ other ∈ before, other.url ≠ op.url) ∧ ∀ other ∈ later, other.url ≠ op.url := by
  rw [DeclaredOnce, List.map_append, List.map_cons, List.count_append, List.count_cons_self] at once
  have apart : ∀ part : List Operation, (part.map Operation.url).count op.url = 0 →
      ∀ other ∈ part, other.url ≠ op.url := by
    intro part none other inside same
    exact List.count_eq_zero.mp none (same ▸ List.mem_map_of_mem inside)
  constructor
  · exact apart before (by omega)
  · exact apart later (by omega)

/-- An operation of a path declared once that holds at first holds when its turn comes. -/
theorem holdsIn_of_declaredOnce {before later : List Operation} {op : Operation}
    {store : Dictionary Bytes} (once : DeclaredOnce (before ++ op :: later) op.url)
    (start : op.HoldsIn store) : op.HoldsIn (storeAfterAll store before) := by
  have alone := (undeclared_of_declaredOnce once).1
  exact (holdsIn_congr (get?_storeAfterAll_of_undeclared alone store)).mpr start

/-- An operation of a path declared once that holds at first leaves its document alone. -/
theorem get?_storeAfterAll_of_declaredOnce {ops : List Operation} {op : Operation}
    (member : op ∈ ops) {store : Dictionary Bytes} (once : DeclaredOnce ops op.url)
    (start : op.HoldsIn store) :
    (storeAfterAll store ops).get? op.url = store.get? op.url := by
  obtain ⟨before, later, rfl⟩ := List.append_of_mem member
  obtain ⟨earlier, afterwards⟩ := undeclared_of_declaredOnce once
  have turn : op.HoldsIn (storeAfterAll store before) := holdsIn_of_declaredOnce once start
  have kept : storeAfter (storeAfterAll store before) op = storeAfterAll store before := if_pos turn
  calc (storeAfterAll store (before ++ op :: later)).get? op.url
      = (storeAfterAll store before).get? op.url := by
        rw [storeAfterAll_append_cons, kept, get?_storeAfterAll_of_undeclared afterwards]
    _ = store.get? op.url := get?_storeAfterAll_of_undeclared earlier store

/-! ## Runs -/

section

variable {σ : Type} {client : SearchClient σ} {limit : Duration}
variable {holds : σ → Dictionary Bytes → Prop}

/-- Reading the document of an operation that does not hold calls for a write. -/
theorem needOf_of_not_holdsIn {op : Operation} {store : Dictionary Bytes} {read : Answer}
    (unmet : ¬ op.HoldsIn store)
    (found : match store.get? op.url with
      | some document => read.by limit .get op.url = .ok ⟨200, document⟩
      | none => ∃ body, read.by limit .get op.url = .ok ⟨404, body⟩) :
    ∃ need outcome, read.by limit .get op.url >>= op.needOf = .ok need ∧
      ((need, outcome) = (WriteNeed.create, Outcome.created) ∨
        (need, outcome) = (WriteNeed.update, Outcome.updated)) := by
  cases there : store.get? op.url with
  | none =>
      rw [there] at found
      obtain ⟨body, missing⟩ := found
      rw [missing]
      exact ⟨.create, .created, rfl, .inl rfl⟩
  | some document =>
      rw [there] at found
      have lacking : (compareBodies document op.desiredBytes).isSatisfied = false := by
        rw [← Bool.not_eq_true]
        exact fun matched => unmet ⟨document, there, matched⟩
      refine ⟨.update, .updated, ?_, .inr rfl⟩
      simp [found, bind, Except.bind, needOf, lacking]

/-- The visit of an operation succeeds, and writes only if the operation does not hold. -/
theorem exists_visit_storing (stores : client.Stores limit holds) (op : Operation) {s : σ}
    {store : Dictionary Bytes} (start : holds s store) :
    ∃ v outcome after, IsVisit client limit op s v (.ok outcome) after ∧
      holds after (storeAfter store op) ∧ (v.write.isSome = true → ¬ op.HoldsIn store) := by
  obtain ⟨read, between, readRun, kept, found⟩ := stores.read start op.url
  by_cases met : op.HoldsIn store
  · have stays : holds between (storeAfter store op) := by
      rw [storeAfter, if_pos met]
      exact kept
    obtain ⟨document, there, matched⟩ := met
    rw [there] at found
    have need : Visit.need limit ⟨op, read, none⟩ = .ok .none := by
      simp [Visit.need, found, bind, Except.bind, needOf, matched]
    exact ⟨_, _, between, isVisit_of_none readRun need, stays, by simp⟩
  · obtain ⟨write, after, answered, writeRun, stored, accepted⟩ :=
      stores.write kept op.url op.desiredBytes
    obtain ⟨kind, outcome, needed, pair⟩ := needOf_of_not_holdsIn met found
    have replaced : holds after (storeAfter store op) := by
      rw [storeAfter, if_neg met]
      exact stored
    have visit := isVisit_of_write readRun writeRun needed pair
    have succeeds : write.by limit .put op.url >>= op.written outcome = .ok outcome := by
      rw [accepted]
      rfl
    rw [succeeds] at visit
    exact ⟨_, _, after, visit, replaced, fun _ => met⟩

/-- A run visits every operation, and a visit writes only if its operation does not hold when its
turn comes. -/
theorem convergeFrom_storing (stores : client.Stores limit holds) (ops : List Operation)
    (report : Report) {s : σ} {store : Dictionary Bytes} (start : holds s store) :
    ∃ visits after, visits.map Visit.operation = ops ∧ holds after (storeAfterAll store ops) ∧
      convergeFrom client limit report ops s = (.ok (Visit.tally limit report visits), after) ∧
      (∀ log, convergeFrom client.recorded limit report ops (s, log) =
        (.ok (Visit.tally limit report visits), (after, log ++ visits.flatMap Visit.exchanges))) ∧
      ∀ v ∈ visits, v.write.isSome = true → ∃ before later,
        ops = before ++ v.operation :: later ∧ ¬ v.operation.HoldsIn (storeAfterAll store before) := by
  induction ops generalizing report s store with
  | nil =>
      refine ⟨[], s, rfl, start, rfl, fun log => ?_, by simp⟩
      rw [List.flatMap_nil, List.append_nil]
      rfl
  | cons op rest ih =>
      obtain ⟨v, outcome, between, ⟨same, -, ⟨-, counts⟩, run, recordedRun⟩, stored, unmet⟩ :=
        exists_visit_storing stores op start
      cases counts
      obtain ⟨visits, after, order, reached, restRun, restRecorded, restUnmet⟩ :=
        ih (report.add (v.outcome limit)) stored
      refine ⟨v :: visits, after, by rw [List.map_cons, same, order], reached, ?_, fun log => ?_, ?_⟩
      · rw [convergeFrom_cons, run, follow_ok, restRun]
        rfl
      · rw [convergeFrom_cons, recordedRun, follow_ok, restRecorded, List.flatMap_cons,
          List.append_assoc]
        rfl
      · intro w member wrote
        rcases List.mem_cons.mp member with rfl | member
        · refine ⟨[], rest, by rw [same]; rfl, ?_⟩
          rw [same]
          exact unmet wrote
        · obtain ⟨before, later, rfl, turn⟩ := restUnmet w member wrote
          exact ⟨op :: before, later, rfl, turn⟩

/-- A write of a visit is a request to the path of its operation. -/
theorem exists_visit_of_put {visits : List Visit} {x : Exchange}
    (sent : x ∈ visits.flatMap Visit.exchanges) (put : x.method = .put) :
    ∃ v ∈ visits, v.write.isSome = true ∧ x.url = v.operation.url := by
  obtain ⟨v, member, sent⟩ := List.mem_flatMap.mp sent
  refine ⟨v, member, ?_⟩
  rcases List.mem_cons.mp sent with rfl | wrote
  · cases put
  · cases write : v.write with
    | none =>
        rw [write] at wrote
        cases wrote
    | some answer =>
        rw [write] at wrote
        rw [List.mem_singleton.mp wrote]
        exact ⟨rfl, rfl⟩

/-- Visits without a write are counted as unchanged. -/
theorem tally_of_no_write {visits : List Visit} (unwritten : ∀ v ∈ visits, ¬ v.write.isSome = true) :
    Visit.tally limit .empty visits = ⟨visits.length, 0, 0⟩ := by
  have none : ∀ status, visits.countP (·.wroteAfter limit status) = 0 := by
    intro status
    refine List.countP_eq_zero.mpr fun v member wrote => unwritten v member ?_
    rw [Visit.wroteAfter, Bool.and_eq_true] at wrote
    exact wrote.1
  have created := Visit.created_tally limit .empty visits
  have updated := Visit.updated_tally limit .empty visits
  have applied := Visit.applied_tally limit .empty visits
  rw [none] at created updated
  cases total : Visit.tally limit .empty visits with
  | mk unchanged c u =>
      rw [total] at created updated applied
      simp only [Report.empty, Report.applied] at created updated applied
      rw [Report.mk.injEq]
      omega

end

/-! ## Two runs -/

/-- An accepted config converges on every cluster that stores documents. Afterwards every declared
path holds a document that satisfies the last operation declared for it, every other path holds what
it held, and so does a path declared once whose operation held already. A second run writes nothing
at a path declared once, so with different paths it leaves every operation unchanged. -/
theorem convergeAll_storing {σ : Type} {spec : ConfigSpec} (accepted : spec.validate = .ok ())
    {client : SearchClient σ} {limit : Duration} {holds : σ → Dictionary Bytes → Prop}
    (stores : client.Stores limit holds) {s : σ} {store : Dictionary Bytes} (start : holds s store) :
    ∃ report between final report' after log,
      convergeAll client limit spec.operations s = (.ok report, between) ∧ holds between final ∧
      (∀ before op later, spec.operations = before ++ op :: later →
        (∀ other ∈ later, other.url ≠ op.url) → op.HoldsIn final) ∧
      (∀ url, (∀ op ∈ spec.operations, op.url ≠ url) → final.get? url = store.get? url) ∧
      (∀ op ∈ spec.operations, DeclaredOnce spec.operations op.url → op.HoldsIn store →
        final.get? op.url = store.get? op.url) ∧
      convergeAll client limit spec.operations between = (.ok report', after) ∧
      convergeAll client.recorded limit spec.operations (between, []) =
        (.ok report', (after, log)) ∧
      (∀ x ∈ log, x.method = .put → ¬ DeclaredOnce spec.operations x.url) ∧
      ((spec.operations.map Operation.url).Nodup →
        report' = ⟨spec.operations.length, 0, 0⟩) := by
  have reads : ∀ op ∈ spec.operations, ∃ document, op.desired = .ok document :=
    fun op member => (ConfigSpec.operation_of_validate accepted member).2.2
  have settled : ∀ before op later, spec.operations = before ++ op :: later →
      (∀ other ∈ later, other.url ≠ op.url) →
        op.HoldsIn (storeAfterAll store spec.operations) := by
    intro before op later order last
    obtain ⟨document, declared⟩ := reads op (by rw [order]; simp)
    rw [order]
    exact holdsIn_storeAfterAll declared last store
  obtain ⟨visits, between, -, reached, run, -, -⟩ :=
    convergeFrom_storing stores spec.operations .empty start
  obtain ⟨again, after, order, -, rerun, rerecorded, unmet⟩ :=
    convergeFrom_storing stores spec.operations .empty reached
  have spared : ∀ v ∈ again, DeclaredOnce spec.operations v.operation.url →
      ¬ v.write.isSome = true := by
    intro v member once wrote
    obtain ⟨before, later, position, turn⟩ := unmet v member wrote
    rw [position] at once
    have last := (undeclared_of_declaredOnce once).2
    exact turn (holdsIn_of_declaredOnce once (settled before v.operation later position last))
  refine ⟨_, between, _, _, after, _, run, reached, settled, ?_, ?_, rerun, rerecorded [], ?_, ?_⟩
  · exact fun url undeclared => get?_storeAfterAll_of_undeclared undeclared store
  · exact fun op member once met => get?_storeAfterAll_of_declaredOnce member once met
  · intro x sent put once
    obtain ⟨v, member, wrote, same⟩ := exists_visit_of_put sent put
    exact spared v member (same ▸ once) wrote
  · intro distinct
    have unwritten : ∀ v ∈ again, ¬ v.write.isSome = true := by
      intro v member
      have inside : v.operation.url ∈ spec.operations.map Operation.url := by
        rw [← order, List.map_map]
        exact List.mem_map.mpr ⟨v, member, rfl⟩
      have once : DeclaredOnce spec.operations v.operation.url := by
        rw [DeclaredOnce, distinct.count, if_pos inside]
      exact spared v member once
    rw [tally_of_no_write unwritten, ← order, List.length_map]

end Operation

/-! ## Worlds in memory -/

namespace Simulation.World

theorem request_of_no_rules {w : World} (noRules : w.rules = ∅) (method : Method) (url : String)
    (body : Option Bytes) :
    searchClient.request method url body w =
      answerFromStore method url body (w.record (.request method url body)) := by
  simp [searchClient, answer, record, noRules]

/-- Without rules, the search cluster of a world stores documents. -/
theorem searchClient_stores (limit : Duration) :
    searchClient.Stores limit fun w store => w.rules = ∅ ∧ w.store = store := by
  constructor
  · rintro w store ⟨noRules, rfl⟩ url
    rw [request_of_no_rules noRules]
    cases found : w.store.get? url with
    | none =>
        refine ⟨immediate 404 [], w.record (.request .get url none), ?_, ⟨noRules, rfl⟩, [], ?_⟩
        · simp [answerFromStore, record, found]
        · simp [immediate, Answer.by]
    | some document =>
        refine ⟨immediate 200 document, w.record (.request .get url none), ?_, ⟨noRules, rfl⟩, ?_⟩
        · simp [answerFromStore, record, found]
        · simp [immediate, Answer.by]
  · rintro w store ⟨noRules, rfl⟩ url document
    rw [request_of_no_rules noRules]
    refine ⟨_, _, Json.bytesOf "\x7b\"acknowledged\":true\x7d", rfl, ⟨noRules, rfl⟩, ?_⟩
    simp [immediate, Answer.by]

end Simulation.World

namespace Operation

open Simulation (World)

/-- A config that declares settings twice at one path, and a template. -/
def repeatingConfig : ConfigSpec :=
  ⟨⟨"logs", none⟩,
    [⟨"/_cluster/settings", "\x7b\"persistent\":\x7b\"a\":1\x7d\x7d"⟩, ⟨"/_template/logs", ""⟩,
      ⟨"/_cluster/settings", "\x7b\"persistent\":\x7b\"b\":[2,3.5]\x7d\x7d"⟩]⟩

/-- The config is accepted. In the empty world it converges to documents that satisfy the template
and the settings declared last, and a second run does not write the template again. -/
theorem convergeAll_storing_repeating :
    repeatingConfig.validate = .ok () ∧ World.empty.rules = ∅ ∧
      ∃ report between report' after log,
        convergeAll World.searchClient ⟨0⟩ repeatingConfig.operations World.empty =
          (.ok report, between) ∧
        HoldsIn ⟨"/_template/logs", ""⟩ between.store ∧
        HoldsIn ⟨"/_cluster/settings", "\x7b\"persistent\":\x7b\"b\":[2,3.5]\x7d\x7d"⟩ between.store ∧
        convergeAll World.searchClient.recorded ⟨0⟩ repeatingConfig.operations (between, []) =
          (.ok report', (after, log)) ∧
        ∀ x ∈ log, x.url = "/_template/logs" → x.method ≠ .put := by
  have accepted : repeatingConfig.validate = .ok () := by decide +kernel
  obtain ⟨report, between, final, report', after, log, run, ⟨-, rfl⟩, last, -, -, -, rerun,
    spared, -⟩ := convergeAll_storing accepted (World.searchClient_stores ⟨0⟩)
      (show World.empty.rules = ∅ ∧ World.empty.store = ∅ from ⟨rfl, rfl⟩)
  refine ⟨accepted, rfl, report, between, report', after, log, run, ?_, ?_, rerun, ?_⟩
  · exact last [_] _ [_] rfl (by decide)
  · exact last [_, _] _ [] rfl (by simp)
  · intro x sent same put
    refine spared x sent put ?_
    rw [same, DeclaredOnce]
    decide

end Operation

end SearchOperator
