import SearchOperator.Config.Convergence
import SearchOperator.Proofs.Step

/-!
# The requests of a convergence

A run visits the operations in order. A visit reads the document of its operation and writes it at
most once. The answers of the two requests, whatever they are, decide whether the write is sent,
whether the visit fails and with which error, and what it counts as; the first visit that fails is
the last one of the run.
-/

namespace SearchOperator

/-- A request that was sent to a cluster, and how it ended. -/
structure Exchange where
  method : Method
  url : String
  body : Option Bytes
  answer : Answer

/-- The same client, which also writes down what is sent through it. -/
def SearchClient.recorded {σ : Type} (client : SearchClient σ) :
    SearchClient (σ × List Exchange) where
  request method url body := fun (s, log) =>
    let (answer, after) := client.request method url body s
    (answer, after, log ++ [⟨method, url, body, answer⟩])

/-! ## Answers by a deadline -/

namespace Answer

/-- How a request ends by a deadline: as it is answered if that comes in time, and else with a
timeout. -/
inductive EndsBy (limit : Duration) (method : Method) (url : String) :
    Answer → Except Error Response → Prop where
  | response {delay : Duration} {r : Response}
      (inTime : delay.nanoseconds ≤ limit.nanoseconds) :
      EndsBy limit method url (.after delay (.ok r)) (.ok r)
  | failure {delay : Duration} {e : Error}
      (inTime : delay.nanoseconds ≤ limit.nanoseconds) :
      EndsBy limit method url (.after delay (.error e)) (.error e)
  | late {delay : Duration} {result : Except Error Response}
      (late : limit.nanoseconds < delay.nanoseconds) :
      EndsBy limit method url (.after delay result) (.error (.timeout method.text url limit))
  | never : EndsBy limit method url .never (.error (.timeout method.text url limit))

variable {limit : Duration} {method : Method} {url : String} {answer : Answer}

theorem endsBy_iff {result : Except Error Response} :
    answer.EndsBy limit method url result ↔ answer.by limit method url = result := by
  constructor
  · intro ends
    cases ends with
    | response inTime => exact if_pos inTime
    | failure inTime => exact if_pos inTime
    | late late => exact if_neg (Nat.not_le.mpr late)
    | never => rfl
  · rintro rfl
    cases answer with
    | never => exact .never
    | after delay result =>
        by_cases inTime : delay.nanoseconds ≤ limit.nanoseconds
        · rw [Answer.by, if_pos inTime]
          cases result with
          | ok r => exact .response inTime
          | error e => exact .failure inTime
        · rw [Answer.by, if_neg inTime]
          exact .late (Nat.not_le.mp inTime)

/-- Why a request fails: it ends with an error, or with a response whose status is not an accepted
one. -/
inductive Fails (limit : Duration) (method : Method) (url : String) (accepted : Nat → Prop)
    (answer : Answer) : Error → Prop where
  | unanswered {e : Error} (ends : answer.EndsBy limit method url (.error e)) :
      Fails limit method url accepted answer e
  | unaccepted {r : Response} (ends : answer.EndsBy limit method url (.ok r))
      (status : ¬ accepted r.status) :
      Fails limit method url accepted answer (.unacceptableStatus method.text url r.status)

theorem not_fails {accepted : Nat → Prop} {r : Response}
    (ends : answer.by limit method url = .ok r) (status : accepted r.status) (e : Error) :
    ¬ answer.Fails limit method url accepted e := by
  intro fails
  cases fails with
  | unanswered other => cases ends.symm.trans (endsBy_iff.mp other)
  | unaccepted other refused =>
      cases ends.symm.trans (endsBy_iff.mp other)
      exact refused status

end Answer

/-! ## The requests for an operation -/

/-- The requests for one operation: the answer to reading its document, and the answer to writing
it if that was asked for. -/
structure Visit where
  operation : Operation
  read : Answer
  write : Option Answer

namespace Visit

/-- A request without a body for the document, and then at most one with the declared document. -/
def exchanges (v : Visit) : List Exchange :=
  ⟨.get, v.operation.url, none, v.read⟩ ::
    (v.write.map fun answer =>
      ⟨.put, v.operation.url, some v.operation.desiredBytes, answer⟩).toList

variable (limit : Duration)

/-- There is no document. -/
def IsMissing (v : Visit) : Prop :=
  ∃ body, v.read.EndsBy limit .get v.operation.url (.ok ⟨404, body⟩)

/-- There is a document that does not satisfy the declared one. -/
def IsLacking (v : Visit) : Prop :=
  ∃ body, v.read.EndsBy limit .get v.operation.url (.ok ⟨200, body⟩) ∧
    (compareBodies body v.operation.desiredBytes).isSatisfied = false

/-- Why reading the document fails: it does not tell whether the document is there. -/
def ReadFails (v : Visit) (e : Error) : Prop :=
  v.read.Fails limit .get v.operation.url (fun status => status = 404 ∨ status = 200) e

/-- Why writing the document fails, if it is written: it does not tell of success. -/
def WriteFails (v : Visit) (e : Error) : Prop :=
  ∃ answer, v.write = some answer ∧
    answer.Fails limit .put v.operation.url (fun status => 200 ≤ status ∧ status < 300) e

def Fails (v : Visit) (e : Error) : Prop := v.ReadFails limit e ∨ v.WriteFails limit e

/-- The status that reading the document gave in time, if it gave one. -/
def readStatus? (v : Visit) : Option Nat :=
  match v.read with
  | .after delay (.ok r) => if delay.nanoseconds ≤ limit.nanoseconds then some r.status else none
  | .after _ (.error _) => none
  | .never => none

/-- Whether the document was written after reading it had given a status. -/
def wroteAfter (status : Nat) (v : Visit) : Bool :=
  v.write.isSome && v.readStatus? limit == some status

/-- How a visit that does not fail counts. -/
def outcome (v : Visit) : Outcome :=
  if v.wroteAfter limit 404 then .created
  else if v.wroteAfter limit 200 then .updated
  else .unchanged

/-- How a visit ends: with why it fails, or with how it counts. -/
def Results (v : Visit) : Except Error Outcome → Prop
  | .error e => v.Fails limit e
  | .ok outcome => (∀ e, ¬ v.Fails limit e) ∧ outcome = v.outcome limit

end Visit

/-! ## One operation -/

theorem SearchClient.send_run {σ : Type} (client : SearchClient σ) (limit : Duration)
    (method : Method) (url : String) (body : Option Bytes) (s : σ) :
    client.send limit method url body s =
      ((client.request method url body s).1.by limit method url,
        (client.request method url body s).2) := by
  rw [send, bind_run, Step.act_run, follow_ok, Step.ofExcept_run]

namespace Operation

variable {σ : Type} (client : SearchClient σ) (limit : Duration) (op : Operation)

/-- What a response to writing the document of an operation means for it. -/
def written (outcome : Outcome) (r : Response) : Except Error Outcome :=
  if r.isSuccess then .ok outcome else .error (.unacceptableStatus "PUT" op.url r.status)

theorem need_run (s : σ) :
    op.need client limit s =
      (((client.request .get op.url none s).1.by limit .get op.url) >>= op.needOf,
        (client.request .get op.url none s).2) := by
  rw [need, bind_run, SearchClient.send_run]
  cases (client.request .get op.url none s).1.by limit .get op.url with
  | error e => rfl
  | ok r => exact Step.ofExcept_run _ _

theorem write_run (outcome : Outcome) (s : σ) :
    (do op.write client limit; return outcome : Step σ Outcome) s =
      (((client.request .put op.url (some op.desiredBytes) s).1.by limit .put op.url) >>=
          op.written outcome,
        (client.request .put op.url (some op.desiredBytes) s).2) := by
  rw [bind_run, write, bind_run, SearchClient.send_run]
  cases (client.request .put op.url (some op.desiredBytes) s).1.by limit .put op.url with
  | error e => rfl
  | ok r =>
      cases success : r.isSuccess with
      | true => simp [written, success, bind, Except.bind]
      | false => simp [written, success, bind, Except.bind]

theorem converge_run (s : σ) :
    op.converge client limit s =
      follow (fun
        | .none => pure .unchanged
        | .create => do op.write client limit; return .created
        | .update => do op.write client limit; return .updated) (op.need client limit s) := by
  rw [converge]
  exact bind_run _ _ s

section

variable {client limit op} {s between after : σ} {read write : Answer}

theorem converge_of_fault (readRun : client.request .get op.url none s = (read, between))
    {e : Error} (fault : read.by limit .get op.url >>= op.needOf = .error e) :
    op.converge client limit s = (.error e, between) := by
  rw [converge_run, need_run, readRun, fault, follow_error]

theorem converge_of_none (readRun : client.request .get op.url none s = (read, between))
    (holds : read.by limit .get op.url >>= op.needOf = .ok .none) :
    op.converge client limit s = (.ok .unchanged, between) := by
  rw [converge_run, need_run, readRun, holds, follow_ok]
  rfl

/-- An operation whose document is missing or lacks something is written. -/
theorem converge_of_write (readRun : client.request .get op.url none s = (read, between))
    (writeRun : client.request .put op.url (some op.desiredBytes) between = (write, after))
    {need : WriteNeed} {outcome : Outcome}
    (needed : read.by limit .get op.url >>= op.needOf = .ok need)
    (pair : (need, outcome) = (.create, .created) ∨ (need, outcome) = (.update, .updated)) :
    op.converge client limit s =
      (write.by limit .put op.url >>= op.written outcome, after) := by
  rw [converge_run, need_run, readRun, needed, follow_ok]
  rcases pair with equal | equal
  · cases equal
    have run := write_run client limit op .created between
    rw [writeRun] at run
    exact run
  · cases equal
    have run := write_run client limit op .updated between
    rw [writeRun] at run
    exact run

end

end Operation

namespace Visit

variable (limit : Duration) (v : Visit)

def need : Except Error WriteNeed :=
  v.read.by limit .get v.operation.url >>= v.operation.needOf

variable {limit v}

theorem readStatus?_eq {r : Response} (read : v.read.by limit .get v.operation.url = .ok r) :
    v.readStatus? limit = some r.status := by
  obtain ⟨operation, answer, write⟩ := v
  cases Answer.endsBy_iff.mpr read with
  | response inTime => exact if_pos inTime

section

variable {r : Response} (read : v.read.by limit .get v.operation.url = .ok r)
include read

theorem isMissing_iff : v.IsMissing limit ↔ r.status = 404 := by
  constructor
  · rintro ⟨body, ends⟩
    cases read.symm.trans (Answer.endsBy_iff.mp ends)
    rfl
  · rintro missing
    obtain ⟨status, body⟩ := r
    cases missing
    exact ⟨body, Answer.endsBy_iff.mpr read⟩

theorem isLacking_iff : v.IsLacking limit ↔ r.status = 200 ∧
    (compareBodies r.body v.operation.desiredBytes).isSatisfied = false := by
  constructor
  · rintro ⟨body, ends, unsatisfied⟩
    cases read.symm.trans (Answer.endsBy_iff.mp ends)
    exact ⟨rfl, unsatisfied⟩
  · rintro ⟨found, unsatisfied⟩
    obtain ⟨status, body⟩ := r
    cases found
    exact ⟨body, Answer.endsBy_iff.mpr read, unsatisfied⟩

end

/-- The answer to reading a document falls into one of four kinds. -/
theorem need_cases (limit : Duration) (v : Visit) :
    match v.need limit with
    | .error e => v.ReadFails limit e ∧ ¬ v.IsMissing limit ∧ ¬ v.IsLacking limit
    | .ok .none => (∀ e, ¬ v.ReadFails limit e) ∧ ¬ v.IsMissing limit ∧ ¬ v.IsLacking limit
    | .ok .create => (∀ e, ¬ v.ReadFails limit e) ∧ v.IsMissing limit
    | .ok .update => (∀ e, ¬ v.ReadFails limit e) ∧ v.IsLacking limit := by
  rw [need]
  cases read : v.read.by limit .get v.operation.url with
  | error e =>
      have unanswered {r : Response} :
          ¬ v.read.EndsBy limit .get v.operation.url (.ok r) := fun ends => by
        cases read.symm.trans (Answer.endsBy_iff.mp ends)
      exact ⟨.unanswered (Answer.endsBy_iff.mpr read), fun missing => unanswered missing.choose_spec,
        fun lacking => unanswered lacking.choose_spec.1⟩
  | ok r =>
      have readable (expected : r.status = 404 ∨ r.status = 200) (e : Error) :
          ¬ v.ReadFails limit e := Answer.not_fails read expected e
      rw [isMissing_iff read, isLacking_iff read]
      simp only [bind, Except.bind]
      by_cases missing : r.status = 404
      · rw [Operation.needOf, if_pos missing]
        exact ⟨readable (.inl missing), missing⟩
      · by_cases found : r.status = 200
        · rw [Operation.needOf, if_neg missing, if_pos found]
          cases satisfied : (compareBodies r.body v.operation.desiredBytes).isSatisfied with
          | true => exact ⟨readable (.inr found), missing, fun lacking => nomatch lacking.2⟩
          | false => exact ⟨readable (.inr found), found, rfl⟩
        · rw [Operation.needOf, if_neg missing, if_neg found]
          refine ⟨.unaccepted (Answer.endsBy_iff.mpr read) ?_, missing, fun lacking => found lacking.1⟩
          exact fun expected => expected.elim missing found

/-- A visit without a write whose reading does not fail leaves its document as it is. -/
theorem results_of_unwritten {operation : Operation} {read : Answer}
    (readable : ∀ e, ¬ ReadFails limit ⟨operation, read, none⟩ e) :
    Results limit ⟨operation, read, none⟩ (.ok .unchanged) := by
  refine ⟨fun e fails => ?_, rfl⟩
  rcases fails with unread | ⟨answer, wrote, -⟩
  · exact readable e unread
  · cases wrote

/-- A visit with a write whose reading does not fail ends as its write does. -/
theorem results_of_written {operation : Operation} {read write : Answer} {counted : Outcome}
    (readable : ∀ e, ¬ ReadFails limit ⟨operation, read, some write⟩ e)
    (counts : outcome limit ⟨operation, read, some write⟩ = counted) :
    Results limit ⟨operation, read, some write⟩
      (write.by limit .put operation.url >>= operation.written counted) := by
  cases wrote : write.by limit .put operation.url with
  | error e => exact .inr ⟨write, rfl, .unanswered (Answer.endsBy_iff.mpr wrote)⟩
  | ok r =>
      by_cases success : 200 ≤ r.status ∧ r.status < 300
      · have holds : operation.written counted r = .ok counted := by
          simp [Operation.written, Response.isSuccess, success]
        simp only [bind, Except.bind, holds]
        refine ⟨fun e fails => ?_, counts.symm⟩
        rcases fails with unread | ⟨answer, same, fails⟩
        · exact readable e unread
        · cases same
          exact Answer.not_fails wrote success e fails
      · have refused : operation.written counted r =
            .error (.unacceptableStatus "PUT" operation.url r.status) := by
          simp [Operation.written, Response.isSuccess, success]
        simp only [bind, Except.bind, refused]
        exact .inr ⟨write, rfl, .unaccepted (Answer.endsBy_iff.mpr wrote) success⟩

theorem outcome_of_missing (wrote : v.write.isSome = true) (missing : v.IsMissing limit) :
    v.outcome limit = .created := by
  obtain ⟨body, ends⟩ := missing
  have status := readStatus?_eq (Answer.endsBy_iff.mp ends)
  simp [outcome, wroteAfter, wrote, status]

theorem outcome_of_lacking (wrote : v.write.isSome = true) (lacking : v.IsLacking limit) :
    v.outcome limit = .updated := by
  obtain ⟨body, ends, -⟩ := lacking
  have status := readStatus?_eq (Answer.endsBy_iff.mp ends)
  simp [outcome, wroteAfter, wrote, status]

end Visit

/-! ## The visit of an operation -/

/-- Whether the writes of a visit are those that its reading calls for. -/
def Visit.WritesAsNeeded (limit : Duration) (v : Visit) : Prop :=
  v.write.isSome = true ↔ v.IsMissing limit ∨ v.IsLacking limit

theorem Visit.writesAsNeeded_of_write {limit : Duration} {v : Visit}
    (wrote : v.write.isSome = true) (needed : v.IsMissing limit ∨ v.IsLacking limit) :
    v.WritesAsNeeded limit := by
  constructor
  · intro _
    exact needed
  · intro _
    exact wrote

/-- The visit of an operation from a world on, how it ends, and the world that it leaves. -/
def Operation.IsVisit {σ : Type} (client : SearchClient σ) (limit : Duration) (op : Operation)
    (s : σ) (v : Visit) (result : Except Error Outcome) (after : σ) : Prop :=
  v.operation = op ∧ v.WritesAsNeeded limit ∧ v.Results limit result ∧
    op.converge client limit s = (result, after) ∧
    ∀ log, op.converge client.recorded limit (s, log) = (result, (after, log ++ v.exchanges))

theorem SearchClient.recorded_request {σ : Type} {client : SearchClient σ} {method : Method}
    {url : String} {body : Option Bytes} {s after : σ} {answer : Answer}
    (run : client.request method url body s = (answer, after)) (log : List Exchange) :
    client.recorded.request method url body (s, log) =
      (answer, (after, log ++ [⟨method, url, body, answer⟩])) := by
  rw [recorded]
  simp [run]

namespace Operation

variable {σ : Type} {client : SearchClient σ} {limit : Duration} {op : Operation}
variable {s between after : σ} {read write : Answer}

theorem isVisit_of_fault (readRun : client.request .get op.url none s = (read, between))
    {e : Error} (need : Visit.need limit ⟨op, read, none⟩ = .error e) :
    IsVisit client limit op s ⟨op, read, none⟩ (.error e) between := by
  have kind := Visit.need_cases limit ⟨op, read, none⟩
  rw [need] at kind
  obtain ⟨unread, notMissing, notLacking⟩ := kind
  refine ⟨rfl, by simp [Visit.WritesAsNeeded, notMissing, notLacking], .inl unread,
    converge_of_fault readRun need, fun log => ?_⟩
  exact converge_of_fault (SearchClient.recorded_request readRun log) need

theorem isVisit_of_none (readRun : client.request .get op.url none s = (read, between))
    (need : Visit.need limit ⟨op, read, none⟩ = .ok .none) :
    IsVisit client limit op s ⟨op, read, none⟩ (.ok .unchanged) between := by
  have kind := Visit.need_cases limit ⟨op, read, none⟩
  rw [need] at kind
  obtain ⟨readable, notMissing, notLacking⟩ := kind
  refine ⟨rfl, by simp [Visit.WritesAsNeeded, notMissing, notLacking],
    Visit.results_of_unwritten readable, converge_of_none readRun need, fun log => ?_⟩
  exact converge_of_none (SearchClient.recorded_request readRun log) need

theorem isVisit_of_write (readRun : client.request .get op.url none s = (read, between))
    (writeRun : client.request .put op.url (some op.desiredBytes) between = (write, after))
    {need : WriteNeed} {outcome : Outcome}
    (needed : Visit.need limit ⟨op, read, some write⟩ = .ok need)
    (pair : (need, outcome) = (.create, .created) ∨ (need, outcome) = (.update, .updated)) :
    IsVisit client limit op s ⟨op, read, some write⟩
      (write.by limit .put op.url >>= op.written outcome) after := by
  have kind := Visit.need_cases limit ⟨op, read, some write⟩
  rw [needed] at kind
  have called : (∀ e, ¬ Visit.ReadFails limit ⟨op, read, some write⟩ e) ∧
      (Visit.IsMissing limit ⟨op, read, some write⟩ ∨
        Visit.IsLacking limit ⟨op, read, some write⟩) ∧
      Visit.outcome limit ⟨op, read, some write⟩ = outcome := by
    rcases pair with equal | equal
    · cases equal
      exact ⟨kind.1, .inl kind.2, Visit.outcome_of_missing rfl kind.2⟩
    · cases equal
      exact ⟨kind.1, .inr kind.2, Visit.outcome_of_lacking rfl kind.2⟩
  obtain ⟨readable, called, counts⟩ := called
  refine ⟨rfl, Visit.writesAsNeeded_of_write rfl called, Visit.results_of_written readable counts,
    converge_of_write readRun writeRun needed pair, fun log => ?_⟩
  have readLog := SearchClient.recorded_request readRun log
  have writeLog := SearchClient.recorded_request writeRun (log ++ [⟨.get, op.url, none, read⟩])
  rw [converge_of_write readLog writeLog needed pair]
  simp [Visit.exchanges]

/-- Every operation is visited, and recording the visit does not change it. -/
theorem exists_visit (client : SearchClient σ) (limit : Duration) (op : Operation) (s : σ) :
    ∃ v result after, IsVisit client limit op s v result after := by
  rcases readRun : client.request .get op.url none s with ⟨read, between⟩
  -- how a write would be answered, whether or not it is sent
  rcases writeRun : client.request .put op.url (some op.desiredBytes) between with ⟨write, after⟩
  cases need : read.by limit .get op.url >>= op.needOf with
  | error e => exact ⟨_, _, _, isVisit_of_fault readRun need⟩
  | ok kind =>
      cases kind with
      | none => exact ⟨_, _, _, isVisit_of_none readRun need⟩
      | create => exact ⟨_, _, _, isVisit_of_write readRun writeRun need (.inl rfl)⟩
      | update => exact ⟨_, _, _, isVisit_of_write readRun writeRun need (.inr rfl)⟩

end Operation

/-! ## A run -/

namespace Visit

variable (limit : Duration)

/-- A report to which visits were added. -/
def tally (report : Report) (visits : List Visit) : Report :=
  visits.foldl (fun r v => r.add (v.outcome limit)) report

theorem applied_add (report : Report) (outcome : Outcome) :
    (report.add outcome).applied = report.applied + 1 := by
  cases outcome <;> simp only [Report.add, Report.applied] <;> omega

theorem applied_tally (report : Report) (visits : List Visit) :
    (tally limit report visits).applied = report.applied + visits.length := by
  induction visits generalizing report with
  | nil => rfl
  | cons v rest ih =>
      rw [tally, List.foldl_cons, ← tally, ih, applied_add, List.length_cons]
      omega

theorem created_tally (report : Report) (visits : List Visit) :
    (tally limit report visits).created =
      report.created + visits.countP (·.wroteAfter limit 404) := by
  induction visits generalizing report with
  | nil => rfl
  | cons v rest ih =>
      rw [tally, List.foldl_cons, ← tally, ih, List.countP_cons]
      by_cases created : v.wroteAfter limit 404 = true
      · simp only [outcome, created, if_true, Report.add]
        omega
      · by_cases updated : v.wroteAfter limit 200 = true
        · simp [outcome, created, updated, Report.add]
        · simp [outcome, created, updated, Report.add]

theorem wroteAfter_unique {v : Visit} (created : v.wroteAfter limit 404 = true) :
    v.wroteAfter limit 200 = false := by
  simp only [wroteAfter, Bool.and_eq_true, beq_iff_eq] at created
  simp [wroteAfter, created.2]

theorem updated_tally (report : Report) (visits : List Visit) :
    (tally limit report visits).updated =
      report.updated + visits.countP (·.wroteAfter limit 200) := by
  induction visits generalizing report with
  | nil => rfl
  | cons v rest ih =>
      rw [tally, List.foldl_cons, ← tally, ih, List.countP_cons]
      by_cases created : v.wroteAfter limit 404 = true
      · simp [outcome, created, wroteAfter_unique limit created, Report.add]
      · by_cases updated : v.wroteAfter limit 200 = true
        · simp [outcome, created, updated, Report.add]
          omega
        · simp [outcome, created, updated, Report.add]

end Visit

namespace Operation

/-- How a run ends whose operations are visited: the first visit that fails ends it, and without one
every operation is visited and counted. -/
def Ends (limit : Duration) (report : Report) (ops : List Operation) (visits : List Visit) :
    Except Error Report → Prop
  | .error e =>
    visits.map Visit.operation <+: ops ∧ ∃ before last, visits = before ++ [last] ∧
      (∀ v ∈ before, ∀ e, ¬ v.Fails limit e) ∧ last.Fails limit e
  | .ok total =>
    visits.map Visit.operation = ops ∧ (∀ v ∈ visits, ∀ e, ¬ v.Fails limit e) ∧
      total = Visit.tally limit report visits

variable {σ : Type}

theorem convergeFrom_cons (client : SearchClient σ) (limit : Duration) (report : Report)
    (op : Operation) (rest : List Operation) (s : σ) :
    convergeFrom client limit report (op :: rest) s =
      follow (fun outcome => convergeFrom client limit (report.add outcome) rest)
        (op.converge client limit s) := by
  rw [convergeFrom, bind_run]

theorem ends_cons {limit : Duration} {report : Report} {op : Operation} {rest : List Operation}
    {v : Visit} {visits : List Visit} {result : Except Error Report} (same : v.operation = op)
    (noFault : ∀ e, ¬ v.Fails limit e)
    (ends : Ends limit (report.add (v.outcome limit)) rest visits result) :
    Ends limit report (op :: rest) (v :: visits) result := by
  have first (others : List Visit) (noFaults : ∀ w ∈ others, ∀ e, ¬ w.Fails limit e) :
      ∀ w ∈ v :: others, ∀ e, ¬ w.Fails limit e :=
    List.forall_mem_cons.mpr ⟨noFault, noFaults⟩
  cases result with
  | error e =>
      obtain ⟨order, before, last, rfl, noFaults, fault⟩ := ends
      refine ⟨?_, v :: before, last, rfl, first before noFaults, fault⟩
      rw [List.map_cons, same]
      exact List.cons_prefix_cons.mpr ⟨rfl, order⟩
  | ok total =>
      obtain ⟨order, noFaults, counts⟩ := ends
      exact ⟨by rw [List.map_cons, same, order], first visits noFaults, counts⟩

theorem convergeFrom_trace (client : SearchClient σ) (limit : Duration) (ops : List Operation)
    (report : Report) (s : σ) :
    ∃ visits result after,
      convergeFrom client limit report ops s = (result, after) ∧
      (∀ log, convergeFrom client.recorded limit report ops (s, log) =
        (result, (after, log ++ visits.flatMap Visit.exchanges))) ∧
      (∀ v ∈ visits, v.WritesAsNeeded limit) ∧ Ends limit report ops visits result := by
  induction ops generalizing report s with
  | nil =>
      refine ⟨[], .ok report, s, rfl, fun log => ?_, by simp, by simp [Ends, Visit.tally]⟩
      rw [List.flatMap_nil, List.append_nil]
      rfl
  | cons op rest ih =>
      obtain ⟨v, ended, between, same, writes, results, run, recordedRun⟩ :=
        exists_visit client limit op s
      cases ended with
      | error e =>
          refine ⟨[v], .error e, between, ?_, fun log => ?_, by simpa using writes, ?_⟩
          · rw [convergeFrom_cons, run, follow_error]
          · rw [convergeFrom_cons, recordedRun, follow_error]
            simp
          · exact ⟨by simp [same], [], v, rfl, by simp, results⟩
      | ok outcome =>
          obtain ⟨noFault, rfl⟩ := results
          obtain ⟨visits, result, after, restRun, restRecorded, restWrites, restEnds⟩ :=
            ih (report.add (v.outcome limit)) between
          refine ⟨v :: visits, result, after, ?_, fun log => ?_, ?_, ?_⟩
          · rw [convergeFrom_cons, run, follow_ok, restRun]
          · rw [convergeFrom_cons, recordedRun, follow_ok, restRecorded]
            simp
          · simpa using ⟨writes, restWrites⟩
          · exact ends_cons same noFault restEnds

/-- A run that succeeds counts all its operations. -/
theorem applied_of_convergeAll {client : SearchClient σ} {limit : Duration} {ops : List Operation}
    {s : σ} {report : Report} (succeeds : (convergeAll client limit ops s).1 = .ok report) :
    report.applied = ops.length := by
  obtain ⟨visits, result, after, run, -, -, ends⟩ := convergeFrom_trace client limit ops .empty s
  rw [convergeAll, run] at succeeds
  have same : result = .ok report := succeeds
  rw [same] at ends
  obtain ⟨order, -, counts⟩ := ends
  rw [counts, Visit.applied_tally, ← order, List.length_map]
  exact Nat.zero_add visits.length

/-- A run against any client is a sequence of visits, one for each operation in order up to the
first that fails. A visit reads the document of its operation, and writes it exactly if it is
missing or lacks something. The first visit that fails is the last, and gives the run its error;
if none fails every operation is visited, and the report counts the visits by what they wrote. -/
theorem convergeAll_trace (client : SearchClient σ) (limit : Duration) (ops : List Operation)
    (s : σ) :
    ∃ visits result after,
      convergeAll client limit ops s = (result, after) ∧
      convergeAll client.recorded limit ops (s, []) =
        (result, (after, visits.flatMap Visit.exchanges)) ∧
      visits.map Visit.operation <+: ops ∧
      (∀ v ∈ visits, v.write.isSome = true ↔ v.IsMissing limit ∨ v.IsLacking limit) ∧
      (∀ e, result = .error e → ∃ before last, visits = before ++ [last] ∧
        (∀ v ∈ before, ∀ fault, ¬ v.Fails limit fault) ∧ last.Fails limit e) ∧
      ∀ report, result = .ok report →
        visits.map Visit.operation = ops ∧ (∀ v ∈ visits, ∀ fault, ¬ v.Fails limit fault) ∧
        report.unchanged + report.created + report.updated = ops.length ∧
        report.created = visits.countP (·.wroteAfter limit 404) ∧
        report.updated = visits.countP (·.wroteAfter limit 200) := by
  obtain ⟨visits, result, after, run, recordedRun, writes, ends⟩ :=
    convergeFrom_trace client limit ops .empty s
  refine ⟨visits, result, after, run, recordedRun [], ?_, writes, ?_, ?_⟩
  · cases result with
    | error e => exact ends.1
    | ok report => exact ends.1 ▸ List.prefix_rfl
  · rintro e rfl
    exact ends.2
  · rintro report rfl
    obtain ⟨order, noFaults, rfl⟩ := ends
    refine ⟨order, noFaults, ?_, ?_, ?_⟩
    · have applied := Visit.applied_tally limit .empty visits
      rw [← order, List.length_map]
      simpa [Report.applied, Report.empty] using applied
    · simpa [Report.empty] using Visit.created_tally limit .empty visits
    · simpa [Report.empty] using Visit.updated_tally limit .empty visits

end Operation

end SearchOperator
