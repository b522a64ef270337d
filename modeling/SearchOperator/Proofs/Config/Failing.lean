import SearchOperator.Proofs.Config.Gates

/-!
# Passes whose operations fail

A pass whose operations fail stores and reports that, and then ends with the error of the operation.
But if the failure cannot be stored, then the pass ends with the error of the write instead, and
reports nothing.
-/

namespace SearchOperator

open Simulation

def SearchConfig.storing (c : SearchConfig) (status : ConfigStatus) : Call :=
  .patchConfigStatus c.name c.space status

def SearchConfig.failedStatus (c : SearchConfig) (e : Error) : ConfigStatus :=
  c.nextStatus .failed (some e.message) c.storedApplied

def Error.isOfOperation : Error → Bool
  | .unacceptableStatus .. => true
  | .timeout .. => true
  | .transport .. => true
  | _ => false

/-- Operations that failed are tried again after a short delay. -/
theorem Schedule.afterError_of_operation {e : Error} (failed : e.isOfOperation = true) :
    Schedule.afterError e = .after 5 := by
  have retryable : e.isRetryable = true := by
    cases e with
    | unacceptableStatus method url status => rfl
    | timeout method url limit => rfl
    | transport url message => rfl
    | _ => cases failed
  rw [Schedule.afterError, if_pos retryable]

namespace Simulation.World

/-- A pass may judge a config: it is stored and can be loaded, and the controller of a version may
take it, after recording that version if need be. -/
structure Opens (w : World) (version name space : String) (c : SearchConfig) (stamp : Bool) :
    Prop where
  stored : w.config = some c
  loads : w.failure? (.getConfig name space) = none
  managed : c.metadata.isUnmanaged = false
  judged : Compatibility.check w.recorded? version = .ok (if stamp then .stamp else .compatible)

/-- No gate stops a pass over a config: the controller may work on it, the calls that lead to the
operations succeed, the cluster is found and a client for it is granted. -/
structure Reaches (w : World) (version name space : String) (own : Version) (c : SearchConfig) :
    Prop where
  admits : w.Admits version own c
  loads : w.failure? (.getConfig name space) = none
  stamps : Compatibility.Records w.recorded? own ∨
    w.failure? (.patchAnnotations name space (.ofList [(controllerVersionKey, version)])) = none
  finds : w.Finds c space
  grants : w.clientError = none

/-- Two worlds that answer alike, let the same calls fail, and hold the same events. -/
structure IsAlike (u w : World) : Prop where
  store : u.store = w.store
  rules : u.rules = w.rules
  failures : u.failures = w.failures
  clusters : u.clusters = w.clusters
  clientError : u.clientError = w.clientError
  events : u.events = w.events

variable {w u : World} {version name space : String} {own : Version} {c : SearchConfig}
variable {timeout : Duration}

theorem IsAlike.called (alike : u.IsAlike w) (made : List Call) : (u.called made).IsAlike w :=
  ⟨alike.store, alike.rules, alike.failures, alike.clusters, alike.clientError, alike.events⟩

theorem IsAlike.stamped (alike : u.IsAlike w) (version : String) : (u.stamped version).IsAlike w :=
  ⟨alike.store, alike.rules, alike.failures, alike.clusters, alike.clientError, alike.events⟩

/-! ## Getting to the operations -/

theorem Admits.check (admits : w.Admits version own c) :
    Compatibility.Records w.recorded? own ∧
        Compatibility.check w.recorded? version = .ok .compatible ∨
      ¬ Compatibility.Records w.recorded? own ∧
        Compatibility.check w.recorded? version = .ok .stamp := by
  rcases admits.free with unclaimed | ⟨r, records, same_or_older⟩
  · exact .inr ⟨fun records => records.1 unclaimed,
      Compatibility.check_of_unclaimed admits.parsed unclaimed⟩
  · have judged := Compatibility.check_of_records admits.parsed records
    by_cases same : r = own
    · rw [if_pos same] at judged
      exact .inl ⟨same ▸ records, judged⟩
    · rw [if_neg same, if_pos (same_or_older.resolve_left same)] at judged
      refine .inr ⟨fun recordsOwn => same ?_, judged⟩
      exact Except.ok.inj (records.2.symm.trans recordsOwn.2)

/-- A pass that may judge a config loads it and takes it. -/
theorem Opens.reconcile_run {stamp : Bool} (opens : w.Opens version name space c stamp) :
    SearchConfig.reconcile (configContext timeout version) name space w =
      SearchConfig.take (configContext timeout version) name space c stamp
        (w.called [.getConfig name space]) := by
  have recorded : w.recorded? = c.metadata.controllerVersion? := by
    rw [recorded?, opens.stored]
    rfl
  rcases getConfig_run w name space with ⟨e, failing, -⟩ | ⟨-, loaded⟩
  · cases opens.loads.symm.trans failing
  · rw [SearchConfig.reconcile, bind_run]
    simp only [configContext]
    rw [loaded, follow_ok, opens.stored]
    simp only [opens.managed, Bool.false_eq_true, if_false]
    rw [← recorded, opens.judged]
    cases stamp with
    | false => rfl
    | true => rfl

theorem clientFor_of_granted (granted : w.clientError = none) (name space : String) :
    clients.clientFor space name w = (.ok searchClient, w.called [.clientFor name space]) := by
  simp only [clients, record, called, granted]

theorem trails_warn (c : SearchConfig) (reason : EventReason) (e : Error) :
    Step.Moves Trails (SearchConfig.warn publisher c reason e) := fun w =>
  ⟨⟨[], (List.append_nil w.calls).symm, List.forall_mem_nil _⟩, rfl, rfl⟩

/-- To look for the cluster of a config and to ask for a client writes to no stored resource. -/
theorem trails_clientFor (c : SearchConfig) (space : String) :
    Step.Moves Trails (SearchConfig.clientFor (configContext timeout version) c space) := by
  apply trails_bind
  · intro w
    simp only [configContext]
    rcases w.hasCluster_run c.spec.cluster.name (c.spec.cluster.spaceOr space) with
      ⟨e, -, failed⟩ | ⟨-, found⟩
    · rw [failed]
      exact trails_called w rfl
    · rw [found]
      exact trails_called w rfl
  · intro found
    cases found with
    | false =>
        exact trails_bind (trails_warn c _ _) fun _ w => Trails.refl w
    | true =>
        intro w
        have asked : w.Trails
            (w.called [.clientFor c.spec.cluster.name (c.spec.cluster.spaceOr space)]) :=
          trails_called w rfl
        simp only [configContext, clients, Bool.not_true, Bool.false_eq_true, if_false]
        split
        · exact asked
        · exact asked

section

variable (reaches : w.Reaches version name space own c) (alike : u.IsAlike w)
include reaches alike

theorem Reaches.clientFor_run (timeout : Duration) :
    ∃ v, SearchConfig.clientFor (configContext timeout version) c space u = (.ok searchClient, v) ∧
      v.IsAlike w := by
  have finds := (hasCluster_congr alike.failures alike.clusters _ _).trans reaches.finds
  rcases u.hasCluster_run c.spec.cluster.name (c.spec.cluster.spaceOr space) with
    ⟨e, -, failed⟩ | ⟨-, found⟩
  · cases (congrArg Prod.fst failed).symm.trans finds
  · have there := Except.ok.inj ((congrArg Prod.fst found).symm.trans finds)
    have asked := alike.called [.getCluster c.spec.cluster.name (c.spec.cluster.spaceOr space)]
    have granted := clientFor_of_granted (asked.clientError.trans reaches.grants)
      c.spec.cluster.name (c.spec.cluster.spaceOr space)
    refine ⟨_, Eq.trans ?_ granted, asked.called _⟩
    rw [SearchConfig.clientFor, bind_run]
    simp only [configContext]
    rw [found, follow_ok, there]
    rfl

theorem Reaches.use_run (timeout : Duration) :
    ∃ v, (do
        let client ← SearchConfig.clientFor (configContext timeout version) c space
        SearchConfig.apply (configContext timeout version) c client) u =
          SearchConfig.apply (configContext timeout version) c searchClient v ∧
      v.IsAlike w ∧ u.Trails v := by
  obtain ⟨v, ran, alike⟩ := reaches.clientFor_run alike timeout
  have trails : u.Trails (SearchConfig.clientFor (configContext timeout version) c space u).2 :=
    trails_clientFor c space u
  rw [ran] at trails
  refine ⟨v, ?_, alike, trails⟩
  rw [bind_run, ran, follow_ok]

omit alike in
/-- A pass gets to the operations by calls that store nothing but its controller's version, and
that only if another one is recorded. -/
theorem Reaches.reconcile_trails (timeout : Duration) :
    ∃ v, SearchConfig.reconcile (configContext timeout version) name space w =
        SearchConfig.apply (configContext timeout version) c searchClient v ∧ v.IsAlike w ∧
      (Compatibility.check w.recorded? version = .ok .compatible ∧ w.Trails v ∨
        Compatibility.check w.recorded? version = .ok .stamp ∧
          ((w.called [.getConfig name space, .patchAnnotations name space
            (.ofList [(controllerVersionKey, version)])]).stamped version).Trails v) := by
  have alike : (w.called [.getConfig name space]).IsAlike w := ⟨rfl, rfl, rfl, rfl, rfl, rfl⟩
  have admits := reaches.admits
  rcases admits.check with ⟨-, judged⟩ | ⟨differs, judged⟩
  · have opens : w.Opens version name space c false :=
      ⟨admits.stored, reaches.loads, admits.managed, judged⟩
    rw [opens.reconcile_run, SearchConfig.take, admits.valid]
    obtain ⟨v, ran, alike, trails⟩ := reaches.use_run alike timeout
    exact ⟨v, ran, alike, .inl ⟨judged, (trails_called w rfl).trans trails⟩⟩
  · have opens : w.Opens version name space c true :=
      ⟨admits.stored, reaches.loads, admits.managed, judged⟩
    rw [opens.reconcile_run, SearchConfig.take, admits.valid]
    simp only [if_true, configContext]
    rcases stamp_run (w.called [.getConfig name space]) version name space with
      ⟨e, failing, -⟩ | ⟨-, ran⟩
    · cases (reaches.stamps.resolve_left differs).symm.trans failing
    · obtain ⟨v, used, alike, trails⟩ :=
        reaches.use_run ((alike.called _).stamped version) timeout
      rw [called_called] at trails
      refine ⟨v, ?_, alike, .inr ⟨judged, trails⟩⟩
      rw [bind_run, ran, follow_ok]
      exact used

omit alike in
theorem Reaches.reconcile_run (timeout : Duration) :
    ∃ v, SearchConfig.reconcile (configContext timeout version) name space w =
        SearchConfig.apply (configContext timeout version) c searchClient v ∧
      v.IsAlike w := by
  obtain ⟨v, ran, alike, -⟩ := reaches.reconcile_trails timeout
  exact ⟨v, ran, alike⟩

end

/-! ## Reporting the failure -/

theorem updateStatus_of_stored {c : SearchConfig} {next : ConfigStatus}
    (same : c.status = some next) (w : World) :
    SearchConfig.updateStatus configApi c next w = (.ok false, w) := by
  rw [SearchConfig.updateStatus, if_pos same, pure_run]

/-- A status other than the stored one is written, unless that fails. -/
theorem updateStatus_of_differs {c : SearchConfig} {next : ConfigStatus}
    (differs : c.status ≠ some next) (w : World) :
    (∃ e, w.failure? (c.storing next) = some e ∧
        SearchConfig.updateStatus configApi c next w = (.error e, w.called [c.storing next])) ∨
      w.failure? (c.storing next) = none ∧ SearchConfig.updateStatus configApi c next w =
        (.ok true, (w.called [c.storing next]).withStatus next) := by
  rw [SearchConfig.updateStatus, if_neg differs, bind_run]
  rcases call_run (c.storing next) rfl (modify fun w : World => w.withStatus next) w with
    ⟨e, failing, failed⟩ | ⟨unfailing, ran⟩
  · exact .inl ⟨e, failing, congrArg (follow _) failed⟩
  · exact .inr ⟨unfailing, congrArg (follow _) ran⟩

/-- A status that is stored already is not written; another is written, unless that fails. -/
theorem updateStatus_run (c : SearchConfig) (next : ConfigStatus) (w : World) :
    (c.status = some next ∧ SearchConfig.updateStatus configApi c next w = (.ok false, w)) ∨
      c.status ≠ some next ∧
        ((∃ e, w.failure? (c.storing next) = some e ∧
            SearchConfig.updateStatus configApi c next w = (.error e, w.called [c.storing next])) ∨
          w.failure? (c.storing next) = none ∧ ∃ config,
            SearchConfig.updateStatus configApi c next w =
              (.ok true, { w.called [c.storing next] with config := config })) := by
  by_cases same : c.status = some next
  · exact .inl ⟨same, updateStatus_of_stored same w⟩
  · exact .inr ⟨same, (updateStatus_of_differs same w).imp_right fun ⟨unfailing, ran⟩ =>
      ⟨unfailing, _, ran⟩⟩

/-- What a run of operations leaves alone. -/
theorem convergeAll_keeps (limit : Duration) (ops : List Operation) (w : World) :
    let after := (Operation.convergeAll searchClient limit ops w).2
    after.failures = w.failures ∧ after.events = w.events := by
  have leaves : searchClient.Leaves fun w : World => (w.failures, w.events) :=
    leaves_searchClient fun _ _ _ _ => rfl
  exact Prod.ext_iff.mp (Operation.keeps_convergeFrom leaves limit ops .empty w)

/-- The failure is stored and reported before the pass ends with it. -/
theorem apply_of_failing {limit : Duration} {e : Error} {v : World}
    (fails : Operation.convergeAll searchClient limit c.spec.operations u = (.error e, v)) :
    SearchConfig.apply (configContext limit version) c searchClient u =
      follow (fun _ => throw e) (follow
        (fun changed =>
          if changed then SearchConfig.warn publisher c .operationFailed e else pure ())
        (SearchConfig.updateStatus configApi c (c.failedStatus e) v)) := by
  rw [SearchConfig.apply, bind_run, Step.attempt_run]
  simp only [configContext]
  rw [fails, follow_ok]
  simp only
  rw [bind_run, SearchConfig.reportFailure, bind_run]
  rfl

/-- A pass whose operations fail ends with their error, which asks for another pass after a short
delay, and reports it unless it is stored already; but if the failure is to be stored and that fails
too, then the pass ends with the error of the write and reports nothing. -/
theorem reconcile_of_failing {e : Error} (reaches : w.Reaches version name space own c)
    (fails : (Operation.convergeAll searchClient timeout c.spec.operations w).1 = .error e)
    (kind : e.isOfOperation = true) :
    let failed := c.failedStatus e
    let pass := SearchConfig.reconcile (configContext timeout version) name space w
    Schedule.afterError e = .after 5 ∧
      (c.status = some failed → pass.1 = .error e ∧ pass.2.events = w.events) ∧
      (c.status ≠ some failed → w.failure? (c.storing failed) = none →
        pass.1 = .error e ∧ pass.2.events =
          w.events ++ [(Event.warning .operationFailed e.message).published c.reference]) ∧
      (c.status ≠ some failed → ∀ other, w.failure? (c.storing failed) = some other →
        pass.1 = .error other ∧ pass.2.events = w.events) := by
  intro failed pass
  refine ⟨Schedule.afterError_of_operation kind, ?_⟩
  obtain ⟨u, ran, alike⟩ := reaches.reconcile_run timeout
  have again := (convergeAll_congr alike.store alike.rules timeout c.spec.operations).trans fails
  obtain ⟨failures, events⟩ := convergeAll_keeps timeout c.spec.operations u
  have applied : pass = _ := ran.trans (apply_of_failing (Prod.ext again rfl))
  have fate : (Operation.convergeAll searchClient timeout c.spec.operations u).2.failure?
      (c.storing failed) = w.failure? (c.storing failed) := by
    rw [failure?, failure?, failures, alike.failures]
  rw [applied, ← alike.events, ← events, ← fate]
  rcases updateStatus_run c (c.failedStatus e)
      (Operation.convergeAll searchClient timeout c.spec.operations u).2 with
    ⟨same, kept⟩ | ⟨differs, ⟨other, failing, unstored⟩ | ⟨unfailing, config, stored⟩⟩
  · rw [kept]
    exact ⟨fun _ => ⟨rfl, rfl⟩, fun differs => absurd same differs,
      fun differs => absurd same differs⟩
  · rw [unstored]
    refine ⟨fun same => absurd same differs, fun _ unfailing => ?_, fun _ e' failing' => ?_⟩
    · cases failing.symm.trans unfailing
    · cases failing.symm.trans failing'
      exact ⟨rfl, rfl⟩
  · rw [stored]
    refine ⟨fun same => absurd same differs, fun _ _ => ⟨rfl, rfl⟩, fun _ e' failing => ?_⟩
    cases failing.symm.trans unfailing

def templateConfig : SearchConfig :=
  ⟨{ Metadata.blank with
      name := some "settings"
      space := some "team-a"
      annotations := some (.ofList [(controllerVersionKey, "0.1.0")]) },
    ⟨⟨"logs", none⟩, [⟨"/_template/a", "\x7b\"x\":1\x7d"⟩]⟩, none⟩

/-- A world whose cluster is overloaded, and in which some calls fail. -/
def overloadedWorld (failures : Dictionary Error) : World :=
  { empty with
    config := some templateConfig
    clusters := ["team-a/logs"]
    rules := .ofList [("GET /_template/a", [immediate 503 []])]
    failures := failures }

def overload : Error := .unacceptableStatus "GET" "/_template/a" 503

def conflict : Error :=
  .kube (.api "Failure" "the object has been modified" "Conflict" 409)

theorem overloadedWorld_fails (failures : Dictionary Error) :
    (Operation.convergeAll searchClient ⟨0⟩ templateConfig.spec.operations
      (overloadedWorld failures)).1 = .error overload := rfl

def templateConfigWith (status : Option ConfigStatus) : SearchConfig :=
  { templateConfig with status := status }

/-- No gate stops a pass over the config with the template, whatever its status. -/
theorem reaches_template {status : Option ConfigStatus}
    (stored : w.config = some (templateConfigWith status)) (clusters : w.clusters = ["team-a/logs"])
    (grants : w.clientError = none) (loads : w.failures.get? "get_config" = none)
    (finds : w.failures.get? "get_cluster" = none) :
    w.Reaches "0.1.0" "settings" "team-a" (.release 0 1 0) (templateConfigWith status) := by
  have records : Compatibility.Records w.recorded? (.release 0 1 0) := by
    rw [recorded?, stored]
    exact Controller.records_own ⟨"0.1.0", .release 0 1 0, rfl, by decide⟩
  have valid : templateConfig.spec.validate = .ok () := by decide +kernel
  have there : w.clusters.contains "team-a/logs" = true := by
    rw [clusters]
    decide
  exact ⟨⟨stored, rfl, rfl, valid, .inr ⟨_, records, .inl rfl⟩⟩, loads, .inl records,
    finds_of_contains finds there, grants⟩

theorem overloadedWorld_reaches {failures : Dictionary Error}
    (loads : failures.get? "get_config" = none) (finds : failures.get? "get_cluster" = none) :
    (overloadedWorld failures).Reaches "0.1.0" "settings" "team-a" (.release 0 1 0)
      templateConfig :=
  @reaches_template _ none rfl rfl rfl loads finds

/-- If the failure can be stored, then the pass ends with it and reports it. -/
theorem reconcile_of_failing_overload :
    (overloadedWorld ∅).Reaches "0.1.0" "settings" "team-a" (.release 0 1 0) templateConfig ∧
      (Operation.convergeAll searchClient ⟨0⟩ templateConfig.spec.operations
        (overloadedWorld ∅)).1 = .error overload ∧
      overload.isOfOperation = true ∧ templateConfig.status = none ∧
      Schedule.afterError overload = .after 5 ∧
      let pass := SearchConfig.reconcile (configContext ⟨0⟩ "0.1.0") "settings" "team-a"
        (overloadedWorld ∅)
      pass.1 = .error overload ∧
        pass.2.events = [(Event.warning .operationFailed
          "unacceptable status 503 from GET /_template/a").published templateConfig.reference] := by
  have reaches := overloadedWorld_reaches (Dictionary.get?_empty _) (Dictionary.get?_empty _)
  obtain ⟨retried, -, reported, -⟩ := reconcile_of_failing reaches (overloadedWorld_fails ∅) rfl
  have unreported : templateConfig.status ≠ some (templateConfig.failedStatus overload) := by
    simp [templateConfig]
  exact ⟨reaches, overloadedWorld_fails ∅, rfl, rfl, retried,
    reported unreported (failure?_of_failures rfl _)⟩

/-- If the write loses a race, then the pass ends with that error, waits for a change, and reports
nothing. -/
theorem reconcile_of_failing_conflict :
    let w := overloadedWorld (.ofList [("patch_status", conflict)])
    let pass := SearchConfig.reconcile (configContext ⟨0⟩ "0.1.0") "settings" "team-a" w
    w.Reaches "0.1.0" "settings" "team-a" (.release 0 1 0) templateConfig ∧
      (Operation.convergeAll searchClient ⟨0⟩ templateConfig.spec.operations w).1 =
        .error overload ∧
      overload.isOfOperation = true ∧ templateConfig.status = none ∧
      pass.1 = .error conflict ∧ pass.1 ≠ .error overload ∧
      Schedule.afterError conflict = .onChange ∧ pass.2.events = [] := by
  intro w pass
  have ends : pass.1 = .error conflict := by decide +kernel
  have silent : pass.2.events = [] := by decide +kernel
  refine ⟨overloadedWorld_reaches rfl rfl, overloadedWorld_fails _, rfl, rfl, ends, ?_, rfl, silent⟩
  simp [ends, conflict, overload]

end Simulation.World

end SearchOperator
