import SearchOperator.Proofs.Config.Failing
import SearchOperator.Proofs.Config.Trace

/-!
# What a pass finds out

A pass that may judge its config, and is not stopped before it can, comes to a verdict: the spec is
invalid, or all operations hold, or one of them failed. It stores the verdict and tells of it unless
it is stored already. Besides that, a pass changes nothing about the config except that it may
record the version of its controller.
-/

namespace SearchOperator

open Simulation

/-- What a pass finds out about its config. -/
inductive Verdict where
  /-- The operations hold, and there are so many. -/
  | applied (operations : Nat)
  /-- The spec breaks a rule. -/
  | invalid (e : Error)
  /-- An operation failed. -/
  | failed (e : Error)

namespace Verdict

def phase : Verdict → ConfigPhase
  | .applied _ => .applied
  | .invalid _ => .invalid
  | .failed _ => .failed

def message? : Verdict → Option String
  | .applied _ => none
  | .invalid e => some e.message
  | .failed e => some e.message

end Verdict

namespace SearchConfig

def statusOf (c : SearchConfig) : Verdict → ConfigStatus
  | .applied n => c.nextStatus .applied none n
  | .invalid e => c.nextStatus .invalid (some e.message) 0
  | .failed e => c.failedStatus e

/-- The events that tell of a verdict. -/
def warnings (c : SearchConfig) : Verdict → List PublishedEvent
  | .applied _ => []
  | .invalid e => [(Event.warning .validation e.message).published c.reference]
  | .failed e => [(Event.warning .operationFailed e.message).published c.reference]

end SearchConfig

namespace Simulation.World

/-- The verdict to which a pass over a config comes, if it comes to one. -/
inductive Concludes (w : World) (timeout : Duration) (version name space : String)
    (c : SearchConfig) : Verdict → Prop where
  | invalid {stamp : Bool} {e : Error} (opens : w.Opens version name space c stamp)
      (broken : c.spec.validate = .error e) :
      Concludes w timeout version name space c (.invalid (e.withResource name))
  | applied {own : Version} {report : Report} (reaches : w.Reaches version name space own c)
      (hold : (Operation.convergeAll searchClient timeout c.spec.operations w).1 = .ok report) :
      Concludes w timeout version name space c (.applied c.spec.operations.length)
  | failed {own : Version} {e : Error} (reaches : w.Reaches version name space own c)
      (fails : (Operation.convergeAll searchClient timeout c.spec.operations w).1 = .error e) :
      Concludes w timeout version name space c (.failed e)

/-- A pass of the controller of a version has to record that version before it goes to work. -/
def Stamps (w : World) (version : String) : Prop :=
  Compatibility.check w.recorded? version = .ok .stamp ∧
    ∃ c, w.config = some c ∧ c.spec.validate = .ok ()

/-- One world follows another by calls that write nothing but the version of a controller, and that
only if it has to be recorded. -/
structure Leads (w : World) (version : String) (u : World) : Prop where
  calls : ∃ made, u.calls = w.calls ++ made ∧ (¬ w.Stamps version → Silent made)
  config : u.config = w.config ∨ w.Stamps version ∧ u.config = (w.stamped version).config
  patching : u.patching = w.patching

/-- A pass comes to its verdict in a world: the version of its controller is recorded if it has to
be, and nothing was told yet. -/
structure Arrives (w : World) (version : String) (u : World) : Prop where
  leads : w.Leads version u
  stamps : w.Stamps version → u.config = (w.stamped version).config
  failures : u.failures = w.failures
  events : u.events = w.events

/-- A world after a verdict on a config: if its status is not stored already it is to be stored, and
if that does not fail then the verdict is told. -/
def settle (w : World) (c : SearchConfig) (v : Verdict) : World :=
  if c.status = some (c.statusOf v) then w
  else
    let asked := w.called [c.storing (c.statusOf v)]
    if (w.failure? (c.storing (c.statusOf v))).isSome then asked
    else { asked.withStatus (c.statusOf v) with events := w.events ++ c.warnings v }

variable {w u : World} {version name space : String} {own : Version} {c : SearchConfig}
variable {timeout : Duration} {v : Verdict}

/-! ## Storing and telling a verdict -/

theorem settle_of_stored (same : c.status = some (c.statusOf v)) (w : World) : w.settle c v = w :=
  if_pos same

theorem settle_of_failing {e : Error} (differs : c.status ≠ some (c.statusOf v))
    (failing : w.failure? (c.storing (c.statusOf v)) = some e) :
    w.settle c v = w.called [c.storing (c.statusOf v)] := by
  rw [settle, if_neg differs, failing]
  rfl

theorem settle_of_unfailing (differs : c.status ≠ some (c.statusOf v))
    (unfailing : w.failure? (c.storing (c.statusOf v)) = none) :
    w.settle c v = { (w.called [c.storing (c.statusOf v)]).withStatus (c.statusOf v) with
      events := w.events ++ c.warnings v } := by
  rw [settle, if_neg differs, unfailing]
  rfl

theorem updateStatus_settles (silent : c.warnings v = []) (w : World) :
    (SearchConfig.updateStatus configApi c (c.statusOf v) w).2 = w.settle c v := by
  by_cases same : c.status = some (c.statusOf v)
  · rw [updateStatus_of_stored same, settle_of_stored same]
  · rcases updateStatus_of_differs same w with ⟨e, failing, failed⟩ | ⟨unfailing, ran⟩
    · rw [failed, settle_of_failing same failing]
    · rw [ran, settle_of_unfailing same unfailing, silent, List.append_nil]
      rfl

/-- What is stored is told by a warning. -/
theorem reportFailure_settles {phase : ConfigPhase} {applied : Nat} {reason : EventReason}
    {e : Error} (status : c.nextStatus phase (some e.message) applied = c.statusOf v)
    (warns : [(Event.warning reason e.message).published c.reference] = c.warnings v) (w : World) :
    (SearchConfig.reportFailure (configContext timeout version) c phase applied reason e w).2 =
      w.settle c v := by
  rw [SearchConfig.reportFailure, bind_run, status]
  simp only [configContext]
  by_cases same : c.status = some (c.statusOf v)
  · rw [updateStatus_of_stored same, settle_of_stored same]
    rfl
  · rcases updateStatus_of_differs same w with ⟨e, failing, failed⟩ | ⟨unfailing, ran⟩
    · rw [failed, settle_of_failing same failing]
      rfl
    · rw [ran, settle_of_unfailing same unfailing, ← warns]
      rfl

/-- Once the operations were tried, the verdict is settled. -/
theorem apply_settles (u : World) :
    ∃ v, (match (Operation.convergeAll searchClient timeout c.spec.operations u).1 with
        | .ok _ => v = .applied c.spec.operations.length
        | .error e => v = .failed e) ∧
      (SearchConfig.apply (configContext timeout version) c searchClient u).2 =
        (Operation.convergeAll searchClient timeout c.spec.operations u).2.settle c v := by
  rw [SearchConfig.apply, bind_run, Step.attempt_run]
  simp only [configContext, follow_ok]
  cases ran : (Operation.convergeAll searchClient timeout c.spec.operations u).1 with
  | ok report =>
      refine ⟨_, rfl, ?_⟩
      rw [state_bind _ fun _ _ => rfl, Operation.applied_of_convergeAll ran]
      exact @updateStatus_settles c (.applied c.spec.operations.length) rfl _
  | error e =>
      refine ⟨_, rfl, ?_⟩
      rw [state_bind _ fun _ _ => rfl]
      exact reportFailure_settles rfl rfl _

/-! ## Coming to a verdict -/

theorem leads_of_trails (trails : w.Trails u) : w.Leads version u := by
  obtain ⟨made, calls, silent⟩ := trails.calls
  exact ⟨⟨made, calls, fun _ => silent⟩, .inl trails.config, trails.patching⟩

/-- To record the version of a controller is the only thing that a pass writes on its way. -/
theorem leads_of_stamped (stamps : w.Stamps version) {made : List Call}
    (trails : ((w.called made).stamped version).Trails u) : w.Leads version u := by
  obtain ⟨more, calls, -⟩ := trails.calls
  refine ⟨⟨made ++ more, ?_, fun quiet => absurd stamps quiet⟩, .inr ⟨stamps, trails.config⟩,
    trails.patching⟩
  rw [calls, ← List.append_assoc]
  rfl

theorem Reaches.isStamping (reaches : w.Reaches version name space own c)
    (judged : Compatibility.check w.recorded? version = .ok .stamp) : w.Stamps version :=
  ⟨judged, c, reaches.admits.stored, reaches.admits.valid⟩

/-- A pass that gets to the operations arrives, and settles its verdict. -/
theorem Reaches.configPass_settles (reaches : w.Reaches version name space own c)
    (timeout : Duration) :
    ∃ u v, w.Arrives version u ∧ w.configPass timeout version name space = u.settle c v ∧
      match (Operation.convergeAll searchClient timeout c.spec.operations w).1 with
      | .ok _ => v = .applied c.spec.operations.length
      | .error e => v = .failed e := by
  obtain ⟨s, ran, alike, way⟩ := reaches.reconcile_trails timeout
  obtain ⟨v, verdict, settled⟩ := @apply_settles version c timeout s
  obtain ⟨failures, events⟩ := convergeAll_keeps timeout c.spec.operations s
  have tried := trails_convergeAll timeout c.spec.operations s
  rw [convergeAll_congr alike.store alike.rules] at verdict
  refine ⟨_, v, ?_, (congrArg Prod.snd ran).trans settled, verdict⟩
  have leads : w.Leads version (Operation.convergeAll searchClient timeout c.spec.operations s).2 := by
    rcases way with ⟨-, trails⟩ | ⟨judged, trails⟩
    · exact leads_of_trails (trails.trans tried)
    · exact leads_of_stamped (reaches.isStamping judged) (trails.trans tried)
  refine ⟨leads, fun stamps => ?_, failures.trans alike.failures, events.trans alike.events⟩
  rcases way with ⟨judged, -⟩ | ⟨-, trails⟩
  · cases judged.symm.trans stamps.1
  · exact (trails.trans tried).config

theorem not_stamps_of_invalid {e : Error} (stored : w.config = some c)
    (broken : c.spec.validate = .error e) : ¬ w.Stamps version := by
  rintro ⟨-, other, found, valid⟩
  cases found.symm.trans stored
  cases broken.symm.trans valid

/-- A pass over an invalid config arrives at once. -/
theorem Opens.configPass_settles {stamp : Bool} {e : Error}
    (opens : w.Opens version name space c stamp) (broken : c.spec.validate = .error e) :
    w.Arrives version (w.called [.getConfig name space]) ∧
      w.configPass timeout version name space =
        (w.called [.getConfig name space]).settle c (.invalid (e.withResource name)) := by
  refine ⟨⟨leads_of_trails (trails_called w rfl), fun stamps => ?_, rfl, rfl⟩, ?_⟩
  · exact absurd stamps (not_stamps_of_invalid opens.stored broken)
  · rw [configPass, opens.reconcile_run, SearchConfig.take, broken]
    simp only
    rw [state_bind _ fun _ _ => rfl]
    exact reportFailure_settles rfl rfl _

/-- A pass that comes to a verdict arrives, and settles it. -/
theorem Concludes.settles (concludes : w.Concludes timeout version name space c v) :
    ∃ u, w.Arrives version u ∧ w.configPass timeout version name space = u.settle c v := by
  cases concludes with
  | invalid opens broken => exact ⟨_, opens.configPass_settles broken⟩
  | applied reaches hold =>
      obtain ⟨u, v, arrives, settled, verdict⟩ := reaches.configPass_settles timeout
      rw [hold] at verdict
      cases verdict
      exact ⟨u, arrives, settled⟩
  | failed reaches fails =>
      obtain ⟨u, v, arrives, settled, verdict⟩ := reaches.configPass_settles timeout
      rw [fails] at verdict
      cases verdict
      exact ⟨u, arrives, settled⟩

/-! ## Coming to no verdict -/

/-- A client is granted only for a cluster that is found. -/
theorem granted_of_clientFor {client : SearchClient World}
    (gives : (SearchConfig.clientFor (configContext timeout version) c space u).1 = .ok client) :
    u.Finds c space ∧ u.clientError = none := by
  rw [SearchConfig.clientFor, bind_run] at gives
  simp only [configContext] at gives
  rcases u.hasCluster_run c.spec.cluster.name (c.spec.cluster.spaceOr space) with
    ⟨e, -, failed⟩ | ⟨-, found⟩
  · rw [failed] at gives
    cases gives
  · rw [Finds, found]
    rw [found, follow_ok] at gives
    cases there : u.clusters.contains (c.spec.cluster.spaceOr space ++ "/" ++ c.spec.cluster.name) with
    | false =>
        rw [there] at gives
        cases gives
    | true =>
        rw [there] at gives
        refine ⟨rfl, ?_⟩
        cases refused : u.clientError with
        | none => rfl
        | some e =>
            simp [clients, record, called, refused] at gives

theorem Reaches.exists_concludes (reaches : w.Reaches version name space own c)
    (timeout : Duration) : ∃ v, w.Concludes timeout version name space c v := by
  cases ran : (Operation.convergeAll searchClient timeout c.spec.operations w).1 with
  | ok report => exact ⟨_, .applied reaches ran⟩
  | error e => exact ⟨_, .failed reaches ran⟩

theorem Leads.trails {s : World} (leads : w.Leads version u) (trails : u.Trails s) :
    w.Leads version s := by
  obtain ⟨made, calls, quiet⟩ := leads.calls
  obtain ⟨more, later, silent⟩ := trails.calls
  refine ⟨⟨made ++ more, ?_, fun unstamped => ?_⟩, ?_, trails.patching.trans leads.patching⟩
  · rw [later, calls, List.append_assoc]
  · exact List.forall_mem_append.mpr ⟨quiet unstamped, silent⟩
  · rw [trails.config]
    exact leads.config

section

variable (quiet : ∀ c v, ¬ w.Concludes timeout version name space c v)
include quiet

/-- Without a verdict there is no client, so there is nothing but a look for one. -/
theorem leads_use (admits : w.Admits version own c)
    (loads : w.failure? (.getConfig name space) = none)
    (stamps : Compatibility.Records w.recorded? own ∨
      w.failure? (.patchAnnotations name space (.ofList [(controllerVersionKey, version)])) = none)
    (alike : u.IsAlike w) (leads : w.Leads version u) :
    w.Leads version ((SearchConfig.clientFor (configContext timeout version) c space >>=
      SearchConfig.apply (configContext timeout version) c) u).2 := by
  have looked : u.Trails (SearchConfig.clientFor (configContext timeout version) c space u).2 :=
    trails_clientFor c space u
  rw [bind_run]
  cases ran : SearchConfig.clientFor (configContext timeout version) c space u with
  | mk result s =>
      rw [ran] at looked
      cases result with
      | error e => exact leads.trails looked
      | ok client =>
          obtain ⟨found, granted⟩ := granted_of_clientFor (congrArg Prod.fst ran)
          have finds : w.Finds c space := by
            rw [Finds, ← hasCluster_congr alike.failures alike.clusters]
            exact found
          have reaches : w.Reaches version name space own c :=
            ⟨admits, loads, stamps, finds, alike.clientError.symm.trans granted⟩
          obtain ⟨v, concludes⟩ := reaches.exists_concludes timeout
          exact absurd concludes (quiet c v)

theorem leads_take {stamp : Bool} (opens : w.Opens version name space c stamp) :
    w.Leads version (SearchConfig.take (configContext timeout version) name space c stamp
      (w.called [.getConfig name space])).2 := by
  have loaded : (w.called [.getConfig name space]).IsAlike w := ⟨rfl, rfl, rfl, rfl, rfl, rfl⟩
  have leads : w.Leads version (w.called [.getConfig name space]) :=
    leads_of_trails (trails_called w rfl)
  cases valid : c.spec.validate with
  | error e => exact absurd (.invalid opens valid) (quiet c _)
  | ok _ =>
      rw [SearchConfig.take, valid]
      cases stamp with
      | false =>
          obtain ⟨own, parsed, records⟩ := Compatibility.check_eq_compatible opens.judged
          have admits : w.Admits version own c :=
            ⟨opens.stored, parsed, opens.managed, valid, .inr ⟨own, records, .inl rfl⟩⟩
          exact leads_use quiet admits opens.loads (.inl records) loaded leads
      | true =>
          obtain ⟨own, parsed, free⟩ := Compatibility.check_eq_stamp opens.judged
          have admits : w.Admits version own c :=
            ⟨opens.stored, parsed, opens.managed, valid, free.imp_right <| Exists.imp fun r older =>
              ⟨older.1, .inr older.2⟩⟩
          have stamps : w.Stamps version := ⟨opens.judged, c, opens.stored, valid⟩
          simp only [if_true, configContext]
          rw [bind_run]
          rcases stamp_run (w.called [.getConfig name space]) version name space with
            ⟨e, -, failed⟩ | ⟨unfailing, ran⟩
          · rw [failed, called_called]
            exact ⟨⟨_, rfl, fun unstamped => absurd stamps unstamped⟩, .inl rfl, rfl⟩
          · rw [ran, follow_ok]
            refine leads_use quiet admits opens.loads (.inr unfailing)
              ((loaded.called _).stamped version) ?_
            rw [called_called]
            exact leads_of_stamped stamps (Trails.refl _)

/-- A pass that comes to no verdict writes at most the version of its controller. -/
theorem leads_configPass : w.Leads version (w.configPass timeout version name space) := by
  have loaded : w.Leads version (w.called [.getConfig name space]) :=
    leads_of_trails (trails_called w rfl)
  rw [configPass, SearchConfig.reconcile, bind_run]
  simp only [configContext]
  rcases getConfig_run w name space with ⟨e, -, failed⟩ | ⟨loads, got⟩
  · rw [failed]
    exact loaded
  · rw [got, follow_ok]
    cases stored : w.config with
    | none => exact loaded
    | some c =>
        have recorded : w.recorded? = c.metadata.controllerVersion? := by
          rw [recorded?, stored]
          rfl
        simp only
        split
        · exact loaded
        · rename_i notUnmanaged
          have managed := Bool.eq_false_iff.mpr notUnmanaged
          rw [← recorded]
          cases judged : Compatibility.check w.recorded? version with
          | error e => exact loaded.trails (trails_warn _ _ _ _)
          | ok compatibility =>
              cases compatibility with
              | compatible => exact leads_take quiet ⟨stored, loads, managed, judged⟩
              | stamp => exact leads_take quiet ⟨stored, loads, managed, judged⟩
              | incompatible text => exact loaded

end

end Simulation.World

end SearchOperator
