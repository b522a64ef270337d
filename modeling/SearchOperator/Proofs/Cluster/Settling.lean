import Mathlib.Logic.Function.Iterate
import SearchOperator.Proofs.Cluster.Pass

/-!
# Passes settle

Passes that observe the same stop writing after three. The decided phase moves the status at most
twice, hints are complete once they were written, and a step to a version that is rejected stays
rejected, because a rejection touches neither the version nor the hints.
-/

namespace SearchOperator

/-! ## Repeated passes over a cluster -/

namespace View

/-- A status moves at most twice, and only out of a phase that lasts for one pass does it move
twice. -/
theorem nextStatus_settles (v : View) (d : PhaseDecision) (s : ClusterStatus) :
    v.nextStatus d (v.nextStatus d (v.nextStatus d s)) = v.nextStatus d (v.nextStatus d s) := by
  cases d with
  | shutdownStalled detail => simp only [nextStatus, statusIn_statusIn]
  | migratingData => simp only [nextStatus, statusIn_statusIn]
  | applyingChanges => rfl
  | ready => simp only [nextStatus, statusIn_statusIn]
  | unchanged =>
      obtain ⟨phase, health, nodes, version⟩ := s
      cases phase with
      | invalid => exact statusIn_statusIn v .applyingChanges .applyingChanges _
      | nodeShutdownStalled => exact statusIn_statusIn v .applyingChanges .applyingChanges _
      | applyingChanges => exact statusIn_statusIn v .applyingChanges .applyingChanges _
      | migratingData => exact statusIn_statusIn v .migratingData .migratingData _
      | ready => exact statusIn_statusIn v .ready .ready _

section

variable {v : View} {c : SearchCluster} {h : Hints}

/-- What is rejected stays rejected. -/
theorem after_after_of_rejected {e : Error} (loads : c.Loads h)
    (rejected : c.check v.name h = .error e) : v.after (v.after c) = v.after c := by
  obtain ⟨status, hints⟩ := tracked_of_rejected rejected
  have reached := status_after (v := v) loads
  rw [status] at reached
  have version : ((v.after c).status.getD .initial).version =
      (c.status.getD .initial).version := by rw [reached]
  have again : (v.after c).check v.name h = .error e := by
    rw [SearchCluster.check_of_revision (isRevisionOf_after loads) version, rejected]
  obtain ⟨next, kept⟩ := tracked_of_rejected again
  apply after_of_unchanged (loads_after loads hints) _ kept
  rw [next, reached]

/-- A pass over an accepted cluster with complete hints moves its status only. -/
theorem after_of_kept (loads : c.Loads h) (kept : c.HintsKept v.resources h)
    (accepted : c.check v.name h = .ok ()) :
    (v.after c).Loads h ∧ (v.after c).HintsKept v.resources h ∧
      (v.after c).status.getD .initial =
        v.nextStatus (.decide c v.resources v.now) (c.status.getD .initial) := by
  obtain ⟨status, hints⟩ := tracked_of_accepted accepted
  have same : (v.tracked c h).hints = h := by
    rw [hints, SearchCluster.passHints_of_kept kept, Hints.merge, Dictionary.merge_self]
  refine ⟨loads_after loads same, ?_, ?_⟩
  · exact (SearchCluster.hintsKept_of_revision (isRevisionOf_after loads) v.resources h).mpr kept
  · rw [status_after loads, status]

/-- Passes over a cluster with complete hints and a status that a pass moved settle after two. -/
theorem after_settles_of_kept (loads : c.Loads h) (kept : c.HintsKept v.resources h)
    {s : ClusterStatus}
    (moved : c.status.getD .initial = v.nextStatus (.decide c v.resources v.now) s) :
    v.after (v.after (v.after c)) = v.after (v.after c) := by
  cases checked : c.check v.name h with
  | error e =>
      have fixed := after_after_of_rejected loads checked
      rw [fixed, fixed]
  | ok _ =>
      obtain ⟨loads_next, kept_next, status_next⟩ := after_of_kept loads kept checked
      cases rechecked : (v.after c).check v.name h with
      | error e => exact after_after_of_rejected loads_next rechecked
      | ok _ =>
          obtain ⟨status, hints⟩ := tracked_of_accepted rechecked
          have fixed : v.after (v.after c) = v.after c := by
            apply after_of_unchanged loads_next
            · rw [status, SearchCluster.decide_of_revision (isRevisionOf_after loads), status_next,
                moved, nextStatus_settles]
            · rw [hints, SearchCluster.passHints_of_kept kept_next, Hints.merge,
                Dictionary.merge_self]
          rw [fixed, fixed]

end

/-- A cluster is settled after three passes with the same observations. -/
theorem after_settles (v : View) (c : SearchCluster) :
    v.after (v.after (v.after (v.after c))) = v.after (v.after (v.after c)) := by
  by_cases loaded : ∃ h, c.Loads h
  · obtain ⟨h, loads⟩ := loaded
    cases checked : c.check v.name h with
    | error e =>
        have fixed := after_after_of_rejected loads checked
        rw [fixed, fixed, fixed]
    | ok _ =>
        obtain ⟨g, again, kept, -⟩ := exists_loads_after loads checked
        have revision := isRevisionOf_after (v := v) loads
        have moved := status_after (v := v) loads
        rw [(tracked_of_accepted checked).1, ← SearchCluster.decide_of_revision revision] at moved
        exact after_settles_of_kept again
          ((SearchCluster.hintsKept_of_revision revision v.resources g).mpr kept) moved
  · have fixed : v.after c = c := after_of_not_loads (not_exists.mp loaded)
    rw [fixed, fixed, fixed, fixed]

theorem after_iterate_settles (v : View) (c : SearchCluster) {k : Nat} (settled : 3 ≤ k) :
    v.after (v.after^[k] c) = v.after^[k] c := by
  obtain ⟨j, rfl⟩ := Nat.exists_eq_add_of_le' settled
  have fixed : v.after (v.after^[3] c) = v.after^[3] c := after_settles v c
  rw [Function.iterate_add_apply, Function.iterate_fixed fixed, fixed]

end View

/-! ## Repeated passes in a world -/

namespace Simulation.World

variable {w : World}

/-- A pass changes the stored cluster, and leaves what passes observe. -/
theorem pass_keeps (noFailures : w.failures = ∅) (steady : w.AnswersHealthAlike)
    (timeout : Duration) (now : Int) (name space : String) :
    (w.pass timeout now name space).failures = ∅ ∧
      (w.pass timeout now name space).AnswersHealthAlike ∧
      (w.pass timeout now name space).view timeout now name = w.view timeout now name ∧
      (w.pass timeout now name space).cluster =
        w.cluster.map (w.view timeout now name).after := by
  cases stored : w.cluster with
  | none =>
      rw [pass_of_none stored]
      exact ⟨noFailures, steady, view_called w _ timeout now name, stored⟩
  | some c =>
      obtain ⟨reads, events, -, ran⟩ :=
        pass_of_stored noFailures steady stored timeout now name space
      rw [ran]
      exact ⟨noFailures, steady, view_storing w _ _ events timeout now name, rfl⟩

theorem passes_keep (noFailures : w.failures = ∅) (steady : w.AnswersHealthAlike)
    (timeout : Duration) (now : Int) (name space : String) (k : Nat) :
    let after := (pass timeout now name space)^[k] w
    after.failures = ∅ ∧ after.AnswersHealthAlike ∧
      after.view timeout now name = w.view timeout now name ∧
      after.cluster = w.cluster.map (w.view timeout now name).after^[k] := by
  induction k with
  | zero => exact ⟨noFailures, steady, rfl, Option.map_id'.symm⟩
  | succ k ih =>
      obtain ⟨unfailing, alike, view, cluster⟩ := ih
      obtain ⟨unfailing', alike', view', cluster'⟩ :=
        pass_keeps unfailing alike timeout now name space
      rw [Function.iterate_succ_apply']
      refine ⟨unfailing', alike', view'.trans view, ?_⟩
      rw [cluster', view, cluster, Option.map_map, ← Function.iterate_succ']

/-- When every call of the Kubernetes API succeeds and every pass observes the same, a pass after
the first three writes nothing and leaves the stored cluster as it is. -/
theorem passes_settle (noFailures : w.failures = ∅) (steady : w.AnswersHealthAlike)
    (timeout : Duration) (now : Int) (name space : String) {k : Nat} (settled : 3 ≤ k) :
    ((pass timeout now name space)^[k + 1] w).cluster =
        ((pass timeout now name space)^[k] w).cluster ∧
      ∃ made, ((pass timeout now name space)^[k + 1] w).calls =
          ((pass timeout now name space)^[k] w).calls ++ made ∧
        ∀ call ∈ made, call.isPatch = false := by
  obtain ⟨unfailing, alike, view, cluster⟩ :=
    passes_keep noFailures steady timeout now name space k
  rw [Function.iterate_succ_apply']
  cases start : w.cluster with
  | none =>
      rw [start] at cluster
      rw [pass_of_none cluster]
      exact ⟨rfl, _, rfl, by simp [Call.isPatch]⟩
  | some c =>
      rw [start] at cluster
      obtain ⟨reads, events, reading, ran⟩ :=
        pass_of_stored unfailing alike cluster timeout now name space
      rw [view, View.after_iterate_settles _ _ settled, SearchCluster.writes_self,
        List.append_nil] at ran
      rw [ran]
      exact ⟨cluster.symm, reads, rfl, reading⟩

/-- A cluster that was found invalid, and whose only pod has a version too old for the declared
one. -/
def outdatedWorld : World :=
  { empty with
    cluster := some ⟨{ Metadata.blank with name := some "logs" }, ⟨"8.1.0", [⟨"data", 1⟩]⟩,
      some ⟨.invalid, .green, 1, "8.0.0"⟩⟩
    pods := [⟨{ Metadata.blank with labels := some (.ofList [(versionLabel, "1.0.0")]) }, none⟩]
    statefulSets := [⟨{ Metadata.blank with name := some "logs-search-data" },
      some ⟨some 1, some (.ofList [(versionLabel, "8.1.0")])⟩⟩] }

/-- Three passes are needed here: the first leaves the invalid phase, the second takes over the
version of the pod, and the third rejects the step from it. The fourth writes nothing. -/
theorem passes_settle_outdated :
    outdatedWorld.failures = ∅ ∧ outdatedWorld.AnswersHealthAlike ∧
      ((pass ⟨0⟩ 0 "logs" "")^[3] outdatedWorld).cluster ≠
        ((pass ⟨0⟩ 0 "logs" "")^[2] outdatedWorld).cluster ∧
      ((pass ⟨0⟩ 0 "logs" "")^[4] outdatedWorld).cluster =
        ((pass ⟨0⟩ 0 "logs" "")^[3] outdatedWorld).cluster ∧
      ∃ made, ((pass ⟨0⟩ 0 "logs" "")^[4] outdatedWorld).calls =
          ((pass ⟨0⟩ 0 "logs" "")^[3] outdatedWorld).calls ++ made ∧
        ∀ call ∈ made, call.isPatch = false := by
  have noFailures : outdatedWorld.failures = ∅ := rfl
  have steady : outdatedWorld.AnswersHealthAlike := Nat.zero_le 1
  have third : ((pass ⟨0⟩ 0 "logs" "")^[3] outdatedWorld).cluster ≠
      ((pass ⟨0⟩ 0 "logs" "")^[2] outdatedWorld).cluster := by decide +kernel
  exact ⟨noFailures, steady, third,
    passes_settle noFailures steady ⟨0⟩ 0 "logs" "" (Nat.le_refl 3)⟩

end Simulation.World

end SearchOperator
