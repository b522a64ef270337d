import SearchOperator.Proofs.Cluster.Pass

/-!
# Phases that last for one pass

A cluster is invalid, or stalled, after those passes only that find it so. A pass leaves the invalid
phase exactly if the spec is invalid or its version is out of reach, and then it changes nothing but
the phase. Else it leaves the stalled phase exactly if it finds a pod that has been shutting down
for too long, whatever the phase was before.
-/

namespace SearchOperator

open Simulation

/-- A text stands for a version, and that of another text is the same or an upgrade of it. -/
def Version.Reaches (source target : String) : Prop :=
  ∃ v w, parse source = .ok v ∧ parse target = .ok w ∧ (v = w ∨ v.isUpgrade w = true)

theorem Hints.string?_eq_some {h : Hints} {key text : String} :
    h.string? key = some text ↔ h.get? key = some (.string text) := by
  rw [string?, Option.bind_eq_some_iff]
  constructor
  · rintro ⟨value, found, read⟩
    cases value with
    | string s =>
        cases read
        exact found
    | _ => cases read
  · intro found
    exact ⟨_, found, rfl⟩

/-! ## Clusters that are rejected -/

namespace SearchCluster

variable {c : SearchCluster} {h : Hints}

/-- The version that a cluster reported last: the one in its status, or else the one it was created
at, if a hint tells it. -/
def Reports (c : SearchCluster) (h : Hints) (version : String) : Prop :=
  (∃ s, c.status = some s ∧ s.version = version ∧ version ≠ "") ∨
    (∀ s, c.status = some s → s.version = "") ∧
      h.get? Hints.createdAtVersion = some (.string version)

/-- A cluster whose spec is invalid, or whose version is out of reach from the one it reported. -/
def IsRejected (c : SearchCluster) (h : Hints) : Prop :=
  (∃ e, c.spec.validate = .error e) ∨
    ∃ version, c.Reports h version ∧ ¬ Version.Reaches version c.spec.version

theorem reportedVersion?_eq_some {version : String} :
    c.reportedVersion? h = some version ↔ c.Reports h version := by
  rw [reportedVersion?, Reports]
  cases c.status with
  | none => simp [Hints.string?_eq_some]
  | some s =>
      by_cases blank : s.version = ""
      · simp only [Option.map_some, blank, if_true, Hints.string?_eq_some, Option.some.injEq,
          exists_eq_left', forall_eq', true_and]
        constructor
        · exact .inr
        · rintro (⟨same, some⟩ | found)
          · exact absurd same.symm some
          · exact found
      · simp only [Option.map_some, blank, if_false, Option.some.injEq, exists_eq_left', forall_eq',
          false_and, or_false]
        constructor
        · rintro rfl
          exact ⟨rfl, blank⟩
        · exact And.left

theorem checkUpgrade_of_reported {version : String}
    (reported : c.reportedVersion? h = some version) :
    (∃ e, c.checkUpgrade h = .error e) ↔ ¬ Version.Reaches version c.spec.version := by
  rw [checkUpgrade, reported, Version.Reaches]
  simp only
  cases Version.parse version with
  | error e => simp [bind, Except.bind]
  | ok v =>
      cases Version.parse c.spec.version with
      | error e => simp [bind, Except.bind]
      | ok w =>
          by_cases reaches : v = w ∨ v.isUpgrade w = true
          · simp [bind, Except.bind, pure, Except.pure, reaches]
          · simp [bind, Except.bind, throw, throwThe, MonadExceptOf.throw, reaches]

/-- The check of a pass rejects what is to be rejected. -/
theorem exists_check_error (c : SearchCluster) (h : Hints) (name : String) :
    (∃ e, c.check name h = .error e) ↔ c.IsRejected h := by
  rw [check, IsRejected]
  cases c.spec.validate with
  | error e => simp
  | ok _ =>
      simp only [reduceCtorEq, exists_false, false_or]
      cases reported : c.reportedVersion? h with
      | none =>
          have none : ∀ version, ¬ c.Reports h version := by
            intro version reports
            rw [← reportedVersion?_eq_some, reported] at reports
            cases reports
          simp [checkUpgrade, reported, none]
      | some version =>
          have one : ∀ other, c.Reports h other ↔ other = version := by
            intro other
            rw [← reportedVersion?_eq_some, reported, Option.some.injEq]
            exact eq_comm
          simp only [checkUpgrade_of_reported reported, one, exists_eq_left]

end SearchCluster

/-! ## The phase that a pass leaves -/

/-- A pod that has been shutting down for longer than a shutdown may take, at a time in
milliseconds. -/
def Pod.IsStuck (p : Pod) (now : Int) : Prop :=
  ∃ since, p.metadata.deletion = some since ∧ since + PhaseDecision.stallSeconds * 1000 < now

theorem Pod.isStalled_iff {p : Pod} {now : Int} :
    p.isStalled now (PhaseDecision.stallSeconds * 1000) = true ↔ p.IsStuck now := by
  rw [isStalled, IsStuck, Option.any_eq_true]
  refine exists_congr fun since => and_congr_right fun _ => ?_
  rw [decide_eq_true_eq]
  omega

namespace View

variable {v : View} {c : SearchCluster} {h : Hints}

theorem decide_eq_stalled {resources : Resources} {now : Int} :
    (∃ detail, PhaseDecision.decide c resources now = .shutdownStalled detail) ↔
      ∃ pod ∈ resources.pods, pod.IsStuck now := by
  rw [PhaseDecision.decide]
  cases found : resources.stalledPod? now (PhaseDecision.stallSeconds * 1000) with
  | some pod =>
      have stalled := List.find?_some found
      simp only [PhaseDecision.shutdownStalled.injEq, exists_eq']
      exact iff_of_true trivial ⟨pod, List.mem_of_find?_eq_some found, Pod.isStalled_iff.mp stalled⟩
  | none =>
      rw [Resources.stalledPod?, List.find?_eq_none] at found
      apply iff_of_false
      · rintro ⟨detail, decided⟩
        simp only at decided
        split at decided
        · cases decided
        · cases decided
        · split at decided
          · cases decided
          · cases decided
      · rintro ⟨pod, member, late⟩
        exact found pod member (Pod.isStalled_iff.mpr late)

theorem nextStatus_phase_eq_stalled (v : View) (d : PhaseDecision) (s : ClusterStatus) :
    (v.nextStatus d s).phase = .nodeShutdownStalled ↔ ∃ detail, d = .shutdownStalled detail := by
  cases d with
  | shutdownStalled detail => exact iff_of_true rfl ⟨detail, rfl⟩
  | unchanged =>
      obtain ⟨phase, health, nodes, version⟩ := s
      cases phase <;> simp [nextStatus, statusIn, applyingStatus]
  | _ => simp [nextStatus, statusIn, applyingStatus]

/-- A phase that a cluster without status does not have is stored exactly if the tracker of the
pass has it. -/
theorem phase_after (loads : c.Loads h) (phase : ClusterPhase) (other : phase ≠ .applyingChanges) :
    (v.after c).status.map (·.phase) = some phase ↔ (v.tracked c h).status.phase = phase := by
  rw [← status_after loads]
  cases (v.after c).status with
  | none => exact iff_of_false (Option.some_ne_none phase).symm fun same => other same.symm
  | some s => exact Option.some.injEq _ _ |>.to_iff

/-- Of a cluster that is rejected, a pass changes the phase only. -/
theorem after_of_rejected (loads : c.Loads h) {e : Error} (rejected : c.check v.name h = .error e) :
    v.after c = { c with status := some { c.status.getD .initial with phase := .invalid } } := by
  obtain ⟨status, hints⟩ := tracked_of_rejected rejected
  have started := (v.tracked_keeps c h).1
  have metadata := metadata_after (v := v) loads
  rw [hints, if_pos h.same_self] at metadata
  have whole : v.after c = ⟨(v.after c).metadata, (v.after c).spec, (v.after c).status⟩ := rfl
  have reached := (phase_after (v := v) loads .invalid (by decide)).mpr (by rw [status])
  have stored := status_after (v := v) loads
  cases after : (v.after c).status with
  | none =>
      rw [after] at reached
      cases reached
  | some s =>
      rw [after, Option.getD_some, status] at stored
      rw [whole, metadata, (isRevisionOf_after loads).spec, after, stored]

/-- A pass reports a cluster that it rejects, and nothing else. -/
theorem events_of_rejected (loads : c.Loads h) {e : Error}
    (rejected : c.check v.name h = .error e) :
    v.events c = [.warning .validation e.message] := by
  rw [events, SearchCluster.hints?_eq_some.mpr loads]
  -- only the phase changes, so the status is no worse than before
  have steady : (Tracker.markInvalid ⟨c, c.status.getD .initial, h, h, []⟩ e).status.isDegraded
      (c.status.getD .initial) = false := by
    simp [Tracker.markInvalid, Tracker.queue, ClusterStatus.isDegraded]
  have started : (Tracker.markInvalid ⟨c, c.status.getD .initial, h, h, []⟩ e).cluster = c := rfl
  simp only [tracked_eq_markInvalid rejected, Tracker.events_commit, started, steady]
  rfl

end View

namespace Simulation.World

open SearchCluster

variable {w : World} {c : SearchCluster} {h : Hints}

/-- If no call fails that a pass over a managed cluster makes, the cluster is invalid after the pass
exactly if it is rejected. In that case the pass changes nothing but the phase, looks for the
cluster only, and publishes one warning. Otherwise the cluster is stalled after the pass exactly if
a listed pod has been shutting down for too long. No phase that was stored before has a part in
this. -/
theorem pass_phase (stored : w.cluster = some c) (loads : c.Loads h) (timeout : Duration)
    (now : Int) (name space : String) :
    ∃ made events, (w.pass timeout now name space).calls = w.calls ++ made ∧
      (w.pass timeout now name space).events = w.events ++ events ∧
      ((∀ call ∈ made, w.failure? call = none) →
        (∃ schedule, (reconcile (clusterContext timeout) now name space w).1 = .ok schedule) ∧
        ∃ left, (w.pass timeout now name space).cluster = some left ∧
          (left.status.map (·.phase) = some .invalid ↔ c.IsRejected h) ∧
          (c.IsRejected h →
            left = { c with status := some { c.status.getD .initial with phase := .invalid } } ∧
            made = .getCluster name space :: c.statusWrites left ∧
            ∃ e, c.check name h = .error e ∧
              events = [(Event.warning .validation e.message).published c.reference]) ∧
          (¬ c.IsRejected h →
            (left.status.map (·.phase) = some .nodeShutdownStalled ↔
              ∃ pod ∈ w.pods, pod.IsStuck now))) := by
  obtain ⟨o, run, accounts⟩ := reconcile_outcome stored timeout now name space
  have ended : w.pass timeout now name space = o.world w c := by rw [pass, run]
  refine ⟨o.calls, o.published c, by rw [ended]; rfl, by rw [ended]; rfl, fun succeed => ?_⟩
  have unfailing := firstFailure?_eq_none.mpr succeed
  obtain ⟨writes, left⟩ := accounts.complete unfailing
  rw [Outcome.calls, firstFailure?_append, Option.or_eq_none_iff] at unfailing
  obtain ⟨looks, events⟩ := accounts.looked unfailing.1
  refine ⟨?_, o.left, by rw [ended]; rfl, ?_, ?_, ?_⟩
  · rw [run]
    exact accounts.succeeded h loads (firstFailure?_eq_none.mpr succeed)
  · rw [left, View.phase_after loads _ (by decide), ← exists_check_error c h name]
    cases checked : c.check name h with
    | error e => exact iff_of_true (by rw [(View.tracked_of_rejected checked).1]) ⟨e, rfl⟩
    | ok _ =>
        refine iff_of_false ?_ (by simp)
        rw [(View.tracked_of_accepted checked).1]
        exact View.nextStatus_phase _ _ _
  · intro rejected
    obtain ⟨e, checked⟩ := (exists_check_error c h name).mpr rejected
    have after := View.after_of_rejected (v := w.view timeout now name) loads checked
    refine ⟨left.trans after, ?_, e, checked, ?_⟩
    · have metadata : o.left.metadata = c.metadata := by rw [left, after]
      rw [Outcome.calls, looks, writes, ← left, SearchCluster.writes,
        hintWrites_of_metadata metadata]
      exact congrArg (· ++ _) (looks_of_rejected loads checked w space)
    · rw [Outcome.published, events, View.events_of_rejected loads checked]
      rfl
  · intro accepted
    rw [left, View.phase_after loads _ (by decide)]
    cases checked : c.check name h with
    | error e => exact absurd ((exists_check_error c h name).mp ⟨e, checked⟩) accepted
    | ok _ =>
        rw [(View.tracked_of_accepted checked).1, View.nextStatus_phase_eq_stalled,
          View.decide_eq_stalled]
        rfl

/-- A cluster of one node that was found invalid before its spec was mended. -/
def mendedCluster : SearchCluster :=
  ⟨{ Metadata.blank with name := some "logs" }, ⟨"8.1.0", [⟨"data", 1⟩]⟩,
    some ⟨.invalid, .green, 1, "8.0.0"⟩⟩

def mendedWorld : World :=
  { empty with
    cluster := some mendedCluster
    pods := [⟨{ Metadata.blank with deletion := some 0 }, none⟩] }

/-- The first pass after the spec was mended leaves the invalid phase; as long as the pod is not
late, the cluster is not stalled either. -/
theorem pass_phase_mended :
    mendedWorld.cluster = some mendedCluster ∧ mendedCluster.Loads .none ∧
      ∃ left, (mendedWorld.pass ⟨0⟩ 300000 "logs" "").cluster = some left ∧
        left.status.map (·.phase) ≠ some .invalid ∧
        left.status.map (·.phase) ≠ some .nodeShutdownStalled := by
  have loads : mendedCluster.Loads .none := ⟨rfl, rfl⟩
  have accepted : ¬ mendedCluster.IsRejected .none := by
    rw [← exists_check_error _ _ "logs"]
    rintro ⟨e, failed⟩
    cases failed
  have early : ¬ ∃ pod ∈ mendedWorld.pods, pod.IsStuck 300000 := by
    rintro ⟨pod, member, since, asked, late⟩
    rw [List.mem_singleton.mp member] at asked
    cases asked
    exact absurd late (by decide)
  obtain ⟨made, events, -, -, phases⟩ :=
    pass_phase (w := mendedWorld) rfl loads ⟨0⟩ 300000 "logs" ""
  obtain ⟨-, left, stored, invalid, -, stalled⟩ :=
    phases fun call _ => failure?_of_failures rfl call
  exact ⟨rfl, loads, left, stored, fun phase => accepted (invalid.mp phase),
    fun phase => early ((stalled accepted).mp phase)⟩

end Simulation.World

end SearchOperator
