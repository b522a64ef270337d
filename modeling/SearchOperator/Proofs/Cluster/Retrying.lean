import SearchOperator.Proofs.Cluster.Settling
import SearchOperator.Proofs.Cluster.Validation

/-!
# Failed passes retried

A pass that fails leaves the stored cluster as it was, or with the hints of the pass but without its
status. The next pass loads these hints, accepts what was accepted before, decides the same phase
and finds the hints complete, so it ends where a pass without failures would have ended. Only a
first status that says no more than no status does is not made up for: with the hints written, the
next pass finds nothing changed.
-/

namespace SearchOperator

theorem ClusterSpec.exists_version {spec : ClusterSpec} (valid : spec.validate = .ok ()) :
    ∃ v, Version.parse spec.version = .ok v :=
  (validate_eq_ok.mp valid).1

namespace SearchCluster

variable {c other : SearchCluster} {h g : Hints} {name : String}

theorem check_eq_ok : c.check name h = .ok () ↔
    c.spec.validate = .ok () ∧ c.checkUpgrade h = .ok () := by
  rw [check]
  cases c.spec.validate with
  | error e => simp
  | ok _ => simp

/-- The version that a cluster was created at is kept, or else it is the declared one. -/
theorem string?_merge_passHints (c : SearchCluster) (resources : Resources) (h : Hints) :
    (h.merge (c.passHints resources h)).string? Hints.createdAtVersion =
      if h.values.contains Hints.createdAtVersion = true then
        h.string? Hints.createdAtVersion
      else some c.spec.version := by
  rw [Hints.string?, Hints.string?, get?_created_merge_passHints, Dictionary.contains]
  show (((h.get? Hints.createdAtVersion).or _).bind _ : Option String) =
    if (h.get? Hints.createdAtVersion).isSome = true then _ else _
  cases h.get? Hints.createdAtVersion with
  | none => rfl
  | some value => rfl

/-- With the hints of an accepted pass, a cluster is accepted again. -/
theorem check_of_hinted (revision : other.IsRevisionOf c) (status : other.status = c.status)
    (accepted : c.check name h = .ok ()) {resources : Resources}
    (created : g.string? Hints.createdAtVersion =
      (h.merge (c.passHints resources h)).string? Hints.createdAtVersion) :
    other.check name g = .ok () := by
  obtain ⟨valid, upgrade⟩ := check_eq_ok.mp accepted
  rw [check_eq_ok, revision.spec]
  refine ⟨valid, ?_⟩
  rw [string?_merge_passHints] at created
  by_cases known : (c.status.getD .initial).version = "" ∧
      ¬ h.values.contains Hints.createdAtVersion = true
  · -- nothing was known before, and what is known now is the declared version
    obtain ⟨v, parsed⟩ := c.spec.exists_version valid
    have reported : other.reportedVersion? g = some c.spec.version := by
      rw [reportedVersion?_eq, status, if_pos known.1, created, if_neg known.2]
    rw [checkUpgrade, reported, revision.spec]
    simp only [parsed]
    show (if v = v ∨ _ then _ else _) = _
    rw [if_pos (.inl rfl)]
    rfl
  · have reported : other.reportedVersion? g = c.reportedVersion? h := by
      rw [reportedVersion?_eq, reportedVersion?_eq, status, created]
      split
      · rename_i blank
        rw [if_pos (Decidable.of_not_not fun absent => known ⟨blank, absent⟩)]
      · rfl
    rw [checkUpgrade, reported, revision.spec, revision.name]
    exact upgrade

end SearchCluster

/-! ## Halfway through a pass -/

namespace View

variable {v : View} {c : SearchCluster} {h : Hints}

/-- The cluster that a pass leaves whose write of the status fails. -/
def halfway (v : View) (c : SearchCluster) : SearchCluster := c.hinted (v.after c)

theorem halfway_status (v : View) (c : SearchCluster) : (v.halfway c).status = c.status := rfl

/-- A pass that leaves the hints leaves nothing halfway. -/
theorem halfway_of_metadata (metadata : (v.after c).metadata = c.metadata)
    (spec : (v.after c).spec = c.spec) : v.halfway c = c := by
  rw [halfway, SearchCluster.hinted, metadata, spec]

theorem isRevisionOf_halfway (loads : c.Loads h) : (v.halfway c).IsRevisionOf c := by
  have revision := isRevisionOf_after (v := v) loads
  exact ⟨revision.spec, revision.name, revision.isUnmanaged⟩

/-- Only a pass over an accepted cluster leaves something halfway. -/
theorem accepted_of_halfway (moved : v.halfway c ≠ c) :
    ∃ h, c.Loads h ∧ c.check v.name h = .ok () := by
  by_cases loaded : ∃ h, c.Loads h
  · obtain ⟨h, loads⟩ := loaded
    refine ⟨h, loads, ?_⟩
    cases checked : c.check v.name h with
    | ok _ => rfl
    | error e =>
        have metadata := metadata_after (v := v) loads
        rw [(tracked_of_rejected checked).2, if_pos h.same_self] at metadata
        exact absurd (halfway_of_metadata metadata (isRevisionOf_after loads).spec) moved
  · have fixed : v.after c = c := after_of_not_loads (not_exists.mp loaded)
    refine absurd (halfway_of_metadata ?_ ?_) moved
    · rw [fixed]
    · rw [fixed]

/-- The pass after one that got halfway decides the same status and finds the hints complete. -/
theorem tracked_halfway (loads : c.Loads h) (accepted : c.check v.name h = .ok ()) :
    ∃ g, (v.halfway c).Loads g ∧ (v.tracked (v.halfway c) g).status = (v.tracked c h).status ∧
      (v.tracked (v.halfway c) g).hints = g := by
  obtain ⟨g, again, kept, created⟩ := exists_loads_after loads accepted
  have revision := isRevisionOf_halfway (v := v) loads
  have accepted' := SearchCluster.check_of_hinted revision (v.halfway_status c) accepted created
  obtain ⟨status, hints⟩ := tracked_of_accepted accepted'
  refine ⟨g, ⟨again.managed, again.parsed⟩, ?_, ?_⟩
  · rw [status, SearchCluster.decide_of_revision revision, v.halfway_status,
      (tracked_of_accepted accepted).1]
  · have complete := (SearchCluster.hintsKept_of_revision revision v.resources g).mpr kept
    rw [hints, SearchCluster.passHints_of_kept complete, Hints.merge, Dictionary.merge_self]

/-- What the pass after one that got halfway leaves: the hints are complete, and the status is
written if it says something else than the stored one. -/
theorem after_halfway (loads : c.Loads h) (accepted : c.check v.name h = .ok ()) :
    v.after (v.halfway c) =
      if c.status.getD .initial = (v.tracked c h).status then v.halfway c
      else { v.halfway c with status := some (v.tracked c h).status } := by
  obtain ⟨g, again, status, hints⟩ := tracked_halfway (v := v) loads accepted
  obtain ⟨cluster, persisted⟩ := v.tracked_keeps (v.halfway c) g
  have kept : (v.tracked (v.halfway c) g).persistedHints == (v.tracked (v.halfway c) g).hints := by
    rw [persisted, hints]
    exact g.same_self
  rw [after_of_loads again]
  by_cases same : c.status.getD .initial = (v.tracked c h).status
  · have unchanged : (v.tracked (v.halfway c) g).IsUnchanged := by
      refine ⟨?_, kept⟩
      rw [cluster, status, v.halfway_status, same]
    rw [if_pos same, Tracker.stored_of_unchanged unchanged, cluster]
  · have changed : ¬ (v.tracked (v.halfway c) g).IsUnchanged := by
      rintro ⟨same', -⟩
      rw [cluster, status, v.halfway_status] at same'
      exact same same'
    rw [if_neg same, Tracker.stored_of_changed changed, Tracker.storedMetadata, if_pos kept, cluster,
      status]

/-- A retried pass writes no other hints. -/
theorem halfway_halfway (v : View) (c : SearchCluster) :
    v.halfway (v.halfway c) = v.halfway c := by
  by_cases moved : v.halfway c = c
  · rw [moved, moved]
  · obtain ⟨h, loads, accepted⟩ := accepted_of_halfway moved
    have after := after_halfway (v := v) loads accepted
    apply halfway_of_metadata
    · rw [after]
      split <;> rfl
    · rw [after]
      split <;> rfl

/-- Whether the status of a pass is lost if the pass only gets halfway: nothing was stored, and
what would be stored says no more. -/
def Loses (v : View) (c : SearchCluster) : Prop :=
  c.status = none ∧ (v.after c).status = some .initial

/-- A pass that leaves something halfway stores a status when it is done. -/
theorem after_of_halfway (loads : c.Loads h) (moved : v.halfway c ≠ c) :
    v.after c = { v.halfway c with status := some (v.tracked c h).status } := by
  have whole : v.after c = { v.halfway c with status := (v.after c).status } := rfl
  have written : (v.after c).status = some (v.tracked c h).status := by
    have started := (v.tracked_keeps c h).1
    by_cases unchanged : (v.tracked c h).IsUnchanged
    · have fixed : v.after c = c := by
        rw [after_of_loads loads, Tracker.stored_of_unchanged unchanged, started]
      refine absurd (halfway_of_metadata ?_ ?_) moved
      · rw [fixed]
      · rw [fixed]
    · rw [after_of_loads loads, Tracker.stored_of_changed unchanged]
  rw [← written, ← whole]

/-- A retried pass ends where the pass would have ended, unless its status is lost. -/
theorem after_halfway_eq_iff (moved : v.halfway c ≠ c) :
    v.after (v.halfway c) = v.after c ↔ ¬ v.Loses c := by
  obtain ⟨h, loads, accepted⟩ := accepted_of_halfway moved
  have direct := after_of_halfway loads moved
  have loses : v.Loses c ↔ c.status = none ∧ (v.tracked c h).status = .initial := by
    rw [Loses, direct, Option.some.injEq]
  rw [after_halfway loads accepted, loses, direct]
  split
  · -- the retry writes nothing, which is right only if the same status was stored before
    rename_i same
    cases stored : c.status with
    | none =>
        rw [stored, Option.getD_none] at same
        have lost : (v.halfway c).status ≠ some (v.tracked c h).status := by
          rw [v.halfway_status, stored]
          exact (Option.some_ne_none _).symm
        refine iff_of_false (fun equal => lost (congrArg SearchCluster.status equal)) ?_
        exact not_not_intro ⟨rfl, same.symm⟩
    | some s =>
        rw [stored, Option.getD_some] at same
        have written : (v.halfway c).status = some (v.tracked c h).status := by
          rw [v.halfway_status, stored, same]
        refine iff_of_true ?_ fun lost => Option.some_ne_none s lost.1
        rw [← written]
  · rename_i differ
    refine iff_of_true rfl fun lost => differ ?_
    rw [lost.1, lost.2, Option.getD_none]

/-- A lost status is the only difference: the hints are those that the pass would have left, and the
status says the same. -/
theorem after_halfway_alike (v : View) (c : SearchCluster) :
    (v.after (v.halfway c)).metadata = (v.after c).metadata ∧
      (v.after (v.halfway c)).status.getD .initial = (v.after c).status.getD .initial := by
  by_cases moved : v.halfway c = c
  · rw [moved]
    exact ⟨rfl, rfl⟩
  · obtain ⟨h, loads, accepted⟩ := accepted_of_halfway moved
    rw [after_halfway loads accepted, after_of_halfway loads moved]
    split
    · rename_i same
      exact ⟨rfl, same⟩
    · exact ⟨rfl, rfl⟩

end View

/-! ## Passes in a world -/

namespace Simulation.World

open SearchCluster

def failing (w : World) (failures : Dictionary Error) : World := { w with failures := failures }

/-- Passes that fail one after another, each with failures of its own, and the world after them. -/
inductive FailedPasses (timeout : Duration) (now : Int) (name space : String) (w : World) :
    World → Prop where
  | none : FailedPasses timeout now name space w w
  | again {u : World} (before : FailedPasses timeout now name space w u)
      (failures : Dictionary Error) {e : Error}
      (failed : (reconcile (clusterContext timeout) now name space (u.failing failures)).1 =
        .error e) :
      FailedPasses timeout now name space w ((u.failing failures).pass timeout now name space)

variable {w u : World} {timeout : Duration} {now : Int} {name space : String}

theorem view_failing (w : World) (failures : Dictionary Error) (timeout : Duration) (now : Int)
    (name : String) : (w.failing failures).view timeout now name = w.view timeout now name := by
  rw [view, view, observation_congr w (w.failing failures) rfl rfl rfl]
  rfl

/-- A failed pass leaves the stored cluster as it was or halfway. -/
theorem cluster_of_failed {c : SearchCluster} (steady : w.AnswersHealthAlike)
    (stored : w.cluster = some c) {e : Error}
    (failed : (reconcile (clusterContext timeout) now name space w).1 = .error e) :
    (w.pass timeout now name space).AnswersHealthAlike ∧
      (w.pass timeout now name space).view timeout now name = w.view timeout now name ∧
      ((w.pass timeout now name space).cluster = some c ∨
        (w.pass timeout now name space).cluster = some ((w.view timeout now name).halfway c)) := by
  obtain ⟨o, run, accounts⟩ := reconcile_outcome stored timeout now name space
  have rules := accounts.steady steady
  have wrote := accounts.wrote
  have result : o.result = .error e := by
    rw [run] at failed
    exact failed
  -- the hints are written before the status, so a failure leaves out both or the status
  have left : o.left = c ∨ o.left = (w.view timeout now name).halfway c := by
    rw [result] at wrote
    generalize o.writes = writes, o.left = left at wrote
    cases wrote with
    | hintsOnly e => exact .inr rfl
    | nothing e => exact .inl rfl
    | unread e => exact .inl rfl
  have ended : w.pass timeout now name space =
      w.storing o.left o.calls (w.events ++ o.published c) := by
    rw [pass, run, Outcome.world, rules, ruled_self]
  rw [ended]
  exact ⟨steady, view_storing w _ _ _ _ _ _, left.imp (congrArg some) (congrArg some)⟩

/-- Failed passes leave the stored cluster as it was or halfway. -/
theorem cluster_of_failedPasses {c : SearchCluster} (steady : w.AnswersHealthAlike)
    (stored : w.cluster = some c) (failed : FailedPasses timeout now name space w u) :
    u.AnswersHealthAlike ∧ u.view timeout now name = w.view timeout now name ∧
      (u.cluster = some c ∨ u.cluster = some ((w.view timeout now name).halfway c)) := by
  induction failed with
  | none => exact ⟨steady, rfl, .inl stored⟩
  | @again u before failures e failed ih =>
      -- the next failed pass sees what the first one saw, so it gets halfway or nowhere again
      obtain ⟨alike, view, left⟩ := ih
      have again {d : SearchCluster} (found : u.cluster = some d) :=
        cluster_of_failed (w := u.failing failures) alike found failed
      rw [view_failing, view] at again
      rcases left with same | half
      · exact again same
      · obtain ⟨alike', view', left⟩ := again half
        rw [View.halfway_halfway, or_self] at left
        exact ⟨alike', view', .inr left⟩

theorem cluster_of_pass_none (absent : w.cluster = none) (failures : Dictionary Error) :
    ((w.failing failures).pass timeout now name space).cluster = none := by
  have absent : (w.failing failures).cluster = none := absent
  rw [pass_of_none absent]
  exact absent

theorem cluster_of_failedPasses_none (absent : w.cluster = none)
    (failed : FailedPasses timeout now name space w u) : u.cluster = none := by
  induction failed with
  | none => exact absent
  | again before failures failed ih => exact cluster_of_pass_none ih failures

/-- A pass in which no call fails. -/
theorem cluster_of_pass {c : SearchCluster} (steady : w.AnswersHealthAlike)
    (stored : w.cluster = some c) :
    ((w.failing ∅).pass timeout now name space).cluster =
      some ((w.view timeout now name).after c) := by
  obtain ⟨reads, events, -, ran⟩ :=
    pass_of_stored (w := w.failing ∅) rfl steady stored timeout now name space
  rw [ran, view_failing]
  rfl

/-- After passes that failed, a pass without failures leaves the annotations that it would have left
without them. It leaves the same cluster, unless the failed passes wrote the hints of a cluster
without status whose status then says no more than no status does: it is not stored any more. -/
theorem pass_after_failedPasses (steady : w.AnswersHealthAlike)
    (failed : FailedPasses timeout now name space w u) :
    let direct := ((w.failing ∅).pass timeout now name space).cluster
    let retried := ((u.failing ∅).pass timeout now name space).cluster
    retried.map (·.metadata) = direct.map (·.metadata) ∧
      retried.map (·.status.getD .initial) = direct.map (·.status.getD .initial) ∧
      (retried = direct ↔ ¬ (u.cluster ≠ w.cluster ∧ w.cluster.bind (·.status) = none ∧
        direct.bind (·.status) = some .initial)) := by
  intro direct retried
  cases stored : w.cluster with
  | none =>
      have absent : u.cluster = none := cluster_of_failedPasses_none stored failed
      have none_direct : direct = none := cluster_of_pass_none stored ∅
      have none_retried : retried = none := cluster_of_pass_none absent ∅
      rw [none_direct, none_retried, absent]
      simp
  | some c =>
      obtain ⟨alike, view, left⟩ := cluster_of_failedPasses steady stored failed
      have ends : direct = some ((w.view timeout now name).after c) := cluster_of_pass steady stored
      rcases left with same | half
      · have retried_eq : retried = direct := by
          rw [ends, ← view]
          exact cluster_of_pass alike same
        rw [retried_eq, same]
        simp
      · have retried_eq : retried =
            some ((w.view timeout now name).after ((w.view timeout now name).halfway c)) := by
          rw [← view]
          exact cluster_of_pass alike (view ▸ half)
        obtain ⟨metadata, status⟩ := View.after_halfway_alike (w.view timeout now name) c
        rw [retried_eq, ends, half]
        simp only [Option.map_some, Option.some.injEq, Option.bind_some]
        refine ⟨metadata, status, ?_⟩
        by_cases moved : (w.view timeout now name).halfway c = c
        · simp [moved]
        · rw [View.after_halfway_eq_iff moved]
          simp [moved, View.Loses]

def statusFails : Dictionary Error :=
  .ofList [("patch_status", .internal "unavailable" "patch_status")]

/-- A cluster that no pass saw yet, with the StatefulSet of its only node set and some others. -/
def freshWorld (others : List StatefulSet) : World :=
  { empty with
    cluster := some ⟨{ Metadata.blank with name := some "logs" }, ⟨"8.1.0", [⟨"data", 1⟩]⟩, none⟩
    statefulSets := ⟨{ Metadata.blank with name := some "logs-search-data" },
      some ⟨some 1, some (.ofList [(versionLabel, "8.1.0")])⟩⟩ :: others }

/-- A StatefulSet whose label is no version. -/
def mislabelled : StatefulSet :=
  ⟨{ Metadata.blank with name := some "logs-search-old" },
    some ⟨some 1, some (.ofList [(versionLabel, "latest")])⟩⟩

def haltedWorld (others : List StatefulSet) : World :=
  ((freshWorld others).failing statusFails).pass ⟨0⟩ 0 "logs" ""

/-- The first status of a cluster that reports a version is stored by the retry. -/
theorem pass_after_failedPasses_fresh :
    (freshWorld []).AnswersHealthAlike ∧
      FailedPasses ⟨0⟩ 0 "logs" "" (freshWorld []) (haltedWorld []) ∧
      (haltedWorld []).cluster ≠ (freshWorld []).cluster ∧
      (((haltedWorld []).failing ∅).pass ⟨0⟩ 0 "logs" "").cluster =
        (((freshWorld []).failing ∅).pass ⟨0⟩ 0 "logs" "").cluster := by
  have steady : (freshWorld []).AnswersHealthAlike := Nat.zero_le 1
  have failed : FailedPasses ⟨0⟩ 0 "logs" "" (freshWorld []) (haltedWorld []) :=
    .again .none statusFails (e := .internal "unavailable" "patch_status") rfl
  refine ⟨steady, failed, by decide +kernel, ?_⟩
  exact (pass_after_failedPasses steady failed).2.2.mpr (by decide +kernel)

/-- Where no version is reported, the retry finds nothing changed and stores no status. -/
theorem pass_after_failedPasses_mislabelled :
    ∃ u, FailedPasses ⟨0⟩ 0 "logs" "" (freshWorld [mislabelled]) u ∧
      ((u.failing ∅).pass ⟨0⟩ 0 "logs" "").cluster.bind (·.status) = none ∧
      (((freshWorld [mislabelled]).failing ∅).pass ⟨0⟩ 0 "logs" "").cluster.bind (·.status) =
        some .initial := by
  have failed : FailedPasses ⟨0⟩ 0 "logs" "" (freshWorld [mislabelled])
      (haltedWorld [mislabelled]) :=
    .again .none statusFails (e := .internal "unavailable" "patch_status") rfl
  exact ⟨_, failed, by decide +kernel⟩

end Simulation.World

end SearchOperator
