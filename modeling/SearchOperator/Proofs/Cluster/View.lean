import SearchOperator.Cluster.Pass
import SearchOperator.Proofs.Cluster.Hints
import SearchOperator.Proofs.Kubernetes.Metadata

/-!
# What a pass makes of a cluster

A pass sees a cluster, its pods and StatefulSets, its health and the time. From these follow the
status and the hints that its tracker ends with, and from them the cluster that it leaves if no call
fails.
-/

namespace SearchOperator

/-! ## What a tracker writes back -/

theorem ClusterStatus.isDegraded_self (s : ClusterStatus) : s.isDegraded s = false := by
  simp [isDegraded]

namespace Tracker

/-- A tracker starts from a cluster whose hints parse. -/
theorem start_eq_ok {c : SearchCluster} {t : Tracker} :
    start c = .ok t ↔ ∃ h, Hints.ofAnnotations c.metadata.annotations = .ok h ∧
      t = ⟨c, c.status.getD .initial, h, h, []⟩ := by
  rw [start]
  cases Hints.ofAnnotations c.metadata.annotations with
  | error e =>
      constructor
      · intro started
        cases started
      · rintro ⟨h, parsed, -⟩
        cases parsed
  | ok g =>
      constructor
      · intro started
        cases started
        exact ⟨g, rfl, rfl⟩
      · rintro ⟨h, parsed, rfl⟩
        cases parsed
        rfl

/-- The cluster that a tracker writes back, or the one it started from if nothing changed. -/
def stored (t : Tracker) : SearchCluster := t.commit.2.getD t.cluster

/-- Whether a tracker found what is stored already. -/
def IsUnchanged (t : Tracker) : Prop :=
  t.cluster.status.getD .initial = t.status ∧ (t.persistedHints == t.hints) = true

instance (t : Tracker) : Decidable t.IsUnchanged := inferInstanceAs (Decidable (_ ∧ _))

def storedMetadata (t : Tracker) : Metadata :=
  if (t.persistedHints == t.hints) = true then t.cluster.metadata
  else t.cluster.metadata.annotate hintsKey t.hints.text

theorem commit_of_unchanged {t : Tracker} (unchanged : t.IsUnchanged) : t.commit = (t, none) := by
  rw [commit]
  simp [unchanged.1, bne, unchanged.2]

/-- What a commit leaves and returns. Hints count as stored then, unless equal ones were stored
before. -/
theorem commit_eq_of_changed {t : Tracker} (changed : ¬ t.IsUnchanged) :
    t.commit =
      (⟨⟨t.storedMetadata, t.cluster.spec, some t.status⟩, t.status, t.hints,
        if (t.persistedHints == t.hints) = true then t.persistedHints else t.hints,
        t.commit.1.events⟩, some ⟨t.storedMetadata, t.cluster.spec, some t.status⟩) := by
  rw [commit, storedMetadata]
  rw [IsUnchanged] at changed
  by_cases sameHints : (t.persistedHints == t.hints) = true
  · have sameStatus : ¬ t.cluster.status.getD .initial = t.status :=
      fun same => changed ⟨same, sameHints⟩
    simp [bne, sameHints, sameStatus]
  · simp [bne, sameHints]

theorem commit_of_changed {t : Tracker} (changed : ¬ t.IsUnchanged) :
    t.commit.2 = some ⟨t.storedMetadata, t.cluster.spec, some t.status⟩ :=
  congrArg Prod.snd (commit_eq_of_changed changed)

/-- A tracker reports what it queued, and then a status worse than before. -/
theorem events_commit (t : Tracker) :
    t.commit.1.events = t.events ++
      if t.status.isDegraded (t.cluster.status.getD .initial) = true then
        [.warning .unhealthy degradedMessage]
      else [] := by
  by_cases sameStatus : t.cluster.status.getD .initial = t.status
  · -- a status that stays is no worse than before
    rw [sameStatus, ClusterStatus.isDegraded_self, commit]
    cases sameHints : t.persistedHints == t.hints <;> simp [bne, sameStatus, sameHints]
  · rw [commit]
    cases t.status.isDegraded (t.cluster.status.getD .initial) <;> simp [bne, sameStatus]

theorem stored_of_unchanged {t : Tracker} (unchanged : t.IsUnchanged) : t.stored = t.cluster := by
  rw [stored, commit_of_unchanged unchanged, Option.getD_none]

theorem stored_of_changed {t : Tracker} (changed : ¬ t.IsUnchanged) :
    t.stored = ⟨t.storedMetadata, t.cluster.spec, some t.status⟩ := by
  rw [stored, commit_of_changed changed, Option.getD_some]

@[simp]
theorem stored_spec (t : Tracker) : t.stored.spec = t.cluster.spec := by
  by_cases unchanged : t.IsUnchanged
  · rw [stored_of_unchanged unchanged]
  · rw [stored_of_changed unchanged]

@[simp]
theorem stored_metadata (t : Tracker) : t.stored.metadata = t.storedMetadata := by
  by_cases unchanged : t.IsUnchanged
  · rw [stored_of_unchanged unchanged, storedMetadata, if_pos unchanged.2]
  · rw [stored_of_changed unchanged]

/-- Up to a status that says what no status says, the status of a tracker is stored. -/
@[simp]
theorem stored_status (t : Tracker) : t.stored.status.getD .initial = t.status := by
  by_cases unchanged : t.IsUnchanged
  · rw [stored_of_unchanged unchanged, unchanged.1]
  · rw [stored_of_changed unchanged, Option.getD_some]

end Tracker

/-! ## What a pass makes of a cluster -/

/-- What a pass over a cluster observes, and the name and the time in milliseconds it runs with. -/
structure View where
  name : String
  now : Int
  resources : Resources
  observed : Observation

namespace View

/-- The tracker of a pass over a managed cluster with its hints, when it is written back. -/
def tracked (v : View) (c : SearchCluster) (h : Hints) : Tracker :=
  let t : Tracker := ⟨c, c.status.getD .initial, h, h, []⟩
  match c.check v.name h with
  | .error e => t.markInvalid e
  | .ok () =>
    let marked := SearchCluster.mark t v.resources v.observed (.decide c v.resources v.now)
    marked.addHints (c.passHints v.resources marked.hints)

def after (v : View) (c : SearchCluster) : SearchCluster :=
  if c.metadata.isUnmanaged then c
  else
    match Hints.ofAnnotations c.metadata.annotations with
    | .error _ => c
    | .ok h => (v.tracked c h).stored

/-- To enter a phase changes the status and the events only. -/
theorem mark_keeps (t : Tracker) (resources : Resources) (observed : Observation)
    (d : PhaseDecision) :
    (SearchCluster.mark t resources observed d).cluster = t.cluster ∧
      (SearchCluster.mark t resources observed d).hints = t.hints ∧
      (SearchCluster.mark t resources observed d).persistedHints = t.persistedHints := by
  cases d with
  | unchanged =>
      unfold SearchCluster.mark Tracker.refresh
      simp only
      split
      · exact ⟨rfl, rfl, rfl⟩
      · exact ⟨rfl, rfl, rfl⟩
      · exact ⟨rfl, rfl, rfl⟩
  | _ => exact ⟨rfl, rfl, rfl⟩

theorem tracked_keeps (v : View) (c : SearchCluster) (h : Hints) :
    (v.tracked c h).cluster = c ∧ (v.tracked c h).persistedHints = h := by
  unfold tracked
  split
  · exact ⟨rfl, rfl⟩
  · have kept := mark_keeps ⟨c, c.status.getD .initial, h, h, []⟩ v.resources v.observed
      (.decide c v.resources v.now)
    exact ⟨kept.1, kept.2.2⟩

end View

/-! ## The hints of a pass -/

namespace SearchCluster

/-- A managed cluster whose hints parse. -/
structure Loads (c : SearchCluster) (h : Hints) : Prop where
  managed : c.metadata.isUnmanaged = false
  parsed : Hints.ofAnnotations c.metadata.annotations = .ok h

def hints? (c : SearchCluster) : Option Hints :=
  if c.metadata.isUnmanaged then none else (Hints.ofAnnotations c.metadata.annotations).toOption

theorem hints?_eq_some {c : SearchCluster} {h : Hints} : c.hints? = some h ↔ c.Loads h := by
  rw [hints?]
  constructor
  · intro found
    split at found
    · cases found
    · rename_i managed
      refine ⟨Bool.eq_false_iff.mpr managed, ?_⟩
      cases parsed : Hints.ofAnnotations c.metadata.annotations with
      | error e =>
          rw [parsed] at found
          cases found
      | ok g =>
          rw [parsed] at found
          cases found
          rfl
  · rintro ⟨managed, parsed⟩
    rw [managed, parsed]
    rfl

/-- The hints of a pass over a valid cluster are among some hints already. -/
def HintsKept (c : SearchCluster) (resources : Resources) (h : Hints) : Prop :=
  h.values.contains Hints.createdAtVersion = true ∧
    h.get? Hints.rollingUpgradeInProgress = some (.bool (isUpgrading c resources))

theorem passHints_of_kept {c : SearchCluster} {resources : Resources} {h : Hints}
    (kept : c.HintsKept resources h) : c.passHints resources h = h := by
  obtain ⟨created, rolling⟩ := kept
  unfold passHints
  rw [Hints.setOnce, if_pos created, Hints.set, Dictionary.insert_of_get? rolling]

/-- The version that a cluster was created at is kept, or else it is the declared one. -/
theorem get?_created_merge_passHints (c : SearchCluster) (resources : Resources) (h : Hints) :
    (h.merge (c.passHints resources h)).get? Hints.createdAtVersion =
      (h.get? Hints.createdAtVersion).or (some (.string c.spec.version)) := by
  have differ : Hints.createdAtVersion ≠ Hints.rollingUpgradeInProgress := by decide
  rw [Hints.get?_merge, passHints, Hints.get?_set_of_ne _ differ, Hints.get?_setOnce_self]
  cases h.get? Hints.createdAtVersion with
  | none => rfl
  | some value => rfl

theorem get?_rolling_merge_passHints (c : SearchCluster) (resources : Resources) (h : Hints) :
    (h.merge (c.passHints resources h)).get? Hints.rollingUpgradeInProgress =
      some (.bool (isUpgrading c resources)) := by
  rw [Hints.get?_merge, passHints, Hints.get?_set_self, Option.some_or]

/-- A pass sets no other hints. -/
theorem get?_merge_passHints_of_ne {key : String} (notCreated : key ≠ Hints.createdAtVersion)
    (notRolling : key ≠ Hints.rollingUpgradeInProgress) (c : SearchCluster)
    (resources : Resources) (h : Hints) :
    (h.merge (c.passHints resources h)).get? key = h.get? key := by
  rw [Hints.get?_merge, passHints, Hints.get?_set_of_ne _ notRolling,
    Hints.get?_setOnce_of_ne _ notCreated, Option.or_self]

theorem hintsKept_merge_passHints (c : SearchCluster) (resources : Resources) (h : Hints) :
    c.HintsKept resources (h.merge (c.passHints resources h)) := by
  refine ⟨?_, get?_rolling_merge_passHints c resources h⟩
  have created := get?_created_merge_passHints c resources h
  rw [Hints.get?] at created
  rw [Dictionary.contains, created, Option.isSome_or, Option.isSome_some, Bool.or_true]

theorem hintsKept_of_alike {c : SearchCluster} {resources : Resources} {h other : Hints}
    (alike : h.Alike other) : c.HintsKept resources h ↔ c.HintsKept resources other := by
  unfold HintsKept
  rw [Hints.contains_of_alike alike, Hints.get?_bool_of_alike alike]

theorem readable_merge_passHints {h : Hints} (readable : h.Readable) (c : SearchCluster)
    (resources : Resources) : (h.merge (c.passHints resources h)).Readable := by
  apply Hints.readable_merge readable
  apply Hints.readable_set
  · apply Hints.readable_setOnce readable
    · trivial
    · trivial
  · trivial
  · trivial

end SearchCluster

/-! ## The status of a pass -/

namespace View

def statusIn (v : View) (phase : ClusterPhase) (s : ClusterStatus) : ClusterStatus where
  phase := phase
  health := v.observed.state
  availableNodes := v.resources.availableNodes
  version := (v.resources.lowestVersion.map Version.text).getD s.version

def applyingStatus (v : View) (s : ClusterStatus) : ClusterStatus where
  phase := .applyingChanges
  health := .red
  availableNodes := Resources.countReady v.resources.currentPods
  version := s.version

def nextStatus (v : View) : PhaseDecision → ClusterStatus → ClusterStatus
  | .shutdownStalled _, s => v.statusIn .nodeShutdownStalled s
  | .migratingData, s => v.statusIn .migratingData s
  | .applyingChanges, s => v.applyingStatus s
  | .ready, s => v.statusIn .ready s
  | .unchanged, s =>
    match s.phase with
    | .invalid => v.applyingStatus s
    | .nodeShutdownStalled => v.applyingStatus s
    | phase => v.statusIn phase s

theorem enter_status (v : View) (t : Tracker) (phase : ClusterPhase) :
    (t.enter phase v.resources v.observed).status = v.statusIn phase t.status := by
  unfold Tracker.enter statusIn
  cases v.resources.lowestVersion with
  | none => rfl
  | some lowest => rfl

theorem mark_status (v : View) (t : Tracker) (d : PhaseDecision) :
    (SearchCluster.mark t v.resources v.observed d).status = v.nextStatus d t.status := by
  cases d with
  | shutdownStalled detail => exact enter_status v _ .nodeShutdownStalled
  | migratingData => exact enter_status v _ .migratingData
  | applyingChanges => rfl
  | ready => exact enter_status v t .ready
  | unchanged =>
      simp only [SearchCluster.mark, Tracker.refresh, nextStatus]
      cases t.status.phase with
      | invalid => rfl
      | nodeShutdownStalled => rfl
      | _ => exact enter_status v t _

/-- No pass over an accepted cluster enters the invalid phase. -/
theorem nextStatus_phase (v : View) (d : PhaseDecision) (s : ClusterStatus) :
    (v.nextStatus d s).phase ≠ .invalid := by
  cases d with
  | unchanged =>
      obtain ⟨phase, health, nodes, version⟩ := s
      cases phase <;> simp [nextStatus, statusIn, applyingStatus]
  | _ => simp [nextStatus, statusIn, applyingStatus]

@[simp]
theorem statusIn_statusIn (v : View) (phase other : ClusterPhase) (s : ClusterStatus) :
    v.statusIn phase (v.statusIn other s) = v.statusIn phase s := by
  unfold statusIn
  cases v.resources.lowestVersion with
  | none => rfl
  | some lowest => rfl

end View

/-! ## What passes leave alone -/

namespace SearchCluster

/-- A cluster that differs from another at most in what passes write. -/
structure IsRevisionOf (other c : SearchCluster) : Prop where
  spec : other.spec = c.spec
  name : other.name = c.name
  isUnmanaged : other.metadata.isUnmanaged = c.metadata.isUnmanaged

variable {c other : SearchCluster}

theorem decide_of_revision (revision : other.IsRevisionOf c) (resources : Resources) (now : Int) :
    PhaseDecision.decide other resources now = PhaseDecision.decide c resources now := by
  have states : PhaseDecision.nodeSetState other resources =
      PhaseDecision.nodeSetState c resources := by
    funext s
    unfold PhaseDecision.nodeSetState
    rw [revision.spec, revision.name]
  unfold PhaseDecision.decide
  rw [states, revision.spec]

theorem hintsKept_of_revision (revision : other.IsRevisionOf c) (resources : Resources)
    (h : Hints) : other.HintsKept resources h ↔ c.HintsKept resources h := by
  unfold HintsKept isUpgrading
  rw [revision.spec]

/-- The reported version of a cluster without status is that of one with the initial status. -/
theorem reportedVersion?_eq (c : SearchCluster) (h : Hints) :
    c.reportedVersion? h =
      if (c.status.getD .initial).version = "" then h.string? Hints.createdAtVersion
      else some (c.status.getD .initial).version := by
  unfold reportedVersion?
  cases c.status with
  | none => rfl
  | some status => rfl

theorem check_of_revision (revision : other.IsRevisionOf c)
    (version : (other.status.getD .initial).version = (c.status.getD .initial).version)
    (name : String) (h : Hints) : other.check name h = c.check name h := by
  unfold check checkUpgrade
  rw [reportedVersion?_eq, reportedVersion?_eq, version, revision.spec, revision.name]

end SearchCluster

namespace Tracker

theorem isRevisionOf_stored (t : Tracker) : t.stored.IsRevisionOf t.cluster := by
  constructor
  · exact t.stored_spec
  · rw [SearchCluster.name, t.stored_metadata, storedMetadata]
    split
    · rfl
    · rfl
  · have differ : managedKey ≠ hintsKey := by decide
    rw [t.stored_metadata, storedMetadata, Metadata.isUnmanaged]
    split
    · rfl
    · rw [Metadata.annotation?_annotate_of_ne _ differ]
      rfl

end Tracker

/-! ## The cluster after a pass -/

namespace View

/-- The events of a pass over a cluster, if it gets as far as to write back. -/
def events (v : View) (c : SearchCluster) : List Event :=
  match c.hints? with
  | none => []
  | some h => (v.tracked c h).commit.1.events

variable {v : View} {c : SearchCluster} {h : Hints}

theorem tracked_eq_markInvalid {e : Error} (rejected : c.check v.name h = .error e) :
    v.tracked c h = Tracker.markInvalid ⟨c, c.status.getD .initial, h, h, []⟩ e := by
  unfold tracked
  rw [rejected]

theorem tracked_of_rejected {e : Error} (rejected : c.check v.name h = .error e) :
    (v.tracked c h).status = { c.status.getD .initial with phase := .invalid } ∧
      (v.tracked c h).hints = h := by
  rw [tracked_eq_markInvalid rejected]
  exact ⟨rfl, rfl⟩

theorem tracked_of_accepted (accepted : c.check v.name h = .ok ()) :
    (v.tracked c h).status =
        v.nextStatus (.decide c v.resources v.now) (c.status.getD .initial) ∧
      (v.tracked c h).hints = h.merge (c.passHints v.resources h) := by
  unfold tracked
  rw [accepted]
  have kept := mark_keeps ⟨c, c.status.getD .initial, h, h, []⟩ v.resources v.observed
    (.decide c v.resources v.now)
  constructor
  · exact mark_status v _ _
  · simp only [Tracker.addHints, kept.2.1]

theorem after_of_loads (loads : c.Loads h) : v.after c = (v.tracked c h).stored := by
  unfold after
  rw [loads.managed, loads.parsed]
  rfl

theorem after_of_not_loads (fails : ∀ h, ¬ c.Loads h) : v.after c = c := by
  unfold after
  split
  · rfl
  · rename_i managed
    cases parsed : Hints.ofAnnotations c.metadata.annotations with
    | error e => rfl
    | ok h => exact absurd ⟨Bool.eq_false_iff.mpr managed, parsed⟩ (fails h)

theorem isRevisionOf_after (loads : c.Loads h) : (v.after c).IsRevisionOf c := by
  have revision := (v.tracked c h).isRevisionOf_stored
  rw [(v.tracked_keeps c h).1] at revision
  rw [after_of_loads loads]
  exact revision

theorem status_after (loads : c.Loads h) :
    (v.after c).status.getD .initial = (v.tracked c h).status := by
  rw [after_of_loads loads, Tracker.stored_status]

theorem metadata_after (loads : c.Loads h) :
    (v.after c).metadata =
      if (h == (v.tracked c h).hints) = true then c.metadata
      else c.metadata.annotate hintsKey (v.tracked c h).hints.text := by
  obtain ⟨cluster, persisted⟩ := v.tracked_keeps c h
  rw [after_of_loads loads, Tracker.stored_metadata, Tracker.storedMetadata, cluster, persisted]

/-- Hints that a pass leaves as they are load again. -/
theorem loads_after (loads : c.Loads h) (same : (v.tracked c h).hints = h) :
    (v.after c).Loads h := by
  have metadata := metadata_after (v := v) loads
  rw [same, if_pos h.same_self] at metadata
  constructor
  · rw [metadata, loads.managed]
  · rw [metadata, loads.parsed]

/-- A pass that finds the stored status and hints leaves the cluster as it is. -/
theorem after_of_unchanged (loads : c.Loads h)
    (status : (v.tracked c h).status = c.status.getD .initial)
    (hints : (v.tracked c h).hints = h) : v.after c = c := by
  obtain ⟨cluster, persisted⟩ := v.tracked_keeps c h
  have unchanged : (v.tracked c h).IsUnchanged := by
    constructor
    · rw [cluster, status]
    · rw [persisted, hints]
      exact h.same_self
  rw [after_of_loads loads, Tracker.stored_of_unchanged unchanged, cluster]

/-- The hints that a pass over an accepted cluster leaves are loaded by the next one, up to the values
of floats. -/
theorem loads_after_of_accepted (loads : c.Loads h) (accepted : c.check v.name h = .ok ()) :
    (v.after c).Loads h ∧ h.Alike (h.merge (c.passHints v.resources h)) ∨
      ∃ g, (v.after c).Loads g ∧ (h.merge (c.passHints v.resources h)).Alike g := by
  have managed : (v.after c).metadata.isUnmanaged = false := by
    rw [(isRevisionOf_after loads).isUnmanaged, loads.managed]
  have readable := SearchCluster.readable_merge_passHints
    (Hints.readable_of_ofAnnotations loads.parsed) c v.resources
  have metadata := metadata_after (v := v) loads
  rw [(tracked_of_accepted accepted).2] at metadata
  split at metadata
  · rename_i same
    refine .inl ⟨⟨managed, ?_⟩, Hints.alike_of_same same⟩
    rw [metadata, loads.parsed]
  · have stored : (v.after c).metadata.annotations.bind (·.get? hintsKey) =
        some (h.merge (c.passHints v.resources h)).text := by
      rw [metadata]
      exact Metadata.annotation?_annotate_self _ _ _
    obtain ⟨g, read, alike⟩ := Hints.ofAnnotations_text readable stored
    exact .inr ⟨g, ⟨managed, read⟩, alike⟩

/-- The hints that the next pass loads are complete, and the version the cluster was created at is the
one that was written. -/
theorem exists_loads_after (loads : c.Loads h) (accepted : c.check v.name h = .ok ()) :
    ∃ g, (v.after c).Loads g ∧ c.HintsKept v.resources g ∧
      g.string? Hints.createdAtVersion =
        (h.merge (c.passHints v.resources h)).string? Hints.createdAtVersion := by
  have complete := c.hintsKept_merge_passHints v.resources h
  rcases loads_after_of_accepted (v := v) loads accepted with ⟨again, alike⟩ | ⟨g, again, alike⟩
  · exact ⟨h, again, (SearchCluster.hintsKept_of_alike alike).mpr complete,
      (Hints.string?_of_alike alike _).symm⟩
  · exact ⟨g, again, (SearchCluster.hintsKept_of_alike alike).mp complete,
      Hints.string?_of_alike alike _⟩

end View

end SearchOperator
