import SearchOperator.Proofs.Cluster.Checkpoint

/-!
# The journal of a tracker

What a tracker reports is a journal of what was done with it. A mark that calls for an event queues
it, a commit adds one if the status is worse than at the commit before, and nothing is ever taken
back. A commit returns an update exactly if status or hints are others than at the commit before.
For the first commit, the loaded cluster takes the place of that one.
-/

namespace SearchOperator

namespace ClusterStatus

variable {s previous : ClusterStatus}

/-- Fewer nodes are available than before, or the health is lower and not red by decree. -/
def IsWorse (s previous : ClusterStatus) : Prop :=
  s.availableNodes < previous.availableNodes ∨
    s.phase ≠ .applyingChanges ∧ s.health.rank < previous.health.rank

theorem isDegraded_iff : s.isDegraded previous = true ↔ s.IsWorse previous := by
  simp [isDegraded, IsWorse]

instance : Decidable (s.IsWorse previous) := decidable_of_iff _ isDegraded_iff

end ClusterStatus

namespace Tracker

/-! ## The last commit -/

/-- The status and the hints that a commit finds. -/
structure Committed where
  status : ClusterStatus
  hints : Hints

/-- Before the first commit, what was loaded counts as committed. -/
def Committed.loaded (c : SearchCluster) (h : Hints) : Committed := ⟨c.status.getD .initial, h⟩

/-- What counts as committed after an operation: what a commit finds, or else what did before. -/
def Committed.next (last : Committed) (t : Tracker) : Operation → Committed
  | .commit => ⟨t.status, t.hints⟩
  | _ => last

def committed (last : Committed) : Tracker → List Operation → Committed
  | _, [] => last
  | t, operation :: rest => committed (last.next t operation) (t.perform operation) rest

/-- A tracker compares with what counts as committed, up to hints that are the same. -/
structure Compares (t : Tracker) (last : Committed) : Prop where
  status : t.cluster.status.getD .initial = last.status
  hints : (t.persistedHints == last.hints) = true

theorem compares_start {loaded : SearchCluster} {t : Tracker} (started : start loaded = .ok t) :
    t.Compares (.loaded loaded t.hints) := by
  obtain ⟨h, -, rfl⟩ := start_eq_ok.mp started
  exact ⟨rfl, h.same_self⟩

theorem compares_commit (t : Tracker) : t.commit.1.Compares ⟨t.status, t.hints⟩ := by
  rw [t.commit_fst]
  refine ⟨t.stored_status, ?_⟩
  simp only
  split
  · rename_i same
    exact same
  · exact t.hints.same_self

/-- One operation keeps the comparison, with what counts as committed then. -/
theorem Compares.perform {t : Tracker} {last : Committed} (compares : t.Compares last)
    (operation : Operation) : (t.perform operation).Compares (last.next t operation) := by
  cases operation with
  | commit => exact t.compares_commit
  | refresh resources observed =>
      obtain ⟨cluster, -, persisted⟩ := t.refresh_keeps resources observed
      refine ⟨?_, ?_⟩
      · rw [Tracker.perform, cluster]
        exact compares.status
      · rw [Tracker.perform, persisted]
        exact compares.hints
  | _ => exact ⟨compares.status, compares.hints⟩

theorem Compares.run {t : Tracker} {last : Committed} (compares : t.Compares last)
    (operations : List Operation) : (t.run operations).Compares (committed last t operations) := by
  induction operations generalizing t last with
  | nil => exact compares
  | cons operation rest ih => exact ih (compares.perform operation)

/-! ## Updates -/

theorem Compares.isUnchanged_iff {t : Tracker} {last : Committed} (compares : t.Compares last) :
    t.IsUnchanged ↔ t.status = last.status ∧ (last.hints == t.hints) = true := by
  rw [IsUnchanged, compares.status, Hints.same_congr compares.hints, eq_comm]

theorem isSome_commit (t : Tracker) : t.commit.2.isSome = true ↔ ¬ t.IsUnchanged := by
  by_cases unchanged : t.IsUnchanged
  · simp [commit_of_unchanged unchanged, unchanged]
  · simp [commit_of_changed unchanged, unchanged]

/-- A commit right after another one finds nothing new. -/
theorem commit_commit (t : Tracker) : t.commit.1.commit.2 = none := by
  have same : t.commit.1.status = t.status ∧ t.commit.1.hints = t.hints := by
    rw [t.commit_fst]
    exact ⟨rfl, rfl⟩
  have unchanged : t.commit.1.IsUnchanged :=
    t.compares_commit.isUnchanged_iff.mpr ⟨same.1, same.2 ▸ t.hints.same_self⟩
  rw [commit_of_unchanged unchanged]

/-! ## Events -/

def Operation.event? : Operation → Option Event
  | .markMigratingData _ _ => some ⟨.normal, "Delayed", migrationMessage⟩
  | .markShutdownStalled _ _ detail =>
    some ⟨.warning, "Stalled", stalledMessage ++ " " ++ detail⟩
  | .markInvalid e => some ⟨.warning, "Validation", e.message⟩
  | _ => none

def unhealthy : Event := ⟨.warning, "Unhealthy", degradedMessage⟩

/-- What a commit reports about a status. -/
def verdict (last : Committed) (s : ClusterStatus) : List Event :=
  if s.IsWorse last.status then [unhealthy] else []

def reported (last : Committed) (t : Tracker) : Operation → List Event
  | .commit => verdict last t.status
  | operation => operation.event?.toList

def journal (last : Committed) : Tracker → List Operation → List Event
  | _, [] => []
  | t, operation :: rest =>
    reported last t operation ++ journal (last.next t operation) (t.perform operation) rest

theorem Compares.events_commit {t : Tracker} {last : Committed} (compares : t.Compares last) :
    t.commit.1.events = t.events ++ verdict last t.status := by
  rw [t.events_commit, compares.status, verdict]
  simp only [ClusterStatus.isDegraded_iff]
  rfl

theorem events_refresh (t : Tracker) (resources : Resources) (observed : Observation) :
    (t.refresh resources observed).events = t.events := by
  rw [refresh]
  split <;> rfl

/-- One operation adds what it reports to the events of a tracker. -/
theorem Compares.events_perform {t : Tracker} {last : Committed} (compares : t.Compares last)
    (operation : Operation) :
    (t.perform operation).events = t.events ++ reported last t operation := by
  cases operation with
  | commit => exact compares.events_commit
  | refresh resources observed =>
      rw [Tracker.perform, events_refresh]
      exact (List.append_nil _).symm
  | markReady resources observed => exact (List.append_nil _).symm
  | markApplyingChanges pods => exact (List.append_nil _).symm
  | addHints hints => exact (List.append_nil _).symm
  | markMigratingData resources observed => rfl
  | markShutdownStalled resources observed detail => rfl
  | markInvalid e => rfl

theorem Compares.events_run {t : Tracker} {last : Committed} (compares : t.Compares last)
    (operations : List Operation) :
    (t.run operations).events = t.events ++ journal last t operations := by
  induction operations generalizing t last with
  | nil => exact (List.append_nil _).symm
  | cons operation rest ih =>
      have next : t.run (operation :: rest) = (t.perform operation).run rest := rfl
      rw [next, ih (compares.perform operation), compares.events_perform, journal,
        List.append_assoc]

/-- Nothing that was reported is taken back. -/
theorem Compares.events_grow {t : Tracker} {last : Committed} (compares : t.Compares last)
    (operations : List Operation) : t.events <+: (t.run operations).events := by
  rw [compares.events_run]
  exact List.prefix_append _ _

/-- But for verdicts, a journal tells of the marks alone. -/
theorem filter_journal (last : Committed) (t : Tracker) (operations : List Operation) :
    (journal last t operations).filter (fun e => e ≠ unhealthy) =
      operations.filterMap Operation.event? := by
  induction operations generalizing t last with
  | nil => rfl
  | cons operation rest ih =>
      rw [journal, List.filter_append, ih, List.filterMap_cons]
      cases operation with
      | commit =>
          rw [reported, verdict]
          split <;> simp [Operation.event?]
      | markMigratingData resources observed => simp [reported, Operation.event?, unhealthy]
      | markShutdownStalled resources observed detail =>
          simp [reported, Operation.event?, unhealthy]
      | markInvalid e => simp [reported, Operation.event?, unhealthy]
      | _ => simp [reported, Operation.event?]

/-! ## Commits of a run -/

/-- After any operations, a commit returns an update exactly if the status or the hints are not those
that the last commit found, or that were loaded if there was none; and the commit after it returns
none. What the tracker has reported by then is the journal of the operations: without the verdicts
of commits, the events that the marks call for, one by one. The commit adds its own verdict, and
later commits go on from there. -/
theorem commit_in_journal {loaded : SearchCluster} {t : Tracker} (started : start loaded = .ok t)
    (operations : List Operation) :
    ((t.run operations).commit.2.isSome = true ↔
      (t.run operations).status ≠ (committed (.loaded loaded t.hints) t operations).status ∨
        ((committed (.loaded loaded t.hints) t operations).hints == (t.run operations).hints) =
          false) ∧
    (t.run operations).commit.1.commit.2 = none ∧
    (t.run operations).events = journal (.loaded loaded t.hints) t operations ∧
    (t.run operations).events.filter (fun e => e ≠ unhealthy) =
      operations.filterMap Operation.event? ∧
    (t.run operations).commit.1.events = (t.run operations).events ++
      verdict (committed (.loaded loaded t.hints) t operations) (t.run operations).status ∧
    ∀ later, (t.run operations).commit.1.events <+:
      (t.run (operations ++ .commit :: later)).commit.1.events := by
  have compares := compares_start started
  have reached := compares.run operations
  have reports : (t.run operations).events = journal (.loaded loaded t.hints) t operations := by
    obtain ⟨h, -, rfl⟩ := start_eq_ok.mp started
    rw [compares.events_run, List.nil_append]
  refine ⟨?_, commit_commit _, reports, ?_, reached.events_commit, fun later => ?_⟩
  · rw [isSome_commit, reached.isUnchanged_iff, not_and_or, Bool.not_eq_true]
  · rw [reports, filter_journal]
  · have resumed : t.run (operations ++ .commit :: later) =
        (t.run operations).commit.1.run later := List.foldl_append
    have extended := (t.run operations).compares_commit.run later
    rw [resumed, extended.events_commit]
    exact ((compares_commit _).events_grow later).trans (List.prefix_append _ _)

def pair : SearchCluster :=
  ⟨Metadata.blank, ⟨"8.1.0", [⟨"hot", 2⟩]⟩, some ⟨.ready, .green, 2, "8.1.0"⟩⟩

/-- A pass over it that loses both nodes, finds nothing new, and then sees its health go down. -/
def declining : List Operation :=
  [.markMigratingData ⟨[], []⟩ .nothing, .commit, .markMigratingData ⟨[], []⟩ .nothing, .commit,
    .markShutdownStalled ⟨[], []⟩ ⟨some "yellow"⟩ "Pod hot-0 stays."]

/-- Two of the three commits of this pass report a status that is worse. -/
theorem commit_in_journal_declining :
    ∃ t, start pair = .ok t ∧ (t.run declining).commit.2.isSome = true ∧
      (t.run declining).commit.1.events =
        [⟨.normal, "Delayed", migrationMessage⟩, unhealthy,
          ⟨.normal, "Delayed", migrationMessage⟩,
          ⟨.warning, "Stalled", stalledMessage ++ " Pod hot-0 stays."⟩, unhealthy] := by
  have started : start pair = .ok ⟨pair, ⟨.ready, .green, 2, "8.1.0"⟩, .none, .none, []⟩ := rfl
  obtain ⟨updates, -, reports, -, commits, -⟩ := commit_in_journal started declining
  refine ⟨_, started, updates.mpr (.inl ?_), ?_⟩
  · decide +kernel
  · rw [commits, reports]
    decide +kernel

end Tracker

end SearchOperator
