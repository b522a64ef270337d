import SearchOperator.Proofs.Cluster.View

/-!
# Updates as checkpoints

Whatever a pass does with a tracker, and however often it commits, an update that the tracker
returns holds all that the tracker knows: a tracker that starts from the update has its status and
its hints, and finds nothing to write and nothing to report. Without an update, all of this is
stored already.
-/

namespace SearchOperator

namespace Tracker

/-! ## Committing -/

/-- A committed tracker holds the cluster that it leaves. -/
theorem commit_fst (t : Tracker) :
    t.commit.1 = ⟨t.stored, t.status, t.hints,
      if (t.persistedHints == t.hints) = true then t.persistedHints else t.hints,
      t.commit.1.events⟩ := by
  by_cases unchanged : t.IsUnchanged
  · rw [stored_of_unchanged unchanged, commit_of_unchanged unchanged, if_pos unchanged.2]
  · rw [stored_of_changed unchanged]
    exact congrArg Prod.fst (commit_eq_of_changed unchanged)

/-- A tracker that just started has nothing to write. -/
theorem commit_of_started (c : SearchCluster) (h : Hints) :
    (⟨c, c.status.getD .initial, h, h, []⟩ : Tracker).commit =
      (⟨c, c.status.getD .initial, h, h, []⟩, none) :=
  commit_of_unchanged ⟨rfl, h.same_self⟩

/-! ## What a pass does with a tracker -/

/-- What can be done with a tracker once it started. -/
inductive Operation where
  | refresh (resources : Resources) (observed : Observation)
  | markReady (resources : Resources) (observed : Observation)
  | markApplyingChanges (pods : List Pod)
  | markMigratingData (resources : Resources) (observed : Observation)
  | markShutdownStalled (resources : Resources) (observed : Observation) (detail : String)
  | markInvalid (e : Error)
  | addHints (hints : Hints)
  | commit

def perform (t : Tracker) : Operation → Tracker
  | .refresh resources observed => t.refresh resources observed
  | .markReady resources observed => t.markReady resources observed
  | .markApplyingChanges pods => t.markApplyingChanges pods
  | .markMigratingData resources observed => t.markMigratingData resources observed
  | .markShutdownStalled resources observed detail =>
    t.markShutdownStalled resources observed detail
  | .markInvalid e => t.markInvalid e
  | .addHints hints => t.addHints hints
  | .commit => t.commit.1

/-- The cluster that an operation returns to be written back. -/
def update? (t : Tracker) : Operation → Option SearchCluster
  | .commit => t.commit.2
  | _ => none

def run (t : Tracker) (operations : List Operation) : Tracker := operations.foldl perform t

/-- The last update that operations return, or else the cluster that was committed before. -/
def lastUpdate (before : SearchCluster) : Tracker → List Operation → SearchCluster
  | _, [] => before
  | t, operation :: rest =>
    lastUpdate ((t.update? operation).getD before) (t.perform operation) rest

theorem refresh_keeps (t : Tracker) (resources : Resources) (observed : Observation) :
    (t.refresh resources observed).cluster = t.cluster ∧
      (t.refresh resources observed).hints = t.hints ∧
      (t.refresh resources observed).persistedHints = t.persistedHints :=
  View.mark_keeps t resources observed .unchanged

/-- Every operation but a commit leaves the cluster alone, and a commit leaves its update. -/
theorem cluster_perform (t : Tracker) (operation : Operation) :
    (t.perform operation).cluster = (t.update? operation).getD t.cluster := by
  cases operation with
  | commit => exact congrArg Tracker.cluster t.commit_fst
  | refresh resources observed => exact (t.refresh_keeps resources observed).1
  | _ => rfl

theorem cluster_run (t : Tracker) (operations : List Operation) :
    (t.run operations).cluster = lastUpdate t.cluster t operations := by
  induction operations generalizing t with
  | nil => rfl
  | cons operation rest ih =>
      have next : (t.run (operation :: rest)) = (t.perform operation).run rest := rfl
      rw [next, ih, cluster_perform, lastUpdate]

/-! ## What every operation keeps -/

/-- A tracker that tracks a cluster: it changed nothing but the status and the annotation with the
hints, and the hints that count as stored are those that the annotation holds. -/
structure Tracks (t : Tracker) (loaded : SearchCluster) : Prop where
  spec : t.cluster.spec = loaded.spec
  metadata : t.cluster.metadata = loaded.metadata ∨
    ∃ text, t.cluster.metadata = loaded.metadata.annotate hintsKey text
  persisted : Hints.ofAnnotations t.cluster.metadata.annotations = .ok t.persistedHints
  persistedExact : t.persistedHints.IsExact
  readable : t.hints.Readable
  exact : t.hints.IsExact

theorem tracks_start {loaded : SearchCluster} {t : Tracker} (started : start loaded = .ok t)
    (exact : t.hints.IsExact) : t.Tracks loaded := by
  obtain ⟨h, parsed, rfl⟩ := start_eq_ok.mp started
  exact ⟨rfl, .inl rfl, parsed, exact, Hints.readable_of_ofAnnotations parsed, exact⟩

/-- What keeps the cluster and all hints keeps the tracking. -/
theorem Tracks.of_kept {t other : Tracker} {loaded : SearchCluster} (tracks : t.Tracks loaded)
    (kept : other.cluster = t.cluster ∧ other.hints = t.hints ∧
      other.persistedHints = t.persistedHints) : other.Tracks loaded := by
  obtain ⟨cluster, hints, persisted⟩ := kept
  constructor
  · rw [cluster, tracks.spec]
  · rw [cluster]
    exact tracks.metadata
  · rw [cluster, persisted]
    exact tracks.persisted
  · rw [persisted]
    exact tracks.persistedExact
  · rw [hints]
    exact tracks.readable
  · rw [hints]
    exact tracks.exact

theorem Tracks.addHints {t : Tracker} {loaded : SearchCluster} (tracks : t.Tracks loaded)
    {h : Hints} (readable : h.Readable) (exact : h.IsExact) : (t.addHints h).Tracks loaded where
  spec := tracks.spec
  metadata := tracks.metadata
  persisted := tracks.persisted
  persistedExact := tracks.persistedExact
  readable := Hints.readable_merge tracks.readable readable
  exact := Hints.isExact_merge tracks.exact exact

/-- Hints without floats that equal the stored ones are the stored ones, so that after a commit the
hints of the tracker count as stored in any case. -/
theorem Tracks.commit_fst {t : Tracker} {loaded : SearchCluster} (tracks : t.Tracks loaded) :
    t.commit.1 = ⟨t.stored, t.status, t.hints, t.hints, t.commit.1.events⟩ := by
  have persisted : (if (t.persistedHints == t.hints) = true then t.persistedHints else t.hints) =
      t.hints := by
    split
    · rename_i same
      exact (Hints.eq_of_same tracks.persistedExact same).symm
    · rfl
  have committed := t.commit_fst
  rw [persisted] at committed
  exact committed

/-- The hints of a tracker are found again in the cluster that it leaves. -/
theorem Tracks.ofAnnotations_stored {t : Tracker} {loaded : SearchCluster}
    (tracks : t.Tracks loaded) :
    Hints.ofAnnotations t.stored.metadata.annotations = .ok t.hints := by
  rw [stored_metadata, storedMetadata]
  split
  · rename_i same
    rw [tracks.persisted, Hints.eq_of_same tracks.persistedExact same]
  · exact Hints.ofAnnotations_text_of_exact tracks.readable tracks.exact
      (Metadata.annotation?_annotate_self _ _ _)

theorem Tracks.metadata_stored {t : Tracker} {loaded : SearchCluster} (tracks : t.Tracks loaded) :
    t.stored.metadata = loaded.metadata ∨
      ∃ text, t.stored.metadata = loaded.metadata.annotate hintsKey text := by
  rw [stored_metadata, storedMetadata]
  split
  · exact tracks.metadata
  · right
    refine ⟨t.hints.text, ?_⟩
    rcases tracks.metadata with same | ⟨text, annotated⟩
    · rw [same]
    · rw [annotated, Metadata.annotate_annotate]

theorem Tracks.commit {t : Tracker} {loaded : SearchCluster} (tracks : t.Tracks loaded) :
    t.commit.1.Tracks loaded := by
  rw [tracks.commit_fst]
  constructor
  · exact t.stored_spec.trans tracks.spec
  · exact tracks.metadata_stored
  · exact tracks.ofAnnotations_stored
  · exact tracks.exact
  · exact tracks.readable
  · exact tracks.exact

/-- One operation keeps the tracking, if it takes over no hints but those that can be stored. -/
theorem Tracks.perform {t : Tracker} {loaded : SearchCluster} (tracks : t.Tracks loaded)
    {operation : Operation}
    (storable : ∀ h, operation = .addHints h → h.Readable ∧ h.IsExact) :
    (t.perform operation).Tracks loaded := by
  cases operation with
  | addHints h => exact tracks.addHints (storable h rfl).1 (storable h rfl).2
  | commit => exact tracks.commit
  | refresh resources observed => exact tracks.of_kept (t.refresh_keeps resources observed)
  | markReady resources observed => exact tracks.of_kept ⟨rfl, rfl, rfl⟩
  | markApplyingChanges pods => exact tracks.of_kept ⟨rfl, rfl, rfl⟩
  | markMigratingData resources observed => exact tracks.of_kept ⟨rfl, rfl, rfl⟩
  | markShutdownStalled resources observed detail => exact tracks.of_kept ⟨rfl, rfl, rfl⟩
  | markInvalid e => exact tracks.of_kept ⟨rfl, rfl, rfl⟩

theorem Tracks.run {loaded : SearchCluster} {operations : List Operation}
    (storable : ∀ h, .addHints h ∈ operations → h.Readable ∧ h.IsExact) {t : Tracker}
    (tracks : t.Tracks loaded) : (t.run operations).Tracks loaded := by
  induction operations generalizing t with
  | nil => exact tracks
  | cons operation rest ih =>
      apply ih
      · exact fun h member => storable h (List.mem_cons_of_mem operation member)
      · exact tracks.perform fun h same => storable h (same ▸ List.mem_cons_self)

/-! ## Updates -/

/-- After any operations, a tracker that starts from the update of a commit has the status and the
hints of the one that returned it, and commits nothing and reports nothing. The update differs from
the cluster that was loaded at most in its status and the annotation with the hints. A commit
without an update finds status and hints in the last update, or in the loaded cluster. -/
theorem start_of_commit {loaded : SearchCluster} {t : Tracker} (started : start loaded = .ok t)
    (exact : t.hints.IsExact) {operations : List Operation}
    (storable : ∀ h, .addHints h ∈ operations → h.Readable ∧ h.IsExact) :
    (∀ updated, (t.run operations).commit.2 = some updated →
      (∃ next, start updated = .ok next ∧ next.status = (t.run operations).status ∧
        next.hints = (t.run operations).hints ∧ next.commit.1.events = [] ∧
        next.commit.2 = none) ∧
      updated.spec = loaded.spec ∧
      (updated.metadata = loaded.metadata ∨
        ∃ text, updated.metadata = loaded.metadata.annotate hintsKey text)) ∧
    ((t.run operations).commit.2 = none →
      ((lastUpdate loaded t operations).status.getD .initial = (t.run operations).status ∧
        Hints.ofAnnotations (lastUpdate loaded t operations).metadata.annotations =
          .ok (t.run operations).hints)) := by
  have tracks := (tracks_start started exact).run storable
  constructor
  · intro updated returned
    have stored : (t.run operations).stored = updated := by
      rw [stored, returned, Option.getD_some]
    have loads : Hints.ofAnnotations updated.metadata.annotations =
        .ok (t.run operations).hints := stored ▸ tracks.ofAnnotations_stored
    have status : updated.status.getD .initial = (t.run operations).status :=
      stored ▸ stored_status _
    refine ⟨⟨_, start_eq_ok.mpr ⟨_, loads, rfl⟩, status, rfl, ?_, ?_⟩, ?_, ?_⟩
    · rw [commit_of_started]
    · rw [commit_of_started]
    · rw [← stored, stored_spec, tracks.spec]
    · exact stored ▸ tracks.metadata_stored
  · intro unreturned
    have stored : (t.run operations).stored = lastUpdate loaded t operations := by
      obtain ⟨h, -, rfl⟩ := start_eq_ok.mp started
      rw [stored, unreturned, Option.getD_none, cluster_run]
    rw [← stored]
    exact ⟨stored_status _, tracks.ofAnnotations_stored⟩

def created : SearchCluster :=
  ⟨Metadata.blank.annotate hintsKey (Hints.none.set Hints.createdAtVersion (.string "8.1.0")).text,
    ⟨"8.1.0", [⟨"hot", 1⟩]⟩, none⟩

/-- A pass over it that commits, and then finds changes to apply. -/
def twice : List Operation :=
  [.markReady ⟨[], []⟩ .nothing, .commit,
    .addHints (Hints.none.set Hints.rollingUpgradeInProgress (.bool true)), .markApplyingChanges []]

/-- The second update of this pass starts another one where it ended. -/
theorem start_of_commit_twice :
    ∃ t updated next, start created = .ok t ∧ t.hints.IsExact ∧
      (∀ h, .addHints h ∈ twice → h.Readable ∧ h.IsExact) ∧
      (t.run twice).commit.2 = some updated ∧ start updated = .ok next ∧
      next.status = ⟨.applyingChanges, .red, 0, ""⟩ ∧ next.commit.2 = none := by
  have one (key : String) {value : Json} (ordered : value.Ordered) (flat : value.Steady 0)
      (nests : value.Nests 126) :
      (Hints.none.set key value).Readable ∧ (Hints.none.set key value).IsExact :=
    ⟨Hints.readable_set Hints.readable_none key ordered nests,
      Hints.isExact_of_steady (show Json.SteadyMembers [(key, value)] 0 from ⟨flat, trivial⟩)⟩
  have version := one Hints.createdAtVersion (show (Json.string "8.1.0").Ordered from trivial)
    trivial trivial
  have loads : Hints.ofAnnotations created.metadata.annotations =
      .ok (Hints.none.set Hints.createdAtVersion (.string "8.1.0")) :=
    Hints.ofAnnotations_text_of_exact version.1 version.2 (Metadata.annotation?_annotate_self _ _ _)
  have started := start_eq_ok.mpr ⟨_, loads, rfl⟩
  have storable : ∀ h, .addHints h ∈ twice → h.Readable ∧ h.IsExact := by
    intro h member
    simp only [twice, List.mem_cons, reduceCtorEq, false_or, Operation.addHints.injEq,
      List.not_mem_nil, or_false] at member
    rw [member]
    exact one Hints.rollingUpgradeInProgress (show (Json.bool true).Ordered from trivial)
      trivial trivial
  have updates := (start_of_commit started version.2 storable).1 _ rfl
  obtain ⟨⟨next, again, status, -, -, unwritten⟩, -⟩ := updates
  exact ⟨_, _, next, started, version.2, storable, rfl, again, status, unwritten⟩

end Tracker

end SearchOperator
