import SearchOperator.Proofs.Cluster.Checkpoint
import SearchOperator.Proofs.Version.Lowest

/-!
# The version of a fleet

The version that a cluster reports is the lowest that its pods run or its StatefulSets are about to
start, pods that shut down included. One label that is no version leaves its side out, so that no
minimum over a part of the pods is taken for that of all. If no label counts, what was reported
before stays.
-/

namespace SearchOperator

/-! ## The labels of a fleet -/

namespace Resources

def podLabels (r : Resources) : List String := r.pods.filterMap (·.version?)

def templateLabels (r : Resources) : List String := r.statefulSets.filterMap (·.templateVersion?)

variable {r shuffled : Resources}

/-- The lowest version is that of the labels on both sides, as far as a side counts. -/
theorem lowestOf_lowestVersion (r : Resources) :
    Version.LowestOf (Version.counted r.podLabels ++ Version.counted r.templateLabels)
      r.lowestVersion := by
  have both := (Version.lowestOf_counted r.podLabels).append
    (Version.lowestOf_counted r.templateLabels)
  have same : r.lowestVersion = Version.lowerOf r.lowestPodVersion.toOption.join
      r.lowestTemplateVersion.toOption.join := by
    rw [lowestVersion]
    cases r.lowestPodVersion.toOption.join with
    | none => rfl
    | some v =>
        cases r.lowestTemplateVersion.toOption.join with
        | none => rfl
        | some w => rfl
  rw [same]
  exact both

/-- The order of pods and StatefulSets does not count. -/
theorem lowestVersion_perm (pods : r.pods.Perm shuffled.pods)
    (statefulSets : r.statefulSets.Perm shuffled.statefulSets) :
    shuffled.lowestVersion = r.lowestVersion := by
  have labels : (Version.counted r.podLabels ++ Version.counted r.templateLabels).Perm
      (Version.counted shuffled.podLabels ++ Version.counted shuffled.templateLabels) :=
    (Version.counted_perm (pods.filterMap _)).append (Version.counted_perm (statefulSets.filterMap _))
  exact shuffled.lowestOf_lowestVersion.unique (r.lowestOf_lowestVersion.perm labels)

/-- A text tells the least of the versions on some labels, or what it told before if there are
none. -/
def Tells (labels : List String) (before told : String) : Prop :=
  (∃ v, IsLeast (Version.versionsOf labels) v ∧ told = v.text) ∨ labels = [] ∧ told = before

theorem tells_of_lowestOf {labels : List String} {lowest : Option Version}
    (least : Version.LowestOf labels lowest) (before : String) :
    Tells labels before ((lowest.map Version.text).getD before) := by
  cases lowest with
  | none => exact .inr ⟨least, rfl⟩
  | some v => exact .inl ⟨v, least, rfl⟩

/-- A text tells the least version of a fleet. A side with a label that is no version is left out,
and with both sides left out nothing else is told. -/
structure TellsLowest (r : Resources) (before told : String) : Prop where
  all : (∀ label ∈ r.podLabels, Version.IsVersion label) →
    (∀ label ∈ r.templateLabels, Version.IsVersion label) →
    Tells (r.podLabels ++ r.templateLabels) before told
  pods : (∀ label ∈ r.podLabels, Version.IsVersion label) →
    (∃ label ∈ r.templateLabels, ¬ Version.IsVersion label) → Tells r.podLabels before told
  templates : (∃ label ∈ r.podLabels, ¬ Version.IsVersion label) →
    (∀ label ∈ r.templateLabels, Version.IsVersion label) → Tells r.templateLabels before told
  neither : (∃ label ∈ r.podLabels, ¬ Version.IsVersion label) →
    (∃ label ∈ r.templateLabels, ¬ Version.IsVersion label) → told = before

theorem tellsLowest_lowestVersion (r : Resources) (before : String) :
    r.TellsLowest before ((r.lowestVersion.map Version.text).getD before) := by
  have told := tells_of_lowestOf r.lowestOf_lowestVersion before
  constructor
  · intro pods templates
    rwa [Version.counted_of_versions pods, Version.counted_of_versions templates] at told
  · intro pods templates
    rwa [Version.counted_of_versions pods, Version.counted_of_malformed templates,
      List.append_nil] at told
  · intro pods templates
    rwa [Version.counted_of_malformed pods, Version.counted_of_versions templates,
      List.nil_append] at told
  · intro pods templates
    have least := r.lowestOf_lowestVersion
    rw [Version.counted_of_malformed pods, Version.counted_of_malformed templates] at least
    have none : r.lowestVersion = none := least.unique rfl
    rw [none]
    rfl

end Resources

/-! ## Updates -/

namespace Tracker

/-- An operation that takes over what was observed of some resources. A refresh does so only in a
phase that lasts for more than one pass. -/
inductive Refreshes (t : Tracker) : Operation → Resources → Prop where
  | refresh {resources : Resources} {observed : Observation} (valid : t.status.phase ≠ .invalid)
      (moving : t.status.phase ≠ .nodeShutdownStalled) :
      Refreshes t (.refresh resources observed) resources
  | markReady {resources : Resources} {observed : Observation} :
      Refreshes t (.markReady resources observed) resources
  | markMigratingData {resources : Resources} {observed : Observation} :
      Refreshes t (.markMigratingData resources observed) resources
  | markShutdownStalled {resources : Resources} {observed : Observation} {detail : String} :
      Refreshes t (.markShutdownStalled resources observed detail) resources

variable {t : Tracker} {operation : Operation} {r : Resources}

theorem version_enter (t : Tracker) (phase : ClusterPhase) (r : Resources)
    (observed : Observation) : (t.enter phase r observed).status.version =
      (r.lowestVersion.map Version.text).getD t.status.version := by
  rw [enter]
  cases r.lowestVersion with
  | none => rfl
  | some v => rfl

theorem version_perform (refreshes : t.Refreshes operation r) :
    (t.perform operation).status.version =
      (r.lowestVersion.map Version.text).getD t.status.version := by
  cases refreshes with
  | refresh valid moving =>
      rename_i observed
      have entered : t.refresh r observed = t.enter t.status.phase r observed := by
        rw [refresh]
        split
        · rename_i invalid
          exact absurd invalid valid
        · rename_i stalled
          exact absurd stalled moving
        · rfl
      show (t.refresh r observed).status.version = _
      rw [entered]
      exact version_enter t _ r observed
  | markReady => exact version_enter t _ r _
  | markMigratingData => exact version_enter _ _ r _
  | markShutdownStalled => exact version_enter _ _ r _

/-- An operation that takes over what was observed writes the least of the versions on the labels
of all pods and StatefulSets, whatever their order. A side with a label that is no version is left
out, and what was written before stays if no label is left. The search for the lowest version among
texts finds the least of their versions, finds nothing only in no texts, and otherwise fails with
the fault of the first text that is no version. -/
theorem version_of_fleet (refreshes : t.Refreshes operation r) :
    r.TellsLowest t.status.version (t.perform operation).status.version ∧
    (∀ other shuffled, t.Refreshes other shuffled → r.pods.Perm shuffled.pods →
      r.statefulSets.Perm shuffled.statefulSets →
      (t.perform other).status.version = (t.perform operation).status.version) ∧
    (∀ texts v, Version.lowest? texts = .ok (some v) ↔
      (∀ text ∈ texts, Version.IsVersion text) ∧ IsLeast (Version.versionsOf texts) v) ∧
    (∀ texts, Version.lowest? texts = .ok none ↔ texts = []) ∧
    (∀ texts e, Version.lowest? texts = .error e ↔
      ∃ before text after, texts = before ++ text :: after ∧
        (∀ other ∈ before, Version.IsVersion other) ∧ Version.parse text = .error e) := by
  refine ⟨?_, ?_, fun texts v => Version.lowest?_eq_ok, fun texts => ?_,
    fun texts e => Version.lowest?_eq_error⟩
  · rw [version_perform refreshes]
    exact r.tellsLowest_lowestVersion _
  · intro other shuffled also pods statefulSets
    rw [version_perform refreshes, version_perform also,
      Resources.lowestVersion_perm pods statefulSets]
  · rw [Version.lowest?_eq_ok]
    constructor
    · exact fun found => found.2
    · rintro rfl
      exact ⟨fun text member => (List.not_mem_nil member).elim, rfl⟩

/-- A fleet whose oldest pod is shutting down, and a StatefulSet whose label is no version. -/
def draining : Resources where
  pods :=
    [⟨{ Metadata.blank with labels := some (.ofList [(versionLabel, "8.1.0")]) }, none⟩,
      ⟨{ Metadata.blank with
        labels := some (.ofList [(versionLabel, "8.0.3-rc.1+built")]), deletion := some 0 }, none⟩]
  statefulSets := [⟨Metadata.blank, some ⟨some 2, some (.ofList [(versionLabel, "latest")])⟩⟩]

def unversioned : Tracker := ⟨created, .initial, .none, .none, []⟩

/-- The version of the pod that is shutting down is the least of this fleet, and a refresh writes
it without its build metadata. -/
theorem version_of_fleet_draining :
    unversioned.Refreshes (.refresh draining .nothing) draining ∧
      ∃ v, IsLeast (Version.versionsOf ["8.1.0", "8.0.3-rc.1+built"]) v ∧
        v.text = "8.0.3-rc.1" ∧
        (unversioned.perform (.refresh draining .nothing)).status.version = v.text := by
  have refreshes : unversioned.Refreshes (.refresh draining .nothing) draining :=
    .refresh (by decide) (by decide)
  have versions : ∀ label ∈ draining.podLabels, Version.IsVersion label := by decide +kernel
  have malformed : ∃ label ∈ draining.templateLabels, ¬ Version.IsVersion label := by
    decide +kernel
  have labels : draining.podLabels = ["8.1.0", "8.0.3-rc.1+built"] := by decide +kernel
  have written : (unversioned.perform (.refresh draining .nothing)).status.version =
      "8.0.3-rc.1" := by decide +kernel
  refine ⟨refreshes, ?_⟩
  rcases (version_of_fleet refreshes).1.pods versions malformed with ⟨v, least, told⟩ | ⟨none, -⟩
  · rw [labels] at least
    exact ⟨v, least, told.symm.trans written, told⟩
  · rw [labels] at none
    cases none

end Tracker

end SearchOperator
