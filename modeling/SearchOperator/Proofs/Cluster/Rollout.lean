import SearchOperator.Proofs.Cluster.Fleet
import SearchOperator.Proofs.Cluster.Settling
import SearchOperator.Proofs.Version.Order
import SearchOperator.Proofs.Version.Text

/-!
# Rollouts stay accepted

While a cluster moves from one version to another, its pods and StatefulSets have versions between
the two. The version that a pass stores is one of theirs or the one that was stored, so it stays
between the two as well, and the step from it to the declared version is one that is accepted. This
holds whichever calls fail, since a pass writes the status as a whole or not at all.
-/

namespace SearchOperator

open Simulation

/-! ## The lowest of some labels -/

namespace Version

def Between (source target v : Version) : Prop := source ≤ v ∧ v ≤ target

end Version

namespace Resources

def versionLabels (r : Resources) : List String :=
  r.pods.filterMap (·.version?) ++ r.statefulSets.filterMap (·.templateVersion?)

/-- Every label that is a version lies between two versions. -/
def LabelsBetween (r : Resources) (source target : Version) : Prop :=
  ∀ label ∈ r.versionLabels, ∀ v, Version.parse label = .ok v → Version.Between source target v

theorem mem_of_lowestVersion {r : Resources} {v : Version} (found : r.lowestVersion = some v) :
    ∃ label ∈ r.versionLabels, Version.parse label = .ok v := by
  have least := r.lowestOf_lowestVersion
  rw [found] at least
  obtain ⟨label, member, parsed⟩ := least.1
  refine ⟨label, ?_, parsed⟩
  rcases List.mem_append.mp member with pod | template
  · exact List.mem_append_left _ (Version.counted_subset pod)
  · exact List.mem_append_right _ (Version.counted_subset template)

end Resources

/-! ## A rollout -/

/-- The text of a version between two others. -/
def Version.IsTextBetween (text : String) (source target : Version) : Prop :=
  ∃ v, Version.parse text = .ok v ∧ Version.Between source target v

namespace SearchCluster

/-- A valid cluster declares a version, and the version that it reported last lies between that one
and the one from which it started. -/
structure Rolls (c : SearchCluster) (source target : Version) : Prop where
  valid : c.spec.validate = .ok ()
  declared : Version.parse c.spec.version = .ok target
  reported : ∃ s, c.status = some s ∧ Version.IsTextBetween s.version source target

variable {c : SearchCluster} {source target : Version}

/-- The step that a rollout still has to make is accepted. -/
theorem check_of_rolls (rolls : c.Rolls source target)
    (step : source = target ∨ source.isUpgrade target = true) (name : String) (h : Hints) :
    c.check name h = .ok () := by
  obtain ⟨s, stored, v, parsed, above, below⟩ := rolls.reported
  have some : s.version ≠ "" := Version.ne_empty_of_parse parsed
  have reported : c.reportedVersion? h = Option.some s.version := by
    rw [reportedVersion?, stored]
    simp only [Option.map_some, if_neg some]
  have reachable := Version.isUpgrade_of_between step above below
  simp only [check, rolls.valid, checkUpgrade, reported, parsed, rolls.declared]
  show (if v = target ∨ v.isUpgrade target = true then _ else _) = _
  rw [if_pos reachable]
  rfl

end SearchCluster

namespace View

variable {v : View} {c : SearchCluster} {h : Hints} {source target : Version}

theorem status_after_of_some (loads : c.Loads h) {s : ClusterStatus} (stored : c.status = some s) :
    (v.after c).status = some (v.tracked c h).status := by
  have started := (v.tracked_keeps c h).1
  rw [after_of_loads loads]
  by_cases unchanged : (v.tracked c h).IsUnchanged
  · have same := unchanged.1
    rw [started, stored, Option.getD_some] at same
    rw [Tracker.stored_of_unchanged unchanged, started, stored, same]
  · rw [Tracker.stored_of_changed unchanged]

/-- The version that a pass stores is the one before or the lowest of the labels. -/
theorem nextStatus_version (v : View) (d : PhaseDecision) (s : ClusterStatus) :
    (v.nextStatus d s).version = s.version ∨
      ∃ lowest, v.resources.lowestVersion = some lowest ∧
        (v.nextStatus d s).version = lowest.text := by
  have taken (phase : ClusterPhase) : (v.statusIn phase s).version = s.version ∨
      ∃ lowest, v.resources.lowestVersion = some lowest ∧
        (v.statusIn phase s).version = lowest.text := by
    rw [statusIn]
    cases v.resources.lowestVersion with
    | none => exact .inl rfl
    | some lowest => exact .inr ⟨lowest, rfl, rfl⟩
  cases d with
  | shutdownStalled detail => exact taken _
  | migratingData => exact taken _
  | applyingChanges => exact .inl rfl
  | ready => exact taken _
  | unchanged =>
      rw [nextStatus]
      cases s.phase with
      | invalid => exact .inl rfl
      | nodeShutdownStalled => exact .inl rfl
      | _ => exact taken _

theorem isTextBetween_nextStatus (labels : v.resources.LabelsBetween source target)
    (d : PhaseDecision) {s : ClusterStatus}
    (reported : Version.IsTextBetween s.version source target) :
    Version.IsTextBetween (v.nextStatus d s).version source target := by
  rcases v.nextStatus_version d s with same | ⟨lowest, found, text⟩
  · rw [same]
    exact reported
  · obtain ⟨label, member, parsed⟩ := Resources.mem_of_lowestVersion found
    rw [text]
    exact ⟨lowest, Version.parse_text (Version.readable_of_parse parsed),
      labels label member lowest parsed⟩

theorem status_after_of_rolls (loads : c.Loads h) (rolls : c.Rolls source target)
    (step : source = target ∨ source.isUpgrade target = true)
    (labels : v.resources.LabelsBetween source target) :
    ∃ s, (v.after c).status = some s ∧ s.phase ≠ .invalid ∧
      Version.IsTextBetween s.version source target := by
  obtain ⟨s, stored, reported⟩ := rolls.reported
  have accepted := SearchCluster.check_of_rolls rolls step v.name h
  refine ⟨_, status_after_of_some loads stored, ?_⟩
  rw [(tracked_of_accepted accepted).1, stored, Option.getD_some]
  exact ⟨v.nextStatus_phase _ _, isTextBetween_nextStatus labels _ reported⟩

/-- A pass over a rollout leaves a rollout. -/
theorem rolls_after (rolls : c.Rolls source target)
    (step : source = target ∨ source.isUpgrade target = true)
    (labels : v.resources.LabelsBetween source target) : (v.after c).Rolls source target := by
  by_cases loaded : ∃ h, c.Loads h
  · obtain ⟨h, loads⟩ := loaded
    obtain ⟨s, stored, -, reported⟩ := status_after_of_rolls loads rolls step labels
    have spec := (isRevisionOf_after (v := v) loads).spec
    exact ⟨by rw [spec, rolls.valid], by rw [spec, rolls.declared], s, stored, reported⟩
  · rw [after_of_not_loads (not_exists.mp loaded)]
    exact rolls

/-! ## What a pass reports -/

theorem reason_of_mem_mark {t : Tracker} {resources : Resources} {observed : Observation}
    {d : PhaseDecision} {e : Event}
    (member : e ∈ (SearchCluster.mark t resources observed d).events) :
    e ∈ t.events ∨ e.reason = EventReason.delayed.text ∨ e.reason = EventReason.stalled.text := by
  have queued {e' : Event} (member : e ∈ t.events ++ [e']) : e ∈ t.events ∨ e = e' :=
    (List.mem_append.mp member).imp_right List.mem_singleton.mp
  cases d with
  | shutdownStalled detail =>
      exact (queued member).imp_right fun same => .inr (by rw [same]; rfl)
  | migratingData => exact (queued member).imp_right fun same => .inl (by rw [same]; rfl)
  | applyingChanges => exact .inl member
  | ready => exact .inl member
  | unchanged =>
      simp only [SearchCluster.mark, Tracker.refresh] at member
      split at member
      · exact .inl member
      · exact .inl member
      · exact .inl member

theorem reason_of_mem_commit {t : Tracker} {e : Event} (member : e ∈ t.commit.1.events) :
    e ∈ t.events ∨ e.reason = EventReason.unhealthy.text := by
  rw [Tracker.events_commit] at member
  rcases List.mem_append.mp member with old | new
  · exact .inl old
  · split at new
    · rw [List.mem_singleton.mp new]
      exact .inr rfl
    · cases new

/-- A pass over an accepted cluster reports nothing on its spec. -/
theorem reason_of_mem_published (accepted : c.check v.name h = .ok ()) {e : PublishedEvent}
    (member : e ∈ World.published (v.tracked c h)) : e.reason ≠ EventReason.validation.text := by
  obtain ⟨queued, inside, rfl⟩ := List.mem_map.mp member
  have known : queued.reason = EventReason.delayed.text ∨ queued.reason = EventReason.stalled.text ∨
      queued.reason = EventReason.unhealthy.text := by
    rcases reason_of_mem_commit inside with early | late
    · unfold tracked at early
      rw [accepted] at early
      rcases reason_of_mem_mark early with none | delayed | stalled
      · cases none
      · exact .inl delayed
      · exact .inr (.inl stalled)
    · exact .inr (.inr late)
  show queued.reason ≠ _
  rcases known with reason | reason | reason
  · rw [reason]
    decide
  · rw [reason]
    decide
  · rw [reason]
    decide

end View

/-! ## Passes in turn -/

namespace SearchCluster

variable {c updated left : SearchCluster} {α : Type} {result : Except Error α} {made : List Call}

/-- A write of the status among the writes that make one cluster of another is one of the status
that this one has. -/
theorem status_of_mem_writes {name space : String} {status : ClusterStatus}
    (member : Call.patchClusterStatus name space status ∈ c.writes updated) :
    updated.status = some status := by
  rw [writes] at member
  rcases List.mem_append.mp member with hints | written
  · rw [hintWrites] at hints
    split at hints
    · split at hints
      · cases List.mem_singleton.mp hints
      · cases hints
    · cases hints
  · rw [statusWrites] at written
    split at written
    · rename_i stored
      split at written
      · cases List.mem_singleton.mp written
        exact stored
      · cases written
    · cases written

/-- Of a rollout, whatever a pass wrote before a call failed leaves a rollout. -/
theorem Wrote.rolls (wrote : Wrote c updated result made left) {source target : Version}
    (before : c.Rolls source target) (after : updated.Rolls source target) :
    left.Rolls source target := by
  cases wrote with
  | all a => exact after
  | hintsOnly e => exact ⟨after.valid, after.declared, before.reported⟩
  | nothing e => exact before
  | unread e => exact before

end SearchCluster

namespace Simulation

def Call.MarksInvalid (call : Call) : Prop :=
  ∃ name space status, call = .patchClusterStatus name space status ∧ status.phase = .invalid

/-- A pass over the cluster, after changes to the world that leave its spec and its status alone. -/
structure ClusterTurn where
  change : World → World
  keeps : ∀ w, (change w).cluster.map (fun c => (c.spec, c.status)) =
    w.cluster.map fun c => (c.spec, c.status)
  timeout : Duration
  now : Int
  name : String
  space : String

namespace ClusterTurn

def run (t : ClusterTurn) (w : World) : World := (t.change w).pass t.timeout t.now t.name t.space

/-- The pods and StatefulSets that the pass of a turn finds have versions between two others. -/
def LabelsBetween (t : ClusterTurn) (source target : Version) : Prop :=
  ∀ w, Resources.LabelsBetween ⟨(t.change w).pods, (t.change w).statefulSets⟩ source target

end ClusterTurn

namespace World

def Rolls (w : World) (source target : Version) : Prop :=
  ∃ c, w.cluster = some c ∧ c.Rolls source target

variable {w : World} {source target : Version}

theorem rolls_change (t : ClusterTurn) (rolls : w.Rolls source target) :
    (t.change w).Rolls source target := by
  obtain ⟨c, stored, rolling⟩ := rolls
  have kept := t.keeps w
  rw [stored] at kept
  obtain ⟨d, changed, same⟩ := Option.map_eq_some_iff.mp kept
  obtain ⟨spec, status⟩ := Prod.mk.inj same
  exact ⟨d, changed, by rw [spec, rolling.valid], by rw [spec, rolling.declared],
    status ▸ rolling.reported⟩

/-- A pass over a rollout leaves a rollout, and it neither marks the cluster as invalid nor reports
it so. -/
theorem pass_of_rolls (rolls : w.Rolls source target)
    (step : source = target ∨ source.isUpgrade target = true)
    (labels : Resources.LabelsBetween ⟨w.pods, w.statefulSets⟩ source target)
    (timeout : Duration) (now : Int) (name space : String) :
    (w.pass timeout now name space).Rolls source target ∧
      ∃ made events, (w.pass timeout now name space).calls = w.calls ++ made ∧
        (w.pass timeout now name space).events = w.events ++ events ∧
        (∀ call ∈ made, ¬ call.MarksInvalid) ∧
        ∀ e ∈ events, e.reason ≠ EventReason.validation.text := by
  obtain ⟨c, stored, rolling⟩ := rolls
  obtain ⟨o, run, accounts⟩ := reconcile_outcome stored timeout now name space
  have after := View.rolls_after (v := w.view timeout now name) rolling step labels
  rw [pass, run]
  refine ⟨⟨o.left, rfl, accounts.wrote.rolls rolling after⟩, o.calls, o.published c, rfl, rfl, ?_,
    ?_⟩
  · rintro call member ⟨_, _, status, rfl, invalid⟩
    -- whichever call failed, a status that was written is the one of the whole pass
    obtain ⟨among, h, loads⟩ := accounts.written rfl member
    obtain ⟨s, next, valid, -⟩ := View.status_after_of_rolls (v := w.view timeout now name)
      loads rolling step labels
    rw [SearchCluster.status_of_mem_writes among, Option.some.injEq] at next
    exact valid (next ▸ invalid)
  · intro e member
    obtain ⟨h, loads, reported⟩ := accounts.reported member
    exact View.reason_of_mem_published (SearchCluster.check_of_rolls rolling step name h) reported

def clusterTurns (ts : List ClusterTurn) (w : World) : World := ts.foldl (fun w t => t.run w) w

theorem rolls_of_turns {ts : List ClusterTurn} (rolls : w.Rolls source target)
    (step : source = target ∨ source.isUpgrade target = true)
    (labels : ∀ t ∈ ts, t.LabelsBetween source target) :
    (w.clusterTurns ts).Rolls source target := by
  induction ts generalizing w with
  | nil => exact rolls
  | cons t rest ih =>
      obtain ⟨next, -⟩ := pass_of_rolls (rolls_change t rolls) step
        (labels t List.mem_cons_self w) t.timeout t.now t.name t.space
      exact ih next fun other member => labels other (List.mem_cons_of_mem t member)

/-- Let a valid cluster declare a version that is the one it reported last or an upgrade of it. As
long as its pods and StatefulSets have versions between the two, whichever calls fail, at every
moment of a run the stored cluster reports a version between the two, and the next pass neither
marks it as invalid nor reports it so. -/
theorem clusterTurns_keep_rollout {c : SearchCluster} {s : ClusterStatus}
    (stored : w.cluster = some c) (valid : c.spec.validate = .ok ())
    (declared : Version.parse c.spec.version = .ok target) (status : c.status = some s)
    (reported : Version.parse s.version = .ok source)
    (step : source = target ∨ source.isUpgrade target = true) (earlier : List ClusterTurn)
    (labels : ∀ t ∈ earlier, t.LabelsBetween source target) :
    (∃ d s v, (w.clusterTurns earlier).cluster = some d ∧ d.status = some s ∧
        Version.parse s.version = .ok v ∧ source ≤ v ∧ v ≤ target) ∧
      ∀ t : ClusterTurn, t.LabelsBetween source target →
        ∃ made events,
          (w.clusterTurns (earlier ++ [t])).calls =
            (t.change (w.clusterTurns earlier)).calls ++ made ∧
          (w.clusterTurns (earlier ++ [t])).events =
            (t.change (w.clusterTurns earlier)).events ++ events ∧
          (∀ call ∈ made, ¬ call.MarksInvalid) ∧
          ∀ e ∈ events, e.reason ≠ EventReason.validation.text := by
  have start : source ≤ target := by
    rcases step with rfl | upgrade
    · exact Std.le_refl source
    · exact Std.le_of_lt (Version.isUpgrade_iff.mp upgrade).2
  have rolls : w.Rolls source target :=
    ⟨c, stored, valid, declared, s, status, source, reported, Std.le_refl source, start⟩
  have reached := rolls_of_turns rolls step labels
  constructor
  · obtain ⟨d, found, rolling⟩ := reached
    obtain ⟨s, status, v, parsed, between⟩ := rolling.reported
    exact ⟨d, s, v, found, status, parsed, between⟩
  · intro t between
    have next : w.clusterTurns (earlier ++ [t]) = t.run (w.clusterTurns earlier) :=
      List.foldl_append
    rw [next]
    exact (pass_of_rolls (rolls_change t reached) step (between _) t.timeout t.now t.name
      t.space).2

/-- A cluster of one node whose declared version was just raised. -/
def raisedWorld : World :=
  { empty with
    cluster := some ⟨{ Metadata.blank with name := some "logs" }, ⟨"8.1.0", [⟨"data", 1⟩]⟩,
      some ⟨.ready, .green, 1, "8.0.0"⟩⟩ }

/-- A turn in which the pod has a version, and its StatefulSet the declared one. -/
def podTurn (version : String) (failures : Dictionary Error) : ClusterTurn where
  change w :=
    { w with
      pods := [⟨{ Metadata.blank with labels := some (.ofList [(versionLabel, version)]) }, none⟩]
      statefulSets := [⟨{ Metadata.blank with name := some "logs-search-data" },
        some ⟨some 1, some (.ofList [(versionLabel, "8.1.0")])⟩⟩]
      failures := failures }
  keeps _ := rfl
  timeout := ⟨0⟩
  now := 0
  name := "logs"
  space := ""

/-- The turns of a rollout in which writing the status fails once: the pod has the version before,
and then the declared one. -/
def rolloutTurns : List ClusterTurn :=
  [podTurn "8.0.0" ∅,
    podTurn "8.1.0" (.ofList [("patch_status", .internal "unavailable" "patch_status")]),
    podTurn "8.1.0" ∅]

theorem podTurn_between {version : String} {v : Version} (parsed : Version.parse version = .ok v)
    (between : Version.Between (.release 8 0 0) (.release 8 1 0) v) (failures : Dictionary Error) :
    (podTurn version failures).LabelsBetween (.release 8 0 0) (.release 8 1 0) := by
  have declared : Version.parse "8.1.0" = .ok (.release 8 1 0) := rfl
  have top : Version.Between (.release 8 0 0) (.release 8 1 0) (.release 8 1 0) :=
    ⟨by decide, by decide⟩
  intro w label member u read
  have one : label ∈ [version, "8.1.0"] := member
  rcases List.mem_cons.mp one with rfl | one
  · cases parsed.symm.trans read
    exact between
  · rw [List.mem_singleton.mp one] at read
    cases declared.symm.trans read
    exact top

/-- After the rollout the declared version is reported, and no turn of it marks the cluster. -/
theorem clusterTurns_keep_rollout_raised :
    (∃ d s v, (raisedWorld.clusterTurns rolloutTurns).cluster = some d ∧ d.status = some s ∧
      Version.parse s.version = .ok v ∧ Version.release 8 0 0 ≤ v ∧ v ≤ .release 8 1 0) ∧
    ((raisedWorld.clusterTurns rolloutTurns).cluster.bind (·.status)).map (·.version) =
      some "8.1.0" := by
  have old : Version.Between (.release 8 0 0) (.release 8 1 0) (.release 8 0 0) :=
    ⟨by decide, by decide⟩
  have new : Version.Between (.release 8 0 0) (.release 8 1 0) (.release 8 1 0) :=
    ⟨by decide, by decide⟩
  have labels : ∀ t ∈ rolloutTurns, t.LabelsBetween (.release 8 0 0) (.release 8 1 0) := by
    intro t member
    simp only [rolloutTurns, List.mem_cons, List.not_mem_nil, or_false] at member
    rcases member with rfl | rfl | rfl
    · exact podTurn_between rfl old _
    · exact podTurn_between rfl new _
    · exact podTurn_between rfl new _
  refine ⟨(clusterTurns_keep_rollout (w := raisedWorld) rfl rfl rfl rfl rfl (.inr (by decide))
    rolloutTurns labels).1, by decide +kernel⟩

end World

end Simulation

end SearchOperator
