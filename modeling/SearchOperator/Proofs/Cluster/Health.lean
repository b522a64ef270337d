import SearchOperator.Proofs.Cluster.Pass

/-!
# What the answer about the health decides

A pass asks the search cluster for its health, and whatever goes wrong then is no failure. So the
answer, or that there is none, decides the health of the status only, and whether an event tells of
a status worse than before. All else is decided without it.
-/

namespace SearchOperator

open Simulation

/-! ## Status and events -/

structure ClusterStatus.SameButHealth (s other : ClusterStatus) : Prop where
  phase : other.phase = s.phase
  availableNodes : other.availableNodes = s.availableNodes
  version : other.version = s.version

theorem ClusterStatus.SameButHealth.refl (s : ClusterStatus) : s.SameButHealth s := ⟨rfl, rfl, rfl⟩

structure Tracker.SameButHealth (t other : Tracker) : Prop where
  cluster : other.cluster = t.cluster
  status : t.status.SameButHealth other.status
  hints : other.hints = t.hints
  persistedHints : other.persistedHints = t.persistedHints
  events : other.events = t.events

/-- No events, or the one that tells of a status worse than before. -/
def Event.MayWarnOfHealth (events : List Event) : Prop :=
  events = [] ∨ events = [.warning .unhealthy Tracker.degradedMessage]

namespace Tracker

theorem sameButHealth_enter (t : Tracker) (phase : ClusterPhase) (resources : Resources)
    (observed other : Observation) :
    (t.enter phase resources observed).SameButHealth (t.enter phase resources other) :=
  ⟨rfl, ⟨rfl, rfl, rfl⟩, rfl, rfl, rfl⟩

theorem sameButHealth_mark (t : Tracker) (resources : Resources) (observed other : Observation)
    (d : PhaseDecision) :
    (SearchCluster.mark t resources observed d).SameButHealth
      (SearchCluster.mark t resources other d) := by
  cases d with
  | shutdownStalled detail => exact sameButHealth_enter _ _ _ _ _
  | migratingData => exact sameButHealth_enter _ _ _ _ _
  | applyingChanges => exact ⟨rfl, .refl _, rfl, rfl, rfl⟩
  | ready => exact sameButHealth_enter _ _ _ _ _
  | unchanged =>
      unfold SearchCluster.mark refresh
      simp only
      split
      · exact ⟨rfl, .refl _, rfl, rfl, rfl⟩
      · exact ⟨rfl, .refl _, rfl, rfl, rfl⟩
      · exact sameButHealth_enter _ _ _ _ _

variable {t other : Tracker}

theorem SameButHealth.addHints (same : t.SameButHealth other) (h : Hints) :
    (t.addHints h).SameButHealth (other.addHints h) where
  cluster := same.cluster
  status := same.status
  hints := congrArg (·.merge h) same.hints
  persistedHints := same.persistedHints
  events := same.events

theorem SameButHealth.isReady (same : t.SameButHealth other) : other.isReady = t.isReady := by
  rw [Tracker.isReady, Tracker.isReady, same.status.phase]

/-- The metadata that a tracker leaves have nothing to do with the health. -/
theorem SameButHealth.storedMetadata (same : t.SameButHealth other) :
    other.storedMetadata = t.storedMetadata := by
  rw [Tracker.storedMetadata, Tracker.storedMetadata, same.cluster, same.hints,
    same.persistedHints]

/-- Trackers that differ in health may disagree whether their status is worse than before, and
report the same otherwise. -/
theorem SameButHealth.events_commit (same : t.SameButHealth other) :
    ∃ more further, t.commit.1.events = t.events ++ more ∧
      other.commit.1.events = t.events ++ further ∧ Event.MayWarnOfHealth more ∧
        Event.MayWarnOfHealth further := by
  have either (worse : Bool) : Event.MayWarnOfHealth
      (if worse = true then [.warning .unhealthy degradedMessage] else []) := by
    cases worse with
    | true => exact .inr rfl
    | false => exact .inl rfl
  have theirs := other.events_commit
  rw [same.events] at theirs
  exact ⟨_, _, t.events_commit, theirs, either _, either _⟩

end Tracker

/-! ## Views -/

namespace View

variable {v : View} {c : SearchCluster} {h : Hints}

/-- A view in which the health is another one. -/
def observing (v : View) (other : Observation) : View := { v with observed := other }

theorem sameButHealth_tracked (v : View) (other : Observation) (c : SearchCluster) (h : Hints) :
    (v.tracked c h).SameButHealth ((v.observing other).tracked c h) := by
  unfold tracked
  simp only [observing]
  split
  · exact ⟨rfl, .refl _, rfl, rfl, rfl⟩
  · have marked := Tracker.sameButHealth_mark ⟨c, c.status.getD .initial, h, h, []⟩ v.resources
      v.observed other (.decide c v.resources v.now)
    rw [marked.hints]
    exact marked.addHints _

/-- What a pass makes of a cluster with another answer. -/
theorem after_observing (v : View) (other : Observation) (c : SearchCluster) :
    ((v.observing other).after c).metadata = (v.after c).metadata ∧
      ((v.observing other).after c).spec = (v.after c).spec ∧
      ((v.after c).status.getD .initial).SameButHealth
        (((v.observing other).after c).status.getD .initial) := by
  by_cases loaded : ∃ h, c.Loads h
  · obtain ⟨h, loads⟩ := loaded
    have same := v.sameButHealth_tracked other c h
    rw [after_of_loads loads, after_of_loads loads, Tracker.stored_metadata,
      Tracker.stored_metadata, Tracker.stored_spec, Tracker.stored_spec, Tracker.stored_status,
      Tracker.stored_status, same.cluster]
    exact ⟨same.storedMetadata, rfl, same.status⟩
  · rw [after_of_not_loads (not_exists.mp loaded), after_of_not_loads (not_exists.mp loaded)]
    exact ⟨rfl, rfl, .refl _⟩

theorem events_observing (v : View) (other : Observation) (c : SearchCluster) :
    ∃ shared more further, v.events c = shared ++ more ∧
      (v.observing other).events c = shared ++ further ∧ Event.MayWarnOfHealth more ∧
        Event.MayWarnOfHealth further := by
  unfold events
  cases c.hints? with
  | none => exact ⟨[], [], [], rfl, rfl, .inl rfl, .inl rfl⟩
  | some h => exact ⟨_, (v.sameButHealth_tracked other c h).events_commit⟩

/-- What a pass over a cluster ends with if no call fails. -/
def conclusion (v : View) (c : SearchCluster) : Except Error Schedule :=
  if c.metadata.isUnmanaged then .ok .onChange
  else
    match Hints.ofAnnotations c.metadata.annotations with
    | .error e => .error e
    | .ok h =>
      match c.check v.name h with
      | .error _ => .ok .onChange
      | .ok () => .ok (.after (if (v.tracked c h).isReady then 60 else 10))

@[simp]
theorem conclusion_observing (v : View) (other : Observation) (c : SearchCluster) :
    (v.observing other).conclusion c = v.conclusion c := by
  have ready (h : Hints) : ((v.observing other).tracked c h).isReady = (v.tracked c h).isReady :=
    (v.sameButHealth_tracked other c h).isReady
  unfold conclusion
  simp only [ready, show (v.observing other).name = v.name from rfl]

end View

/-! ## Passes -/

namespace Simulation

/-- Whether a call has to do neither with the answer about the health nor with the status. -/
def Call.isBesideHealth (call : Call) : Bool :=
  call.operation != "request" && call.operation != "patch_status"

namespace World

open SearchCluster

/-- Worlds that differ at most in how clients are had or refused, and how requests are answered. -/
def AnswersApart (w u : World) : Prop :=
  ∃ store rules refusal, u = { w with store := store, rules := rules, clientError := refusal }

variable {w u : World} {c : SearchCluster} {timeout : Duration} {now : Int} {name space : String}

/-- A read that does not fail gives what it looks at. -/
theorem read_of_unfailing {α : Type} (made : Call) (kube : made.isKubernetes = true)
    (look : World → α) (w : World) (same : look (w.called [made]) = look w)
    (unfailing : w.failure? made = none) :
    World.call made (fun w => (look w, w)) w = (.ok (look w), w.called [made]) := by
  rcases read_run made kube look w same with ⟨e, failing, -⟩ | ⟨-, read⟩
  · cases unfailing.symm.trans failing
  · exact read

/-- Writing back what a tracker collected succeeds if no write fails. -/
theorem finish_of_unfailing {t : Tracker} (started : t.cluster = c) (stored : w.cluster = some c)
    (unfailing : w.firstFailure? (c.writes t.stored) = none) (timeout : Duration) :
    (finish (clusterContext timeout) c t w).1 = .ok () := by
  cases started
  obtain ⟨left, ran, -⟩ := finish_run stored publisher timeout
  exact (congrArg Prod.fst ran).trans (ending_of_none unfailing ())

/-- An accepted cluster is observed, written back, and looked at again after a while. -/
theorem track_of_unfailing {h : Hints} (loads : c.Loads h) (accepted : c.check name h = .ok ())
    (stored : w.cluster = some c) (looking : w.firstFailure? (w.lookups name space) = none)
    (writing : w.firstFailure? (c.writes ((w.view timeout now name).after c)) = none) :
    (track (clusterContext timeout) now name space c ⟨c, c.status.getD .initial, h, h, []⟩ w).1 =
      .ok (.after (if ((w.view timeout now name).tracked c h).isReady then 60 else 10)) := by
  rw [firstFailure?_eq_none, lookups, List.forall_mem_cons, List.forall_mem_cons] at looking
  obtain ⟨listing, listed, -⟩ := looking
  have kube : (clusterContext timeout).kube = clusterApi := rfl
  have pods := read_of_unfailing (.listPods name space) rfl World.pods w rfl listing
  have sets := read_of_unfailing (.listStatefulSets name space) rfl World.statefulSets
    (w.called [.listPods name space]) rfl listed
  obtain ⟨u, observed, kept, failures⟩ : ∃ u, observe (clusterContext timeout) name space
      ((w.called [.listPods name space]).called [.listStatefulSets name space]) =
        (.ok (w.observation timeout), u) ∧ u.cluster = w.cluster ∧ u.failures = w.failures := by
    obtain ⟨rules, observed, -⟩ := observe_run
      ((w.called [.listPods name space]).called [.listStatefulSets name space]) publisher timeout
      name space
    rw [observation_congr w ((w.called _).called _) rfl rfl rfl timeout] at observed
    exact ⟨_, observed, rfl, rfl⟩
  rw [View.after_of_loads loads, ← firstFailure?_congr failures] at writing
  have finished := finish_of_unfailing ((w.view timeout now name).tracked_keeps c h).1
    (kept.trans stored) writing timeout
  rw [track_of_accepted _ _ _ _ accepted, kube, bind_run]
  simp only [clusterApi]
  rw [pods, follow_ok, bind_run, sets, follow_ok, bind_run, observed, follow_ok, bind_run]
  exact congrArg Prod.fst (follow_of_ok _ finished)

/-- A pass in which no call fails ends with the conclusion from what it observes. -/
theorem reconcile_of_unfailing (stored : w.cluster = some c)
    (looking : w.firstFailure? (w.looks c name space) = none)
    (writing : w.firstFailure? (c.writes ((w.view timeout now name).after c)) = none) :
    (reconcile (clusterContext timeout) now name space w).1 =
      (w.view timeout now name).conclusion c := by
  have kube : (clusterContext timeout).kube = clusterApi := rfl
  have found : w.failure? (.getCluster name space) = none :=
    firstFailure?_eq_none.mp looking _ List.mem_cons_self
  have loaded := read_of_unfailing (.getCluster name space) rfl World.cluster w rfl found
  rw [reconcile, kube, bind_run, View.conclusion]
  simp only [clusterApi]
  rw [loaded, follow_ok, stored]
  simp only
  by_cases unmanaged : c.metadata.isUnmanaged = true
  · rw [if_pos unmanaged, if_pos unmanaged, pure_run]
  · rw [if_neg unmanaged, if_neg unmanaged, bind_run, Step.ofExcept_run]
    cases parsed : Hints.ofAnnotations c.metadata.annotations with
    | error e =>
        rw [Tracker.start, parsed]
        rfl
    | ok h =>
        have loads : c.Loads h := ⟨Bool.eq_false_iff.mpr unmanaged, parsed⟩
        have named : (w.view timeout now name).name = name := rfl
        rw [Tracker.start_eq_ok.mpr ⟨h, parsed, rfl⟩, follow_ok, named]
        simp only
        cases checked : c.check name h with
        | error e =>
            have marked : (w.view timeout now name).tracked c h =
                Tracker.markInvalid ⟨c, c.status.getD .initial, h, h, []⟩ e :=
              View.tracked_eq_markInvalid checked
            rw [View.after_of_loads loads, marked] at writing
            simp only
            rw [bind_run]
            have finished := finish_of_unfailing (c := c) (w := w.called [.getCluster name space])
              (t := Tracker.markInvalid ⟨c, c.status.getD .initial, h, h, []⟩ e) rfl stored writing
              timeout
            exact congrArg Prod.fst (follow_of_ok _ finished)
        | ok _ =>
            rw [looks_of_accepted loads checked, firstFailure?_eq_none, List.forall_mem_cons,
              ← firstFailure?_eq_none] at looking
            rw [← view_called w [.getCluster name space]] at writing ⊢
            simp only
            exact track_of_unfailing (w := w.called [.getCluster name space]) loads checked stored
              looking.2 writing

/-- What a pass in which no call fails ends with, calls, leaves and reports. -/
theorem pass_of_unfailing (stored : w.cluster = some c) {made : List Call}
    (calls : (w.pass timeout now name space).calls = w.calls ++ made)
    (unfailing : w.firstFailure? made = none) :
    (reconcile (clusterContext timeout) now name space w).1 =
        (w.view timeout now name).conclusion c ∧
      made = w.looks c name space ++ c.writes ((w.view timeout now name).after c) ∧
      (w.pass timeout now name space).cluster = some ((w.view timeout now name).after c) ∧
      (w.pass timeout now name space).events =
        w.events ++ ((w.view timeout now name).events c).map (·.published c.reference) := by
  obtain ⟨o, ran, accounts⟩ := reconcile_outcome stored timeout now name space
  have ran : w.pass timeout now name space = o.world w c := congrArg Prod.snd ran
  rw [ran] at calls ⊢
  cases List.append_cancel_left (show w.calls ++ o.calls = w.calls ++ made from calls)
  obtain ⟨writes, left⟩ := accounts.complete unfailing
  rw [Outcome.calls, firstFailure?_append, Option.or_eq_none_iff] at unfailing
  obtain ⟨looks, events⟩ := accounts.looked unfailing.1
  rw [looks, writes] at unfailing
  refine ⟨reconcile_of_unfailing stored unfailing.1 unfailing.2, ?_, ?_, ?_⟩
  · rw [Outcome.calls, looks, writes]
    rfl
  · rw [← left]
    rfl
  · rw [← events]
    rfl

theorem filter_observing (w : World) (name space : String) :
    (w.observing name space).filter Call.isBesideHealth = [.clientFor name space] := by
  unfold observing
  split
  · rfl
  · rfl

/-- Beside the request for the health, what a pass looks at has nothing to do with answers. -/
theorem filter_looks (w u : World) (c : SearchCluster) (name space : String) :
    (u.looks c name space).filter Call.isBesideHealth =
      (w.looks c name space).filter Call.isBesideHealth := by
  have lookups (w : World) : (w.lookups name space).filter Call.isBesideHealth =
      [.listPods name space, .listStatefulSets name space, .clientFor name space] :=
    congrArg (Call.listPods name space :: .listStatefulSets name space :: ·)
      (filter_observing w name space)
  have found (calls : List Call) : (Call.getCluster name space :: calls).filter Call.isBesideHealth =
      .getCluster name space :: calls.filter Call.isBesideHealth := rfl
  rw [looks, looks, found, found]
  cases c.hints? with
  | none => rfl
  | some h =>
      simp only
      cases c.check name h with
      | error e => rfl
      | ok _ => exact congrArg _ ((lookups u).trans (lookups w).symm)

/-- Beside the write of the status, a pass writes the hints. -/
theorem filter_writes (c updated : SearchCluster) :
    (c.writes updated).filter Call.isBesideHealth = c.hintWrites updated := by
  have hints : (c.hintWrites updated).filter Call.isBesideHealth = c.hintWrites updated := by
    rcases c.hintWrites_cases updated with none | ⟨text, -, one⟩
    · rw [none]
      rfl
    · rw [one]
      rfl
  have status : (c.statusWrites updated).filter Call.isBesideHealth = [] := by
    rcases c.statusWrites_cases updated with none | ⟨status, -, -, one⟩
    · rw [none]
      rfl
    · rw [one]
      rfl
  rw [writes, List.filter_append, hints, status, List.append_nil]

/-- In two worlds that differ at most in how clients are had and requests are answered, let passes
over one cluster run in which no call of the Kubernetes API fails. They end alike, make the same
calls beside the request for the health and the write of the status, and leave the same spec, the
same metadata with the same hints, and a status that differs in the health at most; without a status,
a cluster counts as one with the initial status. Of a cluster that is accepted, both statuses follow
one decision. The same events are published, but for one about a worse status at the end. -/
theorem answers_change_health_only (apart : w.AnswersApart u) (stored : w.cluster = some c)
    {made others : List Call} (calls : (w.pass timeout now name space).calls = w.calls ++ made)
    (unfailing : w.firstFailure? made = none)
    (otherCalls : (u.pass timeout now name space).calls = u.calls ++ others)
    (otherUnfailing : u.firstFailure? others = none) :
    (reconcile (clusterContext timeout) now name space u).1 =
        (reconcile (clusterContext timeout) now name space w).1 ∧
      others.filter Call.isBesideHealth = made.filter Call.isBesideHealth ∧
      (∃ left other, (w.pass timeout now name space).cluster = some left ∧
        (u.pass timeout now name space).cluster = some other ∧
        other.spec = left.spec ∧ other.metadata = left.metadata ∧
        (left.status.getD .initial).SameButHealth (other.status.getD .initial) ∧
        ∀ h, c.Loads h → c.check name h = .ok () →
          let d := PhaseDecision.decide c ⟨w.pods, w.statefulSets⟩ now
          left.status.getD .initial =
              (w.view timeout now name).nextStatus d (c.status.getD .initial) ∧
            other.status.getD .initial =
              (u.view timeout now name).nextStatus d (c.status.getD .initial)) ∧
      ∃ shared more further,
        (w.pass timeout now name space).events =
            w.events ++ (shared ++ more).map (·.published c.reference) ∧
          (u.pass timeout now name space).events =
            w.events ++ (shared ++ further).map (·.published c.reference) ∧
          Event.MayWarnOfHealth more ∧ Event.MayWarnOfHealth further := by
  have otherStored : u.cluster = some c := by
    obtain ⟨store, rules, refusal, rfl⟩ := apart
    exact stored
  have history : u.events = w.events := by
    obtain ⟨store, rules, refusal, rfl⟩ := apart
    rfl
  have views : u.view timeout now name =
      (w.view timeout now name).observing (u.observation timeout) := by
    obtain ⟨store, rules, refusal, rfl⟩ := apart
    rfl
  obtain ⟨ends, all, left, published⟩ := pass_of_unfailing stored calls unfailing
  obtain ⟨otherEnds, otherAll, otherLeft, otherPublished⟩ :=
    pass_of_unfailing otherStored otherCalls otherUnfailing
  obtain ⟨metadata, spec, status⟩ :=
    (w.view timeout now name).after_observing (u.observation timeout) c
  obtain ⟨shared, more, further, reported, otherReported, warned, otherWarned⟩ :=
    (w.view timeout now name).events_observing (u.observation timeout) c
  have following (x : World) (same : (x.view timeout now name).resources = ⟨w.pods, w.statefulSets⟩)
      (h : Hints) (loads : c.Loads h) (accepted : c.check name h = .ok ()) :
      ((x.view timeout now name).after c).status.getD .initial =
        (x.view timeout now name).nextStatus (.decide c ⟨w.pods, w.statefulSets⟩ now)
          (c.status.getD .initial) := by
    have accepted : c.check (x.view timeout now name).name h = .ok () := accepted
    rw [View.status_after loads, (View.tracked_of_accepted accepted).1, same]
    rfl
  refine ⟨?_, ?_, ⟨_, _, left, otherLeft, ?_, ?_, ?_, fun h loads accepted => ⟨?_, ?_⟩⟩,
    shared, more, further, ?_, ?_, warned, otherWarned⟩
  · rw [ends, otherEnds, views, View.conclusion_observing]
  · have hints := SearchCluster.hintWrites_congr (c := c) metadata
    rw [all, otherAll, List.filter_append, List.filter_append, filter_looks w u, filter_writes,
      filter_writes, views, hints]
  · rw [views, spec]
  · rw [views, metadata]
  · rw [views]
    exact status
  · exact following w rfl h loads accepted
  · exact following u (by rw [views]; rfl) h loads accepted
  · rw [published, reported]
  · rw [otherPublished, views, otherReported, history]

/-- A cluster whose only node is ready and that reports to be green. -/
def greenWorld : World :=
  { empty with
    store := .ofList [(Observation.healthPath, Json.bytesOf "\x7b\"status\":\"green\"\x7d")]
    cluster := some ⟨{ Metadata.blank with name := some "logs" }, ⟨"8.1.0", [⟨"data", 1⟩]⟩,
      some ⟨.ready, .green, 1, "8.1.0"⟩⟩
    pods := [⟨{ Metadata.blank with labels := some (.ofList [(versionLabel, "8.1.0")]) },
      some ⟨some "Running", [("Ready", "True")]⟩⟩]
    statefulSets := [⟨{ Metadata.blank with name := some "logs-search-data" },
      some ⟨some 1, some (.ofList [(versionLabel, "8.1.0")])⟩⟩] }

def refusedWorld : World := { greenWorld with clientError := some (.internal "refused" "client") }

/-- If no client is had, the pass only says that the health went down, and stores that. -/
theorem answers_change_health_only_refused :
    ∃ made others, (greenWorld.pass ⟨1⟩ 0 "logs" "").calls = greenWorld.calls ++ made ∧
      greenWorld.firstFailure? made = none ∧
      (refusedWorld.pass ⟨1⟩ 0 "logs" "").calls = refusedWorld.calls ++ others ∧
      refusedWorld.firstFailure? others = none ∧
      others.filter Call.isBesideHealth = made.filter Call.isBesideHealth ∧
      (greenWorld.pass ⟨1⟩ 0 "logs" "").events = [] ∧
      (refusedWorld.pass ⟨1⟩ 0 "logs" "").events.map (·.reason) = ["Unhealthy"] ∧
      (refusedWorld.pass ⟨1⟩ 0 "logs" "").cluster.map (·.metadata) =
        (greenWorld.pass ⟨1⟩ 0 "logs" "").cluster.map (·.metadata) := by
  have apart : greenWorld.AnswersApart refusedWorld := ⟨_, _, _, rfl⟩
  have unfailing (made : List Call) : greenWorld.firstFailure? made = none :=
    firstFailure?_eq_none.mpr fun call _ => failure?_of_failures rfl call
  have otherUnfailing (made : List Call) : refusedWorld.firstFailure? made = none :=
    firstFailure?_eq_none.mpr fun call _ => failure?_of_failures rfl call
  have calls : (greenWorld.pass ⟨1⟩ 0 "logs" "").calls =
      greenWorld.calls ++ (greenWorld.pass ⟨1⟩ 0 "logs" "").calls := (List.nil_append _).symm
  have otherCalls : (refusedWorld.pass ⟨1⟩ 0 "logs" "").calls =
      refusedWorld.calls ++ (refusedWorld.pass ⟨1⟩ 0 "logs" "").calls := (List.nil_append _).symm
  obtain ⟨-, same, ⟨left, other, stored, otherStored, -, metadata, -, -⟩, -⟩ :=
    answers_change_health_only apart rfl calls (unfailing _) otherCalls (otherUnfailing _)
  refine ⟨_, _, calls, unfailing _, otherCalls, otherUnfailing _, same, by decide +kernel,
    by decide +kernel, ?_⟩
  rw [stored, otherStored, Option.map_some, Option.map_some, metadata]

end World

end Simulation

end SearchOperator
