import SearchOperator.Proofs.Cluster.Writing
import SearchOperator.Proofs.Simulation.Answers

/-!
# A pass over a cluster in memory

What a whole pass does to a world, whichever of its calls fail. It looks for the cluster, looks at
one that it accepts, and then brings the stored cluster to what its observations make of it. A call
that fails ends the pass.
-/

namespace SearchOperator

open Simulation

namespace Simulation.World

open SearchCluster

variable {w : World} {c : SearchCluster}

/-- A world in which other rules give the answers. -/
def ruled (w : World) (rules : Dictionary (List Answer)) : World := { w with rules := rules }

theorem ruled_self (w : World) : w.ruled w.rules = w := rfl

/-- The events of a tracker once it is committed, as they are published. -/
def published (t : Tracker) : List PublishedEvent :=
  t.commit.1.events.map (·.published t.cluster.reference)

/-! ## Observing -/

/-- What the cluster reports about its health by a deadline. -/
def healthReport (w : World) (timeout : Duration) : Observation :=
  match (answer .get Observation.healthPath none w).1.by timeout .get Observation.healthPath with
  | .ok response => .ofResponse response
  | .error _ => .nothing

def observation (w : World) (timeout : Duration) : Observation :=
  match w.clientError with
  | some _ => .nothing
  | none => w.healthReport timeout

def view (w : World) (timeout : Duration) (now : Int) (name : String) : View :=
  ⟨name, now, ⟨w.pods, w.statefulSets⟩, w.observation timeout⟩

/-- Every request for the health of the cluster gets the same answer. -/
def AnswersHealthAlike (w : World) : Prop :=
  ((w.rules.get? ("GET " ++ Observation.healthPath)).getD []).length ≤ 1

theorem healthReport_congr (w other : World) (rules : other.rules = w.rules)
    (store : other.store = w.store) (timeout : Duration) :
    other.healthReport timeout = w.healthReport timeout := by
  rw [healthReport, healthReport, (answer_congr store rules _ _ _).1]

theorem observation_congr (w other : World) (rules : other.rules = w.rules)
    (store : other.store = w.store) (clientError : other.clientError = w.clientError)
    (timeout : Duration) : other.observation timeout = w.observation timeout := by
  rw [observation, observation, clientError, healthReport_congr w other rules store]

@[simp]
theorem view_called (w : World) (made : List Call) (timeout : Duration) (now : Int)
    (name : String) : (w.called made).view timeout now name = w.view timeout now name := by
  rw [view, view, observation_congr w (w.called made) rfl rfl rfl]
  rfl

@[simp]
theorem view_storing (w : World) (c : SearchCluster) (made : List Call)
    (events : List PublishedEvent) (timeout : Duration) (now : Int) (name : String) :
    (w.storing c made events).view timeout now name = w.view timeout now name := by
  rw [view, view, observation_congr w (w.storing c made events) rfl rfl rfl]
  rfl

/-- Answering a request for the health uses up an answer of the rules at most, and none if the
answers are alike. -/
theorem answer_health (w : World) : ∃ rules,
    (answer .get Observation.healthPath none w).2 = w.ruled rules ∧
      (w.AnswersHealthAlike → rules = w.rules) := by
  have fallback : ∃ rules, (answerFromStore .get Observation.healthPath none w).2 = w.ruled rules ∧
      (w.AnswersHealthAlike → rules = w.rules) := by
    refine ⟨w.rules, ?_, fun _ => rfl⟩
    rw [answerFromStore]
    cases w.store.get? Observation.healthPath <;> rfl
  rw [answer]
  cases found : w.rules.get? (Method.get.text ++ " " ++ Observation.healthPath) with
  | none => exact fallback
  | some answers =>
      cases answers with
      | nil => exact fallback
      | cons answer rest =>
          cases rest with
          -- the last answer of a rule is given for good
          | nil => exact ⟨w.rules, rfl, fun _ => rfl⟩
          | cons next more =>
              refine ⟨_, rfl, fun steady => ?_⟩
              have read : w.rules.get? ("GET " ++ Observation.healthPath) =
                  some (answer :: next :: more) := found
              rw [AnswersHealthAlike, read] at steady
              simp at steady

theorem request_health (w : World) (timeout : Duration) : ∃ rules,
    Observation.request searchClient timeout w =
      (.ok (w.healthReport timeout),
        (w.ruled rules).called [.request .get Observation.healthPath none]) ∧
      (w.AnswersHealthAlike → rules = w.rules) := by
  have same : (answer .get Observation.healthPath none
      (w.record (.request .get Observation.healthPath none))).1 =
        (answer .get Observation.healthPath none w).1 :=
    (@answer_congr (w.record _) w rfl rfl _ _ _).1
  obtain ⟨rules, after, steady⟩ :=
    answer_health (w.record (.request .get Observation.healthPath none))
  refine ⟨rules, ?_, steady⟩
  rw [Observation.request, bind_run, Step.attempt_run, SearchClient.send, bind_run, Step.act_run,
    follow_ok, follow_ok, Step.ofExcept_run, healthReport]
  simp only [searchClient]
  rw [same, after]
  cases (answer .get Observation.healthPath none w).1.by timeout .get Observation.healthPath with
  | error e => rfl
  | ok response => rfl

/-- The calls with which a pass observes the health of a cluster. -/
def observing (w : World) (name space : String) : List Call :=
  .clientFor name space ::
    if w.clientError.isNone then [.request .get Observation.healthPath none] else []

theorem firstFailure?_observing (w : World) (name space : String) :
    w.firstFailure? (w.observing name space) = none := by
  rw [firstFailure?_eq_none, observing]
  split <;> simp

/-- Observing the health of a cluster never fails. -/
theorem observe_run (w : World) (events : EventPublisher World) (timeout : Duration)
    (name space : String) : ∃ rules,
    observe (reporting events timeout) name space w =
      (.ok (w.observation timeout), (w.ruled rules).called (w.observing name space)) ∧
      (w.AnswersHealthAlike → rules = w.rules) := by
  rw [observe, bind_run, Step.attempt_run, observation]
  simp only [reporting, clients, record]
  cases refused : w.clientError with
  | some e =>
      have asked : w.observing name space = [.clientFor name space] := by
        rw [observing, refused]
        rfl
      refine ⟨w.rules, ?_, fun _ => rfl⟩
      rw [asked]
      simp only [follow_ok, pure_run, called, ruled, ← refused]
  | none =>
      have asked : w.observing name space =
          [.clientFor name space] ++ [.request .get Observation.healthPath none] := by
        rw [observing, refused]
        rfl
      obtain ⟨rules, answered, steady⟩ :=
        request_health (w.called [.clientFor name space]) timeout
      have same :
          (w.called [.clientFor name space]).healthReport timeout = w.healthReport timeout :=
        healthReport_congr w (w.called _) rfl rfl timeout
      refine ⟨rules, ?_, steady⟩
      rw [same] at answered
      rw [asked]
      simp only [follow_ok, ← refused]
      refine Eq.trans answered ?_
      rw [ruled, called, called, called, ruled, List.append_assoc]

/-! ## What a pass looks at -/

/-- The calls with which a pass looks at a cluster that it accepts. -/
def lookups (w : World) (name space : String) : List Call :=
  .listPods name space :: .listStatefulSets name space :: w.observing name space

/-- The calls with which a pass looks for a stored cluster, and looks at it if it is managed, its
hints load, and it is accepted. -/
def looks (w : World) (c : SearchCluster) (name space : String) : List Call :=
  .getCluster name space ::
    match c.hints? with
    | none => []
    | some h =>
      match c.check name h with
      | .ok () => w.lookups name space
      | .error _ => []

theorem looks_of_accepted {h : Hints} {name : String} (loads : c.Loads h)
    (accepted : c.check name h = .ok ()) (w : World) (space : String) :
    w.looks c name space = .getCluster name space :: w.lookups name space := by
  rw [looks, hints?_eq_some.mpr loads]
  simp only [accepted]

theorem looks_of_rejected {h : Hints} {name : String} {e : Error} (loads : c.Loads h)
    (rejected : c.check name h = .error e) (w : World) (space : String) :
    w.looks c name space = [.getCluster name space] := by
  rw [looks, hints?_eq_some.mpr loads]
  simp only [rejected]

theorem looks_of_none (none : c.hints? = none) (w : World) (name space : String) :
    w.looks c name space = [.getCluster name space] := by
  rw [looks, none]

theorem silent_lookups (w : World) (name space : String) : Silent (w.lookups name space) := by
  simp only [Silent, lookups, observing]
  split <;> simp [Call.isPatch]

theorem silent_looks (w : World) (c : SearchCluster) (name space : String) :
    Silent (w.looks c name space) := by
  have rest : ∀ calls, Silent calls → Silent (.getCluster name space :: calls) :=
    fun calls silent => List.forall_mem_cons.mpr ⟨rfl, silent⟩
  apply rest
  split
  · exact List.forall_mem_nil _
  · split
    · exact silent_lookups w name space
    · exact List.forall_mem_nil _

/-! ## The whole pass -/

def pass (timeout : Duration) (now : Int) (name space : String) (w : World) : World :=
  (reconcile (clusterContext timeout) now name space w).2

/-- How a pass ended, the cluster that it left, the calls that looked and those that wrote, the
events that it published after them, and the rules of later answers. -/
structure Outcome where
  result : Except Error Schedule
  left : SearchCluster
  looks : List Call
  writes : List Call
  events : List Event
  rules : Dictionary (List Answer)

namespace Outcome

def calls (o : Outcome) : List Call := o.looks ++ o.writes

/-- The world in which a pass publishes its events. -/
def written (o : Outcome) (w : World) : World :=
  (w.ruled o.rules).storing o.left o.calls w.events

def published (o : Outcome) (c : SearchCluster) : List PublishedEvent :=
  o.events.map (·.published c.reference)

def world (o : Outcome) (w : World) (c : SearchCluster) : World :=
  (w.ruled o.rules).storing o.left o.calls (w.events ++ o.published c)

/-- What holds of the outcome of a pass over a stored cluster, whichever calls fail. -/
structure Accounts (o : Outcome) (w : World) (v : View) (c : SearchCluster) (space : String) :
    Prop where
  /-- Up to the first failure, the calls are those that look, and then those that write. -/
  calls : o.calls = w.untilFailure (w.looks c v.name space ++ c.writes (v.after c))
  looks : o.looks = w.untilFailure (w.looks c v.name space)
  wrote : Wrote c (v.after c) o.result o.writes o.left
  /-- The first failure is the one that the pass ends with. -/
  failed : ∀ e, w.firstFailure? o.calls = some e → o.result = .error e
  /-- Without one, a pass over a cluster whose hints load succeeds. -/
  succeeded : ∀ h, c.Loads h → w.firstFailure? o.calls = none → ∃ schedule, o.result = .ok schedule
  /-- Events follow as soon as nothing failed before the writes. -/
  events : o.events = if w.firstFailure? o.looks = none then v.events c else []
  steady : w.AnswersHealthAlike → o.rules = w.rules

namespace Accounts

variable {o : Outcome} {v : View} {space : String}

theorem silent (accounts : o.Accounts w v c space) : Silent o.looks := fun made member =>
  silent_looks w c v.name space made (untilFailure_subset _ _ (accounts.looks ▸ member))

/-- A pass in which nothing fails before the writes makes all calls that look, and publishes its
events. -/
theorem looked (accounts : o.Accounts w v c space) (unfailing : w.firstFailure? o.looks = none) :
    o.looks = w.looks c v.name space ∧ o.events = v.events c := by
  refine ⟨?_, by rw [accounts.events, if_pos unfailing]⟩
  rw [accounts.looks, firstFailure?_untilFailure] at unfailing
  rw [accounts.looks, untilFailure_of_none unfailing]

/-- If no call fails, the pass writes and leaves what its observations make of the cluster. -/
theorem complete (accounts : o.Accounts w v c space) (unfailing : w.firstFailure? o.calls = none) :
    o.writes = c.writes (v.after c) ∧ o.left = v.after c := by
  have wrote := accounts.wrote
  by_cases loaded : ∃ h, c.Loads h
  · obtain ⟨h, loads⟩ := loaded
    obtain ⟨schedule, succeeded⟩ := accounts.succeeded h loads unfailing
    exact wrote.complete succeeded
  · have same : v.after c = c := View.after_of_not_loads (not_exists.mp loaded)
    rw [same] at wrote ⊢
    rw [writes_self]
    exact wrote.unchanged

/-- Only a cluster whose hints load is written to, and with what makes it the one that the
observations lead to. -/
theorem written (accounts : o.Accounts w v c space) {made : Call} (patch : made.isPatch = true)
    (member : made ∈ o.calls) :
    made ∈ c.writes (v.after c) ∧ ∃ h, c.Loads h := by
  rcases List.mem_append.mp member with looked | written
  · cases patch.symm.trans (accounts.silent _ looked)
  · have among := accounts.wrote.subset written
    refine ⟨among, ?_⟩
    by_contra unloaded
    rw [View.after_of_not_loads (not_exists.mp unloaded), writes_self] at among
    cases among

theorem reported (accounts : o.Accounts w v c space) {e : PublishedEvent}
    (member : e ∈ o.published c) : ∃ h, c.Loads h ∧ e ∈ World.published (v.tracked c h) := by
  rw [published, accounts.events] at member
  split at member
  · cases hints : c.hints? with
    | none =>
        rw [View.events, hints] at member
        cases member
    | some h =>
        have started := (v.tracked_keeps c h).1
        rw [View.events, hints] at member
        refine ⟨h, hints?_eq_some.mp hints, ?_⟩
        rw [World.published, started]
        exact member
  · cases member

end Accounts

end Outcome

/-- A pass that fails while it looks writes and publishes nothing. -/
theorem account_of_halted {v : View} {space : String} {e : Error} {made : List Call}
    (events : EventPublisher World) (stored : w.cluster = some c)
    (halted : w.untilFailure (w.looks c v.name space) = made)
    (failing : w.firstFailure? (w.looks c v.name space) = some e) :
    ∃ o : Outcome, ((.error e, w.called made) : Except Error Schedule × World) =
        (o.result, (publishAll events c.reference o.events (o.written w)).2) ∧
      o.Accounts w v c space := by
  have fails : w.firstFailure? made = some e := by
    rw [← halted, firstFailure?_untilFailure, failing]
  have all : (⟨.error e, c, made, [], [], w.rules⟩ : Outcome).calls = made := List.append_nil made
  refine ⟨⟨.error e, c, made, [], [], w.rules⟩, ?_, ?_⟩
  · show _ = (_, Outcome.written _ w)
    rw [Outcome.written, all, ruled_self, storing_of_stored stored]
  · constructor
    · rw [all, untilFailure_append_of_some failing, halted]
    · exact halted.symm
    · exact .unread e
    · intro other failed
      rw [all, fails] at failed
      cases failed
      rfl
    · intro h _ unfailing
      rw [all, fails] at unfailing
      cases unfailing
    · show [] = if w.firstFailure? made = none then _ else _
      rw [fails]
      rfl
    · exact fun _ => rfl

/-- A pass over a cluster that is not managed or whose hints do not load only looks for it. -/
theorem account_of_idle {v : View} {space : String} {result : Except Error Schedule}
    (events : EventPublisher World) (stored : w.cluster = some c) (idle : c.hints? = none)
    (found : w.failure? (.getCluster v.name space) = none) :
    ∃ o : Outcome, (result, w.called [.getCluster v.name space]) =
        (o.result, (publishAll events c.reference o.events (o.written w)).2) ∧
      o.Accounts w v c space := by
  have looked := looks_of_none idle w v.name space
  have unfailing : w.firstFailure? [.getCluster v.name space] = none := by
    rw [firstFailure?_singleton, found]
  have kept : v.after c = c := View.after_of_not_loads fun h loads => by
    rw [hints?_eq_some.mpr loads] at idle
    cases idle
  have quiet : v.events c = [] := by rw [View.events, idle]
  refine ⟨⟨result, c, [.getCluster v.name space], [], [], w.rules⟩, ?_, ?_⟩
  · show _ = (_, Outcome.written _ w)
    rw [Outcome.written, ruled_self, storing_of_stored stored]
    rfl
  · constructor
    · rw [looked, kept, writes_self, List.append_nil, untilFailure_singleton]
      rfl
    · rw [looked, untilFailure_singleton]
    · rw [kept]
      cases result with
      | ok schedule =>
          have all : Wrote c c (.ok schedule) (c.writes c) c := .all schedule
          rw [writes_self] at all
          exact all
      | error e => exact .unread e
    · intro e failed
      have failed : w.firstFailure? [.getCluster v.name space] = some e := failed
      rw [unfailing] at failed
      cases failed
    · intro h loads
      rw [hints?_eq_some.mpr loads] at idle
      cases idle
    · rw [quiet, ite_self]
    · exact fun _ => rfl

/-- A pass that looked at a cluster whose hints load writes back what its tracker holds. -/
theorem account_of_tracked {v : View} {h : Hints} {space : String} (loads : c.Loads h)
    (stored : w.cluster = some c) (events : EventPublisher World) (timeout : Duration)
    (schedule : Schedule) {rules : Dictionary (List Answer)}
    (unfailing : w.firstFailure? (w.looks c v.name space) = none)
    (steady : w.AnswersHealthAlike → rules = w.rules) :
    ∃ o : Outcome, follow (fun _ => (pure schedule : Step World Schedule))
        (finish (reporting events timeout) c (v.tracked c h)
          ((w.ruled rules).called (w.looks c v.name space))) =
          (o.result, (publishAll events c.reference o.events (o.written w)).2) ∧
      o.Accounts w v c space := by
  have started := (v.tracked_keeps c h).1
  have kept : ((w.ruled rules).called (w.looks c v.name space)).cluster =
      some (v.tracked c h).cluster := by
    rw [started]
    exact stored
  have queued : v.events c = (v.tracked c h).commit.1.events := by
    rw [View.events, hints?_eq_some.mpr loads]
  obtain ⟨left, run, wrote⟩ := finish_run kept events timeout
  have ends : ((w.ruled rules).called (w.looks c v.name space)).ending (c.writes (v.after c)) () =
    w.ending (c.writes (v.after c)) () := rfl
  have made : ((w.ruled rules).called (w.looks c v.name space)).untilFailure
    (c.writes (v.after c)) = w.untilFailure (c.writes (v.after c)) := untilFailure_congr (by rfl) _
  rw [started, ← View.after_of_loads loads, ends, made] at wrote run
  refine ⟨⟨w.ending (c.writes (v.after c)) schedule, left, w.looks c v.name space,
    w.untilFailure (c.writes (v.after c)), v.events c, rules⟩, ?_, ?_⟩
  · rw [run, storing_called, queued]
    rw [ending, ending]
    cases w.firstFailure? (c.writes (v.after c)) with
    | some e => rfl
    | none => rfl
  · have all : w.firstFailure? (w.looks c v.name space ++ w.untilFailure (c.writes (v.after c))) =
        w.firstFailure? (c.writes (v.after c)) := by
      rw [firstFailure?_append, unfailing, firstFailure?_untilFailure, Option.none_or]
    have looked : w.untilFailure (w.looks c v.name space) = w.looks c v.name space :=
      untilFailure_of_none unfailing
    constructor
    · exact (untilFailure_append_of_none unfailing _).symm
    · exact looked.symm
    · have mapped := wrote.map fun _ => schedule
      have same : (w.ending (c.writes (v.after c)) ()).map (fun _ => schedule) =
          w.ending (c.writes (v.after c)) schedule := by
        rw [ending, ending]
        cases w.firstFailure? (c.writes (v.after c)) <;> rfl
      rw [same] at mapped
      exact mapped
    · intro e failed
      exact ending_of_some (all.symm.trans failed) schedule
    · intro g _ none
      exact ⟨schedule, ending_of_none (all.symm.trans none) schedule⟩
    · rw [if_pos unfailing]
    · exact steady

/-- A pass over a cluster that is accepted observes it and writes back what the tracker holds. -/
theorem track_of_accepted {σ : Type} (ctx : ClusterContext σ) (now : Int) (name space : String)
    {c : SearchCluster} {h : Hints} (accepted : c.check name h = .ok ()) :
    track ctx now name space c ⟨c, c.status.getD .initial, h, h, []⟩ = (do
      let pods ← ctx.kube.listPods name space
      let statefulSets ← ctx.kube.listStatefulSets name space
      let observed ← observe ctx name space
      let t := View.tracked ⟨name, now, ⟨pods, statefulSets⟩, observed⟩ c h
      finish ctx c t
      return .after (if t.isReady then 60 else 10)) := by
  rw [track]
  simp only [View.tracked, accepted]

theorem track_account {h : Hints} {name space : String} (loads : c.Loads h)
    (stored : w.cluster = some c) (events : EventPublisher World) (timeout : Duration) (now : Int)
    (accepted : c.check name h = .ok ()) (found : w.failure? (.getCluster name space) = none) :
    ∃ o : Outcome, track (reporting events timeout) now name space c
        ⟨c, c.status.getD .initial, h, h, []⟩ (w.called [.getCluster name space]) =
          (o.result, (publishAll events c.reference o.events (o.written w)).2) ∧
      o.Accounts w (w.view timeout now name) c space := by
  have kube : (reporting events timeout).kube = clusterApi := rfl
  have looked := looks_of_accepted loads accepted w space
  rw [track_of_accepted _ _ _ _ accepted, kube, bind_run]
  simp only [clusterApi]
  rcases read_run (.listPods name space) rfl World.pods (w.called [.getCluster name space])
    rfl with ⟨e, failing, failed⟩ | ⟨listing, pods⟩
  · have failing : w.failure? (.listPods name space) = some e := failing
    rw [failed, follow_error, called_called]
    refine account_of_halted (v := w.view timeout now name) events stored ?_ ?_
    · show w.untilFailure (w.looks c name space) = _
      simp [looked, lookups, untilFailure, found, failing]
    · show w.firstFailure? (w.looks c name space) = _
      simp [looked, lookups, firstFailure?, found, failing]
  have listing : w.failure? (.listPods name space) = none := listing
  rw [pods, follow_ok, called_called, bind_run]
  rcases read_run (.listStatefulSets name space) rfl World.statefulSets
    (w.called ([.getCluster name space] ++ [.listPods name space])) rfl with
    ⟨e, failing, failed⟩ | ⟨listed, statefulSets⟩
  · have failing : w.failure? (.listStatefulSets name space) = some e := failing
    rw [failed, follow_error, called_called]
    refine account_of_halted (v := w.view timeout now name) events stored ?_ ?_
    · show w.untilFailure (w.looks c name space) = _
      simp [looked, lookups, untilFailure, found, listing, failing]
    · show w.firstFailure? (w.looks c name space) = _
      simp [looked, lookups, firstFailure?, found, listing, failing]
  have listed : w.failure? (.listStatefulSets name space) = none := listed
  rw [statefulSets, follow_ok, called_called, bind_run]
  obtain ⟨rules, observed, steady⟩ := observe_run
    (w.called ([.getCluster name space] ++ [.listPods name space] ++
      [.listStatefulSets name space])) events timeout name space
  rw [observed, observation_congr w (w.called _) rfl rfl rfl timeout, follow_ok, bind_run]
  have whole : ((w.called ([.getCluster name space] ++ [.listPods name space] ++
      [.listStatefulSets name space])).ruled rules).called
        (observing (w.called ([.getCluster name space] ++ [.listPods name space] ++
          [.listStatefulSets name space])) name space) =
      (w.ruled rules).called (w.looks c name space) := by
    rw [looked]
    exact called_called (w.ruled rules) _ _
  rw [whole]
  refine account_of_tracked (v := w.view timeout now name) loads stored events timeout _ ?_ steady
  show w.firstFailure? (w.looks c name space) = none
  rw [looked, lookups, firstFailure?_eq_none, List.forall_mem_cons, List.forall_mem_cons,
    List.forall_mem_cons, ← firstFailure?_eq_none]
  exact ⟨found, listing, listed, firstFailure?_observing w name space⟩

/-- A pass over a stored cluster has an outcome that its observations account for, and its events
follow all its calls, whatever it means to publish them. -/
theorem reconcile_account (stored : w.cluster = some c) (events : EventPublisher World)
    (timeout : Duration) (now : Int) (name space : String) :
    ∃ o : Outcome, reconcile (reporting events timeout) now name space w =
        (o.result, (publishAll events c.reference o.events (o.written w)).2) ∧
      o.Accounts w (w.view timeout now name) c space := by
  have kube : (reporting events timeout).kube = clusterApi := rfl
  rw [reconcile, kube, bind_run]
  simp only [clusterApi]
  rcases read_run (.getCluster name space) rfl World.cluster w rfl with
    ⟨e, failing, failed⟩ | ⟨found, loaded⟩
  · rw [failed, follow_error]
    refine account_of_halted (v := w.view timeout now name) events stored ?_ ?_
    · show w.untilFailure (w.looks c name space) = _
      simp [looks, untilFailure, failing]
    · show w.firstFailure? (w.looks c name space) = _
      simp [looks, firstFailure?, failing]
  rw [loaded, follow_ok, stored]
  simp only
  by_cases unmanaged : c.metadata.isUnmanaged = true
  · rw [if_pos unmanaged, pure_run]
    exact account_of_idle (v := w.view timeout now name) events stored
      (by rw [hints?, if_pos unmanaged]) found
  · rw [if_neg unmanaged, bind_run, Step.ofExcept_run]
    cases parsed : Hints.ofAnnotations c.metadata.annotations with
    | error e =>
        rw [Tracker.start, parsed]
        exact account_of_idle (v := w.view timeout now name) events stored
          (by rw [hints?, if_neg unmanaged, parsed]; rfl) found
    | ok h =>
        have loads : c.Loads h := ⟨Bool.eq_false_iff.mpr unmanaged, parsed⟩
        rw [Tracker.start_eq_ok.mpr ⟨h, parsed, rfl⟩, follow_ok]
        simp only
        cases checked : c.check name h with
        | error e =>
            have tracker : (w.view timeout now name).tracked c h =
                Tracker.markInvalid ⟨c, c.status.getD .initial, h, h, []⟩ e :=
              View.tracked_eq_markInvalid checked
            have looked := looks_of_rejected loads checked w space
            simp only
            rw [bind_run, ← tracker, ← looked]
            refine account_of_tracked (v := w.view timeout now name) loads stored events timeout
              .onChange ?_ fun _ => rfl
            show w.firstFailure? (w.looks c name space) = none
            rw [looked, firstFailure?_singleton, found]
        | ok _ => exact track_account loads stored events timeout now checked found

/-- The outcome of a pass that publishes its events in the world. -/
theorem reconcile_outcome (stored : w.cluster = some c) (timeout : Duration) (now : Int)
    (name space : String) :
    ∃ o : Outcome, reconcile (clusterContext timeout) now name space w = (o.result, o.world w c) ∧
      o.Accounts w (w.view timeout now name) c space := by
  obtain ⟨o, run, accounts⟩ := reconcile_account stored publisher timeout now name space
  refine ⟨o, run.trans ?_, accounts⟩
  rw [publishAll_run]
  rfl

/-- A pass in which no call fails looks, and then writes what makes the stored cluster the one its
observations lead to. -/
theorem pass_of_stored (noFailures : w.failures = ∅) (steady : w.AnswersHealthAlike)
    {c : SearchCluster} (stored : w.cluster = some c) (timeout : Duration) (now : Int)
    (name space : String) :
    ∃ reads events, (∀ call ∈ reads, call.isPatch = false) ∧
      w.pass timeout now name space = w.storing ((w.view timeout now name).after c)
        (reads ++ c.writes ((w.view timeout now name).after c)) events := by
  obtain ⟨o, run, accounts⟩ := reconcile_outcome stored timeout now name space
  obtain ⟨writes, left⟩ := accounts.complete
    (firstFailure?_eq_none.mpr fun made _ => failure?_of_failures noFailures made)
  refine ⟨o.looks, w.events ++ o.published c, accounts.silent, ?_⟩
  rw [pass, run, Outcome.world, Outcome.calls, accounts.steady steady, ruled_self, writes, left]

/-- Without a stored cluster, a pass only looks for it. -/
theorem reconcile_of_none (absent : w.cluster = none) (events : EventPublisher World)
    (timeout : Duration) (now : Int) (name space : String) :
    reconcile (reporting events timeout) now name space w =
      (w.ending [.getCluster name space] .onChange, w.called [.getCluster name space]) := by
  have kube : (reporting events timeout).kube = clusterApi := rfl
  rw [reconcile, kube, bind_run, ending, firstFailure?_singleton]
  simp only [clusterApi]
  rcases read_run (.getCluster name space) rfl World.cluster w rfl with
    ⟨e, failing, failed⟩ | ⟨found, loaded⟩
  · rw [failed, failing]
    rfl
  · rw [loaded, found, absent]
    rfl

theorem pass_of_none (absent : w.cluster = none) (timeout : Duration) (now : Int)
    (name space : String) :
    w.pass timeout now name space = w.called [.getCluster name space] :=
  congrArg Prod.snd (reconcile_of_none absent publisher timeout now name space)

end Simulation.World

end SearchOperator
