import SearchOperator.Proofs.Cluster.Pass

/-!
# The order of a pass

Whatever a world holds and whichever of its calls fail, a pass keeps to one order: it looks for the
cluster, looks at one that is managed and accepted, writes its hints and then its status, and
publishes its events. The first call of the Kubernetes API that fails is the last call of the pass,
and what was queued before the writes is published even if these fail.
-/

namespace SearchOperator

open Simulation

namespace Simulation

/-- The calls with which a pass would go through if none failed, after the one that looks for the
cluster: those that look at it, those that write its hints, and those that write its status. -/
structure Plan where
  looks : List Call
  hintWrites : List Call
  statusWrites : List Call

def Plan.calls (p : Plan) (name space : String) : List Call :=
  .getCluster name space :: p.looks ++ (p.hintWrites ++ p.statusWrites)

/-- What a plan for the cluster with a name keeps to. -/
structure Plan.IsOrderly (p : Plan) (w : World) (name space : String) : Prop where
  /-- Only a cluster that is managed and accepted is looked at, and after its pods and StatefulSets
  the cluster itself is asked at most once, for its health. -/
  looks : p.looks = [] ∨
    (∃ c h, w.cluster = some c ∧ c.Loads h ∧ c.check name h = .ok ()) ∧
      ∃ asked, p.looks = .listPods name space :: .listStatefulSets name space ::
          .clientFor name space :: asked ∧
        (asked = [] ∨ asked = [.request .get Observation.healthPath none])
  /-- Hints are written at most once, nothing is written with them, and only a text other than the
  stored one is. -/
  hintWrites : p.hintWrites = [] ∨
    ∃ c text, w.cluster = some c ∧ c.metadata.annotation? hintsKey ≠ some text ∧
      p.hintWrites = [.patchAnnotations c.name c.space (.ofList [(hintsKey, text)])]
  /-- A status is written at most once, and only one other than the stored one. -/
  statusWrites : p.statusWrites = [] ∨
    ∃ c status, w.cluster = some c ∧ c.status ≠ some status ∧
      p.statusWrites = [.patchClusterStatus c.name c.space status]
  /-- Without a managed cluster there is nothing to do. -/
  idle : (∀ c, w.cluster = some c → c.metadata.isUnmanaged = true) → p = ⟨[], [], []⟩

/-- A search cluster is asked to read only. -/
theorem Plan.IsOrderly.reads {p : Plan} {w : World} {name space : String}
    (orderly : p.IsOrderly w name space) {method : Method} {url : String} {body : Option Bytes}
    (member : Call.request method url body ∈ p.calls name space) : method = .get := by
  have notHints : Call.request method url body ∉ p.hintWrites := by
    rcases orderly.hintWrites with none | ⟨c, text, -, -, one⟩
    · simp [none]
    · simp [one]
  have notStatus : Call.request method url body ∉ p.statusWrites := by
    rcases orderly.statusWrites with none | ⟨c, status, -, -, one⟩
    · simp [none]
    · simp [one]
  have looked : Call.request method url body ∈ p.looks := by
    simpa [Plan.calls, notHints, notStatus] using member
  rcases orderly.looks with none | ⟨-, asked, all, rfl | rfl⟩
  · simp [none] at looked
  · simp [all] at looked
  · simp [all] at looked
    exact looked.1

namespace World

open SearchCluster

def plan (w : World) (v : View) (c : SearchCluster) (space : String) : Plan :=
  ⟨(w.looks c v.name space).tail, c.hintWrites (v.after c), c.statusWrites (v.after c)⟩

theorem hints?_of_unmanaged {c : SearchCluster} (unmanaged : c.metadata.isUnmanaged = true) :
    c.hints? = none := by
  rw [hints?, if_pos unmanaged]

theorem looks_plan_eq_nil {w : World} {c : SearchCluster} {h : Hints} (loads : c.Loads h) (v : View)
    (space : String) : (w.plan v c space).looks = [] ↔ ∃ e, c.check v.name h = .error e := by
  rw [plan]
  cases checked : c.check v.name h with
  | error e => simp [looks_of_rejected loads checked]
  | ok _ => simp [looks_of_accepted loads checked, lookups]

theorem isOrderly_plan {w : World} {c : SearchCluster} (stored : w.cluster = some c) (v : View)
    (space : String) : (w.plan v c space).IsOrderly w v.name space := by
  constructor
  · cases hints : c.hints? with
    | none => exact .inl (congrArg List.tail (looks_of_none hints w v.name space))
    | some h =>
        have loads := hints?_eq_some.mp hints
        cases checked : c.check v.name h with
        | error e => exact .inl (congrArg List.tail (looks_of_rejected loads checked w space))
        | ok _ =>
            refine .inr ⟨⟨c, h, stored, loads, checked⟩, _,
              congrArg List.tail (looks_of_accepted loads checked w space), ?_⟩
            split
            · exact .inr rfl
            · exact .inl rfl
  · exact (c.hintWrites_cases (v.after c)).imp_right fun ⟨text, differs, write⟩ =>
      ⟨c, text, stored, differs, write⟩
  · exact (c.statusWrites_cases (v.after c)).imp_right fun ⟨status, _, differs, write⟩ =>
      ⟨c, status, stored, differs, write⟩
  · intro unmanaged
    have idle := hints?_of_unmanaged (unmanaged c stored)
    have kept : v.after c = c := by rw [View.after, if_pos (unmanaged c stored)]
    have unwritten := c.writes_self
    rw [writes, List.append_eq_nil_iff] at unwritten
    rw [plan, looks_of_none idle, kept, unwritten.1, unwritten.2]
    rfl

/-- For every world there is an orderly plan such that a pass makes its calls up to the first one
that fails and ends with that failure. A managed cluster is looked at exactly if it is accepted, and
its writes are those that make it what the tracker of the pass holds. All events follow the last
call and are published one after the other, whatever that means: they are those of the tracker, in
order, if nothing failed before the writes, and none otherwise. -/
theorem reconcile_in_order (w : World) (events : EventPublisher World) (timeout : Duration)
    (now : Int) (name space : String) :
    ∃ (p : Plan) (result : Except Error Schedule) (written : World) (queued : List Event)
      (regarding : ObjectReference),
      reconcile (reporting events timeout) now name space w =
        (result, queued.foldl (fun w e => (events.publish (e.published regarding) w).2) written) ∧
      p.IsOrderly w name space ∧
      written.calls = w.calls ++ w.untilFailure (p.calls name space) ∧
      written.events = w.events ∧
      (∀ e, w.firstFailure? (p.calls name space) = some e → result = .error e) ∧
      (∀ method url body, .request method url body ∈ w.untilFailure (p.calls name space) →
        method = .get) ∧
      (∀ c h, w.cluster = some c → c.Loads h →
        (p.looks = [] ↔ ∃ e, c.check name h = .error e) ∧
        p.hintWrites ++ p.statusWrites =
          c.writes ((w.view timeout now name).tracked c h).stored ∧
        (w.firstFailure? (.getCluster name space :: p.looks) = none →
          regarding = c.reference ∧
            queued = ((w.view timeout now name).tracked c h).commit.1.events)) ∧
      ((∀ c h, w.cluster = some c → ¬ c.Loads h) ∨
        w.firstFailure? (.getCluster name space :: p.looks) ≠ none → queued = []) := by
  cases stored : w.cluster with
  | none =>
      have orderly : (⟨[], [], []⟩ : Plan).IsOrderly w name space :=
        ⟨.inl rfl, .inl rfl, .inl rfl, fun _ => rfl⟩
      refine ⟨⟨[], [], []⟩, _, _, [], ⟨none, none, none, none, none⟩,
        reconcile_of_none stored events timeout now name space, orderly, ?_, rfl, ?_, ?_, ?_, ?_⟩
      · exact congrArg (w.calls ++ ·) (untilFailure_singleton w _).symm
      · exact fun e failed => ending_of_some failed _
      · exact fun method url body member => orderly.reads (untilFailure_subset w _ member)
      · exact fun c h found => nomatch found
      · exact fun _ => rfl
  | some c =>
      obtain ⟨o, run, accounts⟩ := reconcile_account stored events timeout now name space
      have orderly := isOrderly_plan stored (w.view timeout now name) space
      have all : o.calls = w.untilFailure ((w.plan (w.view timeout now name) c space).calls name
          space) := accounts.calls
      have looks : w.firstFailure? o.looks = w.firstFailure? (.getCluster name space ::
          (w.plan (w.view timeout now name) c space).looks) := by
        rw [accounts.looks, firstFailure?_untilFailure]
        rfl
      refine ⟨w.plan (w.view timeout now name) c space, o.result, o.written w, o.events,
        c.reference, run.trans ?_, orderly, congrArg (w.calls ++ ·) all, rfl, ?_, ?_, ?_, ?_⟩
      · rw [publishAll_eq_foldl]
      · intro e failed
        exact accounts.failed e (by rw [all, firstFailure?_untilFailure, failed])
      · exact fun method url body member => orderly.reads (untilFailure_subset w _ member)
      · rintro d h same loads
        cases same
        refine ⟨looks_plan_eq_nil loads _ space, ?_, fun unfailing => ⟨rfl, ?_⟩⟩
        · rw [← View.after_of_loads loads]
          rfl
        · rw [accounts.events, if_pos (looks.trans unfailing), View.events,
            hints?_eq_some.mpr loads]
      · rintro (unloaded | failing)
        · have idle : c.hints? = none := by
            rw [Option.eq_none_iff_forall_ne_some]
            exact fun h found => unloaded c h rfl (hints?_eq_some.mp found)
          rw [accounts.events, View.events, idle, ite_self]
        · rw [accounts.events, if_neg (looks ▸ failing)]

end World

end Simulation

end SearchOperator
