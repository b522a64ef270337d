import SearchOperator.Proofs.Simulation.Answers
import SearchOperator.Proofs.Simulation.Calls
import SearchOperator.Proofs.Step

/-!
# Watched worlds

Calls can be watched: each is written down together with the world in which it is made. A watched
computation does what the one that it watches does, and the rules below tell what it sees, part by
part.
-/

namespace SearchOperator.Simulation

/-- A call, and the world in which it is made. -/
structure Sight where
  call : Call
  world : World

/-- A world, and what was seen in it so far. -/
abbrev Watched := World × List Sight

/-- Write a call down, and do what is done for it. -/
def watch {α : Type} (made : Call) (run : StateM World α) : StateM Watched α := fun s =>
  ((run s.1).1, (run s.1).2, s.2 ++ [⟨made, s.1⟩])

/-- What a watched computation does from a world: it ends as the one that it watches does, up to a
function on results; it sees every call of it, each in a world in which it is allowed; and if there
is a result, then the result and the world after are as told. -/
def Watches {α β : Type} (allowed : Sight → Prop) (w : World) (f : β → α) (x : Step Watched α)
    (y : Step World β) (told : β → World → Prop) : Prop :=
  ∀ earlier, ∃ seen,
    x (w, earlier) = ((y w).1.map f, (y w).2, earlier ++ seen) ∧
      (y w).2.calls = w.calls ++ seen.map (·.call) ∧
      (∀ s ∈ seen, allowed s) ∧
      ∀ b, (y w).1 = .ok b → told b (y w).2

namespace Watches

variable {α β γ δ : Type} {allowed : Sight → Prop} {w : World} {f : β → α} {g : δ → γ}
variable {x : Step Watched α} {y : Step World β} {told : β → World → Prop}

theorem pure (b : β) (holds : told b w) :
    Watches allowed w f (Pure.pure (f b)) (Pure.pure b) told := by
  intro earlier
  refine ⟨[], by simp [Except.map], by simp, by simp, ?_⟩
  rintro _ ⟨rfl⟩
  exact holds

theorem throw (e : Error) : Watches allowed w f (throw e) (throw e) told := by
  intro earlier
  refine ⟨[], by simp [Except.map], by simp, by simp, ?_⟩
  rintro _ ⟨⟩

/-- What the second part sees follows what the first part saw. -/
theorem bind {k : α → Step Watched γ} {l : β → Step World δ} {next : δ → World → Prop}
    (first : Watches allowed w f x y told)
    (second : ∀ b u, told b u → Watches allowed u g (k (f b)) (l b) next) :
    Watches allowed w g (x >>= k) (y >>= l) next := by
  intro earlier
  obtain ⟨seen, same, calls, fine, gives⟩ := first earlier
  rw [bind_run, bind_run, same]
  cases ran : y w with
  | mk result u =>
      rw [ran] at calls gives
      cases result with
      | error e =>
          refine ⟨seen, rfl, calls, fine, ?_⟩
          rintro _ ⟨⟩
      | ok b =>
          obtain ⟨more, sameNext, callsNext, fineNext, givesNext⟩ :=
            second b u (gives b rfl) (earlier ++ seen)
          refine ⟨seen ++ more, ?_, ?_, ?_, givesNext⟩
          · rw [← List.append_assoc]
            exact sameNext
          · rw [follow_ok, callsNext, calls, List.map_append, List.append_assoc]
          · exact List.forall_mem_append.mpr ⟨fine, fineNext⟩

/-- A call is written down, and then it does what it is for. -/
theorem call (made : Call) (run : StateM World (Except Error α))
    (runs : run w = ((y w).1.map f, (y w).2)) (records : (y w).2.calls = w.calls ++ [made])
    (fine : allowed ⟨made, w⟩) (gives : ∀ b, (y w).1 = .ok b → told b (y w).2) :
    Watches allowed w f (watch made run) y told := by
  intro earlier
  refine ⟨[⟨made, w⟩], ?_, records, by simpa using fine, gives⟩
  simp only [watch, runs]

/-- A call of the Kubernetes API that makes no further calls. -/
theorem kubernetes {made : Call} {run : StateM World α} (told : α → World → Prop)
    (kube : made.isKubernetes = true) (single : ∀ u, (run u).2.calls = u.calls)
    (fine : allowed ⟨made, w⟩)
    (gives : w.failure? made = none → told (run (w.called [made])).1 (run (w.called [made])).2) :
    Watches allowed w id (watch made (World.call made run)) (World.call made run) told := by
  have same : World.call made run w = ((World.call made run w).1.map id, (World.call made run w).2) := by
    rw [Except.map_id]
    rfl
  rcases World.call_run made kube run w with ⟨e, -, failed⟩ | ⟨unfailing, ran⟩
  · refine call made _ same ?_ fine ?_
    · rw [failed]
      rfl
    · rw [failed]
      rintro a ⟨⟩
  · refine call made _ same ?_ fine ?_
    · rw [ran]
      exact single _
    · rw [ran]
      rintro a ⟨⟩
      exact gives unfailing

/-- What every part of a computation keeps, and what is seen while it holds. -/
theorem isComposable (allowed : Sight → Prop) (holds : World → Prop) :
    Step.IsComposable fun x y => ∀ w, holds w → Watches allowed w id x y fun _ => holds :=
  ⟨fun a _ held => pure a held, fun e _ _ => throw e, fun first next w held =>
    bind (first w held) fun a u held => next a u held⟩

/-- What fails in the end is seen as well. -/
theorem attempt {x : Step Watched α} {y : Step World α} {told : α → World → Prop}
    (watches : Watches allowed w id x y told) :
    Watches allowed w id (Step.attempt x) (Step.attempt y) fun _ _ => True := by
  intro earlier
  obtain ⟨seen, same, calls, fine, -⟩ := watches earlier
  refine ⟨seen, ?_, calls, fine, fun _ _ => trivial⟩
  rw [Step.attempt_run, Step.attempt_run, same, Except.map_id]
  rfl

end Watches

namespace World

/-! ## Watched collaborators -/

def watchedClient : SearchClient Watched where
  request method url body :=
    watch (.request method url body) (searchClient.request method url body)

def watchedClients : ClientFactory Watched where
  clientFor space name := watch (.clientFor name space) fun w =>
    ((clients.clientFor space name w).1.map fun _ => watchedClient,
      (clients.clientFor space name w).2)

/-- The list of published events; publishing is no call. -/
def watchedPublisher : EventPublisher Watched where
  publish e := fun s => ((), (publisher.publish e s.1).2, s.2)

def watchedApi : ConfigApi Watched where
  getConfig name space := watch (.getConfig name space) (configApi.getConfig name space)
  hasCluster name space := watch (.getCluster name space) (configApi.hasCluster name space)
  patchStatus name space status :=
    watch (.patchConfigStatus name space status) (configApi.patchStatus name space status)
  patchAnnotations name space annotations :=
    watch (.patchAnnotations name space annotations)
      (configApi.patchAnnotations name space annotations)

def watchedContext (timeout : Duration) (version : String) : ConfigContext Watched :=
  ⟨watchedApi, watchedClients, watchedPublisher, version, timeout⟩

/-- A request is seen in the world before it is answered. -/
theorem watches_request {allowed : Sight → Prop} {w : World} {method : Method} {url : String}
    {body : Option Bytes} (told : Answer → World → Prop)
    (fine : allowed ⟨.request method url body, w⟩)
    (gives : ∀ answer store rules,
      told answer { w.record (.request method url body) with store := store, rules := rules }) :
    Watches allowed w id (Step.act (watchedClient.request method url body))
      (Step.act (searchClient.request method url body)) told := by
  obtain ⟨store, rules, after⟩ := request_run method url body w
  refine .call (.request method url body) (Step.act (searchClient.request method url body)) ?_ ?_
    fine ?_
  · rw [Except.map_id]
    rfl
  · rw [Step.act_run, after]
    rfl
  · rintro answer ⟨⟩
    rw [Step.act_run, after]
    exact gives _ store rules

/-- The only client that is granted is the one for the search cluster of the world. -/
theorem watches_clientFor {allowed : Sight → Prop} {w : World} {name space : String}
    (told : SearchClient World → World → Prop) (fine : allowed ⟨.clientFor name space, w⟩)
    (gives : told searchClient (w.record (.clientFor name space))) :
    Watches allowed w (fun _ => watchedClient) (watchedClients.clientFor space name)
      (clients.clientFor space name) told := by
  refine .call (.clientFor name space) (fun w =>
    ((clients.clientFor space name w).1.map fun _ => watchedClient,
      (clients.clientFor space name w).2)) rfl ?_ fine ?_
  · simp only [clients]
    split <;> rfl
  · simp only [clients]
    split
    · rintro client ⟨⟩
    · rintro client ⟨⟩
      exact gives

theorem watches_publish {allowed : Sight → Prop} (e : PublishedEvent) (w : World) :
    Watches allowed w id (Step.act (watchedPublisher.publish e)) (Step.act (publisher.publish e))
      fun _ _ => True := by
  intro earlier
  refine ⟨[], ?_, ?_, by simp, fun _ _ => trivial⟩
  · rw [List.append_nil]
    rfl
  · rw [List.map_nil, List.append_nil]
    rfl

end World

end SearchOperator.Simulation
