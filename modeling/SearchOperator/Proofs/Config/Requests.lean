import SearchOperator.Config.Convergence
import SearchOperator.Proofs.Simulation.Answers
import SearchOperator.Proofs.Simulation.Calls
import SearchOperator.Proofs.Step

/-!
# Making operations hold, request by request

Operations are made to hold by requests alone. So what relates the requests of two clients, and is
preserved by composition, relates whole runs through them. In particular, a run leaves alone what
the requests leave alone, and how it ends depends on no more than the answers do.
-/

namespace SearchOperator

section

variable {σ τ γ : Type} {client : SearchClient σ} {read : σ → γ}

namespace Operation

/-- What relates the requests of two clients relates the runs of operations through them. -/
theorem convergeFrom_of_requests (client : SearchClient σ) (other : SearchClient τ)
    {R : ∀ {α : Type}, Step σ α → Step τ α → Prop} (composable : Step.IsComposable R)
    (requests : ∀ method url body,
      R (Step.act (client.request method url body)) (Step.act (other.request method url body)))
    (limit : Duration) (ops : List Operation) (report : Report) :
    R (convergeFrom client limit report ops) (convergeFrom other limit report ops) := by
  have sends (method : Method) (url : String) (body : Option Bytes) :
      R (client.send limit method url body) (other.send limit method url body) :=
    composable.bind (requests method url body) fun _ => composable.ofExcept _
  have writes (op : Operation) : R (op.write client limit) (op.write other limit) := by
    apply composable.bind (sends _ _ _)
    intro response
    split
    · exact composable.throw _
    · exact composable.pure ()
  have converges (op : Operation) : R (op.converge client limit) (op.converge other limit) := by
    apply composable.bind (composable.bind (sends _ _ _) fun _ => composable.ofExcept _)
    intro need
    cases need with
    | none => exact composable.pure _
    | create => exact composable.bind (writes op) fun _ => composable.pure _
    | update => exact composable.bind (writes op) fun _ => composable.pure _
  induction ops generalizing report with
  | nil => exact composable.pure report
  | cons op rest ih => exact composable.bind (converges op) fun outcome => ih _

end Operation

/-- A client whose requests leave alone what is read off a world. -/
def SearchClient.Leaves (client : SearchClient σ) (read : σ → γ) : Prop :=
  ∀ method url body s, read (client.request method url body s).2 = read s

theorem Operation.keeps_convergeFrom (leaves : client.Leaves read) (limit : Duration)
    (ops : List Operation) (report : Report) :
    Keeps read (convergeFrom client limit report ops) :=
  convergeFrom_of_requests client client (Step.keeps_isComposable read)
    (fun method url body => Step.keeps_act (leaves method url body)) limit ops report

end

namespace Simulation.World

/-- What is neither a document nor a scripted answer nor a call is left alone by requests. -/
theorem leaves_searchClient {γ : Type} {read : World → γ}
    (apart : ∀ w store rules made,
      read { w with store := store, rules := rules, calls := made } = read w) :
    searchClient.Leaves read := by
  intro method url body w
  obtain ⟨store, rules, after⟩ := request_run method url body w
  rw [after]
  exact apart w store rules _

/-- Only the documents and the scripted answers tell how a run of operations ends. -/
theorem convergeAll_congr {u v : World} (store : u.store = v.store) (rules : u.rules = v.rules)
    (limit : Duration) (ops : List Operation) :
    (Operation.convergeAll searchClient limit ops u).1 =
      (Operation.convergeAll searchClient limit ops v).1 := by
  have requests (method : Method) (url : String) (body : Option Bytes) :
      Step.Agree (fun w : World => (w.store, w.rules))
        (Step.act (searchClient.request method url body))
        (Step.act (searchClient.request method url body)) := by
    intro s t same
    obtain ⟨store, rules⟩ := Prod.ext_iff.mp same
    obtain ⟨answers, stores, ruled⟩ :=
      @answer_congr (s.record (.request method url body)) (t.record (.request method url body))
        store rules method url body
    exact ⟨congrArg Except.ok answers, Prod.ext stores ruled⟩
  exact (Operation.convergeFrom_of_requests searchClient searchClient (Step.agree_isComposable _)
    requests limit ops .empty u v (Prod.ext store rules)).1

/-! ## Calls that write to no stored resource -/

/-- One world follows another by calls that write to no stored resource. -/
structure Trails (w u : World) : Prop where
  calls : ∃ made, u.calls = w.calls ++ made ∧ Silent made
  config : u.config = w.config
  patching : u.patching = w.patching

theorem Trails.refl (w : World) : w.Trails w :=
  ⟨⟨[], (List.append_nil _).symm, List.forall_mem_nil _⟩, rfl, rfl⟩

theorem Trails.trans {w u v : World} (first : w.Trails u) (second : u.Trails v) : w.Trails v := by
  obtain ⟨made, calls, silent⟩ := first.calls
  obtain ⟨more, later, still⟩ := second.calls
  refine ⟨⟨made ++ more, ?_, List.forall_mem_append.mpr ⟨silent, still⟩⟩,
    second.config.trans first.config, second.patching.trans first.patching⟩
  rw [later, calls, List.append_assoc]

theorem trails_bind {α β : Type} {x : Step World α} {f : α → Step World β}
    (first : Step.Moves Trails x) (next : ∀ a, Step.Moves Trails (f a)) :
    Step.Moves Trails (x >>= f) :=
  Step.moves_bind (fun _ _ _ => Trails.trans) first next

theorem trails_called (w : World) {made : Call} (silent : made.isPatch = false) :
    w.Trails (w.called [made]) :=
  ⟨⟨[made], rfl, List.forall_mem_singleton.mpr silent⟩, rfl, rfl⟩

/-- Making operations hold takes requests to the search cluster only. -/
theorem trails_convergeAll (limit : Duration) (ops : List Operation) :
    Step.Moves Trails (Operation.convergeAll searchClient limit ops) := by
  have requests (method : Method) (url : String) (body : Option Bytes) :
      Step.Moves Trails (Step.act (searchClient.request method url body)) := by
    intro w
    obtain ⟨store, rules, after⟩ := request_run method url body w
    rw [Step.act_run, after]
    exact ⟨⟨[.request method url body], rfl, List.forall_mem_singleton.mpr rfl⟩, rfl, rfl⟩
  exact Operation.convergeFrom_of_requests searchClient searchClient
    (Step.moves_isComposable Trails.refl fun _ _ _ => Trails.trans) requests limit ops .empty

end Simulation.World

end SearchOperator
