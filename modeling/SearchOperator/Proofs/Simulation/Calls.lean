import SearchOperator.Proofs.Dictionary
import SearchOperator.Proofs.Step
import SearchOperator.Simulation.World

/-!
# Calls that fail

A world lets some calls of the Kubernetes API fail. What is called in such a world is what would be
called without failures, up to and including the first call that fails.
-/

namespace SearchOperator.Simulation

/-- Whether a call writes to a stored resource. -/
def Call.isPatch : Call → Bool
  | .patchClusterStatus .. => true
  | .patchConfigStatus .. => true
  | .patchAnnotations .. => true
  | _ => false

/-- Calls that write nothing to a stored resource. -/
def Silent (made : List Call) : Prop := ∀ call ∈ made, call.isPatch = false

def Call.isKubernetes : Call → Bool
  | .request .. => false
  | .clientFor .. => false
  | _ => true

namespace World

/-- A world after calls that left it as it was. -/
def called (w : World) (made : List Call) : World := { w with calls := w.calls ++ made }

theorem called_called (w : World) (made more : List Call) :
    (w.called made).called more = w.called (made ++ more) := by
  rw [called, called, called, List.append_assoc]

@[simp]
theorem called_nil (w : World) : w.called [] = w := by
  rw [called, List.append_nil]

/-! ## The first failure -/

def failure? (w : World) (made : Call) : Option Error :=
  if made.isKubernetes then w.failures.get? made.operation else none

def firstFailure? (w : World) (calls : List Call) : Option Error := calls.findSome? w.failure?

/-- Calls up to and including the first one that fails. -/
def untilFailure (w : World) : List Call → List Call
  | [] => []
  | made :: rest => if (w.failure? made).isSome then [made] else made :: untilFailure w rest

section

variable {w : World} {made : Call} {calls more : List Call}

theorem failure?_of_failures (unfailing : w.failures = ∅) (made : Call) :
    w.failure? made = none := by
  rw [failure?, unfailing]
  split
  · exact Dictionary.get?_empty _
  · rfl

/-- A search cluster and a client for it are no part of the Kubernetes API. -/
@[simp]
theorem failure?_request (w : World) (method : Method) (url : String) (body : Option Bytes) :
    w.failure? (.request method url body) = none := rfl

@[simp]
theorem failure?_clientFor (w : World) (name space : String) :
    w.failure? (.clientFor name space) = none := rfl

theorem firstFailure?_eq_none :
    w.firstFailure? calls = none ↔ ∀ made ∈ calls, w.failure? made = none :=
  List.findSome?_eq_none_iff

theorem firstFailure?_append (w : World) (calls more : List Call) :
    w.firstFailure? (calls ++ more) = (w.firstFailure? calls).or (w.firstFailure? more) :=
  List.findSome?_append

@[simp]
theorem firstFailure?_singleton (w : World) (made : Call) :
    w.firstFailure? [made] = w.failure? made := by
  rw [firstFailure?, List.findSome?_cons, List.findSome?_nil]
  cases w.failure? made <;> rfl

@[simp]
theorem untilFailure_singleton (w : World) (made : Call) : w.untilFailure [made] = [made] := by
  rw [untilFailure, untilFailure]
  split <;> rfl

theorem untilFailure_of_none (unfailing : w.firstFailure? calls = none) :
    w.untilFailure calls = calls := by
  induction calls with
  | nil => rfl
  | cons made rest ih =>
      rw [firstFailure?_eq_none, List.forall_mem_cons] at unfailing
      rw [untilFailure, unfailing.1, ih (firstFailure?_eq_none.mpr unfailing.2)]
      rfl

/-- Calls after a failure are not made. -/
theorem untilFailure_append_of_some {e : Error} (failed : w.firstFailure? calls = some e)
    (more : List Call) : w.untilFailure (calls ++ more) = w.untilFailure calls := by
  induction calls with
  | nil => cases failed
  | cons made rest ih =>
      rw [List.cons_append, untilFailure, untilFailure]
      cases fails : w.failure? made with
      | some e => rfl
      | none =>
          rw [firstFailure?, List.findSome?_cons, fails] at failed
          rw [ih failed]

theorem untilFailure_append_of_none (unfailing : w.firstFailure? calls = none)
    (more : List Call) : w.untilFailure (calls ++ more) = calls ++ w.untilFailure more := by
  induction calls with
  | nil => rfl
  | cons made rest ih =>
      rw [firstFailure?_eq_none, List.forall_mem_cons] at unfailing
      rw [List.cons_append, untilFailure, unfailing.1, ih (firstFailure?_eq_none.mpr unfailing.2)]
      rfl

/-- The calls that are made fail for the reason for which those fail that were to be made. -/
@[simp]
theorem firstFailure?_untilFailure (w : World) (calls : List Call) :
    w.firstFailure? (w.untilFailure calls) = w.firstFailure? calls := by
  induction calls with
  | nil => rfl
  | cons made rest ih =>
      rw [untilFailure]
      cases fails : w.failure? made with
      | some e => simp [firstFailure?, fails]
      | none =>
          rw [firstFailure?] at ih ⊢
          simp [firstFailure?, fails, ih]

/-- Which calls fail is a matter of the failures of a world only. -/
theorem untilFailure_congr {u : World} (same : u.failures = w.failures) (calls : List Call) :
    u.untilFailure calls = w.untilFailure calls := by
  induction calls with
  | nil => rfl
  | cons made rest ih => rw [untilFailure, untilFailure, ih, failure?, failure?, same]

theorem firstFailure?_congr {u : World} (same : u.failures = w.failures) (calls : List Call) :
    u.firstFailure? calls = w.firstFailure? calls := by
  have each : u.failure? = w.failure? := by
    funext made
    rw [failure?, failure?, same]
  rw [firstFailure?, firstFailure?, each]

/-- What calls end with: the failure of the first one that fails, or else a value. -/
def ending {α : Type} (w : World) (calls : List Call) (a : α) : Except Error α :=
  match w.firstFailure? calls with
  | some e => .error e
  | none => .ok a

theorem ending_of_some {α : Type} {e : Error} (failed : w.firstFailure? calls = some e) (a : α) :
    w.ending calls a = .error e := by
  rw [ending, failed]

theorem ending_of_none {α : Type} (unfailing : w.firstFailure? calls = none) (a : α) :
    w.ending calls a = .ok a := by
  rw [ending, unfailing]

theorem untilFailure_subset (w : World) (calls : List Call) : w.untilFailure calls ⊆ calls := by
  induction calls with
  | nil => exact List.Subset.refl _
  | cons made rest ih =>
      rw [untilFailure]
      split
      · exact List.cons_subset_cons made (List.nil_subset rest)
      · exact List.cons_subset_cons made ih

end

/-! ## Running a call -/

/-- A call fails if the world says so, and else it does what it is for. -/
theorem call_run {α : Type} (made : Call) (kube : made.isKubernetes = true)
    (run : StateM World α) (w : World) :
    (∃ e, w.failure? made = some e ∧ World.call made run w = (.error e, w.called [made])) ∨
      w.failure? made = none ∧
        World.call made run w = (.ok (run (w.called [made])).1, (run (w.called [made])).2) := by
  rw [World.call, failure?, if_pos kube]
  cases scripted : w.failures.get? made.operation with
  | some e =>
      refine .inl ⟨e, rfl, ?_⟩
      simp only [record, scripted]
      rfl
  | none =>
      refine .inr ⟨rfl, ?_⟩
      simp only [record, scripted]
      rfl

/-- A call that reads gives what it looks at, or fails. -/
theorem read_run {α : Type} (made : Call) (kube : made.isKubernetes = true)
    (look : World → α) (w : World) (same : look (w.called [made]) = look w) :
    (∃ e, w.failure? made = some e ∧
        World.call made (fun w => (look w, w)) w = (.error e, w.called [made])) ∨
      w.failure? made = none ∧
        World.call made (fun w => (look w, w)) w = (.ok (look w), w.called [made]) := by
  have run := call_run made kube (fun w => (look w, w)) w
  rw [same] at run
  exact run

end World

end SearchOperator.Simulation
