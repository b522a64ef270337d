import SearchOperator.Simulation.World

/-!
# Answers to requests

In memory, a request is recorded, may use up a scripted answer and may store a document, and changes
nothing else. Only the documents and the scripted answers tell how it is answered.
-/

namespace SearchOperator.Simulation.World

/-- An answer may use up a scripted one, or store a document. -/
theorem answer_run (method : Method) (url : String) (body : Option Bytes) (w : World) :
    ∃ store rules, (answer method url body w).2 = { w with store := store, rules := rules } := by
  have fallback : ∃ store rules,
      (answerFromStore method url body w).2 = { w with store := store, rules := rules } := by
    cases method with
    | get =>
        refine ⟨w.store, w.rules, ?_⟩
        rw [answerFromStore]
        cases w.store.get? url <;> rfl
    | put => exact ⟨_, w.rules, rfl⟩
    | _ => exact ⟨w.store, w.rules, rfl⟩
  rw [answer]
  cases w.rules.get? (method.text ++ " " ++ url) with
  | none => exact fallback
  | some answers =>
      cases answers with
      | nil => exact fallback
      | cons answer rest =>
          cases rest with
          | nil => exact ⟨w.store, w.rules, rfl⟩
          | cons next more => exact ⟨w.store, _, rfl⟩

/-- A request is recorded, and then answered. -/
theorem request_run (method : Method) (url : String) (body : Option Bytes) (w : World) :
    ∃ store rules, (searchClient.request method url body w).2 =
      { w.record (.request method url body) with store := store, rules := rules } :=
  answer_run method url body (w.record (.request method url body))

/-! ## What tells the answer -/

variable {u v : World} (store : u.store = v.store) (rules : u.rules = v.rules)
include store rules

theorem answerFromStore_congr (method : Method) (url : String) (body : Option Bytes) :
    (answerFromStore method url body u).1 = (answerFromStore method url body v).1 ∧
      (answerFromStore method url body u).2.store = (answerFromStore method url body v).2.store ∧
      (answerFromStore method url body u).2.rules =
        (answerFromStore method url body v).2.rules := by
  cases method with
  | get =>
      simp only [answerFromStore, store]
      cases v.store.get? url with
      | none => exact ⟨rfl, store, rules⟩
      | some document => exact ⟨rfl, store, rules⟩
  | put => exact ⟨rfl, congrArg (·.insert url (body.getD [])) store, rules⟩
  | _ => exact ⟨rfl, store, rules⟩

/-- Only the documents and the scripted answers tell how a request is answered, and which of them
are left. -/
theorem answer_congr (method : Method) (url : String) (body : Option Bytes) :
    (answer method url body u).1 = (answer method url body v).1 ∧
      (answer method url body u).2.store = (answer method url body v).2.store ∧
      (answer method url body u).2.rules = (answer method url body v).2.rules := by
  have fallback := answerFromStore_congr store rules method url body
  simp only [answer, rules]
  cases v.rules.get? (method.text ++ " " ++ url) with
  | none => exact fallback
  | some answers =>
      cases answers with
      | nil => exact fallback
      | cons answer rest =>
          cases rest with
          | nil => exact ⟨rfl, store, rules⟩
          | cons next more => exact ⟨rfl, store, rfl⟩

end SearchOperator.Simulation.World
