import SearchOperator.Config.Encoding
import SearchOperator.Json.MergePatch
import SearchOperator.Kubernetes.Api.Request
import SearchOperator.Proofs.Dictionary
import SearchOperator.Proofs.Json.Typed
import SearchOperator.Simulation.World

/-!
# Patching the status of a config

A status leaves out what it does not have, and a merge patch keeps what it does not name. So a
status that is patched over another one keeps the other's message and generation where it has none
itself.
-/

namespace SearchOperator

/-- What an API server stores when a status is patched is merged with what was stored, if anything
was. -/
theorem ApiRequest.get?_statusPatch (resource : Json) {status : Json} (some : status ≠ .null) :
    (resource.mergePatch (statusPatch status)).get? "status" =
      Option.some (((resource.get? "status").getD .null).mergePatch status) := by
  have patched : resource.mergePatch (statusPatch status) =
      .object (Entries.insert "status"
        (((Entries.get? "status" (resource.members?.getD [])).getD .null).mergePatch status)
        (resource.members?.getD [])) := by
    cases status with
    | null => exact absurd rfl some
    | _ => rfl
  rw [patched]
  show Entries.get? "status" (Entries.insert "status" _ _) = _
  rw [Entries.get?_insert_self]
  cases resource <;> rfl

namespace ConfigStatus

/-- The numbers of a status fit the words that hold them. -/
structure Fits (s : ConfigStatus) : Prop where
  applied : s.appliedOperations ≤ 0xFFFFFFFF
  generation : ∀ g ∈ s.observedGeneration, -0x8000000000000000 ≤ g ∧ g ≤ 0x7FFFFFFFFFFFFFFF

theorem onto_eq_self {next prev : ConfigStatus} : next.onto prev = next ↔
    (prev.message.isSome = true → next.message.isSome = true) ∧
      (prev.observedGeneration.isSome = true → next.observedGeneration.isSome = true) := by
  obtain ⟨phase, message, applied, generation⟩ := next
  obtain ⟨_, prevMessage, _, prevGeneration⟩ := prev
  cases message <;> cases prevMessage <;> cases generation <;> cases prevGeneration <;>
    simp [onto]

/-! ## The members of a status -/

def optionalEntry {α : Type} (key : String) (f : α → Json) (part : Option α) :
    List (String × Json) :=
  match part with
  | some a => [(key, f a)]
  | none => []

def entries (s : ConfigStatus) : List (String × Json) :=
  ("appliedOperations", .ofNat s.appliedOperations) ::
    (optionalEntry "message" .string s.message ++
      (optionalEntry "observedGeneration" .ofInt s.observedGeneration ++
        [("phase", .string s.phase.text)]))

theorem toJson_eq (s : ConfigStatus) : s.toJson = .object s.entries := by
  obtain ⟨phase, message, applied, generation⟩ := s
  cases message with
  | none =>
      cases generation with
      | none => rfl
      | some g => rfl
  | some m =>
      cases generation with
      | none => rfl
      | some g => rfl

theorem ofInt_eq {n : Int} (low : -0x8000000000000000 ≤ n) (high : n < 0x10000000000000000) :
    Json.ofInt n = .number (.integer ⟨n, low, high⟩) := by
  rw [Json.ofInt, WordInt.ofInt?, dif_pos ⟨low, high⟩]

section

variable {s : ConfigStatus} (fits : s.Fits)
include fits

theorem Fits.ofNat_applied : ∃ n : WordInt, Json.ofNat s.appliedOperations = .number (.integer n) ∧
    n.val = s.appliedOperations := by
  have bound := fits.applied
  exact ⟨_, ofInt_eq (by omega) (by omega), rfl⟩

theorem Fits.ofInt_generation {g : Int} (there : s.observedGeneration = some g) :
    ∃ n : WordInt, Json.ofInt g = .number (.integer n) ∧ n.val = g := by
  obtain ⟨low, high⟩ := fits.generation g there
  exact ⟨_, ofInt_eq low (by omega), rfl⟩

end

theorem Fits.generation_cases {s : ConfigStatus} (fits : s.Fits) : s.observedGeneration = none ∨
    ∃ g n, s.observedGeneration = some g ∧ Json.ofInt g = .number n := by
  cases there : s.observedGeneration with
  | none => exact .inl rfl
  | some g =>
      obtain ⟨n, number, -⟩ := fits.ofInt_generation there
      exact .inr ⟨g, .integer n, rfl, number⟩

theorem mergePatch_toJson {next : ConfigStatus} (fits : next.Fits) (prev : ConfigStatus) :
    prev.toJson.mergePatch next.toJson = (next.onto prev).toJson := by
  obtain ⟨n, applied, -⟩ := fits.ofNat_applied
  have generation := fits.generation_cases
  rw [toJson_eq, toJson_eq, toJson_eq]
  obtain ⟨phase, message, count, observed⟩ := next
  obtain ⟨prevPhase, prevMessage, prevCount, prevObserved⟩ := prev
  simp only [entries, onto] at *
  rcases generation with rfl | ⟨g, m, rfl, number⟩
  · rw [applied]
    cases message <;> cases prevMessage <;> cases prevObserved <;> rfl
  · simp only [applied, optionalEntry, number]
    cases message <;> cases prevMessage <;> cases prevObserved <;>
      simp only [Option.or, number] <;> rfl

/-- Merged into nothing, a status is the whole of what there is. -/
theorem mergePatch_null {next : ConfigStatus} (fits : next.Fits) :
    Json.null.mergePatch next.toJson = next.toJson := by
  obtain ⟨n, applied, -⟩ := fits.ofNat_applied
  have generation := fits.generation_cases
  rw [toJson_eq]
  obtain ⟨phase, message, count, observed⟩ := next
  simp only [entries] at *
  rcases generation with rfl | ⟨g, m, rfl, number⟩
  · rw [applied]
    cases message <;> rfl
  · simp only [applied, optionalEntry, number]
    cases message <;> rfl

/-! ## A status read back -/

open Json.Reader

theorem phase_lookup (phase : ConfigPhase) : ConfigPhase.names.lookup phase.text = some phase := by
  cases phase <;> rfl

def draft (s : ConfigStatus) : Draft :=
  ⟨some s.phase, s.message.map some, some s.appliedOperations, s.observedGeneration.map some⟩

section

variable {s : ConfigStatus} (fits : s.Fits)
include fits

theorem reads_applied : Reads (integer "u32" 0 0xFFFFFFFF) (.ofNat s.appliedOperations)
    (s.appliedOperations : Int) := by
  obtain ⟨n, written, value⟩ := fits.ofNat_applied
  have bound := fits.applied
  rw [written, ← value]
  exact reads_integer "u32" (by omega) (by omega)

theorem reads_generation {g : Int} (there : s.observedGeneration = some g) :
    Reads (optional (integer "i64" (-0x8000000000000000) 0x7FFFFFFFFFFFFFFF)) (.ofInt g)
      (some g) := by
  obtain ⟨n, written, value⟩ := fits.ofInt_generation there
  obtain ⟨low, high⟩ := fits.generation g there
  rw [written, ← value]
  exact reads_optional (reads_integer "i64" (by omega) (by omega)) (by simp)

/-! Each member fills its part of a draft, whatever the other parts are. -/

omit fits in
theorem fills_phase (s : ConfigStatus) (depth : Nat) (message : Option (Option String))
    (applied : Option Int) (generation : Option (Option Int)) :
    layout.Fills depth [("phase", .string s.phase.text)] ⟨none, message, applied, generation⟩
      ⟨some s.phase, message, applied, generation⟩ :=
  .cons rfl rfl (reads_map (reads_variant (phase_lookup s.phase) depth) _) (.nil _)

omit fits in
theorem fills_message (s : ConfigStatus) (depth : Nat) (phase : Option ConfigPhase)
    (applied : Option Int) (generation : Option (Option Int)) :
    layout.Fills depth (optionalEntry "message" .string s.message)
      ⟨phase, none, applied, generation⟩ ⟨phase, s.message.map some, applied, generation⟩ := by
  cases s.message with
  | none => exact .nil _
  | some m => exact .cons rfl rfl (reads_map (reads_optional (reads_string m) (by simp)) _) (.nil _)

theorem fills_applied (depth : Nat) (phase : Option ConfigPhase)
    (message : Option (Option String)) (generation : Option (Option Int)) :
    layout.Fills depth [("appliedOperations", .ofNat s.appliedOperations)]
      ⟨phase, message, none, generation⟩
      ⟨phase, message, some s.appliedOperations, generation⟩ :=
  .cons rfl rfl (reads_map (reads_applied fits) _) (.nil _)

theorem fills_generation (depth : Nat) (phase : Option ConfigPhase)
    (message : Option (Option String)) (applied : Option Int) :
    layout.Fills depth (optionalEntry "observedGeneration" .ofInt s.observedGeneration)
      ⟨phase, message, applied, none⟩
      ⟨phase, message, applied, s.observedGeneration.map some⟩ := by
  cases there : s.observedGeneration with
  | none => exact .nil _
  | some g => exact .cons rfl rfl (reads_map (reads_generation fits there) _) (.nil _)

theorem fills_draft (depth : Nat) : layout.Fills depth s.entries layout.blank s.draft :=
  (fills_applied fits depth none none none).append
    ((s.fills_message depth none _ none).append
      ((fills_generation fits depth none _ _).append (s.fills_phase depth _ _ _)))

omit fits in
/-- A status is read from members that fill its draft. -/
theorem reads_of_fills {members : List (String × Json)} {depth : Nat}
    (filled : layout.Fills depth members layout.blank s.draft) :
    Reads (ConfigStatus.reader (depth + 1)) (.object members) s := by
  have complete : ∀ field ∈ layout.fields, field.required = true → field.isSet s.draft = true := by
    simp [layout]
  have read : Reads (ConfigStatus.reader (depth + 1)) (.object members)
      ⟨s.phase, (s.message.map some).getD none, s.appliedOperations,
        (s.observedGeneration.map some).getD none⟩ :=
    reads_map (Json.Record.reads_object filled complete) _
  have same {α : Type} (part : Option α) : (part.map some).getD none = part := by
    cases part with
    | none => rfl
    | some a => rfl
  rw [same, same] at read
  exact read

theorem reads_toJson (depth : Nat) : Reads (ConfigStatus.reader (depth + 1)) s.toJson s := by
  rw [toJson_eq]
  exact reads_of_fills (fills_draft fits depth)

/-- A status is read back from its text. -/
theorem ofText_text : ofText s.toJson.text = .ok s := by
  have limit : Json.depthLimit = 126 + 1 := rfl
  apply Json.readTyped_of_reads
  rw [limit]
  exact reads_toJson fits 126

end

/-! ## What a patch leaves -/

theorem toJson_ne_null (s : ConfigStatus) : s.toJson ≠ .null := by
  rw [toJson_eq]
  exact Json.noConfusion

theorem Fits.onto {next prev : ConfigStatus} (fitsNext : next.Fits) (fitsPrev : prev.Fits) :
    (next.onto prev).Fits := by
  refine ⟨fitsNext.applied, fun g there => ?_⟩
  rcases Option.or_eq_some_iff.mp there with new | ⟨-, old⟩
  · exact fitsNext.generation g new
  · exact fitsPrev.generation g old

/-- What a world that merges patches stores is what is read back of a resource after the patch that
a pass sends. -/
theorem read_patched {resource : Json} {stored : Option ConfigStatus} {next : ConfigStatus}
    (held : resource.get? "status" = stored.map toJson) (fitsStored : ∀ prev ∈ stored, prev.Fits)
    (fitsNext : next.Fits) :
    ∃ status, (resource.mergePatch (ApiRequest.statusPatch next.toJson)).get? "status" =
        some status ∧
      ofText status.text = .ok (Simulation.StatusPatching.merging.patched stored next) := by
  rw [ApiRequest.get?_statusPatch resource next.toJson_ne_null, held]
  cases stored with
  | none =>
      refine ⟨next.toJson, congrArg some (mergePatch_null fitsNext), ofText_text fitsNext⟩
  | some prev =>
      exact ⟨(next.onto prev).toJson, congrArg some (mergePatch_toJson fitsNext prev),
        ofText_text (fitsNext.onto (fitsStored prev rfl))⟩

/-- A patched status reads back as the new one, except that the earlier message and the earlier
generation stay where the new status has none. -/
theorem read_statusPatch {resource : Json} {prev next : ConfigStatus}
    (stored : resource.get? "status" = some prev.toJson) (fitsPrev : prev.Fits)
    (fitsNext : next.Fits) :
    ∃ status, (resource.mergePatch (ApiRequest.statusPatch next.toJson)).get? "status" =
        some status ∧
      ofText status.text = .ok (next.onto prev) ∧
      (ofText status.text = .ok next ↔
        (prev.message.isSome = true → next.message.isSome = true) ∧
          (prev.observedGeneration.isSome = true → next.observedGeneration.isSome = true)) := by
  have fits := fitsNext.onto fitsPrev
  have patched : (resource.mergePatch (ApiRequest.statusPatch next.toJson)).get? "status" =
      some (next.onto prev).toJson := by
    rw [ApiRequest.get?_statusPatch resource next.toJson_ne_null, stored, Option.getD_some,
      mergePatch_toJson fitsNext]
  refine ⟨_, patched, ofText_text fits, ?_⟩
  rw [ofText_text fits, Except.ok.injEq, onto_eq_self]

def failedOnce : ConfigStatus := ⟨.failed, some "GET /_template/a answered 500", 0, some 1⟩

def appliedAfter : ConfigStatus := ⟨.applied, none, 1, some 1⟩

theorem fits_failedOnce : failedOnce.Fits := ⟨by decide, by decide⟩

theorem fits_appliedAfter : appliedAfter.Fits := ⟨by decide, by decide⟩

/-- A resource that holds a status and nothing else. -/
def resourceWith (s : ConfigStatus) : Json := .ofMembers [("status", s.toJson)]

/-- What a success reads back as once it was patched over a failure. -/
theorem read_statusPatch_failedOnce :
    ∃ status,
      ((resourceWith failedOnce).mergePatch (ApiRequest.statusPatch appliedAfter.toJson)).get?
        "status" = some status ∧
      ofText status.text = .ok ⟨.applied, some "GET /_template/a answered 500", 1, some 1⟩ ∧
      (ofText status.text = .ok appliedAfter ↔
        (failedOnce.message.isSome = true → appliedAfter.message.isSome = true) ∧
          (failedOnce.observedGeneration.isSome = true →
            appliedAfter.observedGeneration.isSome = true)) :=
  read_statusPatch rfl fits_failedOnce fits_appliedAfter

/-- The message of a failure survives the status of a later success. -/
theorem statusPatch_keeps_message :
    ∃ status,
      ((resourceWith failedOnce).mergePatch (ApiRequest.statusPatch appliedAfter.toJson)).get?
        "status" = some status ∧ ofText status.text ≠ .ok appliedAfter := by
  have fits : (appliedAfter.onto failedOnce).Fits := ⟨by decide, by decide⟩
  refine ⟨_, ApiRequest.get?_statusPatch _ appliedAfter.toJson_ne_null, fun read => ?_⟩
  have stored : (resourceWith failedOnce).get? "status" = some failedOnce.toJson := rfl
  rw [stored, Option.getD_some, mergePatch_toJson fits_appliedAfter, ofText_text fits,
    Except.ok.injEq] at read
  exact absurd read (by decide)

end ConfigStatus

end SearchOperator
