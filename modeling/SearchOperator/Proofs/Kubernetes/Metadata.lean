import SearchOperator.Kubernetes.Metadata
import SearchOperator.Proofs.Dictionary

/-!
# Annotations that were set

An annotation that was set has its value, and all others keep theirs.
-/

namespace SearchOperator

namespace Metadata

/-- To set an annotation to the value it has changes nothing. -/
theorem annotate_of_annotation? {m : Metadata} {key value : String}
    (found : m.annotation? key = some value) : m.annotate key value = m := by
  cases annotations : m.annotations with
  | none =>
      rw [annotation?, annotations] at found
      cases found
  | some d =>
      rw [annotation?, annotations] at found
      rw [annotate, annotations, Option.getD_some, Dictionary.insert_of_get? found, ← annotations]

@[simp]
theorem annotation?_annotate_self (m : Metadata) (key value : String) :
    (m.annotate key value).annotation? key = some value :=
  Dictionary.get?_insert_self (m.annotations.getD ∅) key value

@[simp]
theorem annotate_annotate (m : Metadata) (key value later : String) :
    (m.annotate key value).annotate key later = m.annotate key later := by
  rw [annotate, annotate, annotate, Option.getD_some, Dictionary.insert_insert]

theorem annotation?_annotate_of_ne (m : Metadata) {key other : String} (differ : other ≠ key)
    (value : String) : (m.annotate key value).annotation? other = m.annotation? other := by
  rw [annotation?, annotation?, annotate, Option.bind_some, Dictionary.get?_insert_of_ne _ differ]
  cases m.annotations with
  | none => rfl
  | some d => rfl

/-- To set all annotations of a dictionary with one entry is to set that one. -/
theorem annotateAll_singleton (m : Metadata) (key value : String) :
    m.annotateAll (.ofList [(key, value)]) = m.annotate key value := by
  rw [annotateAll, Dictionary.merge_singleton, annotate]

end Metadata

end SearchOperator
