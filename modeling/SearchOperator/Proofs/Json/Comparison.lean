import SearchOperator.Json.Comparison
import SearchOperator.Proofs.Json.Ordered

/-!
# Comparison of a document with itself

An ordered document is structurally identical to itself. The order matters: it lets every member be
found under its own key.
-/

namespace SearchOperator

theorem Binary64.same_self (x : Binary64) : x.same x = true := by
  simp [Binary64.same]

theorem Number.equal_self (n : Number) : n.equal n = true := by
  cases n with
  | integer m => simp [Number.equal]
  | float x => simpa [Number.equal, Number.toBinary64?] using x.same_self

namespace Json

mutual

theorem equal_self : (j : Json) → Ordered j → equal j j = true
  | .null, _ => rfl
  | .bool b, _ => by simp [equal]
  | .number n, _ => by simpa [equal] using n.equal_self
  | .string s, _ => by simp [equal]
  | .array items, ordered => by
      rw [equal]
      exact equalItems_self items ordered
  | .object members, ordered => by
      rw [equal, beq_self_eq_true, Bool.true_and]
      exact equalMembers_self members members (fun m inside => Entries.get?_of_mem ordered.1 inside)
        ordered.2
termination_by structural j => j

theorem equalItems_self : (items : List Json) → OrderedItems items →
    equalItems items items = true
  | [], _ => rfl
  | a :: rest, ordered => by
      rw [equalItems, equal_self a ordered.1, equalItems_self rest ordered.2]
      rfl
termination_by structural items => items

theorem equalMembers_self (others : List (String × Json)) : (members : List (String × Json)) →
    (∀ m ∈ members, Entries.get? m.1 others = some m.2) → OrderedMembers members →
      equalMembers others members = true
  | [], _, _ => rfl
  | m :: rest, found, ordered => by
      have others_found : ∀ n ∈ rest, Entries.get? n.1 others = some n.2 :=
        fun n inside => found n (List.mem_cons_of_mem m inside)
      rw [equalMembers, equalMember_self others m (found m List.mem_cons_self) ordered.1,
        equalMembers_self others rest others_found ordered.2]
      rfl
termination_by structural members => members

theorem equalMember_self (others : List (String × Json)) : (m : String × Json) →
    Entries.get? m.1 others = some m.2 → OrderedMember m → equalMember others m = true
  | (key, value), found, ordered => by
      rw [equalMember, found]
      exact equal_self value ordered
termination_by structural m => m

end

mutual

theorem contains_self : (j : Json) → Ordered j → contains j j = true
  | .null, _ => rfl
  | .bool b, _ => by simp [contains, equal]
  | .number n, _ => by simpa [contains, equal] using n.equal_self
  | .string s, _ => by simp [contains, equal]
  | .array items, ordered => by
      rw [contains]
      exact containsItems_self items ordered
  | .object members, ordered => by
      rw [contains]
      exact containsMembers_self members members
        (fun m inside => Entries.get?_of_mem ordered.1 inside) ordered.2
termination_by structural j => j

theorem containsItems_self : (items : List Json) → OrderedItems items →
    containsItems items items = true
  | [], _ => rfl
  | a :: rest, ordered => by
      rw [containsItems, contains_self a ordered.1, containsItems_self rest ordered.2]
      rfl
termination_by structural items => items

theorem containsMembers_self (others : List (String × Json)) :
    (members : List (String × Json)) → (∀ m ∈ members, Entries.get? m.1 others = some m.2) →
      OrderedMembers members → containsMembers others members = true
  | [], _, _ => rfl
  | m :: rest, found, ordered => by
      have others_found : ∀ n ∈ rest, Entries.get? n.1 others = some n.2 :=
        fun n inside => found n (List.mem_cons_of_mem m inside)
      rw [containsMembers, containsMember_self others m (found m List.mem_cons_self) ordered.1,
        containsMembers_self others rest others_found ordered.2]
      rfl
termination_by structural members => members

theorem containsMember_self (others : List (String × Json)) : (m : String × Json) →
    Entries.get? m.1 others = some m.2 → OrderedMember m → containsMember others m = true
  | (key, value), found, ordered => by
      rw [containsMember, found]
      exact contains_self value ordered
termination_by structural m => m

end

/-- An ordered document is identical to itself. -/
theorem compare_self {j : Json} (ordered : j.Ordered) : compare j j = .full := by
  rw [compare, contains_self j ordered, equal_self j ordered]
  rfl

end Json

end SearchOperator
