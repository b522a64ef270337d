import SearchOperator.Proofs.Json.Ordered

/-!
# Documents alike

Documents are alike if they differ at most in the values of floats, which is how a document may come
back from its text. Documents without floats are alike only if they are equal.
-/

namespace SearchOperator.Json

mutual

/-- Equality of documents up to the values of floats. -/
def Alike : Json → Json → Prop
  | .null, .null => True
  | .bool a, .bool b => a = b
  | .number (.integer m), .number (.integer n) => m = n
  | .number (.float _), .number (.float _) => True
  | .string s, .string t => s = t
  | .array as, .array bs => AlikeItems as bs
  | .object as, .object bs => AlikeMembers as bs
  | _, _ => False
termination_by structural x => x

def AlikeItems : List Json → List Json → Prop
  | [], [] => True
  | a :: as, b :: bs => Alike a b ∧ AlikeItems as bs
  | _, _ => False
termination_by structural x => x

def AlikeMembers : List (String × Json) → List (String × Json) → Prop
  | [], [] => True
  | a :: as, b :: bs => AlikeMember a b ∧ AlikeMembers as bs
  | _, _ => False
termination_by structural x => x

def AlikeMember : String × Json → String × Json → Prop
  | (k, a), (l, b) => k = l ∧ Alike a b
termination_by structural x => x

end

mutual

/-- A document without floats, in which no more brackets are open at a time than given. -/
def Steady : Json → Nat → Prop
  | .null, _ => True
  | .bool _, _ => True
  | .number (.integer _), _ => True
  | .number (.float _), _ => False
  | .string _, _ => True
  | .array _, 0 => False
  | .array items, depth + 1 => SteadyItems items depth
  | .object _, 0 => False
  | .object members, depth + 1 => SteadyMembers members depth
termination_by structural x => x

def SteadyItems : List Json → Nat → Prop
  | [], _ => True
  | a :: as, depth => Steady a depth ∧ SteadyItems as depth
termination_by structural x => x

def SteadyMembers : List (String × Json) → Nat → Prop
  | [], _ => True
  | m :: ms, depth => SteadyMember m depth ∧ SteadyMembers ms depth
termination_by structural x => x

def SteadyMember : String × Json → Nat → Prop
  | (_, v), depth => Steady v depth
termination_by structural x => x

end

mutual

/-- A steady document is like itself alone. -/
theorem eq_of_alike : (j k : Json) → (depth : Nat) → Steady j depth → Alike j k → k = j
  | .null, k, _, _, alike => by
      cases k with
      | null => rfl
      | _ => cases alike
  | .bool _, k, _, _, alike => by
      cases k with
      | bool _ => exact congrArg Json.bool (Eq.symm alike)
      | _ => cases alike
  | .number (.integer _), k, _, _, alike => by
      cases k with
      | number n =>
          cases n with
          | integer _ => exact congrArg (fun m => Json.number (.integer m)) (Eq.symm alike)
          | float _ => cases alike
      | _ => cases alike
  | .number (.float _), _, _, steady, _ => steady.elim
  | .string _, k, _, _, alike => by
      cases k with
      | string _ => exact congrArg Json.string (Eq.symm alike)
      | _ => cases alike
  | .array _, _, 0, steady, _ => steady.elim
  | .array as, k, depth + 1, steady, alike => by
      cases k with
      | array bs => exact congrArg Json.array (eqItems_of_alike as bs depth steady alike)
      | _ => cases alike
  | .object _, _, 0, steady, _ => steady.elim
  | .object as, k, depth + 1, steady, alike => by
      cases k with
      | object bs => exact congrArg Json.object (eqMembers_of_alike as bs depth steady alike)
      | _ => cases alike
termination_by structural j => j

theorem eqItems_of_alike : (as bs : List Json) → (depth : Nat) → SteadyItems as depth →
    AlikeItems as bs → bs = as
  | [], [], _, _, _ => rfl
  | a :: as, b :: bs, depth, steady, alike => by
      rw [eq_of_alike a b depth steady.1 alike.1, eqItems_of_alike as bs depth steady.2 alike.2]
termination_by structural as => as

theorem eqMembers_of_alike : (as bs : List (String × Json)) → (depth : Nat) →
    SteadyMembers as depth → AlikeMembers as bs → bs = as
  | [], [], _, _, _ => rfl
  | a :: as, b :: bs, depth, steady, alike => by
      rw [eqMember_of_alike a b depth steady.1 alike.1,
        eqMembers_of_alike as bs depth steady.2 alike.2]
termination_by structural as => as

theorem eqMember_of_alike : (a b : String × Json) → (depth : Nat) → SteadyMember a depth →
    AlikeMember a b → b = a
  | (k, v), (l, w), depth, steady, alike => by
      rw [show k = l from alike.1, eq_of_alike v w depth steady alike.2]
termination_by structural a => a

end

mutual

/-- A steady document nests no deeper. -/
theorem nests_of_steady : (j : Json) → (depth : Nat) → Steady j depth → Nests j depth
  | .null, _, _ => trivial
  | .bool _, _, _ => trivial
  | .number _, _, _ => trivial
  | .string _, _, _ => trivial
  | .array _, 0, steady => steady
  | .array items, depth + 1, steady => nestsItems_of_steady items depth steady
  | .object _, 0, steady => steady
  | .object members, depth + 1, steady => nestsMembers_of_steady members depth steady
termination_by structural j => j

theorem nestsItems_of_steady : (items : List Json) → (depth : Nat) → SteadyItems items depth →
    NestsItems items depth
  | [], _, _ => trivial
  | a :: as, depth, steady =>
      ⟨nests_of_steady a depth steady.1, nestsItems_of_steady as depth steady.2⟩
termination_by structural items => items

theorem nestsMembers_of_steady : (members : List (String × Json)) → (depth : Nat) →
    SteadyMembers members depth → NestsMembers members depth
  | [], _, _ => trivial
  | m :: ms, depth, steady =>
      ⟨nestsMember_of_steady m depth steady.1, nestsMembers_of_steady ms depth steady.2⟩
termination_by structural members => members

theorem nestsMember_of_steady : (m : String × Json) → (depth : Nat) → SteadyMember m depth →
    NestsMember m depth
  | (_, v), depth, steady => nests_of_steady v depth steady
termination_by structural m => m

end

/-! ## Members -/

theorem keys_of_alike {members others : List (String × Json)}
    (alike : AlikeMembers members others) : others.map Prod.fst = members.map Prod.fst := by
  induction members generalizing others with
  | nil =>
      cases others with
      | nil => rfl
      | cons n more => cases alike
  | cons m rest ih =>
      cases others with
      | nil => cases alike
      | cons n more =>
          obtain ⟨k, v⟩ := m
          obtain ⟨l, w⟩ := n
          obtain ⟨⟨same, -⟩, others⟩ := alike
          rw [List.map_cons, List.map_cons, ih others, same]

theorem steadyMembers_iff {members : List (String × Json)} {depth : Nat} :
    SteadyMembers members depth ↔ ∀ m ∈ members, Steady m.2 depth := by
  induction members with
  | nil => simp [SteadyMembers]
  | cons m rest ih =>
      obtain ⟨key, value⟩ := m
      simp [SteadyMembers, SteadyMember, ih]

/-- Members without floats are like themselves alone, however deep each of them nests. -/
theorem members_eq_of_alike {members others : List (String × Json)}
    (steady : ∀ m ∈ members, ∃ depth, SteadyMember m depth)
    (alike : AlikeMembers members others) : others = members := by
  induction members generalizing others with
  | nil =>
      cases others with
      | nil => rfl
      | cons n more => cases alike
  | cons m rest ih =>
      cases others with
      | nil => cases alike
      | cons n more =>
          obtain ⟨depth, first⟩ := steady m List.mem_cons_self
          obtain ⟨same, follow⟩ := alike
          have others := ih (fun l member => steady l (List.mem_cons_of_mem m member)) follow
          rw [eqMember_of_alike m n depth first same, others]

/-- Members alike have values alike under every key, or none. -/
theorem get?_of_alike {members others : List (String × Json)} (alike : AlikeMembers members others)
    (key : String) :
    (Entries.get? key members = none ∧ Entries.get? key others = none) ∨
      ∃ v w, Entries.get? key members = some v ∧ Entries.get? key others = some w ∧ Alike v w := by
  induction members generalizing others with
  | nil =>
      cases others with
      | nil => exact .inl ⟨rfl, rfl⟩
      | cons n more => cases alike
  | cons m rest ih =>
      cases others with
      | nil => cases alike
      | cons n more =>
          obtain ⟨k, v⟩ := m
          obtain ⟨l, w⟩ := n
          obtain ⟨⟨same, values⟩, others⟩ := alike
          cases same
          rw [Entries.get?, Entries.get?]
          by_cases found : key = k
          · rw [if_pos found, if_pos found]
            exact .inr ⟨v, w, rfl, rfl, values⟩
          · rw [if_neg found, if_neg found]
            exact ih others

theorem string?_of_alike {j k : Json} (alike : Alike j k) : k.string? = j.string? := by
  cases j with
  | string s =>
      cases k with
      | string t => rw [show s = t from alike]
      | _ => cases alike
  | null =>
      cases k with
      | null => rfl
      | _ => cases alike
  | bool b =>
      cases k with
      | bool c => rfl
      | _ => cases alike
  | number n =>
      cases k with
      | number m => rfl
      | _ => cases n <;> cases alike
  | array items =>
      cases k with
      | array others => rfl
      | _ => cases alike
  | object members =>
      cases k with
      | object others => rfl
      | _ => cases alike

theorem eq_bool_of_alike {b : Bool} {k : Json} (alike : Alike (.bool b) k) : k = .bool b := by
  exact eq_of_alike (.bool b) k 0 trivial alike

theorem eq_bool_of_alike_right {b : Bool} {j : Json} (alike : Alike j (.bool b)) : j = .bool b := by
  cases j with
  | bool a =>
      cases alike
      rfl
  | number n => cases n <;> cases alike
  | _ => cases alike

/-! ## Equality -/

mutual

theorem same_self : (j : Json) → same j j = true
  | .null => rfl
  | .bool b => by simp [same]
  | .number (.integer n) => by simp [same, Number.same]
  | .number (.float x) => by simp [same, Number.same, Binary64.same]
  | .string s => by simp [same]
  | .array items => sameItems_self items
  | .object members => sameMembers_self members
termination_by structural j => j

theorem sameItems_self : (items : List Json) → sameItems items items = true
  | [] => rfl
  | a :: rest => by
      rw [sameItems, same_self a, sameItems_self rest]
      rfl
termination_by structural items => items

theorem sameMembers_self : (members : List (String × Json)) → sameMembers members members = true
  | [] => rfl
  | m :: rest => by
      rw [sameMembers, sameMember_self m, sameMembers_self rest]
      rfl
termination_by structural members => members

theorem sameMember_self : (m : String × Json) → sameMember m m = true
  | (k, v) => by
      rw [sameMember, beq_self_eq_true, same_self v]
      rfl
termination_by structural m => m

end

theorem alike_number_of_same {m n : Number} (equal : m.same n = true) :
    Alike (.number m) (.number n) := by
  cases m with
  | integer a =>
      cases n with
      | integer b => exact eq_of_beq equal
      | float y => cases equal
  | float x =>
      cases n with
      | integer b => cases equal
      | float y => trivial

mutual

/-- Equal documents are alike. -/
theorem alike_of_same : (j k : Json) → same j k = true → Alike j k
  | .null, k, equal => by
      cases k with
      | null => trivial
      | _ => cases equal
  | .bool _, k, equal => by
      cases k with
      | bool _ => exact eq_of_beq equal
      | _ => cases equal
  | .number _, k, equal => by
      cases k with
      | number _ => exact alike_number_of_same equal
      | _ => cases equal
  | .string _, k, equal => by
      cases k with
      | string _ => exact eq_of_beq equal
      | _ => cases equal
  | .array as, k, equal => by
      cases k with
      | array bs => exact alikeItems_of_same as bs equal
      | _ => cases equal
  | .object as, k, equal => by
      cases k with
      | object bs => exact alikeMembers_of_same as bs equal
      | _ => cases equal
termination_by structural j => j

theorem alikeItems_of_same : (as bs : List Json) → sameItems as bs = true → AlikeItems as bs
  | [], [], _ => trivial
  | a :: as, b :: bs, equal =>
      have parts := (Bool.and_eq_true _ _).mp equal
      ⟨alike_of_same a b parts.1, alikeItems_of_same as bs parts.2⟩
termination_by structural as => as

theorem alikeMembers_of_same : (as bs : List (String × Json)) → sameMembers as bs = true →
    AlikeMembers as bs
  | [], [], _ => trivial
  | a :: as, b :: bs, equal =>
      have parts := (Bool.and_eq_true _ _).mp equal
      ⟨alikeMember_of_same a b parts.1, alikeMembers_of_same as bs parts.2⟩
termination_by structural as => as

theorem alikeMember_of_same : (a b : String × Json) → sameMember a b = true → AlikeMember a b
  | (_, v), (_, w), equal =>
      have parts := (Bool.and_eq_true _ _).mp equal
      ⟨eq_of_beq parts.1, alike_of_same v w parts.2⟩
termination_by structural a => a

end

end SearchOperator.Json
