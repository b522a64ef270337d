import SearchOperator.Json.Typed
import SearchOperator.Proofs.Dictionary
import SearchOperator.Proofs.Json.Reader

/-!
# Documents in order

Every object of a document that was read has its members in the order of their keys, at any depth,
and no more brackets are open at a time in the document than the reader goes deep.
-/

namespace SearchOperator.Json

/-! ## The order of members -/

mutual

/-- The members of every object are in the order of their keys. -/
def Ordered : Json → Prop
  | .null => True
  | .bool _ => True
  | .number _ => True
  | .string _ => True
  | .array items => OrderedItems items
  | .object members => Entries.Sorted members ∧ OrderedMembers members
termination_by structural x => x

def OrderedItems : List Json → Prop
  | [] => True
  | a :: as => Ordered a ∧ OrderedItems as
termination_by structural x => x

def OrderedMembers : List (String × Json) → Prop
  | [] => True
  | m :: ms => OrderedMember m ∧ OrderedMembers ms
termination_by structural x => x

def OrderedMember : String × Json → Prop
  | (_, v) => Ordered v
termination_by structural x => x

end

theorem orderedItems_iff {items : List Json} :
    OrderedItems items ↔ ∀ item ∈ items, Ordered item := by
  induction items with
  | nil => simp [OrderedItems]
  | cons a rest ih => simp [OrderedItems, ih]

theorem orderedMembers_iff {members : List (String × Json)} :
    OrderedMembers members ↔ ∀ member ∈ members, Ordered member.2 := by
  induction members with
  | nil => simp [OrderedMembers]
  | cons m rest ih =>
      obtain ⟨key, value⟩ := m
      simp [OrderedMembers, OrderedMember, ih]

/-! ## The depth of documents -/

mutual

/-- A document in which no more brackets are open at a time than given. -/
def Nests : Json → Nat → Prop
  | .null, _ => True
  | .bool _, _ => True
  | .number _, _ => True
  | .string _, _ => True
  | .array _, 0 => False
  | .array items, depth + 1 => NestsItems items depth
  | .object _, 0 => False
  | .object members, depth + 1 => NestsMembers members depth
termination_by structural x => x

def NestsItems : List Json → Nat → Prop
  | [], _ => True
  | a :: as, depth => Nests a depth ∧ NestsItems as depth
termination_by structural x => x

def NestsMembers : List (String × Json) → Nat → Prop
  | [], _ => True
  | m :: ms, depth => NestsMember m depth ∧ NestsMembers ms depth
termination_by structural x => x

def NestsMember : String × Json → Nat → Prop
  | (_, v), depth => Nests v depth
termination_by structural x => x

end

theorem nestsItems_iff {items : List Json} {depth : Nat} :
    NestsItems items depth ↔ ∀ item ∈ items, Nests item depth := by
  induction items with
  | nil => simp [NestsItems]
  | cons a rest ih => simp [NestsItems, ih]

theorem nestsMembers_iff {members : List (String × Json)} {depth : Nat} :
    NestsMembers members depth ↔ ∀ member ∈ members, Nests member.2 depth := by
  induction members with
  | nil => simp [NestsMembers]
  | cons m rest ih =>
      obtain ⟨key, value⟩ := m
      simp [NestsMembers, NestsMember, ih]

theorem nestsMembers_insert {key : String} {value : Json} {members : List (String × Json)}
    {depth : Nat} (nested : NestsMembers members depth) (other : Nests value depth) :
    NestsMembers (Entries.insert key value members) depth := by
  refine nestsMembers_iff.mpr fun member inside => ?_
  rcases Entries.value_of_mem_insert inside with same | before
  · exact same ▸ other
  · exact nestsMembers_iff.mp nested member before

/-! ## Insertion -/

theorem ordered_object_insert {key : String} {value : Json} {members : List (String × Json)}
    (ordered : Ordered (.object members)) (other : Ordered value) :
    Ordered (.object (Entries.insert key value members)) := by
  obtain ⟨sorted, values⟩ := ordered
  refine ⟨sorted.insert, orderedMembers_iff.mpr fun member inside => ?_⟩
  rcases Entries.value_of_mem_insert inside with same | before
  · exact same ▸ other
  · exact orderedMembers_iff.mp values member before

/-! ## Documents that were read -/

namespace Reader

/-- What a reader that goes some way deep takes. -/
def Shaped (depth : Nat) (j : Json) : Prop := Ordered j ∧ Nests j depth

theorem shaped_array (depth : Nat) (inside : Yields (document depth) (Shaped depth)) :
    Yields (do return .array (← items (document depth) (← fuel) true)) (Shaped (depth + 1)) := by
  refine yields_then fun parts => yields_bind (yields_items inside parts true) fun as each => ?_
  exact yields_pure ⟨orderedItems_iff.mpr fun a member => (each a member).1,
    nestsItems_iff.mpr fun a member => (each a member).2⟩

theorem shaped_member (depth : Nat) (inside : Yields (document depth) (Shaped depth)) (key : String)
    (before : List (String × Json)) (shaped : Shaped (depth + 1) (.object before)) :
    Yields (do colon; return Entries.insert key (← document depth) before)
      fun after => Shaped (depth + 1) (.object after) := by
  refine yields_then fun _ => yields_bind inside fun value holds => ?_
  exact yields_pure ⟨ordered_object_insert shaped.1 holds.1,
    nestsMembers_insert shaped.2 holds.2⟩

/-- A document has the shape if those inside its outermost brackets have. -/
theorem shaped_document_of_inner (depth : Nat)
    (inside : ∀ inner, depth = inner + 1 → Yields (document inner) (Shaped inner)) :
    Yields (document depth) (Shaped depth) := by
  rw [document.eq_def]
  refine yields_then fun next => ?_
  cases next with
  | none => exact yields_failNext _
  | some b =>
      refine yields_ite (fun _ => ?_) fun _ => ?_
      · exact yields_then fun _ => yields_then fun _ => yields_pure ⟨trivial, trivial⟩
      refine yields_ite (fun _ => ?_) fun _ => ?_
      · exact yields_then fun _ => yields_then fun _ => yields_pure ⟨trivial, trivial⟩
      refine yields_ite (fun _ => ?_) fun _ => ?_
      · exact yields_then fun _ => yields_then fun _ => yields_pure ⟨trivial, trivial⟩
      refine yields_ite (fun _ => ?_) fun _ => ?_
      · exact yields_then fun _ => yields_then fun _ => yields_pure ⟨trivial, trivial⟩
      refine yields_ite (fun _ => ?_) fun _ => ?_
      · exact yields_then fun _ => yields_pure ⟨trivial, trivial⟩
      refine yields_ite (fun _ => ?_) fun _ => ?_
      · exact yields_then fun _ => yields_then fun _ => yields_pure ⟨trivial, trivial⟩
      refine yields_ite (fun _ => ?_) fun _ => ?_
      · cases depth with
        | zero => exact yields_failNext _
        | succ inner =>
            refine yields_then fun _ => yields_bracketed ?_
            exact shaped_array inner (inside inner rfl)
      refine yields_ite (fun _ => ?_) fun _ => yields_failNext _
      cases depth with
      | zero => exact yields_failNext _
      | succ inner =>
          have none : Shaped (inner + 1) (.object []) := ⟨⟨List.Pairwise.nil, trivial⟩, trivial⟩
          refine yields_then fun _ => yields_bracketed (yields_then fun parts => ?_)
          refine yields_bind (yields_members (shaped_member inner (inside inner rfl)) parts true
            none) fun ms shaped => ?_
          exact yields_pure shaped

theorem shaped_document (depth : Nat) : Yields (document depth) (Shaped depth) := by
  induction depth with
  | zero => exact shaped_document_of_inner 0 fun inner absurdity => by cases absurdity
  | succ depth ih =>
      refine shaped_document_of_inner (depth + 1) fun inner same => ?_
      cases same
      exact ih

theorem yields_place {α : Type} {P : α → Prop} {r : Reader α} (each : Yields r P) :
    Yields (place r) P := by
  intro rest a after run
  rw [place] at run
  split at run
  · cases run
  · exact each rest a after run

theorem yields_invalidType {α : Type} {P : α → Prop} (found expected : String) :
    Yields (invalidType found expected) P := by
  rintro rest a after run
  cases run

/-- A mismatch gives no value. -/
theorem yields_unexpected {α : Type} {P : α → Prop} (expected : String) :
    Yields (unexpected expected) P := by
  rw [unexpected]
  refine yields_then fun next => ?_
  cases next with
  | none => exact yields_failNext _
  | some b =>
      refine yields_ite (fun _ => ?_) fun _ => ?_
      · exact yields_then fun _ => yields_then fun _ => yields_invalidType _ _
      refine yields_ite (fun _ => ?_) fun _ => ?_
      · exact yields_then fun _ => yields_then fun _ => yields_invalidType _ _
      refine yields_ite (fun _ => ?_) fun _ => ?_
      · exact yields_then fun _ => yields_then fun _ => yields_invalidType _ _
      refine yields_ite (fun _ => ?_) fun _ => ?_
      · exact yields_then fun _ => yields_then fun _ => yields_invalidType _ _
      refine yields_ite (fun _ => ?_) fun _ => ?_
      · exact yields_then fun _ => yields_invalidType _ _
      refine yields_ite (fun _ => ?_) fun _ => ?_
      · exact yields_then fun _ => yields_then fun _ => yields_invalidType _ _
      refine yields_ite (fun _ => yields_invalidType _ _) fun _ => ?_
      exact yields_ite (fun _ => yields_invalidType _ _) fun _ => yields_failNext _

/-- The values of every dictionary of documents that a reader takes are ordered and nest. -/
theorem shaped_dictionaryOf (depth : Nat) :
    Yields (dictionaryOf document (depth + 1))
      fun d => OrderedMembers d.entries ∧ NestsMembers d.entries depth := by
  unfold dictionaryOf
  refine yields_place (yields_then fun b => yields_ite (fun _ => ?_) fun _ => yields_unexpected _)
  have each : ∀ key (d : Dictionary Json),
      OrderedMembers d.entries ∧ NestsMembers d.entries depth →
        Yields (do colon; return d.insert key (← document depth))
          fun d => OrderedMembers d.entries ∧ NestsMembers d.entries depth := by
    intro key d shaped
    refine yields_then fun _ => yields_bind (shaped_document depth) fun value holds => ?_
    exact yields_pure ⟨(ordered_object_insert ⟨d.sorted, shaped.1⟩ holds.1).2,
      nestsMembers_insert shaped.2 holds.2⟩
  refine yields_then fun _ => yields_bracketed (yields_then fun parts => ?_)
  exact yields_members each parts true ⟨trivial, trivial⟩

end Reader

/-- Every document that was read is ordered. -/
theorem ordered_of_read {input : Bytes} {j : Json} (accepted : read input = .ok j) : j.Ordered :=
  (Reader.yields_run (Reader.shaped_document depthLimit) accepted).1

end SearchOperator.Json
