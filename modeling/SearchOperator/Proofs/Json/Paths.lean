import Mathlib.Data.List.Perm.Subperm
import SearchOperator.Json.Comparison
import SearchOperator.Proofs.Json.Ordered

/-!
# Comparison by paths

A path leads through keys of objects and indices of arrays to a node of a document. One document
contains another one if every path of the other one leads to a like node in it, and the two are
identical if it has no further paths. The comparison is first described one level deep, by the
children of two nodes; what holds of all paths follows by induction.
-/

namespace SearchOperator

namespace Entries

variable {α : Type}

theorem nodup_keys {entries : List (String × α)} (sorted : Sorted entries) :
    (entries.map Prod.fst).Nodup := by
  refine List.pairwise_map.mpr (sorted.imp fun {a b} below same => ?_)
  have equal : compare a.1 b.1 = .eq := same ▸ Std.ReflCmp.compare_self
  rw [equal] at below
  cases below

theorem mem_keys_iff {entries : List (String × α)} (sorted : Sorted entries) {key : String} :
    key ∈ entries.map Prod.fst ↔ ∃ value, get? key entries = some value := by
  constructor
  · intro member
    obtain ⟨entry, inside, rfl⟩ := List.mem_map.mp member
    exact ⟨entry.2, get?_of_mem sorted inside⟩
  · rintro ⟨value, found⟩
    exact List.mem_map.mpr ⟨(key, value), mem_of_get? found, rfl⟩

/-- Entries whose keys all occur among others are as many as those exactly if the keys of those all
occur among them. -/
theorem length_eq_iff {entries others : List (String × α)} (sorted : Sorted entries)
    (others_sorted : Sorted others)
    (found : ∀ key value, get? key entries = some value → ∃ other, get? key others = some other) :
    entries.length = others.length ↔
      ∀ key other, get? key others = some other → ∃ value, get? key entries = some value := by
  have inside : entries.map Prod.fst ⊆ others.map Prod.fst := by
    intro key member
    obtain ⟨value, here⟩ := (mem_keys_iff sorted).mp member
    exact (mem_keys_iff others_sorted).mpr (found key value here)
  have fewer := (nodup_keys sorted).subperm inside
  have size : (entries.map Prod.fst).length = entries.length := List.length_map Prod.fst
  have other_size : (others.map Prod.fst).length = others.length := List.length_map Prod.fst
  rw [← size, ← other_size]
  constructor
  · intro size key other there
    have same := fewer.perm_of_length_le (Nat.le_of_eq size.symm)
    exact (mem_keys_iff sorted).mp
      (same.mem_iff.mpr ((mem_keys_iff others_sorted).mpr ⟨other, there⟩))
  · intro back
    have outside : others.map Prod.fst ⊆ entries.map Prod.fst := by
      intro key member
      obtain ⟨other, there⟩ := (mem_keys_iff others_sorted).mp member
      exact (mem_keys_iff sorted).mpr (back key other there)
    exact Nat.le_antisymm fewer.length_le ((nodup_keys others_sorted).subperm outside).length_le

end Entries

namespace Json

/-! ## Nodes and paths -/

/-- The kinds of nodes; whatever has no parts is a scalar. -/
inductive Kind where
  | scalar
  | array
  | object
deriving DecidableEq, Repr

def kind : Json → Kind
  | .array _ => .array
  | .object _ => .object
  | _ => .scalar

/-- One step of a path: to the member with a key, or to the item at an index. -/
inductive Segment where
  | key (key : String)
  | index (i : Nat)
deriving DecidableEq, Repr

def child? (j : Json) : Segment → Option Json
  | .key key => j.get? key
  | .index i => j.items?.bind fun items => items[i]?

/-- The node to which a path leads. -/
def node? (j : Json) : List Segment → Option Json
  | [] => some j
  | segment :: rest => (j.child? segment).bind fun child => child.node? rest

/-- Equality of scalars: numbers by value, all others only with themselves. -/
def SameScalar : Json → Json → Prop
  | .number m, .number n => m.equal n = true
  | o, d => o = d

/-- An observed node is like a desired one: of one kind, and equal if they are scalars. -/
structure IsLike (o d : Json) : Prop where
  kind : o.kind = d.kind
  scalar : d.kind = .scalar → SameScalar o d

/-- Every path of the desired document leads to a like node in the observed one. -/
def Covers (o d : Json) : Prop :=
  ∀ path node, d.node? path = some node → ∃ seen, o.node? path = some seen ∧ seen.IsLike node

/-- Every path of the observed document is one of the desired document. -/
def Within (o d : Json) : Prop :=
  ∀ path, (o.node? path).isSome = true → (d.node? path).isSome = true

theorem node?_cons {j : Json} {segment : Segment} {rest : List Segment} {child : Json}
    (next : j.child? segment = some child) : j.node? (segment :: rest) = child.node? rest := by
  rw [node?, next, Option.bind_some]

theorem sameScalar_cases {o d : Json} (same : SameScalar o d) :
    o = d ∨ ∃ m n, o = .number m ∧ d = .number n ∧ m.equal n = true := by
  cases o with
  | number m =>
      cases d with
      | number n => exact .inr ⟨m, n, rfl, rfl, same⟩
      | _ => exact .inl same
  | _ => exact .inl same

theorem isLike_of_scalar {o d : Json} (scalar : d.kind = .scalar) :
    o.IsLike d ↔ o.kind = .scalar ∧ SameScalar o d := by
  constructor
  · rintro ⟨kind, same⟩
    exact ⟨kind.trans scalar, same scalar⟩
  · rintro ⟨kind, same⟩
    exact ⟨kind.trans scalar.symm, fun _ => same⟩

theorem isLike_of_parts {o d : Json} (parts : d.kind ≠ .scalar) :
    o.IsLike d ↔ o.kind = d.kind := by
  constructor
  · exact IsLike.kind
  · intro kind
    exact ⟨kind, fun scalar => absurd scalar parts⟩

/-! ## Children -/

theorem child?_of_scalar {j : Json} (scalar : j.kind = .scalar) (segment : Segment) :
    j.child? segment = none := by
  cases j with
  | array items => cases scalar
  | object members => cases scalar
  | _ => cases segment <;> rfl

theorem child?_array {items : List Json} {segment : Segment} {node : Json} :
    (Json.array items).child? segment = some node ↔
      ∃ i, segment = .index i ∧ items[i]? = some node := by
  cases segment with
  | key key => simp [child?, get?]
  | index i => simp [child?, items?]

theorem child?_object {members : List (String × Json)} {segment : Segment} {node : Json} :
    (Json.object members).child? segment = some node ↔
      ∃ key, segment = .key key ∧ Entries.get? key members = some node := by
  cases segment with
  | key key => simp [child?, get?]
  | index i => simp [child?, items?]

/-- Each child of the second node has a partner in its place in the first one. -/
def Pairs (R : Json → Json → Prop) (o d : Json) : Prop :=
  ∀ segment node, d.child? segment = some node → ∃ seen, o.child? segment = some seen ∧ R seen node

theorem pairs_of_scalar {R : Json → Json → Prop} (o : Json) {d : Json} (scalar : d.kind = .scalar) :
    Pairs R o d := by
  intro segment node next
  rw [child?_of_scalar scalar] at next
  cases next

theorem pairs_array {R : Json → Json → Prop} {os ds : List Json} :
    Pairs R (.array os) (.array ds) ↔
      ∀ (i : Nat) (d : Json), ds[i]? = some d → ∃ o, os[i]? = some o ∧ R o d := by
  constructor
  · intro each i d here
    obtain ⟨o, next, holds⟩ := each (.index i) d (child?_array.mpr ⟨i, rfl, here⟩)
    obtain ⟨j, same, there⟩ := child?_array.mp next
    cases same
    exact ⟨o, there, holds⟩
  · intro each segment d next
    obtain ⟨i, rfl, here⟩ := child?_array.mp next
    obtain ⟨o, there, holds⟩ := each i d here
    exact ⟨o, child?_array.mpr ⟨i, rfl, there⟩, holds⟩

theorem pairs_object {R : Json → Json → Prop} {os ds : List (String × Json)} :
    Pairs R (.object os) (.object ds) ↔
      ∀ key d, Entries.get? key ds = some d → ∃ o, Entries.get? key os = some o ∧ R o d := by
  constructor
  · intro each key d here
    obtain ⟨o, next, holds⟩ := each (.key key) d (child?_object.mpr ⟨key, rfl, here⟩)
    obtain ⟨other, same, there⟩ := child?_object.mp next
    cases same
    exact ⟨o, there, holds⟩
  · intro each segment d next
    obtain ⟨key, rfl, here⟩ := child?_object.mp next
    obtain ⟨o, there, holds⟩ := each key d here
    exact ⟨o, child?_object.mpr ⟨key, rfl, there⟩, holds⟩

/-- In an ordered object every member stands under its key. -/
theorem pairs_members {R : Json → Json → Prop} {os ds : List (String × Json)}
    (sorted : Entries.Sorted ds) : Pairs R (.object os) (.object ds) ↔
      ∀ m ∈ ds, ∃ o, Entries.get? m.1 os = some o ∧ R o m.2 := by
  rw [pairs_object]
  constructor
  · intro each m member
    exact each m.1 m.2 (Entries.get?_of_mem sorted member)
  · intro each key d found
    exact each (key, d) (Entries.mem_of_get? found)

theorem Ordered.child {j node : Json} {segment : Segment} (ordered : j.Ordered)
    (next : j.child? segment = some node) : node.Ordered := by
  cases j with
  | array items =>
      obtain ⟨i, -, here⟩ := child?_array.mp next
      exact orderedItems_iff.mp ordered node (List.mem_of_getElem? here)
  | object members =>
      obtain ⟨key, -, here⟩ := child?_object.mp next
      exact orderedMembers_iff.mp ordered.2 (key, node) (Entries.mem_of_get? here)
  | _ =>
      rw [child?_of_scalar rfl] at next
      cases next

/-- A property holds of all documents if it passes from the children of a node to the node. -/
@[elab_as_elim]
theorem induction_children {P : Json → Prop}
    (step : ∀ j, (∀ segment node, j.child? segment = some node → P node) → P j) (j : Json) :
    P j := by
  have scalar (j : Json) (none : j.kind = .scalar) : P j := by
    refine step j fun segment node next => ?_
    rw [child?_of_scalar none] at next
    cases next
  refine @Json.rec P (fun items => ∀ item ∈ items, P item)
    (fun members => ∀ member ∈ members, P member.2) (fun member => P member.2)
    (scalar .null rfl) (fun b => scalar (.bool b) rfl) (fun n => scalar (.number n) rfl)
    (fun s => scalar (.string s) rfl) ?array ?object ?noItem ?item ?noMember ?member
    (fun _ _ holds => holds) j
  case array =>
    intro items each
    refine step _ fun segment node next => ?_
    obtain ⟨i, -, here⟩ := child?_array.mp next
    exact each node (List.mem_of_getElem? here)
  case object =>
    intro members each
    refine step _ fun segment node next => ?_
    obtain ⟨key, -, here⟩ := child?_object.mp next
    exact each (key, node) (Entries.mem_of_get? here)
  case noItem =>
    intro item member
    cases member
  case item =>
    intro first rest holds others
    exact List.forall_mem_cons.mpr ⟨holds, others⟩
  case noMember =>
    intro member inside
    cases inside
  case member =>
    intro first rest holds others
    exact List.forall_mem_cons.mpr ⟨holds, others⟩

theorem covers_iff {o d : Json} : o.Covers d ↔ o.IsLike d ∧ Pairs Covers o d := by
  constructor
  · intro covers
    constructor
    · obtain ⟨seen, here, like⟩ := covers [] d rfl
      cases here
      exact like
    · intro segment node next
      obtain ⟨seen, here, -⟩ := covers [segment] node (node?_cons next)
      obtain ⟨child, found, -⟩ := Option.bind_eq_some_iff.mp here
      refine ⟨child, found, fun path last leads => ?_⟩
      rw [← node?_cons next] at leads
      rw [← node?_cons found]
      exact covers (segment :: path) last leads
  · rintro ⟨like, children⟩ path node leads
    cases path with
    | nil =>
        cases leads
        exact ⟨o, rfl, like⟩
    | cons segment rest =>
        obtain ⟨child, next, later⟩ := Option.bind_eq_some_iff.mp leads
        obtain ⟨seen, found, covers⟩ := children segment child next
        rw [node?_cons found]
        exact covers rest node later

theorem within_iff {o d : Json} : o.Within d ↔ Pairs (fun node seen => seen.Within node) d o := by
  constructor
  · intro within segment seen next
    have leads : (o.node? [segment]).isSome = true := by
      rw [node?_cons next]
      rfl
    obtain ⟨last, here⟩ := Option.isSome_iff_exists.mp (within [segment] leads)
    obtain ⟨node, found, -⟩ := Option.bind_eq_some_iff.mp here
    refine ⟨node, found, fun path leads => ?_⟩
    rw [← node?_cons next] at leads
    rw [← node?_cons found]
    exact within (segment :: path) leads
  · intro children path leads
    cases path with
    | nil => rfl
    | cons segment rest =>
        obtain ⟨last, here⟩ := Option.isSome_iff_exists.mp leads
        obtain ⟨seen, next, later⟩ := Option.bind_eq_some_iff.mp here
        obtain ⟨node, found, within⟩ := children segment seen next
        rw [node?_cons found]
        exact within rest (Option.isSome_iff_exists.mpr ⟨last, later⟩)

/-! ## One level of the comparison -/

theorem pairs_array_nil {R : Json → Json → Prop} (o : Json) : Pairs R o (.array []) := by
  intro segment node next
  obtain ⟨i, -, here⟩ := child?_array.mp next
  cases here

theorem pairs_array_cons {R : Json → Json → Prop} {o d : Json} {os ds : List Json} :
    Pairs R (.array (o :: os)) (.array (d :: ds)) ↔ R o d ∧ Pairs R (.array os) (.array ds) := by
  rw [pairs_array, pairs_array]
  constructor
  · intro each
    obtain ⟨p, here, holds⟩ := each 0 d rfl
    cases here
    exact ⟨holds, fun i e there => each (i + 1) e there⟩
  · rintro ⟨first, later⟩ i e here
    cases i with
    | zero =>
        cases here
        exact ⟨o, rfl, first⟩
    | succ i => exact later i e here

theorem not_pairs_array_nil {R : Json → Json → Prop} {d : Json} {ds : List Json} :
    ¬ Pairs R (.array []) (.array (d :: ds)) := by
  intro each
  obtain ⟨o, here, -⟩ := pairs_array.mp each 0 d rfl
  cases here

theorem containsItems_iff {os ds : List Json} : containsItems os ds = true ↔
    Pairs (fun o d => contains o d = true) (.array os) (.array ds) := by
  induction ds generalizing os with
  | nil => simp [containsItems, pairs_array_nil]
  | cons d rest ih =>
      cases os with
      | nil => simp [containsItems, not_pairs_array_nil]
      | cons o others => rw [containsItems, Bool.and_eq_true, ih, pairs_array_cons]

theorem equalItems_iff {os ds : List Json} : equalItems os ds = true ↔
    Pairs (fun _ _ => True) (.array os) (.array ds) ∧
      Pairs (fun d o => equal o d = true) (.array ds) (.array os) := by
  induction os generalizing ds with
  | nil =>
      cases ds with
      | nil => simp [equalItems, pairs_array_nil]
      | cons d rest => simp [equalItems, not_pairs_array_nil]
  | cons o others ih =>
      cases ds with
      | nil => simp [equalItems, not_pairs_array_nil]
      | cons d rest =>
          rw [equalItems, Bool.and_eq_true, ih, pairs_array_cons, pairs_array_cons, true_and,
            and_left_comm]

theorem containsMembers_iff {os ds : List (String × Json)} : containsMembers os ds = true ↔
    ∀ m ∈ ds, ∃ o, Entries.get? m.1 os = some o ∧ contains o m.2 = true := by
  induction ds with
  | nil => simp [containsMembers]
  | cons m rest ih =>
      have first : containsMember os m = true ↔
          ∃ o, Entries.get? m.1 os = some o ∧ contains o m.2 = true := by
        rw [containsMember]
        cases Entries.get? m.1 os with
        | none => simp
        | some o => simp
      rw [containsMembers, Bool.and_eq_true, ih, first, List.forall_mem_cons]

theorem equalMembers_iff {ds os : List (String × Json)} : equalMembers ds os = true ↔
    ∀ m ∈ os, ∃ d, Entries.get? m.1 ds = some d ∧ equal m.2 d = true := by
  induction os with
  | nil => simp [equalMembers]
  | cons m rest ih =>
      have first : equalMember ds m = true ↔
          ∃ d, Entries.get? m.1 ds = some d ∧ equal m.2 d = true := by
        rw [equalMember]
        cases Entries.get? m.1 ds with
        | none => simp
        | some d => simp
      rw [equalMembers, Bool.and_eq_true, ih, first, List.forall_mem_cons]

theorem equal_of_scalar {o d : Json} (scalar : d.kind = .scalar) :
    equal o d = true ↔ o.IsLike d := by
  rw [isLike_of_scalar scalar]
  cases d with
  | array ds => cases scalar
  | object ds => cases scalar
  | _ => cases o <;> simp [equal, SameScalar, kind]

theorem contains_of_scalar {o d : Json} (scalar : d.kind = .scalar) :
    contains o d = equal o d := by
  cases d with
  | array ds => cases scalar
  | object ds => cases scalar
  | _ => cases o <;> rfl

/-- A node contains another one if they are alike and each child of that one is contained in the
child in its place. -/
theorem contains_iff {d : Json} (ordered : d.Ordered) (o : Json) : contains o d = true ↔
    o.IsLike d ∧ Pairs (fun seen node => contains seen node = true) o d := by
  by_cases scalar : d.kind = .scalar
  · rw [contains_of_scalar scalar, equal_of_scalar scalar]
    exact (and_iff_left (pairs_of_scalar o scalar)).symm
  · rw [isLike_of_parts scalar]
    cases d with
    | array ds =>
        cases o with
        | array os => simp [contains, containsItems_iff, kind]
        | _ => simp [contains, equal, kind]
    | object ds =>
        cases o with
        | object os => simp [contains, containsMembers_iff, pairs_members ordered.1, kind]
        | _ => simp [contains, equal, kind]
    | _ => exact absurd rfl scalar

/-- A node equals another one if they are alike, each child of that one has a partner in its place,
and each child of this one equals its partner. -/
theorem equal_iff {o d : Json} (observed : o.Ordered) (desired : d.Ordered) : equal o d = true ↔
    o.IsLike d ∧ Pairs (fun _ _ => True) o d ∧
      Pairs (fun node seen => equal seen node = true) d o := by
  by_cases scalar : d.kind = .scalar
  · rw [equal_of_scalar scalar]
    constructor
    · intro like
      exact ⟨like, pairs_of_scalar o scalar, pairs_of_scalar d (like.kind.trans scalar)⟩
    · exact And.left
  · rw [isLike_of_parts scalar]
    cases d with
    | array ds =>
        cases o with
        | array os => simp [equal, equalItems_iff, kind]
        | _ => simp [equal, kind]
    | object ds =>
        cases o with
        | object os =>
            rw [equal, Bool.and_eq_true, beq_iff_eq, equalMembers_iff,
              ← pairs_members (R := fun node seen => equal seen node = true) observed.1]
            have sizes (found : Pairs (fun node seen => equal seen node = true) (.object ds)
                (.object os)) :
                os.length = ds.length ↔ Pairs (fun _ _ => True) (.object os) (.object ds) := by
              have keys := Entries.length_eq_iff observed.1 desired.1 fun key value here => by
                obtain ⟨other, there, -⟩ := pairs_object.mp found key value here
                exact ⟨other, there⟩
              simpa [pairs_object] using keys
            rw [and_congr_left sizes]
            exact (and_iff_right rfl).symm
        | _ => simp [equal, kind]
    | _ => exact absurd rfl scalar

/-! ## All levels -/

theorem isSatisfied_compare (o d : Json) : (compare o d).isSatisfied = contains o d := by
  rw [compare]
  cases contains o d with
  | false => rfl
  | true =>
      cases equal o d with
      | false => rfl
      | true => rfl

/-- A document contains another one exactly if it covers all its paths. -/
theorem contains_iff_covers {d : Json} (ordered : d.Ordered) (o : Json) :
    contains o d = true ↔ o.Covers d := by
  induction d using induction_children generalizing o with
  | step d ih =>
      rw [contains_iff ordered, covers_iff]
      refine and_congr_right fun _ => forall₃_congr fun segment node next => ?_
      refine exists_congr fun seen => and_congr_right fun _ => ?_
      exact ih segment node next (ordered.child next) seen

/-- Documents are identical exactly if the observed one covers all paths of the desired one and has
no others. -/
theorem equal_iff_covers {o d : Json} (observed : o.Ordered) (desired : d.Ordered) :
    equal o d = true ↔ o.Covers d ∧ o.Within d := by
  induction d using induction_children generalizing o with
  | step d ih =>
      rw [equal_iff observed desired, covers_iff, within_iff]
      constructor
      · rintro ⟨like, partners, equals⟩
        refine ⟨⟨like, fun segment node next => ?_⟩, fun segment seen found => ?_⟩
        · obtain ⟨seen, found, -⟩ := partners segment node next
          obtain ⟨other, same, equal⟩ := equals segment seen found
          cases next.symm.trans same
          exact ⟨seen, found,
            ((ih segment node next (observed.child found) (desired.child next)).mp equal).1⟩
        · obtain ⟨node, next, equal⟩ := equals segment seen found
          exact ⟨node, next,
            ((ih segment node next (observed.child found) (desired.child next)).mp equal).2⟩
      · rintro ⟨⟨like, covers⟩, within⟩
        refine ⟨like, fun segment node next => ?_, fun segment seen found => ?_⟩
        · obtain ⟨seen, found, -⟩ := covers segment node next
          exact ⟨seen, found, trivial⟩
        · obtain ⟨node, next, inside⟩ := within segment seen found
          obtain ⟨other, same, covered⟩ := covers segment node next
          cases found.symm.trans same
          exact ⟨node, next,
            (ih segment node next (observed.child found) (desired.child next)).mpr
              ⟨covered, inside⟩⟩

/-- Something is missing or different exactly if some path of the desired document does not lead to
a like node in the observed one. The documents match in full exactly if, besides, the observed one
has no further paths. -/
theorem compare_iff_covers {o d : Json} (observed : o.Ordered) (desired : d.Ordered) :
    (compare o d ≠ .none ↔ o.Covers d) ∧ (compare o d = .full ↔ o.Covers d ∧ o.Within d) := by
  rw [← equal_iff_covers observed desired, ← contains_iff_covers desired, compare]
  have stronger : equal o d = true → contains o d = true := by
    rw [equal_iff_covers observed desired, contains_iff_covers desired]
    exact And.left
  cases contained : contains o d with
  | false =>
      have different : equal o d ≠ true := fun same => by
        rw [stronger same] at contained
        cases contained
      simp [different]
  | true =>
      cases equal o d with
      | false => simp
      | true => simp

/-- Settings as they are declared, with a number written as a float. -/
def declaredSettings : Json :=
  .object [("replicas", .number (.float ⟨false, 1023 * 0x10000000000000, by decide⟩)),
    ("tags", .array [.string "a"])]

/-- The same settings as they are observed, with an item and a member more. -/
def observedSettings : Json :=
  .object [("replicas", .ofInt 1), ("tags", .array [.string "a", .null]), ("version", .ofInt 3)]

theorem ordered_declaredSettings : declaredSettings.Ordered := by
  have sorted : Entries.Sorted
      [("replicas", Json.number (.float ⟨false, 1023 * 0x10000000000000, by decide⟩)),
        ("tags", .array [.string "a"])] := by
    unfold Entries.Sorted
    decide
  exact ⟨sorted, trivial, ⟨trivial, trivial⟩, trivial⟩

theorem ordered_observedSettings : observedSettings.Ordered := by
  have sorted : Entries.Sorted [("replicas", Json.ofInt 1),
      ("tags", .array [.string "a", .null]), ("version", .ofInt 3)] := by
    unfold Entries.Sorted
    decide
  exact ⟨sorted, trivial, ⟨trivial, trivial, trivial⟩, trivial, trivial⟩

/-- The observed settings cover the declared ones and have further paths. -/
theorem compare_iff_covers_settings :
    observedSettings.Ordered ∧ declaredSettings.Ordered ∧
      compare observedSettings declaredSettings = .superset ∧
        observedSettings.Covers declaredSettings ∧ ¬ observedSettings.Within declaredSettings := by
  have more : compare observedSettings declaredSettings = .superset := by decide +kernel
  obtain ⟨missing, full⟩ := compare_iff_covers ordered_observedSettings ordered_declaredSettings
  have covers : observedSettings.Covers declaredSettings := by
    apply missing.mp
    rw [more]
    decide
  refine ⟨ordered_observedSettings, ordered_declaredSettings, more, covers, fun within => ?_⟩
  have same := full.mpr ⟨covers, within⟩
  rw [more] at same
  cases same

end Json

end SearchOperator
