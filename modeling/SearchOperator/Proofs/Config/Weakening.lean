import SearchOperator.Config.Convergence
import SearchOperator.Proofs.Config.Body
import SearchOperator.Proofs.Json.Equality
import SearchOperator.Proofs.Json.Paths

/-!
# Weaker declarations

A document that satisfies a declaration satisfies every weaker one, and needs no write for it, with
one exception: integers are compared exactly with each other but as binary64 numbers with floats, so
two different integers from 2^53 on may both equal one float.
-/

namespace SearchOperator

namespace Json

/-! ## Comparison of three documents -/

/-- At the end of a path, different integers stand in the outer two of three documents, and a float
in the middle one. -/
def Bridges (a b c : Json) (path : List Segment) (m n : WordInt) : Prop :=
  a.node? path = some (.number (.integer m)) ∧
    (∃ x, b.node? path = some (.number (.float x))) ∧
      c.node? path = some (.number (.integer n)) ∧ m ≠ n

/-- Likeness of nodes is transitive but for such integers, which are at least 2^53. -/
theorem IsLike.trans_or {a b c : Json} (first : a.IsLike b) (second : b.IsLike c) :
    a.IsLike c ∨ ∃ m x n, a = .number (.integer m) ∧ b = .number (.float x) ∧
      c = .number (.integer n) ∧ m ≠ n ∧
        0x20000000000000 ≤ m.val.natAbs ∧ 0x20000000000000 ≤ n.val.natAbs := by
  by_cases scalar : c.kind = .scalar
  · rcases sameScalar_cases (first.scalar (second.kind.trans scalar)) with
      rfl | ⟨l, m, rfl, rfl, upper⟩
    · exact .inl second
    · rcases sameScalar_cases (second.scalar scalar) with rfl | ⟨_, n, same, rfl, lower⟩
      · exact .inl first
      · cases same
        rcases Number.equal_trans_or upper lower with equal | ⟨a, x, b, rfl, rfl, rfl, rest⟩
        · exact .inl ⟨rfl, fun _ => equal⟩
        · exact .inr ⟨a, x, b, rfl, rfl, rfl, rest⟩
  · exact .inl ⟨first.kind.trans second.kind, fun other => absurd other scalar⟩

/-- A document covers what is covered by one that it covers, unless a float bridges integers. -/
theorem covers_trans_iff {a b c : Json} (first : a.Covers b) (second : b.Covers c) :
    a.Covers c ↔ ∀ path m n, ¬ Bridges a b c path m n := by
  constructor
  · rintro covers path m n ⟨left, -, right, differ⟩
    obtain ⟨seen, here, like⟩ := covers path _ right
    cases left.symm.trans here
    exact differ (eq_of_beq (like.scalar rfl))
  · intro unbridged path node leads
    obtain ⟨middle, between, lower⟩ := second path node leads
    obtain ⟨seen, found, upper⟩ := first path middle between
    refine ⟨seen, found, ?_⟩
    rcases upper.trans_or lower with like | ⟨m, x, n, rfl, rfl, rfl, differ, -⟩
    · exact like
    · exact absurd ⟨found, ⟨x, between⟩, leads, differ⟩ (unbridged path m n)

theorem le_natAbs_of_bridges {a b c : Json} (first : a.Covers b) (second : b.Covers c)
    {path : List Segment} {m n : WordInt} (bridges : Bridges a b c path m n) :
    0x20000000000000 ≤ m.val.natAbs ∧ 0x20000000000000 ≤ n.val.natAbs := by
  obtain ⟨left, ⟨x, middle⟩, right, differ⟩ := bridges
  obtain ⟨seen, here, lower⟩ := second path _ right
  cases middle.symm.trans here
  obtain ⟨seen, there, upper⟩ := first path _ middle
  cases left.symm.trans there
  rcases upper.trans_or lower with like | ⟨m', x', n', leftSame, -, rightSame, -, large⟩
  · exact absurd (eq_of_beq (like.scalar rfl)) differ
  · cases leftSame
    cases rightSame
    exact large

/-- A document that satisfies a declaration satisfies a weaker one, and the weaker operation needs
no write for it, exactly if no float of the declaration bridges different integers; such integers
are at least 2^53. -/
theorem compare_weaker {a b c : Json} (declared : b.Ordered) (weaker : c.Ordered)
    (first : (compare a b).isSatisfied = true) (second : (compare b c).isSatisfied = true) :
    ((compare a c).isSatisfied = true ↔ ∀ path m n, ¬ Bridges a b c path m n) ∧
    (∀ path m n, Bridges a b c path m n →
      0x20000000000000 ≤ m.val.natAbs ∧ 0x20000000000000 ≤ n.val.natAbs) ∧
    ∀ (op : Operation) (observed : Bytes), read observed = .ok a → op.desired = .ok c →
      (op.needOf ⟨200, observed⟩ = .ok .none ↔ ∀ path m n, ¬ Bridges a b c path m n) := by
  rw [isSatisfied_compare, contains_iff_covers declared] at first
  rw [isSatisfied_compare, contains_iff_covers weaker] at second
  have satisfied : (compare a c).isSatisfied = true ↔ ∀ path m n, ¬ Bridges a b c path m n := by
    rw [isSatisfied_compare, contains_iff_covers weaker, covers_trans_iff first second]
  refine ⟨satisfied, fun path m n => le_natAbs_of_bridges first second, ?_⟩
  intro op observed accepted desired
  rw [← satisfied, Operation.needOf, if_neg (show ¬ 200 = 404 by decide), if_pos rfl,
    Operation.compareBodies_desiredBytes accepted desired]
  cases (compare a c).isSatisfied with
  | false => simp
  | true => simp

/-- The declared settings less their tags, with an integer in the place of the float. -/
def weakerSettings : Json := .object [("replicas", .ofInt 1)]

/-- What is observed satisfies the weaker settings, so no float bridges integers, and an operation
that declares the weaker settings needs no write. -/
theorem compare_weaker_settings :
    (compare observedSettings declaredSettings).isSatisfied = true ∧
      (compare declaredSettings weakerSettings).isSatisfied = true ∧
        Operation.needOf ⟨"/_template/logs", weakerSettings.text⟩
          ⟨200, bytesOf observedSettings.text⟩ = .ok .none := by
  have first : (compare observedSettings declaredSettings).isSatisfied = true := by decide +kernel
  have second : (compare declaredSettings weakerSettings).isSatisfied = true := by decide +kernel
  have ends : (compare observedSettings weakerSettings).isSatisfied = true := by decide +kernel
  have ordered : weakerSettings.Ordered := ⟨List.pairwise_singleton _ _, trivial, trivial⟩
  obtain ⟨satisfied, -, need⟩ := compare_weaker ordered_declaredSettings ordered first second
  have accepted : read (bytesOf observedSettings.text) = .ok observedSettings :=
    read_text ordered_observedSettings ⟨trivial, ⟨trivial, trivial, trivial⟩, trivial, trivial⟩
  have notBlank : ¬ Text.isBlankText weakerSettings.text = true := by decide +kernel
  have desired : Operation.desired ⟨"/_template/logs", weakerSettings.text⟩ =
      .ok weakerSettings := by
    rw [Operation.desired, if_neg notBlank, ofText, read_text ordered ⟨trivial, trivial⟩]
  exact ⟨first, second, (need _ _ accepted desired).mpr (satisfied.mp ends)⟩

def largeFloat : Json := .number (.float ⟨false, 1076 * 0x10000000000000, by decide⟩)

/-- It equals the integer 2^53 and the next one, which differ. -/
theorem compare_bridged :
    (compare (.ofInt 9007199254740993) largeFloat).isSatisfied = true ∧
      (compare largeFloat (.ofInt 9007199254740992)).isSatisfied = true ∧
        (compare (.ofInt 9007199254740993) (.ofInt 9007199254740992)).isSatisfied = false := by
  decide +kernel

end Json

end SearchOperator
