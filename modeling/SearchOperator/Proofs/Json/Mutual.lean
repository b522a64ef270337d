import SearchOperator.Proofs.Json.Comparison
import SearchOperator.Proofs.Json.Equality
import SearchOperator.Proofs.Json.Paths

/-!
# Documents that satisfy each other

A document matches another one in full exactly if each covers the other. So every document matches
itself in full, a full match holds in both directions or in none, and two documents satisfy each
other only if they match in full.
-/

namespace SearchOperator.Json

variable {a b o d : Json}

/-! ## Likeness and coverage in both directions -/

theorem SameScalar.symm (same : SameScalar o d) : SameScalar d o := by
  rcases sameScalar_cases same with rfl | ⟨m, n, rfl, rfl, equal⟩
  · exact same
  · exact Number.equal_symm equal

theorem IsLike.symm (like : o.IsLike d) : d.IsLike o := by
  refine ⟨like.kind.symm, fun scalar => ?_⟩
  exact (like.scalar (like.kind.symm.trans scalar)).symm

/-- A document has no paths but those of a document that covers it. -/
theorem Covers.within (covers : d.Covers o) : o.Within d := by
  intro path leads
  obtain ⟨node, here⟩ := Option.isSome_iff_exists.mp leads
  obtain ⟨seen, there, -⟩ := covers path node here
  exact Option.isSome_iff_exists.mpr ⟨seen, there⟩

/-- A document that covers another one without further paths is covered by it: all its nodes are
like a node of the other one, which therefore is like them. -/
theorem Covers.back (covers : o.Covers d) (within : o.Within d) : d.Covers o := by
  intro path seen here
  obtain ⟨node, there⟩ :=
    Option.isSome_iff_exists.mp (within path (Option.isSome_iff_exists.mpr ⟨seen, here⟩))
  obtain ⟨other, found, like⟩ := covers path node there
  cases here.symm.trans found
  exact ⟨node, there, like.symm⟩

/-! ## The comparison in both directions -/

theorem isSatisfied_iff_covers (desired : d.Ordered) :
    (compare o d).isSatisfied = true ↔ o.Covers d := by
  rw [isSatisfied_compare, contains_iff_covers desired]

theorem compare_eq_full (o d : Json) :
    compare o d = .full ↔ contains o d = true ∧ equal o d = true := by
  rw [compare]
  cases contains o d with
  | false => simp
  | true =>
      cases equal o d with
      | false => simp
      | true => simp

/-- Documents match in full exactly if each covers the other. -/
theorem compare_eq_full_iff_covers (observed : o.Ordered) (desired : d.Ordered) :
    compare o d = .full ↔ o.Covers d ∧ d.Covers o := by
  rw [compare_eq_full, contains_iff_covers desired, equal_iff_covers observed desired]
  constructor
  · rintro ⟨covers, -, within⟩
    exact ⟨covers, covers.back within⟩
  · rintro ⟨covers, back⟩
    exact ⟨covers, covers, back.within⟩

/-- Every document matches itself in full, documents match in full in both directions or in none,
and they satisfy each other exactly if they match in full both ways. -/
theorem compare_mutual (first : a.Ordered) (second : b.Ordered) :
    compare a a = .full ∧ (compare a b = .full ↔ compare b a = .full) ∧
      ((compare a b).isSatisfied = true ∧ (compare b a).isSatisfied = true ↔
        compare a b = .full ∧ compare b a = .full) := by
  refine ⟨compare_self first, ?_, ?_⟩
  · rw [compare_eq_full_iff_covers first second, compare_eq_full_iff_covers second first]
    exact and_comm
  · rw [isSatisfied_iff_covers second, isSatisfied_iff_covers first,
      compare_eq_full_iff_covers first second, compare_eq_full_iff_covers second first]
    constructor
    · rintro ⟨forth, back⟩
      exact ⟨⟨forth, back⟩, back, forth⟩
    · exact And.left

/-- The declared settings, with an integer in the place of the float. -/
def integralSettings : Json :=
  .object [("replicas", .ofInt 1), ("tags", .array [.string "a"])]

/-- They match the declared settings in full, and so do those match them; what is observed has more
than they have, so it is not satisfied by them. -/
theorem compare_mutual_settings :
    integralSettings.Ordered ∧ declaredSettings.Ordered ∧ observedSettings.Ordered ∧
      compare integralSettings declaredSettings = .full ∧
      compare declaredSettings integralSettings = .full ∧
      (compare observedSettings integralSettings).isSatisfied = true ∧
      (compare integralSettings observedSettings).isSatisfied = false := by
  have sorted : Entries.Sorted [("replicas", Json.ofInt 1), ("tags", .array [.string "a"])] := by
    unfold Entries.Sorted
    decide
  have ordered : integralSettings.Ordered := ⟨sorted, trivial, ⟨trivial, trivial⟩, trivial⟩
  have full : compare integralSettings declaredSettings = .full := by decide +kernel
  have more : compare observedSettings integralSettings = .superset := by decide +kernel
  obtain ⟨-, same, -⟩ := compare_mutual ordered ordered_declaredSettings
  obtain ⟨-, -, both⟩ := compare_mutual ordered_observedSettings ordered
  have satisfied : (compare observedSettings integralSettings).isSatisfied = true := by
    rw [more]
    rfl
  refine ⟨ordered, ordered_declaredSettings, ordered_observedSettings, full, same.mp full,
    satisfied, ?_⟩
  rw [← Bool.not_eq_true]
  intro back
  obtain ⟨other, -⟩ := both.mp ⟨satisfied, back⟩
  rw [more] at other
  cases other

end SearchOperator.Json
