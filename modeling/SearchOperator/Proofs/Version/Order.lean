import SearchOperator.Proofs.Text.Split
import SearchOperator.Version.Order

/-!
# The order of versions is linear

Comparing versions is comparing keys in turn, so it inherits its laws from the comparison of
numbers, texts and lists. Equal in the order are only versions that are equal. An upgrade therefore
goes up, and every version between the ends of an upgrade can be upgraded to its target.
-/

namespace SearchOperator

namespace Version

open Std

/-! ## Comparisons as comparisons of keys -/

theorem compareIdentifiers_eq : compareIdentifiers =
    compareLex (compareOn fun s => (identifierNumber? s).isNone)
      (compareLex (compareOn fun s => (identifierNumber? s).getD 0) compare) := by
  funext a b
  simp only [compareIdentifiers, compareLex, compareOn]
  cases identifierNumber? a with
  | none =>
      cases identifierNumber? b with
      | none => rfl
      | some n => rfl
  | some m =>
      cases identifierNumber? b with
      | none => rfl
      | some n => rfl

theorem compareIdentifierLists_eq : compareIdentifierLists =
    List.compareLex compareIdentifiers := by
  funext as bs
  induction as generalizing bs with
  | nil => cases bs <;> rfl
  | cons a as ih =>
      cases bs with
      | nil => rfl
      | cons b bs =>
          rw [compareIdentifierLists, List.compareLex_cons_cons, ih]

def identifiers (pre : String) : List (List Char) := Text.splitOn '.' pre.toList

/-- Compare pre-release texts identifier by identifier, with no regard to releases. -/
def compareByIdentifiers (a b : String) : Ordering :=
  List.compareLex compareIdentifiers (identifiers a) (identifiers b)

theorem comparePreRelease_eq :
    comparePreRelease = compareLex (compareOn fun s => s == "") compareByIdentifiers := by
  funext a b
  rw [comparePreRelease, compareIdentifierLists_eq]
  by_cases emptyA : a = ""
  · by_cases emptyB : b = ""
    · rw [emptyA, emptyB]
      rfl
    · rw [emptyA, beq_eq_false_iff_ne.mpr emptyB, compareLex, compareOn,
        beq_eq_false_iff_ne.mpr emptyB]
      rfl
  · by_cases emptyB : b = ""
    · rw [emptyB, beq_eq_false_iff_ne.mpr emptyA, compareLex, compareOn,
        beq_eq_false_iff_ne.mpr emptyA]
      rfl
    · rw [beq_eq_false_iff_ne.mpr emptyA, beq_eq_false_iff_ne.mpr emptyB, compareLex, compareOn,
        beq_eq_false_iff_ne.mpr emptyA, beq_eq_false_iff_ne.mpr emptyB]
      rfl

theorem compare_eq : (compare : Version → Version → Ordering) =
    compareLex (compareOn major) (compareLex (compareOn minor) (compareLex (compareOn patch)
      fun v w => comparePreRelease v.pre w.pre)) := rfl

/-! ## The laws -/

instance : TransCmp compareIdentifiers := by
  rw [compareIdentifiers_eq]
  infer_instance

instance : LawfulEqCmp compareIdentifiers where
  eq_of_compare {a b} same := by
    rw [compareIdentifiers_eq, compareLex_eq_eq, compareLex_eq_eq] at same
    exact LawfulEqOrd.eq_of_compare same.2.2

instance : TransCmp compareByIdentifiers :=
  have lists : TransCmp (List.compareLex compareIdentifiers) := inferInstance
  { eq_swap := lists.eq_swap, isLE_trans := lists.isLE_trans }

instance : LawfulEqCmp compareByIdentifiers where
  compare_self := ReflCmp.compare_self
  eq_of_compare {a b} same := by
    have lists : LawfulEqCmp (List.compareLex compareIdentifiers) := inferInstance
    have pieces : identifiers a = identifiers b := lists.eq_of_compare same
    apply String.toList_inj.mp
    rw [← Text.intercalate_splitOn '.' a.toList, ← Text.intercalate_splitOn '.' b.toList]
    exact congrArg _ pieces

instance : TransCmp comparePreRelease := by
  rw [comparePreRelease_eq]
  infer_instance

instance : LawfulEqCmp comparePreRelease where
  compare_self := ReflCmp.compare_self
  eq_of_compare {a b} same := by
    rw [comparePreRelease_eq, compareLex_eq_eq] at same
    exact LawfulEqCmp.eq_of_compare same.2

instance : TransOrd Version := by
  have texts : TransCmp comparePreRelease := inferInstance
  have byPre : TransCmp fun v w : Version => comparePreRelease v.pre w.pre :=
    { eq_swap := texts.eq_swap, isLE_trans := texts.isLE_trans }
  rw [TransOrd, compare_eq]
  infer_instance

instance : LawfulEqOrd Version where
  eq_of_compare {v w} same := by
    rw [compare_eq, compareLex_eq_eq, compareLex_eq_eq, compareLex_eq_eq] at same
    obtain ⟨major, minor, patch, pre⟩ := same
    cases v
    cases w
    cases LawfulEqOrd.eq_of_compare major
    cases LawfulEqOrd.eq_of_compare minor
    cases LawfulEqOrd.eq_of_compare patch
    have texts : LawfulEqCmp comparePreRelease := inferInstance
    cases texts.eq_of_compare pre
    rfl

instance : LawfulOrderOrd Version where
  isLE_compare _ _ := Iff.rfl
  isGE_compare _ _ := OrientedCmp.isGE_iff_isLE

instance : IsLinearOrder Version := IsLinearOrder.of_ord

instance : LawfulOrderLT Version := LawfulOrderLT.of_ord Version fun _ _ => Iff.rfl

/-! ## The lower of two versions -/

theorem lower_eq_or (v w : Version) : v.lower w = v ∨ v.lower w = w := by
  rw [lower]
  split
  · exact .inl rfl
  · exact .inr rfl

/-! ## Upgrades -/

theorem major_le {v w : Version} (below : v ≤ w) : v.major ≤ w.major := by
  have order : ((compare v.major w.major).then _).isLE = true := below
  apply Nat.isLE_compare.mp
  cases first : compare v.major w.major with
  | gt =>
      rw [first] at order
      cases order
  | _ => rfl

/-- An upgrade goes up, within a major version or to the next one. -/
theorem isUpgrade_iff {source target : Version} : source.isUpgrade target = true ↔
    (target.major = source.major ∨ target.major = source.major + 1) ∧ source < target := by
  simp [isUpgrade]

/-- Every version between the ends of an upgrade is its target or can be upgraded to it. -/
theorem isUpgrade_of_between {source target v : Version}
    (step : source = target ∨ source.isUpgrade target = true) (above : source ≤ v)
    (below : v ≤ target) : v = target ∨ v.isUpgrade target = true := by
  rcases le_iff_lt_or_eq.mp below with less | same
  · rcases step with rfl | upgrade
    · exact absurd less (not_lt_of_ge above)
    · obtain ⟨near, -⟩ := isUpgrade_iff.mp upgrade
      have low := major_le above
      have high := major_le below
      exact .inr (isUpgrade_iff.mpr ⟨by omega, less⟩)
  · exact .inl same

end Version

end SearchOperator
