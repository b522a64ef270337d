import SearchOperator.Proofs.Version.Order
import SearchOperator.Proofs.Version.Text

/-!
# Precedence of versions

The comparison of versions is a total order that tells any two versions apart. Pre-release texts of
one triple are ordered by the first identifiers that differ: numbers of a 64-bit word by value and
below all other identifiers, anything else, a number too large for a word included, by its
characters.
-/

namespace SearchOperator

namespace Version

open Std

/-! ## Triples -/

def SameTriple (v w : Version) : Prop :=
  v.major = w.major ∧ v.minor = w.minor ∧ v.patch = w.patch

def LowerTriple (v w : Version) : Prop :=
  v.major < w.major ∨ v.major = w.major ∧
    (v.minor < w.minor ∨ v.minor = w.minor ∧ v.patch < w.patch)

theorem compare_of_sameTriple {v w : Version} (same : v.SameTriple w) :
    compare v w = comparePreRelease v.pre w.pre := by
  obtain ⟨major, minor, patch⟩ := same
  rw [compare_eq]
  simp only [compareLex, compareOn, major, minor, patch, ReflOrd.compare_self, Ordering.eq_then]

theorem compare_of_lowerTriple {v w : Version} (lower : v.LowerTriple w) : compare v w = .lt := by
  rw [compare_eq]
  rcases lower with major | ⟨major, minor | ⟨minor, patch⟩⟩
  · simp only [compareLex, compareOn, Nat.compare_eq_lt.mpr major, Ordering.lt_then]
  · simp only [compareLex, compareOn, major, ReflOrd.compare_self, Ordering.eq_then,
      Nat.compare_eq_lt.mpr minor, Ordering.lt_then]
  · simp only [compareLex, compareOn, major, minor, ReflOrd.compare_self, Ordering.eq_then,
      Nat.compare_eq_lt.mpr patch, Ordering.lt_then]

theorem pre_ne_empty {v : Version} (pre : v.isPreRelease = true) : v.pre ≠ "" := by
  simpa [isPreRelease] using pre

/-- A pre-release is below the release of its triple. -/
theorem compare_release {v : Version} (pre : v.isPreRelease = true) :
    compare v (release v.major v.minor v.patch) = .lt := by
  have same : v.SameTriple (release v.major v.minor v.patch) := ⟨rfl, rfl, rfl⟩
  rw [compare_of_sameTriple same, comparePreRelease, beq_eq_false_iff_ne.mpr (pre_ne_empty pre)]
  rfl

/-! ## The order -/

/-- Comparing versions orders them totally, and only a version itself compares as equal to it. A
pre-release stands below the release of its triple and above every version of a lower triple. -/
theorem compare_orders (u v w : Version) :
    compare v v = .eq ∧
    compare w v = (compare v w).swap ∧
    (v ≤ w → w ≤ v → v = w) ∧
    (u ≤ v → v ≤ w → u ≤ w) ∧
    (v ≤ w ∨ w ≤ v) ∧
    (compare v w = .eq ↔
      v.major = w.major ∧ v.minor = w.minor ∧ v.patch = w.patch ∧ v.pre = w.pre) ∧
    (v > w ↔ compare v w = .gt) ∧
    (v ≥ w ↔ compare v w ≠ .lt) ∧
    (v.isPreRelease = true → compare v (release v.major v.minor v.patch) = .lt) ∧
    (w.LowerTriple v → compare v w = .gt) := by
  have greater : v > w ↔ compare v w = .gt := OrientedCmp.gt_iff_lt.symm
  refine ⟨ReflCmp.compare_self, OrientedCmp.eq_swap, Std.le_antisymm, Std.le_trans, Std.le_total,
    ?_, greater, ?_, compare_release, ?_⟩
  · rw [LawfulEqOrd.compare_eq_iff_eq]
    constructor
    · rintro rfl
      exact ⟨rfl, rfl, rfl, rfl⟩
    · rintro ⟨major, minor, patch, pre⟩
      cases v
      cases w
      cases major
      cases minor
      cases patch
      cases pre
      rfl
  · rw [ge_iff_le, ← Std.not_lt]
    exact Iff.rfl
  · intro lower
    exact OrientedCmp.gt_of_lt (compare_of_lowerTriple lower)

/-- The second alpha is below the tenth, which is below the release, so the second one is too. -/
theorem compare_orders_alphas :
    (⟨8, 0, 0, "alpha.2"⟩ : Version) ≤ ⟨8, 0, 0, "alpha.10"⟩ ∧
    (⟨8, 0, 0, "alpha.10"⟩ : Version) ≤ release 8 0 0 ∧
    (⟨8, 0, 0, "alpha.2"⟩ : Version) ≤ release 8 0 0 ∧
    compare (⟨8, 0, 0, "alpha.10"⟩ : Version) (release 8 0 0) = .lt := by
  have first : (⟨8, 0, 0, "alpha.2"⟩ : Version) ≤ ⟨8, 0, 0, "alpha.10"⟩ := by decide +kernel
  have second : (⟨8, 0, 0, "alpha.10"⟩ : Version) ≤ release 8 0 0 := by decide +kernel
  obtain ⟨-, -, -, chain, -, -, -, -, below, -⟩ :=
    compare_orders ⟨8, 0, 0, "alpha.2"⟩ ⟨8, 0, 0, "alpha.10"⟩ (release 8 0 0)
  exact ⟨first, second, chain first second, below (by decide)⟩

/-! ## Pre-release identifiers -/

/-- The number of an identifier fits a word of 64 bits. -/
def FitsWord (identifier : List Char) : Prop := digitsValue identifier < 0x10000000000000000

instance (identifier : List Char) : Decidable (FitsWord identifier) :=
  inferInstanceAs (Decidable (digitsValue identifier < 0x10000000000000000))

/-- What is read of an identifier without a plus sign. -/
theorem identifierNumber?_of_noPlus {identifier : List Char} (noPlus : '+' ∉ identifier) :
    identifierNumber? identifier =
      if identifier.isEmpty || !identifier.all Text.isDigit then none
      else if FitsWord identifier then some (digitsValue identifier) else none := by
  rw [identifierNumber?]
  · rfl
  · rintro rest rfl
    exact noPlus List.mem_cons_self

/-- Digits are read as their number if a word holds it. -/
theorem identifierNumber?_of_isNumeric {identifier : List Char} (numeric : IsNumeric identifier) :
    identifierNumber? identifier =
      if FitsWord identifier then some (digitsValue identifier) else none := by
  rw [identifierNumber?_of_noPlus (numeric.not_mem rfl), isNumeric_iff.mp numeric]
  rfl

/-- Without a plus sign, nothing but digits is read as a number. -/
theorem identifierNumber?_of_textual {identifier : List Char} (noPlus : '+' ∉ identifier)
    (textual : ¬ IsNumeric identifier) : identifierNumber? identifier = none := by
  have other : (identifier.isEmpty || !identifier.all Text.isDigit) = true :=
    Bool.of_not_eq_false (mt isNumeric_iff.mpr textual)
  rw [identifierNumber?_of_noPlus noPlus, if_pos other]

theorem compareIdentifiers_of_isNumeric {a b : List Char} (left : IsNumeric a) (right : IsNumeric b)
    (differ : digitsValue a ≠ digitsValue b) :
    compareIdentifiers a b =
      if FitsWord a ∨ FitsWord b then compare (digitsValue a) (digitsValue b) else compare a b := by
  rw [compareIdentifiers, identifierNumber?_of_isNumeric left, identifierNumber?_of_isNumeric right]
  by_cases fitsA : FitsWord a
  · by_cases fitsB : FitsWord b
    · have apart : compare (digitsValue a) (digitsValue b) ≠ .eq :=
        fun same => differ (LawfulEqOrd.eq_of_compare same)
      simp only [if_pos fitsA, if_pos fitsB, if_pos (Or.inl fitsA)]
      cases order : compare (digitsValue a) (digitsValue b) with
      | eq => exact absurd order apart
      | lt => rfl
      | gt => rfl
    · have below : digitsValue a < digitsValue b := Nat.lt_of_lt_of_le fitsA (Nat.le_of_not_lt fitsB)
      simp only [if_pos fitsA, if_neg fitsB, if_pos (Or.inl fitsA), Nat.compare_eq_lt.mpr below]
  · by_cases fitsB : FitsWord b
    · have above : digitsValue b < digitsValue a := Nat.lt_of_lt_of_le fitsB (Nat.le_of_not_lt fitsA)
      simp only [if_neg fitsA, if_pos fitsB, if_pos (Or.inr fitsB), Nat.compare_eq_gt.mpr above]
    · simp only [if_neg fitsA, if_neg fitsB, if_neg (not_or.mpr ⟨fitsA, fitsB⟩)]

theorem compareIdentifiers_of_textual {a b : List Char} (left : IsNumeric a)
    (noPlus : '+' ∉ b) (right : ¬ IsNumeric b) :
    compareIdentifiers a b = if FitsWord a then .lt else compare a b := by
  rw [compareIdentifiers, identifierNumber?_of_isNumeric left,
    identifierNumber?_of_textual noPlus right]
  by_cases fits : FitsWord a
  · simp only [if_pos fits]
  · simp only [if_neg fits]

/-! ## The first difference -/

theorem compareIdentifierLists_of_ne {a b : List Char} (differ : a ≠ b)
    (common as bs : List (List Char)) :
    compareIdentifierLists (common ++ a :: as) (common ++ b :: bs) = compareIdentifiers a b := by
  induction common with
  | nil =>
      rw [List.nil_append, List.nil_append, compareIdentifierLists]
      cases order : compareIdentifiers a b with
      | eq => exact absurd (LawfulEqCmp.eq_of_compare order) differ
      | lt => rfl
      | gt => rfl
  | cons c rest ih =>
      have same : compareIdentifiers c c = .eq := ReflCmp.compare_self
      rw [List.cons_append, List.cons_append, compareIdentifierLists, same, ih]
      rfl

/-- The first identifiers in which the pre-release texts of two versions differ. -/
def DifferIn (v w : Version) (a b : List Char) : Prop :=
  a ≠ b ∧ ∃ common as bs,
    identifiers v.pre = common ++ a :: as ∧ identifiers w.pre = common ++ b :: bs

theorem DifferIn.swap {v w : Version} {a b : List Char} (differ : v.DifferIn w a b) :
    w.DifferIn v b a := by
  obtain ⟨apart, common, as, bs, left, right⟩ := differ
  exact ⟨Ne.symm apart, common, bs, as, right, left⟩

/-- Pre-releases of one triple are in the order of the first identifiers that differ. -/
theorem compare_of_differIn {v w : Version} {a b : List Char} (same : v.SameTriple w)
    (left : v.isPreRelease = true) (right : w.isPreRelease = true) (differ : v.DifferIn w a b) :
    compare v w = compareIdentifiers a b := by
  obtain ⟨apart, common, as, bs, first, second⟩ := differ
  rw [identifiers] at first second
  rw [compare_of_sameTriple same, comparePreRelease, beq_eq_false_iff_ne.mpr (pre_ne_empty left),
    beq_eq_false_iff_ne.mpr (pre_ne_empty right)]
  simp only
  rw [first, second, compareIdentifierLists_of_ne apart]

/-- The identifiers of a version that was read hold no plus sign. -/
theorem noPlus_of_differIn {raw : String} {v w : Version} {a b : List Char}
    (read : parse raw = .ok v) (differ : v.DifferIn w a b) : '+' ∉ a := by
  obtain ⟨-, common, as, -, first, -⟩ := differ
  have member : a ∈ identifiers v.pre := by
    rw [first]
    exact List.mem_append_right common List.mem_cons_self
  exact fun plus => (readable_of_parse read).pre (Text.mem_of_mem_splitOn member plus)

/-- Pre-releases of one triple stand in the order of the first identifiers that differ. Different
numbers are ordered by value if at least one of them fits a word of 64 bits, and a number that fits
is below any identifier that is no number. Otherwise the characters decide. -/
theorem compare_preReleases {rawLeft rawRight : String} {v w : Version} {a b : List Char}
    (readLeft : parse rawLeft = .ok v) (readRight : parse rawRight = .ok w)
    (same : v.SameTriple w) (left : v.isPreRelease = true) (right : w.isPreRelease = true)
    (differ : v.DifferIn w a b) :
    (IsNumeric a → IsNumeric b → digitsValue a ≠ digitsValue b → compare v w =
      if FitsWord a ∨ FitsWord b then compare (digitsValue a) (digitsValue b) else compare a b) ∧
    (IsNumeric a → ¬ IsNumeric b → compare v w = if FitsWord a then .lt else compare a b) ∧
    (¬ IsNumeric a → IsNumeric b → compare v w = if FitsWord b then .gt else compare a b) := by
  have noPlusLeft := noPlus_of_differIn readLeft differ
  have noPlusRight := noPlus_of_differIn readRight differ.swap
  rw [compare_of_differIn same left right differ]
  refine ⟨compareIdentifiers_of_isNumeric, ?_, ?_⟩
  · intro numeric textual
    exact compareIdentifiers_of_textual numeric noPlusRight textual
  · intro textual numeric
    have swapped : compareIdentifiers a b = (compareIdentifiers b a).swap := OrientedCmp.eq_swap
    rw [swapped, compareIdentifiers_of_textual numeric noPlusLeft textual]
    split
    · rfl
    · exact OrientedCmp.eq_swap.symm

/-- The ninth alpha is below one whose number no word holds. -/
theorem compare_preReleases_alphas :
    parse "8.0.0-alpha.9" = .ok ⟨8, 0, 0, "alpha.9"⟩ ∧
    parse "8.0.0-alpha.100000000000000000000+c9f2cc7d" =
      .ok ⟨8, 0, 0, "alpha.100000000000000000000"⟩ ∧
    compare (⟨8, 0, 0, "alpha.9"⟩ : Version) ⟨8, 0, 0, "alpha.100000000000000000000"⟩ = .lt := by
  have readLeft : parse "8.0.0-alpha.9" = .ok ⟨8, 0, 0, "alpha.9"⟩ := by decide +kernel
  have readRight : parse "8.0.0-alpha.100000000000000000000+c9f2cc7d" =
      .ok ⟨8, 0, 0, "alpha.100000000000000000000"⟩ := by
    decide +kernel
  have differ : DifferIn ⟨8, 0, 0, "alpha.9"⟩ ⟨8, 0, 0, "alpha.100000000000000000000"⟩ ['9']
      "100000000000000000000".toList :=
    ⟨by decide +kernel, ["alpha".toList], [], [], by decide +kernel, by decide +kernel⟩
  have nine : IsNumeric ['9'] := by decide
  have large : IsNumeric "100000000000000000000".toList := by decide +kernel
  obtain ⟨numbers, -, -⟩ :=
    compare_preReleases readLeft readRight ⟨rfl, rfl, rfl⟩ (by decide) (by decide) differ
  refine ⟨readLeft, readRight, (numbers nine large ?_).trans ?_⟩
  · decide +kernel
  · decide +kernel

def nines : Version := ⟨8, 0, 0, "99999999999999999999"⟩

/-- The pre-release whose number is the next one. -/
def afterNines : Version := ⟨8, 0, 0, "100000000000000000000"⟩

def dash : Version := ⟨8, 0, 0, "-"⟩

/-- Two numbers beyond a word stand in the order of their characters and not of their values, and
such a number is not below a text. -/
theorem compare_beyondWord :
    (parse "8.0.0-99999999999999999999" = .ok nines ∧
      parse "8.0.0-100000000000000000000" = .ok afterNines ∧ parse "8.0.0--" = .ok dash) ∧
    (nines.DifferIn afterNines nines.pre.toList afterNines.pre.toList ∧
      IsNumeric nines.pre.toList ∧ IsNumeric afterNines.pre.toList ∧
      digitsValue nines.pre.toList < digitsValue afterNines.pre.toList ∧
      compare nines afterNines = .gt) ∧
    (nines.DifferIn dash nines.pre.toList dash.pre.toList ∧ ¬ IsNumeric dash.pre.toList ∧
      compare nines dash = .gt) := by
  refine ⟨by decide +kernel, ⟨⟨?_, [], [], [], ?_, ?_⟩, ?_⟩, ⟨?_, [], [], [], ?_, ?_⟩, ?_⟩
  all_goals decide +kernel

end Version

end SearchOperator
