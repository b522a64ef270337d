import SearchOperator.Proofs.Decimal.Rounding
import SearchOperator.Proofs.Json.Comparison

/-!
# Equality of numbers and documents

Integers are compared exactly with each other, but as binary64 numbers with floats. Equal numbers
therefore have one nearest binary64 number, which numbers of different values share only from 2^53
on; there equality is not transitive. Documents in which integers stay apart from floats can be
exchanged for each other instead, wherever they are compared that way.
-/

namespace SearchOperator

/-! ## Binary64 numbers -/

theorem Binary64.same_iff {x y : Binary64} : x.same y = true ↔
    x.magnitude = y.magnitude ∧ (x.negative = y.negative ∨ x.magnitude = 0) := by
  rw [same, Bool.and_eq_true, Bool.or_eq_true, beq_iff_eq, beq_iff_eq, beq_iff_eq]

theorem Binary64.same_trans {x y z : Binary64} (first : x.same y = true)
    (second : y.same z = true) : x.same z = true := by
  obtain ⟨xy, xySign⟩ := same_iff.mp first
  obtain ⟨yz, yzSign⟩ := same_iff.mp second
  refine same_iff.mpr ⟨xy.trans yz, ?_⟩
  rcases xySign with sign | zero
  · rcases yzSign with sign' | zero
    · exact .inl (sign.trans sign')
    · exact .inr (xy.trans zero)
  · exact .inr zero

theorem Binary64.same_symm {x y : Binary64} (same : x.same y = true) : y.same x = true := by
  obtain ⟨magnitude, sign⟩ := same_iff.mp same
  exact same_iff.mpr ⟨magnitude.symm, sign.imp Eq.symm fun zero => magnitude ▸ zero⟩

theorem Binary64.same_congr {x y : Binary64} (same : x.same y = true) (z : Binary64) :
    x.same z = y.same z :=
  Bool.eq_iff_iff.mpr ⟨same_trans (same_symm same), same_trans same⟩

/-! ## Numbers of documents -/

namespace Number

/-- Every number has a nearest binary64 number. -/
theorem exists_toBinary64? (n : Number) : ∃ x, n.toBinary64? = some x := by
  cases n with
  | integer m =>
      have small : m.val.natAbs ≤ Nat.pow 10 308 := by
        have word : m.val.natAbs ≤ 0x10000000000000000 := by
          have low := m.low
          have high := m.high
          omega
        obtain ⟨-, -, -, -, -, words⟩ := Binary64.limits
        exact Nat.le_trans word words
      obtain ⟨x, rounded⟩ := Option.isSome_iff_exists.mp (Binary64.isSome_ofNat? small)
      rw [toBinary64?, rounded]
      exact ⟨_, rfl⟩
  | float x => exact ⟨x, rfl⟩

/-- The binary64 number nearest to an integer has its sign, and the magnitude nearest to its
absolute value. -/
theorem toBinary64?_integer {m : WordInt} {x : Binary64}
    (nearest : (Number.integer m).toBinary64? = some x) :
    ∃ y, Binary64.ofNat? m.val.natAbs = some y ∧ x.magnitude = y.magnitude ∧
      x.negative = decide (m.val < 0) := by
  obtain ⟨y, rounded, sign⟩ := Option.map_eq_some_iff.mp nearest
  have positive : y.negative = false := by
    rw [Binary64.ofNat?, Binary64.ofQuotient?] at rounded
    split at rounded
    · cases rounded
      rfl
    · cases rounded
  refine ⟨y, rounded, ?_⟩
  by_cases below : m.val < 0
  · rw [if_pos below] at sign
    rw [← sign, decide_eq_true below, Binary64.neg, positive]
    exact ⟨rfl, rfl⟩
  · rw [if_neg below] at sign
    rw [← sign, decide_eq_false below]
    exact ⟨rfl, positive⟩

/-- An integer below 2^53 shares its nearest binary64 number with no other integer. -/
theorem le_natAbs_of_same {m n : WordInt} (differ : m ≠ n) {x y : Binary64}
    (left : (Number.integer m).toBinary64? = some x)
    (right : (Number.integer n).toBinary64? = some y) (same : x.same y = true) :
    0x20000000000000 ≤ m.val.natAbs := by
  obtain ⟨magnitude, sign⟩ := Binary64.same_iff.mp same
  obtain ⟨x', leftRounded, leftMagnitude, leftSign⟩ := toBinary64?_integer left
  obtain ⟨y', rightRounded, rightMagnitude, rightSign⟩ := toBinary64?_integer right
  by_contra large
  have small := Nat.lt_of_not_le large
  have absolute : m.val.natAbs = n.val.natAbs :=
    Binary64.eq_of_magnitude_eq small leftRounded rightRounded
      (leftMagnitude.symm.trans (magnitude.trans rightMagnitude))
  have value : m.val = n.val := by
    rcases sign with sign | zero
    · rw [leftSign, rightSign, decide_eq_decide] at sign
      omega
    · have nothing : 0 = m.val.natAbs :=
        Binary64.eq_of_magnitude_eq (by decide) Binary64.ofNat?_zero leftRounded
          (zero.symm.trans leftMagnitude)
      omega
  cases m
  cases n
  cases value
  exact differ rfl

/-- Two numbers that are not both integers are equal if their nearest binary64 numbers are. -/
theorem equal_of_mixed {m n : Number} (mixed : ∀ a b, m = .integer a → n = .integer b → False)
    {x y : Binary64} (left : m.toBinary64? = some x) (right : n.toBinary64? = some y) :
    m.equal n = x.same y := by
  rw [equal, left, right]
  exact mixed

theorem same_of_equal {m n : Number} (equal : m.equal n = true) {x y : Binary64}
    (left : m.toBinary64? = some x) (right : n.toBinary64? = some y) : x.same y = true := by
  by_cases mixed : ∀ a b, m = .integer a → n = .integer b → False
  · rw [← equal_of_mixed mixed left right]
    exact equal
  · simp only [not_forall, not_false_eq_true, exists_prop, and_true] at mixed
    obtain ⟨a, b, rfl, rfl⟩ := mixed
    have value : a = b := eq_of_beq equal
    subst value
    cases left.symm.trans right
    exact x.same_self

theorem equal_symm {m n : Number} (equal : m.equal n = true) : n.equal m = true := by
  obtain ⟨x, left⟩ := m.exists_toBinary64?
  obtain ⟨y, right⟩ := n.exists_toBinary64?
  by_cases mixed : ∀ a b, n = .integer a → m = .integer b → False
  · rw [equal_of_mixed mixed right left]
    exact Binary64.same_symm (same_of_equal equal left right)
  · simp only [not_forall, not_false_eq_true, exists_prop, and_true] at mixed
    obtain ⟨a, b, rfl, rfl⟩ := mixed
    have value : b = a := eq_of_beq equal
    exact beq_iff_eq.mpr value.symm

/-- Equality of numbers is transitive, except from an integer over a float of at least 2^53 to
another integer. -/
theorem equal_trans_or {l m n : Number} (first : l.equal m = true) (second : m.equal n = true) :
    l.equal n = true ∨ ∃ a x b, l = .integer a ∧ m = .float x ∧ n = .integer b ∧ a ≠ b ∧
      0x20000000000000 ≤ a.val.natAbs ∧ 0x20000000000000 ≤ b.val.natAbs := by
  obtain ⟨x, left⟩ := l.exists_toBinary64?
  obtain ⟨y, middle⟩ := m.exists_toBinary64?
  obtain ⟨z, right⟩ := n.exists_toBinary64?
  have same := Binary64.same_trans (same_of_equal first left middle)
    (same_of_equal second middle right)
  by_cases mixed : ∀ a b, l = .integer a → n = .integer b → False
  · rw [equal_of_mixed mixed left right]
    exact .inl same
  · simp only [not_forall, not_false_eq_true, exists_prop, and_true] at mixed
    obtain ⟨a, b, rfl, rfl⟩ := mixed
    by_cases value : a = b
    · exact .inl (beq_iff_eq.mpr value)
    · cases m with
      | integer c =>
          have here : a = c := eq_of_beq first
          have there : c = b := eq_of_beq second
          exact absurd (here.trans there) value
      | float f =>
          exact .inr ⟨a, f, b, rfl, rfl, rfl, value, le_natAbs_of_same value left right same,
            le_natAbs_of_same (Ne.symm value) right left (Binary64.same_symm same)⟩

/-- Numbers that are the same, integers apart from floats, compare alike with every number. -/
theorem same_congr {l m : Number} (same : l.same m = true) (n : Number) :
    l.same n = m.same n := by
  cases l with
  | integer a =>
      cases m with
      | integer b => rw [show a = b from eq_of_beq same]
      | float y => cases same
  | float x =>
      cases m with
      | integer b => cases same
      | float y =>
          cases n with
          | integer c => rfl
          | float z => exact Binary64.same_congr same z

end Number

/-! ## Documents -/

namespace Json

mutual

theorem same_congr : (j k : Json) → same j k = true → ∀ l, same j l = same k l
  | .null, k, equal, l => by
      cases k with
      | null => rfl
      | _ => cases equal
  | .bool a, k, equal, l => by
      cases k with
      | bool b => rw [show a = b from eq_of_beq equal]
      | _ => cases equal
  | .number m, k, equal, l => by
      cases k with
      | number n =>
          cases l with
          | number o => exact Number.same_congr equal o
          | _ => rfl
      | _ => cases equal
  | .string s, k, equal, l => by
      cases k with
      | string t => rw [show s = t from eq_of_beq equal]
      | _ => cases equal
  | .array as, k, equal, l => by
      cases k with
      | array bs =>
          cases l with
          | array cs => exact sameItems_congr as bs equal cs
          | _ => rfl
      | _ => cases equal
  | .object as, k, equal, l => by
      cases k with
      | object bs =>
          cases l with
          | object cs => exact sameMembers_congr as bs equal cs
          | _ => rfl
      | _ => cases equal
termination_by structural j => j

theorem sameItems_congr : (as bs : List Json) → sameItems as bs = true →
    ∀ cs, sameItems as cs = sameItems bs cs
  | [], [], _, _ => rfl
  | a :: as, b :: bs, equal, cs => by
      have parts : same a b = true ∧ sameItems as bs = true := Bool.and_eq_true_iff.mp equal
      cases cs with
      | nil => rfl
      | cons c cs =>
          rw [sameItems, sameItems, same_congr a b parts.1, sameItems_congr as bs parts.2]
termination_by structural as => as

theorem sameMembers_congr : (as bs : List (String × Json)) → sameMembers as bs = true →
    ∀ cs, sameMembers as cs = sameMembers bs cs
  | [], [], _, _ => rfl
  | a :: as, b :: bs, equal, cs => by
      have parts : sameMember a b = true ∧ sameMembers as bs = true :=
        Bool.and_eq_true_iff.mp equal
      cases cs with
      | nil => rfl
      | cons c cs =>
          rw [sameMembers, sameMembers, sameMember_congr a b parts.1,
            sameMembers_congr as bs parts.2]
termination_by structural as => as

theorem sameMember_congr : (a b : String × Json) → sameMember a b = true →
    ∀ c, sameMember a c = sameMember b c
  | (k, v), (l, w), equal, (o, x) => by
      have parts : (k == l) = true ∧ same v w = true := Bool.and_eq_true_iff.mp equal
      rw [sameMember, sameMember, eq_of_beq parts.1, same_congr v w parts.2]
termination_by structural a => a

end

end Json

end SearchOperator
