import SearchOperator.Decimal.Shortest
import SearchOperator.Proofs.Decimal.Rounding

/-!
# Shortest decimals within the format

The search for the digits of a number ends at eighteen at the latest, because a grid that fine has a
point between a number and the number below it. The digits that are found lie within the bounds of
the number, so what they are read as stays within the format.
-/

namespace SearchOperator.Binary64

/-! ## Powers of ten -/

/-- The part of a power of ten above the line. -/
def up (e : Int) : Nat := Nat.pow 10 e.toNat

/-- The part of a power of ten below the line. -/
def down (e : Int) : Nat := Nat.pow 10 (-e).toNat

theorem up_pos (e : Int) : 0 < up e := Nat.pow_pos (by decide)

theorem down_pos (e : Int) : 0 < down e := Nat.pow_pos (by decide)

/-- Powers of ten whose exponents differ by a natural number. -/
theorem up_mul_down (e : Int) (k : Nat) :
    up e * down (e - k) = Nat.pow 10 k * (up (e - k) * down e) := by
  have parts : e.toNat + (-(e - k)).toNat = k + ((e - k).toNat + (-e).toNat) := by omega
  rw [up, down, up, down, Nat.pow_eq, Nat.pow_eq, Nat.pow_eq, Nat.pow_eq, Nat.pow_eq, ← Nat.pow_add,
    ← Nat.pow_add, ← Nat.pow_add, parts]

theorem up_natCast (k : Nat) : up k = Nat.pow 10 k := rfl

theorem down_natCast (k : Nat) : down k = 1 := by
  rw [down, Int.toNat_neg_natCast]

theorem up_neg_natCast (k : Nat) : up (-k) = 1 := by
  rw [up, Int.toNat_neg_natCast]

theorem down_neg_natCast (k : Nat) : down (-k) = Nat.pow 10 k := by
  rw [down, Int.neg_neg, Int.toNat_natCast]

/-- A number lies below the power of ten with as many zeros as it has digits, but not below a tenth
of that. -/
theorem length_toDigits {n : Nat} (positive : 0 < n) :
    ∃ k, (Nat.toDigits 10 n).length = k + 1 ∧ Nat.pow 10 k ≤ n ∧ n < Nat.pow 10 (k + 1) := by
  obtain ⟨k, digits⟩ := Nat.exists_eq_add_of_le' (Nat.length_toDigits_pos (b := 10) (n := n))
  have above := (Nat.length_toDigits_le_iff (by decide) (Nat.succ_pos k)).mp (Nat.le_of_eq digits)
  refine ⟨k, digits, ?_, above⟩
  rcases Nat.eq_zero_or_pos k with rfl | more
  · exact positive
  · apply Nat.le_of_not_lt
    intro below
    have fewer := (Nat.length_toDigits_le_iff (by decide) more).mpr below
    omega

/-- A quotient lies below the power of ten of its decimal point, but not below a tenth of that. -/
theorem decimalPoint_spec {num den : Nat} (positive : 0 < num) (below : 0 < den) :
    num * down (decimalPoint num den) < den * up (decimalPoint num den) ∧
      den * up (decimalPoint num den - 1) ≤ num * down (decimalPoint num den - 1) := by
  rw [decimalPoint]
  split
  · rename_i whole
    have one : 0 < num / den := Nat.div_pos whole below
    obtain ⟨k, digits, low, high⟩ := length_toDigits one
    have before : ((k + 1 : Nat) : Int) - 1 = (k : Nat) := by omega
    rw [digits, before, down_natCast, down_natCast, up_natCast, up_natCast, Nat.mul_one,
      Nat.mul_comm den, Nat.mul_comm den]
    exact ⟨(Nat.div_lt_iff_lt_mul below).mp high, (Nat.le_div_iff_mul_le below).mp low⟩
  · rename_i fraction
    have one : 0 < (den - 1) / num := Nat.div_pos (by omega) positive
    obtain ⟨k, digits, low, high⟩ := length_toDigits one
    have point : 1 - ((k + 1 : Nat) : Int) = -(k : Nat) := by omega
    have before : -((k : Nat) : Int) - 1 = -((k + 1 : Nat) : Int) := by omega
    have least := (Nat.le_div_iff_mul_le positive).mp low
    have most := (Nat.div_lt_iff_lt_mul positive).mp high
    rw [digits, point, before, down_neg_natCast, down_neg_natCast, up_neg_natCast, up_neg_natCast,
      Nat.mul_one, Nat.mul_comm num, Nat.mul_comm num]
    omega

/-! ## Points of a grid -/

namespace Interval

/-- An interval around a value that is no narrower below it than a share of 10^17. -/
structure Wide (i : Interval) : Prop where
  denominator : 0 < i.denominator
  low : i.low < i.value
  high : i.value < i.high
  gap : i.value < Nat.pow 10 17 * (i.value - i.low)

variable {i : Interval}

theorem le_high_of_contains (wide : i.Wide) {multiple gridNum gridDen : Nat}
    (inside : i.contains multiple gridNum gridDen = true) :
    multiple * gridNum * i.denominator ≤ i.high * gridDen := by
  have bounds : i.low * gridDen ≤ i.high * gridDen :=
    Nat.mul_le_mul_right _ (Nat.le_of_lt (Nat.lt_trans wide.low wide.high))
  simp only [contains, Bool.or_eq_true, Bool.and_eq_true, decide_eq_true_eq, beq_iff_eq] at inside
  omega

theorem neighbour?_eq_some {multiple gridNum gridDen : Nat}
    (found : i.neighbour? gridNum gridDen = some multiple) :
    0 < multiple ∧ multiple ≤ i.value * gridDen / (i.denominator * gridNum) + 1 ∧
      i.contains multiple gridNum gridDen = true := by
  simp only [neighbour?] at found
  split at found
  · rename_i below
    simp only [Bool.and_eq_true, decide_eq_true_eq] at below
    cases found
    exact ⟨below.1.1, Nat.le_succ _, below.1.2⟩
  · split at found
    · rename_i above
      cases found
      exact ⟨Nat.succ_pos _, Nat.le_refl _, above⟩
    · cases found

theorem isSome_neighbour?_of_below {gridNum gridDen : Nat}
    (positive : 0 < i.value * gridDen / (i.denominator * gridNum))
    (inside : i.contains (i.value * gridDen / (i.denominator * gridNum)) gridNum gridDen = true) :
    (i.neighbour? gridNum gridDen).isSome = true := by
  simp only [neighbour?, positive, inside, decide_true, Bool.true_and]
  split
  · rfl
  · rename_i chosen
    simp only [Bool.or_eq_true, Bool.not_eq_true', not_or, Bool.not_eq_false] at chosen
    rw [if_pos chosen.1.1]
    rfl

/-- A grid that fine has the point below a value within the interval around it. -/
theorem isSome_neighbour? (wide : i.Wide) {gridNum gridDen : Nat} (positive : 0 < gridNum)
    (below : 0 < gridDen)
    (fine : Nat.pow 10 17 * (i.denominator * gridNum) ≤ i.value * gridDen) :
    (i.neighbour? gridNum gridDen).isSome = true := by
  have step : 0 < i.denominator * gridNum := Nat.mul_pos wide.denominator positive
  have parts := Nat.div_add_mod (i.value * gridDen) (i.denominator * gridNum)
  have rest := Nat.mod_lt (i.value * gridDen) step
  have room : i.denominator * gridNum < (i.value - i.low) * gridDen := by
    have wider := Nat.mul_lt_mul_of_pos_right wide.gap below
    rw [Nat.mul_assoc] at wider
    exact Nat.lt_of_mul_lt_mul_left (Nat.lt_of_le_of_lt fine wider)
  have distance : i.low * gridDen + (i.value - i.low) * gridDen = i.value * gridDen := by
    rw [← Nat.add_mul, Nat.add_sub_cancel' (Nat.le_of_lt wide.low)]
  have highest : i.value * gridDen < i.high * gridDen := Nat.mul_lt_mul_of_pos_right wide.high below
  have point : i.value * gridDen / (i.denominator * gridNum) * gridNum * i.denominator =
      i.denominator * gridNum * (i.value * gridDen / (i.denominator * gridNum)) := by
    rw [Nat.mul_assoc, Nat.mul_comm gridNum, Nat.mul_comm]
  apply isSome_neighbour?_of_below
  · exact Nat.div_pos (by omega) step
  · simp only [contains, point, Bool.or_eq_true, Bool.and_eq_true, decide_eq_true_eq]
    left
    omega

/-- A search that finds something on its last grid ends with a neighbour of the value on some
grid. -/
theorem search_spec {point : Int} {last : Nat}
    (found : (i.neighbour? (up (point - last)) (down (point - last))).isSome = true) :
    ∀ tries count, count + tries = last + 1 → count ≤ last →
      ∃ k multiple, count ≤ k ∧ k ≤ last ∧
        i.search point tries count = (multiple, point - k) ∧
        i.neighbour? (up (point - k)) (down (point - k)) = some multiple := by
  intro tries
  induction tries with
  | zero =>
      intro count ends within
      omega
  | succ tries ih =>
      intro count ends within
      have here : i.neighbour? (Nat.pow 10 (point - count).toNat)
          (Nat.pow 10 (-(point - count)).toNat) =
          i.neighbour? (up (point - count)) (down (point - count)) := rfl
      rw [search]
      simp only [here]
      cases tried : i.neighbour? (up (point - count)) (down (point - count)) with
      | some multiple => exact ⟨count, multiple, Nat.le_refl _, within, rfl, tried⟩
      | none =>
          have more : count ≠ last := by
            rintro rfl
            rw [tried] at found
            cases found
          obtain ⟨k, multiple, later, rest⟩ := ih (count + 1) (by omega) (by omega)
          exact ⟨k, multiple, by omega, rest⟩

end Interval

/-! ## Digits without trailing zeros -/

def trimZeros (digits : List Char) : List Char :=
  (digits.reverse.dropWhile (· == '0')).reverse

/-- Without trailing zeros, digits are those of a number that is multiplied by a power of ten. -/
theorem trimZeros_toDigits {n : Nat} (positive : 0 < n) :
    ∃ m z, 0 < m ∧ n = m * Nat.pow 10 z ∧ trimZeros (Nat.toDigits 10 n) = Nat.toDigits 10 m ∧
      (Nat.toDigits 10 n).length = (Nat.toDigits 10 m).length + z := by
  induction n using Nat.strongRecOn with
  | ind n ih =>
      by_cases trailing : n % 10 = 0
      · obtain ⟨m, z, least, product, trimmed, length⟩ := ih (n / 10) (by omega) (by omega)
        have digits : Nat.toDigits 10 n = Nat.toDigits 10 (n / 10) ++ ['0'] := by
          rw [Nat.toDigits_of_base_le (by decide) (by omega), trailing]
          rfl
        refine ⟨m, z + 1, least, ?_, ?_, ?_⟩
        · rw [Nat.pow_eq, Nat.pow_succ, ← Nat.mul_assoc, ← Nat.pow_eq, ← product]
          omega
        · rw [← trimmed, digits, trimZeros, trimZeros, List.reverse_append]
          rfl
        · rw [digits, List.length_append, length]
          rfl
      · -- the last digit is none of the zeros to drop
        have last : (n % 10).digitChar ≠ '0' := by
          have nonzero : ∀ d < 10, d ≠ 0 → d.digitChar ≠ '0' := by decide
          exact nonzero (n % 10) (Nat.mod_lt n (by decide)) trailing
        refine ⟨n, 0, positive, (Nat.mul_one n).symm, ?_, rfl⟩
        have kept (front : List Char) :
            trimZeros (front ++ [(n % 10).digitChar]) = front ++ [(n % 10).digitChar] := by
          rw [trimZeros, List.reverse_append, List.reverse_singleton, List.singleton_append,
            List.dropWhile_cons_of_neg (by simpa using last), List.reverse_cons,
            List.reverse_reverse]
        rcases Nat.lt_or_ge n 10 with small | large
        · have one : Nat.toDigits 10 n = [] ++ [(n % 10).digitChar] := by
            rw [Nat.toDigits_of_lt_base small, Nat.mod_eq_of_lt small]
            rfl
          rw [one]
          exact kept []
        · rw [Nat.toDigits_of_base_le (by decide) large]
          exact kept _

/-! ## The digits of a number -/

theorem interval_eq (x : Binary64) : x.interval =
    ⟨4 * x.significand * Nat.pow 2 x.shift -
        (if x.significand == 0x10000000000000 && 0 < x.shift then Nat.pow 2 x.shift
          else 2 * Nat.pow 2 x.shift),
      4 * x.significand * Nat.pow 2 x.shift,
      4 * x.significand * Nat.pow 2 x.shift + 2 * Nat.pow 2 x.shift, 4 * unit,
      x.significand % 2 == 0⟩ := by
  unfold interval unit
  rfl

theorem significand_lt (x : Binary64) : x.significand < 0x20000000000000 := by
  rw [significand]
  split <;> omega

theorem significand_pos {x : Binary64} (nonzero : x.magnitude ≠ 0) : 0 < x.significand := by
  rw [significand]
  split <;> omega

theorem wide_interval {x : Binary64} (nonzero : x.magnitude ≠ 0) : x.interval.Wide := by
  have low := significand_pos nonzero
  have high := x.significand_lt
  have power := powTwo_pos x.shift
  have least : Nat.pow 2 x.shift ≤ x.significand * Nat.pow 2 x.shift := Nat.le_mul_of_pos_left _ low
  have most : x.significand * Nat.pow 2 x.shift ≤ 0x20000000000000 * Nat.pow 2 x.shift :=
    Nat.mul_le_mul_right _ (Nat.le_of_lt high)
  have tens : Nat.pow 10 17 = 100000000000000000 := rfl
  rw [interval_eq]
  constructor
  · exact Nat.mul_pos (by decide) unit_pos
  · simp only [Nat.mul_assoc]
    split <;> omega
  · simp only [Nat.mul_assoc]
    omega
  · simp only [Nat.mul_assoc, tens]
    split <;> omega

theorem value_eq (x : Binary64) : x.interval.value = 4 * x.quotient.1 := by
  rw [interval_eq, quotient_eq, Nat.mul_assoc]

theorem denominator_eq (x : Binary64) : x.interval.denominator = 4 * unit := by
  rw [interval_eq]

/-- The decimal point of a number is within bounds that are wide, but small. -/
theorem decimalPoint_bounds {x : Binary64} (nonzero : x.magnitude ≠ 0) :
    -400 < decimalPoint x.interval.value x.interval.denominator ∧
      decimalPoint x.interval.value x.interval.denominator ≤ 400 := by
  have wide := wide_interval nonzero
  have positive : 0 < x.quotient.1 := by
    rw [quotient_eq]
    exact Nat.mul_pos (significand_pos nonzero) (powTwo_pos _)
  obtain ⟨above, below⟩ := decimalPoint_spec (Nat.zero_lt_of_lt wide.low) wide.denominator
  have limit := x.quotient_lt
  rw [value_eq, denominator_eq] at above below ⊢
  generalize decimalPoint (4 * x.quotient.1) (4 * unit) = point at above below
  constructor
  · apply Int.lt_of_not_ge
    intro low
    obtain ⟨n, same⟩ := Int.eq_ofNat_of_zero_le (a := -point) (by omega)
    have point_eq : point = -(n : Int) := by omega
    obtain ⟨-, -, -, steps, -⟩ := limits
    have tens : Nat.pow 10 400 ≤ Nat.pow 10 n := by
      apply Nat.pow_le_pow_right (by decide)
      omega
    have least := Nat.le_mul_of_pos_left (Nat.pow 10 n) positive
    rw [point_eq, down_neg_natCast, up_neg_natCast, Nat.mul_assoc] at above
    omega
  · apply Int.le_of_not_gt
    intro high
    obtain ⟨n, same⟩ := Int.eq_ofNat_of_zero_le (a := point - 1) (by omega)
    obtain ⟨-, -, -, -, steps, -⟩ := limits
    have tens : unit * Nat.pow 10 400 ≤ unit * Nat.pow 10 n := by
      apply Nat.mul_le_mul_left
      apply Nat.pow_le_pow_right (by decide)
      omega
    rw [same, down_natCast, up_natCast, Nat.mul_assoc] at below
    omega

/-- Eighteen digits after the decimal point make a grid that is fine enough for a number. -/
theorem fine_of_decimalPoint {num den : Nat} {point : Int}
    (low : den * up (point - 1) ≤ num * down (point - 1)) :
    Nat.pow 10 17 * (den * up (point - 18)) ≤ num * down (point - 18) := by
  have steps : point - 1 - (17 : Nat) = point - 18 := by omega
  have scale := up_mul_down (point - 1) 17
  rw [steps] at scale
  apply Nat.le_of_mul_le_mul_right _ (down_pos (point - 1))
  calc Nat.pow 10 17 * (den * up (point - 18)) * down (point - 1)
      = den * (Nat.pow 10 17 * (up (point - 18) * down (point - 1))) := by
        rw [Nat.mul_left_comm, Nat.mul_assoc, Nat.mul_assoc]
    _ = den * up (point - 1) * down (point - 18) := by rw [← scale, Nat.mul_assoc]
    _ ≤ num * down (point - 1) * down (point - 18) := Nat.mul_le_mul_right _ low
    _ = num * down (point - 18) * down (point - 1) := Nat.mul_right_comm ..

/-- Some digits after the decimal point make a number with as many digits at most. -/
theorem below_of_decimalPoint {num den : Nat} {point : Int} (k : Nat)
    (high : num * down point < den * up point) :
    num * down (point - k) < Nat.pow 10 k * (den * up (point - k)) := by
  have scale := up_mul_down point k
  apply Nat.lt_of_mul_lt_mul_right (a := down point)
  calc num * down (point - k) * down point
      = num * down point * down (point - k) := Nat.mul_right_comm ..
    _ < den * up point * down (point - k) := Nat.mul_lt_mul_of_pos_right high (down_pos _)
    _ = den * (Nat.pow 10 k * (up (point - k) * down point)) := by rw [← scale, Nat.mul_assoc]
    _ = Nat.pow 10 k * (den * up (point - k)) * down point := by
        rw [Nat.mul_left_comm, Nat.mul_assoc, Nat.mul_assoc]

/-- Zeros at the end of a number count as well in the power of ten. -/
theorem le_of_trimmed {m z high den : Nat} {e : Int}
    (inside : m * Nat.pow 10 z * up (e - z) * den ≤ high * down (e - z)) :
    m * up e * den ≤ high * down e := by
  have scale := up_mul_down e z
  apply Nat.le_of_mul_le_mul_right _ (down_pos (e - z))
  calc m * up e * den * down (e - z)
      = m * (up e * down (e - z)) * den := by rw [Nat.mul_right_comm, Nat.mul_assoc m]
    _ = m * Nat.pow 10 z * up (e - z) * den * down e := by
        rw [scale, ← Nat.mul_assoc, ← Nat.mul_assoc, Nat.mul_right_comm]
    _ ≤ high * down (e - z) * down e := Nat.mul_le_mul_right _ inside
    _ = high * down e * down (e - z) := Nat.mul_right_comm ..

/-- The shortest digits of a number are those of a whole number, and their decimal lies within the
bounds of the number. -/
theorem shortest_spec {x : Binary64} (nonzero : x.magnitude ≠ 0) :
    ∃ m e, 0 < m ∧ m ≤ Nat.pow 10 18 ∧ x.shortest.digits = Nat.toDigits 10 m ∧
      x.shortest.point = e + (Nat.toDigits 10 m).length ∧ e.natAbs ≤ 1000 ∧
      m * up e * x.interval.denominator ≤ x.interval.high * down e := by
  have wide := wide_interval nonzero
  have bounds := decimalPoint_bounds nonzero
  obtain ⟨above, below⟩ := decimalPoint_spec (Nat.zero_lt_of_lt wide.low) wide.denominator
  have last := Interval.isSome_neighbour? wide (up_pos _) (down_pos _) (fine_of_decimalPoint below)
  obtain ⟨k, multiple, one, many, found, neighbour⟩ :=
    @Interval.search_spec _ _ 18 last 18 1 rfl (by decide)
  obtain ⟨positive, most, inside⟩ := Interval.neighbour?_eq_some neighbour
  have short : multiple ≤ Nat.pow 10 18 := by
    have step := Nat.mul_pos wide.denominator (up_pos
      (decimalPoint x.interval.value x.interval.denominator - k))
    have digits := (Nat.div_lt_iff_lt_mul step).mpr (below_of_decimalPoint k above)
    exact Nat.le_trans (Nat.le_trans most digits) (Nat.pow_le_pow_right (by decide) many)
  -- the zeros that are cut off move into the exponent
  obtain ⟨m, z, least, rfl, trimmed, length⟩ := trimZeros_toDigits positive
  have zeros : Nat.pow 10 z ≤ Nat.pow 10 18 :=
    Nat.le_trans (Nat.le_mul_of_pos_left _ least) short
  have few : z ≤ 18 := (Nat.pow_le_pow_iff_right (by decide)).mp zeros
  have back : decimalPoint x.interval.value x.interval.denominator - k + z - z =
      decimalPoint x.interval.value x.interval.denominator - k := by omega
  refine ⟨m, decimalPoint x.interval.value x.interval.denominator - k + z, least,
    Nat.le_trans (Nat.le_mul_of_pos_right _ (Nat.pow_pos (by decide))) short, ?_, ?_, by omega, ?_⟩
  · rw [shortest]
    simp only [found]
    exact trimmed
  · rw [shortest]
    simp only [found, length]
    omega
  · apply le_of_trimmed (z := z)
    rw [back]
    exact Interval.le_high_of_contains wide inside

/-! ## Reading the digits -/

/-- Below the largest number, the bound of a number is not above what is written of one. -/
theorem high_le {x : Binary64} (below : x.magnitude < 2047 * 0x10000000000000 - 1) :
    x.interval.high ≤ writtenBound * x.interval.denominator := by
  have power : writtenBound * (4 * unit) = 0x3FFFFFFFFFFFFD * (4 * Nat.pow 2 2044) := by
    decide +kernel
  rw [denominator_eq, power, interval_eq]
  have general (k : Nat) (last : x.shift = k + 1 → x.significand ≤ 0x1FFFFFFFFFFFFE)
      (within : x.shift ≤ k + 1) : 4 * x.significand * Nat.pow 2 x.shift + 2 * Nat.pow 2 x.shift ≤
        0x3FFFFFFFFFFFFD * (4 * Nat.pow 2 k) := by
    rw [Nat.mul_assoc]
    rcases Nat.lt_or_eq_of_le within with less | same
    · have bits := Nat.mul_le_mul (Nat.le_of_lt_succ x.significand_lt)
        (Nat.pow_le_pow_right (n := 2) (by decide) (Nat.le_of_lt_succ less))
      have power : Nat.pow 2 x.shift ≤ Nat.pow 2 k :=
        Nat.pow_le_pow_right (by decide) (Nat.le_of_lt_succ less)
      simp only [← Nat.pow_eq] at bits
      omega
    · have bits := Nat.mul_le_mul_right (Nat.pow 2 (k + 1)) (last same)
      rw [same]
      rw [Nat.pow_eq, Nat.pow_succ, ← Nat.pow_eq] at bits ⊢
      omega
  apply general
  · intro same
    rw [shift] at same
    rw [significand]
    split at same <;> split <;> omega
  · rw [shift]
    split <;> omega

/-- The digits of a number do not depend on its sign. -/
theorem shortest_congr {x y : Binary64} (same : x.magnitude = y.magnitude) :
    x.shortest = y.shortest := by
  obtain ⟨negative, magnitude, finite⟩ := x
  obtain ⟨other, magnitude', finite'⟩ := y
  cases same
  rfl

def largest : Binary64 := ⟨false, 2047 * 0x10000000000000 - 1, by decide⟩

/-- The largest number is written with seventeen digits, and these read back. -/
theorem shortest_largest :
    largest.shortest = ⟨Nat.toDigits 10 17976931348623157, 309⟩ ∧
      (ofDecimal? 17976931348623157 292).isSome = true := by
  decide +kernel

/-- The shortest digits of a number are those of a whole number that a word holds, and their decimal
is within the format. -/
theorem isSome_ofDecimal?_shortest {x : Binary64} (nonzero : x.magnitude ≠ 0) :
    ∃ m e, 0 < m ∧ m ≤ Nat.pow 10 18 ∧ x.shortest.digits = Nat.toDigits 10 m ∧
      x.shortest.point = e + (Nat.toDigits 10 m).length ∧ e.natAbs ≤ 1000 ∧
      (ofDecimal? m e).isSome = true := by
  by_cases top : x.magnitude = 2047 * 0x10000000000000 - 1
  · -- the largest number reads back although its bound above is out of range
    have same : x.magnitude = largest.magnitude := top
    obtain ⟨written, read⟩ := shortest_largest
    rw [shortest_congr same, written]
    exact ⟨17976931348623157, 292, by decide, by decide, rfl, rfl, by decide, read⟩
  · obtain ⟨m, e, positive, short, digits, point, small, inside⟩ := shortest_spec nonzero
    refine ⟨m, e, positive, short, digits, point, small, ?_⟩
    cases e with
    | negSucc e =>
        apply isSome_ofDecimal?_negSucc
        apply Nat.le_trans short
        apply Nat.pow_le_pow_right (by decide)
        decide
    | ofNat e =>
        apply isSome_ofDecimal?_ofNat positive short
        have high := high_le (x := x) (by have := x.finite; omega)
        rw [Int.ofNat_eq_natCast, up_natCast, down_natCast, Nat.mul_one] at inside
        exact Nat.le_of_mul_le_mul_right (Nat.le_trans inside high)
          (wide_interval nonzero).denominator

end SearchOperator.Binary64
