import SearchOperator.Decimal.Binary64

/-!
# Decimals within the format

Rounding to nearest moves a quotient by half a step at most, so what lies below half a step above
the largest number stays within the format. A decimal is read by rounding its significand, then the
power of ten, then their product or quotient. A quotient always stays within the format. A product
does if the decimal is written of a number below the largest one.
-/

namespace SearchOperator.Binary64

/-! ## One rounding -/

/-- How many steps of the smallest positive number make one. -/
def unit : Nat := Nat.pow 2 1074

/-- Half a step above the largest number, in steps of the smallest one. -/
def bound : Nat := 0x3FFFFFFFFFFFFF * Nat.pow 2 2044

theorem powTwo_pos (k : Nat) : 0 < Nat.pow 2 k := Nat.two_pow_pos k

theorem unit_pos : 0 < unit := by
  unfold unit
  apply powTwo_pos

theorem roundQuotient_le (num : Nat) {den : Nat} (positive : 0 < den) :
    2 * (roundQuotient num den * den) ≤ 2 * num + den := by
  have parts := Nat.div_add_mod' num den
  have small := Nat.mod_lt num positive
  rw [roundQuotient]
  split
  · rename_i up
    have half : den ≤ 2 * (num % den) := by
      simp only [Bool.or_eq_true, decide_eq_true_eq, Bool.and_eq_true, beq_iff_eq] at up
      omega
    rw [Nat.add_mul, Nat.one_mul]
    omega
  · omega

/-- A quotient below the middle between a number and the next one is not rounded above it. -/
theorem roundQuotient_le_of_lt {num den k : Nat} (positive : 0 < den)
    (below : 2 * num < (2 * k + 1) * den) : roundQuotient num den ≤ k := by
  have near := roundQuotient_le num positive
  have less : roundQuotient num den * den < (k + 1) * den := by
    rw [Nat.add_mul, Nat.mul_assoc] at below
    rw [Nat.add_mul]
    omega
  exact Nat.le_of_lt_succ (Nat.lt_of_mul_lt_mul_right less)

theorem le_roundQuotient {num den k : Nat} (positive : 0 < den) (above : k * den ≤ num) :
    k ≤ roundQuotient num den := by
  have floor : k ≤ num / den := (Nat.le_div_iff_mul_le positive).mpr above
  rw [roundQuotient]
  split
  · exact Nat.le_succ_of_le floor
  · exact floor

/-- The power of two beside the 53 bits of a quotient. -/
def exponentOf (num den : Nat) : Nat := Nat.log2 (num * unit / den) - 52

theorem nearestMagnitude_eq (num den : Nat) : nearestMagnitude num den =
    roundQuotient (num * unit) (den * Nat.pow 2 (exponentOf num den)) +
      exponentOf num den * 0x10000000000000 := by
  unfold nearestMagnitude exponentOf unit
  rfl

/-- A quotient rounds to 53 bits at most. -/
theorem bits_le (num : Nat) {den : Nat} (positive : 0 < den) :
    roundQuotient (num * unit) (den * Nat.pow 2 (exponentOf num den)) ≤ 0x20000000000000 := by
  apply roundQuotient_le_of_lt (Nat.mul_pos positive (Nat.two_pow_pos _))
  have above : num * unit / den < 2 ^ (53 + exponentOf num den) :=
    Nat.lt_of_lt_of_le Nat.lt_log2_self
      (Nat.pow_le_pow_right (by decide) (by rw [exponentOf]; omega))
  have less := (Nat.div_lt_iff_lt_mul positive).mp above
  rw [Nat.pow_add, Nat.mul_assoc, Nat.mul_comm (2 ^ exponentOf num den)] at less
  omega

/-- With 53 bits before the point, a quotient below 54 ones in a row has a bounded magnitude. -/
theorem nearestMagnitude_lt {num den m : Nat} (positive : 0 < den)
    (below : num * unit < 0x3FFFFFFFFFFFFF * Nat.pow 2 m * den) :
    nearestMagnitude num den < (m + 3) * 0x10000000000000 := by
  rw [Nat.pow_eq] at below
  have limit : Nat.log2 (num * unit / den) < m + 54 := by
    have whole : num * unit / den < 2 ^ (m + 54) := by
      have quotient : num * unit / den < 0x3FFFFFFFFFFFFF * 2 ^ m :=
        (Nat.div_lt_iff_lt_mul positive).mpr below
      rw [Nat.pow_add]
      omega
    rcases Nat.eq_zero_or_pos (num * unit / den) with zero | some
    · rw [zero, Nat.log2_zero]
      omega
    · exact (Nat.log2_lt (Nat.ne_of_gt some)).mpr whole
  have rounded := bits_le num positive
  rw [nearestMagnitude_eq]
  by_cases top : exponentOf num den = m + 1
  · -- half a step below the next power of two still rounds down
    have down : roundQuotient (num * unit) (den * Nat.pow 2 (exponentOf num den)) ≤
        0x1FFFFFFFFFFFFF := by
      apply roundQuotient_le_of_lt (Nat.mul_pos positive (powTwo_pos _))
      have other : den * Nat.pow 2 (m + 1) = 2 * (2 ^ m * den) := by
        rw [Nat.pow_eq, Nat.pow_succ, Nat.mul_comm (2 ^ m), Nat.mul_left_comm, Nat.mul_comm den]
      rw [Nat.mul_assoc] at below
      rw [top, other]
      omega
    omega
  · have less : exponentOf num den ≤ m := by
      rw [exponentOf] at top ⊢
      omega
    omega

/-- What lies below the bound is rounded to a number of the format. -/
theorem isSome_ofQuotient? {num den : Nat} (positive : 0 < den) (below : num * unit < bound * den) :
    (ofQuotient? num den).isSome = true := by
  have finite : nearestMagnitude num den < 2047 * 0x10000000000000 := by
    unfold bound at below
    apply nearestMagnitude_lt positive below
  rw [ofQuotient?]
  simp only [dif_pos finite, Option.isSome_some]

/-! ## The value of a number -/

theorem quotient_eq (x : Binary64) :
    x.quotient = (x.significand * Nat.pow 2 x.shift, unit) := by
  unfold quotient unit
  rfl

/-- A number whose 53 bits are full is their multiple of a power of two. -/
theorem quotient_of_magnitude {x : Binary64} {bits shift : Nat}
    (magnitude : x.magnitude = bits + shift * 0x10000000000000) (low : 0x10000000000000 ≤ bits)
    (high : bits ≤ 0x20000000000000) : x.quotient.1 = bits * Nat.pow 2 shift := by
  have normal : ¬ x.magnitude < 0x10000000000000 := by omega
  rw [quotient_eq, significand, Binary64.shift, if_neg normal, if_neg normal]
  by_cases carried : bits = 0x20000000000000
  · have last : x.magnitude % 0x10000000000000 = 0 := by omega
    have next : x.magnitude / 0x10000000000000 - 1 = shift + 1 := by omega
    rw [last, next, carried, Nat.pow_eq, Nat.pow_eq, Nat.pow_succ]
    omega
  · have rest : 0x10000000000000 + x.magnitude % 0x10000000000000 = bits := by omega
    have same : x.magnitude / 0x10000000000000 - 1 = shift := by omega
    rw [rest, same]

/-- Every number lies below the bound. -/
theorem quotient_lt (x : Binary64) : x.quotient.1 < bound := by
  have finite := x.finite
  have significand : x.significand ≤ 0x1FFFFFFFFFFFFF := by
    rw [Binary64.significand]
    split <;> omega
  have within : x.shift ≤ 2044 + 1 := by
    rw [Binary64.shift]
    split <;> omega
  have general (k : Nat) (within : x.shift ≤ k + 1) :
      x.quotient.1 < 0x3FFFFFFFFFFFFF * Nat.pow 2 k := by
    have shift : Nat.pow 2 x.shift ≤ Nat.pow 2 (k + 1) := Nat.pow_le_pow_right (by decide) within
    have product := Nat.mul_le_mul significand shift
    have positive := powTwo_pos k
    rw [quotient_eq]
    rw [Nat.pow_eq, Nat.pow_eq, Nat.pow_succ] at product
    simp only [Nat.pow_eq] at positive ⊢
    omega
  unfold bound
  apply general
  exact within

theorem exists_unit : ∃ k, 52 ≤ k ∧ unit = Nat.pow 2 k := by
  refine ⟨1074, by decide, ?_⟩
  unfold unit
  rfl

/-- How many bits a whole number has in steps of the smallest one. -/
theorem log2_unit {n : Nat} (positive : 0 < n) {k : Nat} (power : unit = Nat.pow 2 k) :
    Nat.log2 (n * unit) = Nat.log2 n + k := by
  have nonzero : n * unit ≠ 0 := Nat.ne_of_gt (Nat.mul_pos positive unit_pos)
  rw [Nat.pow_eq] at power
  rw [Nat.log2_eq_iff nonzero, power]
  constructor
  · rw [Nat.pow_add]
    exact Nat.mul_le_mul_right _ (Nat.log2_self_le (Nat.ne_of_gt positive))
  · rw [Nat.add_right_comm, Nat.pow_add]
    exact Nat.mul_lt_mul_of_pos_right Nat.lt_log2_self (Nat.two_pow_pos k)

theorem magnitude_ofNat? {n : Nat} {x : Binary64} (rounded : ofNat? n = some x) :
    x.magnitude = nearestMagnitude n 1 := by
  rw [ofNat?, ofQuotient?] at rounded
  split at rounded
  · cases rounded
    rfl
  · cases rounded

/-- A whole number with the most that rounding to 53 bits adds to it, in shares of 2^53 to one. -/
def roundedUp (n : Nat) : Nat := 0x20000000000000 * n + Nat.pow 2 (Nat.log2 n)

/-- A positive whole number is rounded to 53 bits beside the power of two that they take. -/
theorem exists_shift_ofNat? {n : Nat} (positive : 0 < n) {x : Binary64}
    (rounded : ofNat? n = some x) :
    ∃ shift, 0x10000000000000 * Nat.pow 2 shift = Nat.pow 2 (Nat.log2 n) * unit ∧
      0x10000000000000 ≤ roundQuotient (n * unit) (Nat.pow 2 shift) ∧
      x.quotient.1 = roundQuotient (n * unit) (Nat.pow 2 shift) * Nat.pow 2 shift := by
  obtain ⟨k, enough, power⟩ := exists_unit
  have exponent : exponentOf n 1 + 52 = Nat.log2 n + k := by
    rw [exponentOf, Nat.div_one, log2_unit positive power]
    omega
  have magnitude := magnitude_ofNat? rounded
  have high := bits_le n Nat.one_pos
  have split : 0x10000000000000 * Nat.pow 2 (exponentOf n 1) = Nat.pow 2 (Nat.log2 n) * unit := by
    rw [power, Nat.pow_eq, Nat.pow_eq, Nat.pow_eq, ← Nat.pow_add, ← exponent, Nat.pow_add]
    omega
  have full : 0x10000000000000 * Nat.pow 2 (exponentOf n 1) ≤ n * unit := by
    rw [split]
    exact Nat.mul_le_mul_right _ (Nat.log2_self_le (Nat.ne_of_gt positive))
  have low := le_roundQuotient (powTwo_pos (exponentOf n 1)) full
  rw [nearestMagnitude_eq] at magnitude
  rw [Nat.one_mul] at magnitude high
  exact ⟨exponentOf n 1, split, low, quotient_of_magnitude magnitude low high⟩

/-- A positive whole number is not rounded below the power of two of its highest bit. -/
theorem le_quotient_ofNat? {n : Nat} (positive : 0 < n) {x : Binary64}
    (rounded : ofNat? n = some x) : Nat.pow 2 (Nat.log2 n) * unit ≤ x.quotient.1 := by
  obtain ⟨shift, split, low, value⟩ := exists_shift_ofNat? positive rounded
  rw [value, ← split]
  exact Nat.mul_le_mul_right _ low

/-- A positive whole number is rounded half a step away at most. -/
theorem quotient_ofNat? {n : Nat} (positive : 0 < n) {x : Binary64} (rounded : ofNat? n = some x) :
    unit ≤ x.quotient.1 ∧
      0x20000000000000 * x.quotient.1 ≤ roundedUp n * unit := by
  obtain ⟨shift, split, low, value⟩ := exists_shift_ofNat? positive rounded
  constructor
  · have one : 1 * unit ≤ Nat.pow 2 (Nat.log2 n) * unit :=
      Nat.mul_le_mul_right unit Nat.one_le_two_pow
    have highest := le_quotient_ofNat? positive rounded
    omega
  · have near := roundQuotient_le (n * unit) (powTwo_pos shift)
    rw [roundedUp, Nat.add_mul, Nat.mul_assoc, ← split, value]
    omega

/-! ## Whole numbers that need no rounding -/

theorem roundQuotient_mul (k : Nat) {den : Nat} (positive : 0 < den) :
    roundQuotient (k * den) den = k := by
  rw [roundQuotient, Nat.mul_div_cancel k positive, Nat.mul_mod_left]
  simp [Nat.ne_of_lt positive]

theorem ofNat?_zero : ofNat? 0 = some zero := by decide +kernel

/-- The value of a number depends on its magnitude only. -/
theorem quotient_congr {x y : Binary64} (same : x.magnitude = y.magnitude) :
    x.quotient = y.quotient := by
  rw [quotient_eq, quotient_eq, significand, significand, shift, shift, same]

/-- A whole number of 53 bits is a number of the format. -/
theorem quotient_ofNat?_of_lt {n : Nat} (small : n < 0x20000000000000) {x : Binary64}
    (rounded : ofNat? n = some x) : x.quotient.1 = n * unit := by
  rcases Nat.eq_zero_or_pos n with rfl | positive
  · cases ofNat?_zero.symm.trans rounded
    rw [Nat.zero_mul]
    rfl
  · obtain ⟨shift, split, -, value⟩ := exists_shift_ofNat? positive rounded
    have top : Nat.log2 n < 53 := (Nat.log2_lt (Nat.ne_of_gt positive)).mpr small
    -- the bits that `n` has less than 53 fill up the power of two beside them
    have filled : Nat.pow 2 (52 - Nat.log2 n) * Nat.pow 2 shift = unit := by
      have bits : 2 ^ (52 - Nat.log2 n) * 2 ^ Nat.log2 n = 0x10000000000000 := by
        rw [← Nat.pow_add, Nat.sub_add_cancel (Nat.le_of_lt_succ top)]
      apply Nat.eq_of_mul_eq_mul_left (show 0 < 0x10000000000000 by decide)
      calc 0x10000000000000 * (Nat.pow 2 (52 - Nat.log2 n) * Nat.pow 2 shift)
          = Nat.pow 2 (52 - Nat.log2 n) * (0x10000000000000 * Nat.pow 2 shift) :=
            Nat.mul_left_comm ..
        _ = Nat.pow 2 (52 - Nat.log2 n) * Nat.pow 2 (Nat.log2 n) * unit := by
            rw [split, Nat.mul_assoc]
        _ = 0x10000000000000 * unit := congrArg (· * unit) bits
    rw [value, ← filled, ← Nat.mul_assoc, roundQuotient_mul _ (powTwo_pos shift)]

/-- A whole number of 53 bits is rounded to a value that no other one is rounded to. -/
theorem eq_of_magnitude_eq {n m : Nat} (small : n < 0x20000000000000) {x y : Binary64}
    (left : ofNat? n = some x) (right : ofNat? m = some y) (same : x.magnitude = y.magnitude) :
    n = m := by
  have value : n * unit = y.quotient.1 := by
    rw [← quotient_ofNat?_of_lt small left, quotient_congr same]
  by_cases other_small : m < 0x20000000000000
  · rw [quotient_ofNat?_of_lt other_small right] at value
    exact Nat.eq_of_mul_eq_mul_right unit_pos value
  · have positive : 0 < m := by omega
    have top : 53 ≤ Nat.log2 m :=
      (Nat.le_log2 (Nat.ne_of_gt positive)).mpr (Nat.le_of_not_lt other_small)
    have large : Nat.pow 2 53 * unit ≤ n * unit := by
      rw [value]
      exact Nat.le_trans (Nat.mul_le_mul_right unit (Nat.pow_le_pow_right (by decide) top))
        (le_quotient_ofNat? positive right)
    have below : Nat.pow 2 53 ≤ n := Nat.le_of_mul_le_mul_right large unit_pos
    exact absurd below (Nat.not_le_of_lt small)

/-! ## Powers of ten -/

/-- What is written of a number below the largest one lies below half a step above it. -/
def writtenBound : Nat := 0x3FFFFFFFFFFFFD * Nat.pow 2 970

/-- Where the bounds of the format and of a word lie among the powers of ten. -/
theorem limits :
    Nat.pow 10 308 * unit < bound * 1 ∧
    4 * (Nat.pow 10 18 * Nat.pow 10 289 * unit) < bound ∧
    writtenBound < Nat.pow 10 309 ∧
    unit ≤ Nat.pow 10 400 ∧
    bound ≤ unit * Nat.pow 10 400 ∧
    0x10000000000000000 ≤ Nat.pow 10 308 := by
  decide +kernel

theorem isSome_ofNat? {n : Nat} (small : n ≤ Nat.pow 10 308) : (ofNat? n).isSome = true := by
  obtain ⟨highest, -⟩ := limits
  exact isSome_ofQuotient? Nat.one_pos
    (Nat.lt_of_le_of_lt (Nat.mul_le_mul_right unit small) highest)

theorem isSome_powerOfTen? {e : Nat} (small : e ≤ 308) : (powerOfTen? e).isSome = true := by
  apply isSome_ofNat?
  apply Nat.pow_le_pow_right (by decide)
  exact small

theorem unit_le_powerOfTen? {e : Nat} {p : Binary64} (power : powerOfTen? e = some p) :
    unit ≤ p.quotient.1 :=
  (quotient_ofNat? (Nat.pow_pos (by decide)) power).1

/-- Dividing by one at least stays within the format. -/
theorem isSome_div? (x : Binary64) {y : Binary64} (large : unit ≤ y.quotient.1) :
    (x.div? y).isSome = true := by
  have positive := unit_pos
  have denominator : x.quotient.2 = unit := by rw [quotient_eq]
  have other : y.quotient.2 = unit := by rw [quotient_eq]
  rw [div?, denominator, other]
  apply isSome_ofQuotient? (Nat.mul_pos positive (Nat.lt_of_lt_of_le positive large))
  calc x.quotient.1 * unit * unit
      < bound * unit * unit := Nat.mul_lt_mul_of_pos_right
        (Nat.mul_lt_mul_of_pos_right x.quotient_lt positive) positive
    _ ≤ bound * unit * y.quotient.1 := Nat.mul_le_mul_left _ large
    _ = bound * (unit * y.quotient.1) := Nat.mul_assoc ..

theorem exists_div? {e : Nat} (small : e ≤ 308) (x : Binary64) :
    ∃ p y, powerOfTen? e = some p ∧ x.div? p = some y := by
  obtain ⟨p, power⟩ := Option.isSome_iff_exists.mp (isSome_powerOfTen? small)
  obtain ⟨y, divided⟩ := Option.isSome_iff_exists.mp (isSome_div? x (unit_le_powerOfTen? power))
  exact ⟨p, y, power, divided⟩

theorem divideByPowers_zero (rest : Nat) (x : Binary64) :
    divideByPowers rest 0 x = (powerOfTen? rest).bind x.div? := by
  rw [divideByPowers]
  rfl

theorem divideByPowers_succ (rest steps : Nat) (x : Binary64) :
    divideByPowers rest (steps + 1) x =
      if x.isZero then some x
      else (powerOfTen? 308).bind fun p => (x.div? p).bind (divideByPowers rest steps) := by
  rw [divideByPowers]
  simp only [Option.bind_eq_bind]

theorem isSome_divideByPowers {rest : Nat} (small : rest ≤ 308) (steps : Nat) (x : Binary64) :
    (divideByPowers rest steps x).isSome = true := by
  induction steps generalizing x with
  | zero =>
      obtain ⟨p, y, power, divided⟩ := exists_div? small x
      rw [divideByPowers_zero, power, Option.bind_some, divided]
      rfl
  | succ steps ih =>
      obtain ⟨p, y, power, divided⟩ := exists_div? (Nat.le_refl 308) x
      rw [divideByPowers_succ]
      split
      · exact Option.isSome_some
      · rw [power, Option.bind_some, divided, Option.bind_some]
        exact ih y

/-! ## Decimals -/

theorem ofDecimal?_negSucc (n e : Nat) : ofDecimal? n (.negSucc e) =
    (ofNat? n).bind (divideByPowers (e + 1 - 308 * (e / 308)) (e / 308)) := by
  rw [ofDecimal?, Option.bind_eq_bind]

theorem ofDecimal?_ofNat (n : Nat) {e : Nat} (small : e ≤ 308) : ofDecimal? n (.ofNat e) =
    (ofNat? n).bind fun x => (powerOfTen? e).bind x.mul? := by
  rw [ofDecimal?, Option.bind_eq_bind]
  simp only [if_pos small]

/-- A decimal that is divided by a power of ten is within the format. -/
theorem isSome_ofDecimal?_negSucc {n : Nat} (small : n ≤ Nat.pow 10 308) (e : Nat) :
    (ofDecimal? n (.negSucc e)).isSome = true := by
  obtain ⟨x, rounded⟩ := Option.isSome_iff_exists.mp (isSome_ofNat? small)
  rw [ofDecimal?_negSucc, rounded, Option.bind_some]
  exact isSome_divideByPowers (by omega) _ x

/-- The greatest significand that is written beside a power of ten. -/
def greatest (e : Nat) : Nat := min (Nat.pow 10 18) (writtenBound / Nat.pow 10 e)

/-- Whether the greatest significand beside a power of ten stays within the format, both of them
rounded up. -/
def fitsAt (e : Nat) : Bool :=
  (powerOfTen? e).any fun p =>
    roundedUp (greatest e) * p.quotient.1 <
      0x20000000000000 * bound

/-- Only beside the last powers of ten do significands come near the largest number. -/
theorem fitsAt_of_high : ∀ d < 19, fitsAt (290 + d) = true := by decide +kernel

theorem log2_le_log2 {n m : Nat} (positive : 0 < n) (le : n ≤ m) : Nat.log2 n ≤ Nat.log2 m := by
  have low := Nat.log2_self_le (Nat.ne_of_gt positive)
  have above : Nat.log2 n < Nat.log2 m + 1 :=
    (Nat.log2_lt (Nat.ne_of_gt positive)).mpr (Nat.lt_of_le_of_lt le Nat.lt_log2_self)
  omega

/-- A product is within the format if its factors, both rounded up, are. -/
theorem isSome_mul? {n : Nat} (positive : 0 < n) {x y : Binary64} (rounded : ofNat? n = some x)
    (below : roundedUp n * y.quotient.1 < 0x20000000000000 * bound) :
    (x.mul? y).isSome = true := by
  have one := unit_pos
  have denominator (z : Binary64) : z.quotient.2 = unit := by rw [quotient_eq]
  have near := (quotient_ofNat? positive rounded).2
  rw [mul?, denominator, denominator]
  apply isSome_ofQuotient? (Nat.mul_pos one one)
  apply Nat.lt_of_mul_lt_mul_left (a := 0x20000000000000)
  calc 0x20000000000000 * (x.quotient.1 * y.quotient.1 * unit)
      = 0x20000000000000 * x.quotient.1 * (y.quotient.1 * unit) := by
        rw [Nat.mul_assoc, Nat.mul_assoc]
    _ ≤ roundedUp n * unit * (y.quotient.1 * unit) :=
        Nat.mul_le_mul_right _ near
    _ = roundedUp n * y.quotient.1 * (unit * unit) := by
        rw [Nat.mul_mul_mul_comm]
    _ < 0x20000000000000 * bound * (unit * unit) :=
        Nat.mul_lt_mul_of_pos_right below (Nat.mul_pos one one)
    _ = 0x20000000000000 * (bound * (unit * unit)) := Nat.mul_assoc ..

theorem roundedUp_le {n m : Nat} (positive : 0 < n) (le : n ≤ m) :
    roundedUp n ≤ roundedUp m :=
  Nat.add_le_add (Nat.mul_le_mul_left _ le)
    (Nat.pow_le_pow_right (by decide) (log2_le_log2 positive le))

theorem roundedUp_le_double {n : Nat} (positive : 0 < n) :
    roundedUp n ≤ 0x20000000000000 * (2 * n) := by
  have top := Nat.log2_self_le (Nat.ne_of_gt positive)
  rw [roundedUp, Nat.pow_eq]
  omega

/-- Decimals far from the largest number are within the format. -/
theorem roundedUp_mul_lt {n m : Nat} (positive : 0 < n) (others : 0 < m) {y : Binary64}
    (rounded : ofNat? m = some y) (far : 4 * (n * m * unit) < bound) :
    roundedUp n * y.quotient.1 < 0x20000000000000 * bound := by
  have near : y.quotient.1 ≤ 2 * (m * unit) := by
    have twice := Nat.le_trans (quotient_ofNat? others rounded).2
      (Nat.mul_le_mul_right unit (roundedUp_le_double others))
    rw [Nat.mul_assoc, Nat.mul_assoc] at twice
    exact Nat.le_of_mul_le_mul_left twice (by decide)
  calc roundedUp n * y.quotient.1
      ≤ 0x20000000000000 * (2 * n) * (2 * (m * unit)) :=
        Nat.mul_le_mul (roundedUp_le_double positive) near
    _ = 0x20000000000000 * (4 * (n * m * unit)) := by
        rw [Nat.mul_assoc, Nat.mul_mul_mul_comm, Nat.mul_assoc n]
    _ < 0x20000000000000 * bound := Nat.mul_lt_mul_of_pos_left far (by decide)

/-- A decimal that is written of a number below the largest one is within the format. -/
theorem isSome_ofDecimal?_ofNat {n e : Nat} (positive : 0 < n) (short : n ≤ Nat.pow 10 18)
    (below : n * Nat.pow 10 e ≤ writtenBound) : (ofDecimal? n (.ofNat e)).isSome = true := by
  have small : e ≤ 308 := by
    obtain ⟨-, -, power, -⟩ := limits
    apply Nat.le_of_not_lt
    intro large
    have tens : Nat.pow 10 309 ≤ Nat.pow 10 e := by
      apply Nat.pow_le_pow_right (by decide)
      exact large
    have least := Nat.le_trans (Nat.le_mul_of_pos_left _ positive) below
    exact Nat.not_le_of_lt power (Nat.le_trans tens least)
  have highest : n ≤ Nat.pow 10 308 := by
    apply Nat.le_trans short
    apply Nat.pow_le_pow_right (by decide)
    decide
  obtain ⟨x, rounded⟩ := Option.isSome_iff_exists.mp (isSome_ofNat? highest)
  obtain ⟨p, power⟩ := Option.isSome_iff_exists.mp (isSome_powerOfTen? small)
  rw [ofDecimal?_ofNat n small, rounded, Option.bind_some, power, Option.bind_some]
  apply isSome_mul? positive rounded
  by_cases low : e < 290
  · -- far below the largest number, rounding up is bounded by doubling
    obtain ⟨-, far, -⟩ := limits
    apply roundedUp_mul_lt positive (Nat.pow_pos (by decide)) power
    refine Nat.lt_of_le_of_lt (Nat.mul_le_mul_left 4 (Nat.mul_le_mul_right unit ?_)) far
    apply Nat.mul_le_mul short
    apply Nat.pow_le_pow_right (by decide)
    omega
  · -- here the power of ten is rounded as the table has it
    obtain ⟨d, rfl⟩ := Nat.exists_eq_add_of_le (Nat.le_of_not_lt low)
    have table := fitsAt_of_high d (by omega)
    rw [fitsAt, power, Option.any_some, decide_eq_true_eq] at table
    have within : n ≤ greatest (290 + d) :=
      Nat.le_min.mpr ⟨short, (Nat.le_div_iff_mul_le (Nat.pow_pos (by decide))).mpr below⟩
    exact Nat.lt_of_le_of_lt (Nat.mul_le_mul_right _ (roundedUp_le positive within)) table

end SearchOperator.Binary64
