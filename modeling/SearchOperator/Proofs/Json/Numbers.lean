import SearchOperator.Json.Text
import SearchOperator.Proofs.Decimal.Shortest
import SearchOperator.Proofs.Json.Strings

/-!
# Numbers read back

An integer that was written is read back as itself, and a float as a float: its digits fit a word,
and the decimal they stand for is within the format. Reading stops where the number ends.
-/

namespace SearchOperator.Json

namespace Reader

/-! ## Digits -/

def EndsDigits (rest : Bytes) : Prop := ∀ b, rest.head? = some b → isDigit b = false

/-- What may follow a number: neither a digit, nor a point, nor an exponent. -/
def Stops (rest : Bytes) : Prop :=
  ∀ b, rest.head? = some b → isDigit b = false ∧ b ≠ 0x2E ∧ isExponentMark b = false

theorem stops_nil : Stops [] := by
  intro b next
  cases next

theorem stops_cons {b : UInt8} {rest : Bytes}
    (stop : isDigit b = false ∧ b ≠ 0x2E ∧ isExponentMark b = false) : Stops (b :: rest) := by
  intro c next
  cases next
  exact stop

theorem Stops.endsDigits {rest : Bytes} (stop : Stops rest) : EndsDigits rest :=
  fun b next => (stop b next).1

theorem endsDigits_cons {b : UInt8} (other : isDigit b = false) (rest : Bytes) :
    EndsDigits (b :: rest) := by
  intro c next
  cases next
  exact other

/-- The byte of a digit. -/
theorem utf8EncodeChar_of_isDigit {c : Char} (digit : c.isDigit = true) :
    ∃ b, String.utf8EncodeChar c = [b] ∧ isDigit b = true ∧ digitValue b = c.toNat - 48 := by
  have bounds : 48 ≤ c.toNat ∧ c.toNat ≤ 57 := Char.isDigit_iff_toNat.mp digit
  have value : (UInt8.ofNat c.toNat).toNat = c.toNat := by
    rw [UInt8.toNat_ofNat']
    omega
  refine ⟨UInt8.ofNat c.toNat, utf8EncodeChar_of_ascii (by omega), ?_, ?_⟩
  · have low : (0x30 : UInt8) ≤ UInt8.ofNat c.toNat := by
      rw [UInt8.le_iff_toNat_le, value]
      exact bounds.1
    have high : UInt8.ofNat c.toNat ≤ 0x39 := by
      rw [UInt8.le_iff_toNat_le, value]
      exact bounds.2
    simp [isDigit, low, high]
  · rw [digitValue, value]

theorem length_utf8_digits {cs : List Char} (all : ∀ c ∈ cs, c.isDigit = true) :
    (utf8 cs).length = cs.length := by
  induction cs with
  | nil => rfl
  | cons c others ih =>
      obtain ⟨b, coded, -⟩ := utf8EncodeChar_of_isDigit (all c List.mem_cons_self)
      have inside := ih fun d member => all d (List.mem_cons_of_mem c member)
      rw [utf8_cons, coded, List.length_append, inside, List.length_cons, Nat.add_comm]
      rfl

/-- Digits of a number below a bound are all taken. -/
theorem taken_utf8 (take : Nat → Bytes → Nat × Bytes) (bound : Nat)
    (ended : ∀ n, take n [] = (n, []))
    (continued : ∀ n b rest, take n (b :: rest) =
      if isDigit b && 10 * n + digitValue b < bound then take (10 * n + digitValue b) rest
      else (n, b :: rest))
    {cs : List Char} (all : ∀ c ∈ cs, c.isDigit = true) {rest : Bytes} (stop : EndsDigits rest)
    {n : Nat} (small : Nat.ofDigitChars 10 cs n < bound) :
    take n (utf8 cs ++ rest) = (Nat.ofDigitChars 10 cs n, rest) := by
  induction cs generalizing n with
  | nil =>
      rw [Nat.ofDigitChars_nil, utf8_nil, List.nil_append]
      cases rest with
      | nil => exact ended n
      | cons b after => simp [continued, stop b rfl]
  | cons c others ih =>
      have inside : ∀ d ∈ others, d.isDigit = true :=
        fun d member => all d (List.mem_cons_of_mem c member)
      obtain ⟨b, coded, digit, value⟩ := utf8EncodeChar_of_isDigit (all c List.mem_cons_self)
      rw [Nat.ofDigitChars_cons] at small ⊢
      have next : 10 * n + digitValue b = 10 * n + (c.toNat - '0'.toNat) := by
        rw [value]
        rfl
      have fits : 10 * n + (c.toNat - '0'.toNat) < bound := by
        have scale : 0 < 10 ^ others.length := Nat.pow_pos (by decide)
        have grows := Nat.le_mul_of_pos_left (10 * n + (c.toNat - '0'.toNat)) scale
        rw [Nat.ofDigitChars_eq_ofDigitChars_zero] at small
        omega
      rw [utf8_cons, coded, List.cons_append, List.nil_append, List.cons_append, continued]
      simp only [digit, next, decide_eq_true fits, Bool.and_true, if_true]
      exact ih inside small

section

variable {cs : List Char} (all : ∀ c ∈ cs, c.isDigit = true) {rest : Bytes} {n : Nat}

include all

theorem takeDigits_utf8 (stop : EndsDigits rest)
    (small : Nat.ofDigitChars 10 cs n < 0x10000000000000000) :
    takeDigits n (utf8 cs ++ rest) = (Nat.ofDigitChars 10 cs n, rest) :=
  taken_utf8 takeDigits 0x10000000000000000 (fun _ => rfl) (fun _ _ _ => rfl) all stop small

theorem takeExponent_utf8 (stop : EndsDigits rest)
    (small : Nat.ofDigitChars 10 cs n < 0x80000000) :
    takeExponent n (utf8 cs ++ rest) = (Nat.ofDigitChars 10 cs n, rest) :=
  taken_utf8 takeExponent 0x80000000 (fun _ => rfl) (fun _ _ _ => rfl) all stop small

end

end Reader

/-- The digits of a positive number do not begin with a zero. -/
theorem toDigits_of_pos {n : Nat} (positive : 0 < n) :
    ∃ c others, Nat.toDigits 10 n = c :: others ∧ c ≠ '0' := by
  induction n using Nat.strongRecOn with
  | ind n ih =>
      by_cases small : n < 10
      · refine ⟨n.digitChar, [], Nat.toDigits_of_lt_base small, ?_⟩
        have cases : ∀ m < 10, 0 < m → m.digitChar ≠ '0' := by decide
        exact cases n small positive
      · obtain ⟨c, others, digits, nonzero⟩ := ih (n / 10) (by omega) (by omega)
        refine ⟨c, others ++ [Nat.digitChar (n % 10)], ?_, nonzero⟩
        rw [Nat.toDigits_of_base_le (by decide) (by omega), digits]
        rfl

/-- The first digit of a number, and the value of the others after it. -/
theorem toDigits_cons (n : Nat) : ∃ c others, Nat.toDigits 10 n = c :: others ∧
    c.isDigit = true ∧ (∀ d ∈ others, d.isDigit = true) ∧
    Nat.ofDigitChars 10 others (c.toNat - 48) = n := by
  cases digits : Nat.toDigits 10 n with
  | nil => exact absurd digits Nat.toDigits_ne_nil
  | cons c others =>
      have all : ∀ d ∈ c :: others, d.isDigit = true := fun d member =>
        Nat.isDigit_of_mem_toDigits (by decide) (by decide) (digits ▸ member)
      have whole : Nat.ofDigitChars 10 (c :: others) 0 = n := digits ▸ Nat.ofDigitChars_ten_toDigits
      rw [Nat.ofDigitChars_cons, Nat.mul_zero, Nat.zero_add] at whole
      exact ⟨c, others, rfl, all c List.mem_cons_self,
        fun d member => all d (List.mem_cons_of_mem c member), whole⟩

namespace Reader

/-! ## The parts of a number -/

/-- A decimal within the format is read as a float. -/
theorem scaled_run (negative : Bool) {significand : Nat} {exponent : Int}
    (within : (Binary64.ofDecimal? significand exponent).isSome = true) (rest : Bytes) :
    ∃ x, scaled negative significand exponent rest = (.ok (.float x), rest) := by
  obtain ⟨x, read⟩ := Option.isSome_iff_exists.mp within
  refine ⟨if negative then x.neg else x, ?_⟩
  rw [scaled, read]
  rfl

theorem withExponent_run (negative : Bool) (significand : Nat) (exponent : Int) (up : Bool)
    {n : Nat} (small : n < 0x80000000) {rest : Bytes} (stop : EndsDigits rest) :
    withExponent negative significand exponent
        (0x65 :: (if up then 0x2B else 0x2D) :: (utf8 (Nat.toDigits 10 n) ++ rest)) =
      scaled negative significand (clampExponent (if up then exponent + n else exponent - n))
        rest := by
  obtain ⟨c, others, digits, first, all, value⟩ := toDigits_cons n
  obtain ⟨b, coded, digit, read⟩ := utf8EncodeChar_of_isDigit first
  have taken := takeExponent_utf8 all stop (n := digitValue b) (by rw [read, value]; exact small)
  rw [read, value] at taken
  rw [digits, utf8_cons, coded, withExponent]
  -- the two signs differ in the direction of the scale only
  have minus : ¬ (0x2D : UInt8) = 0x2B := by decide
  cases up
  all_goals
    simp only [bind_run, skip_run, follow_ok, List.drop_succ_cons, List.drop_zero, peek?_run,
      List.head?_cons, List.cons_append, List.nil_append, if_true, if_neg minus,
      Bool.false_eq_true, if_false, digit, Bool.not_true, get_run, read, taken]
    cases rest with
    | nil => simp only [bind_run, set_run, follow_ok]
    | cons d after =>
        simp only [stop d rfl, Bool.false_eq_true, if_false, bind_run, set_run, follow_ok]

theorem withOptionalExponent_of_stops (negative : Bool) (significand : Nat) (exponent : Int)
    {rest : Bytes} (stop : Stops rest) :
    withOptionalExponent negative significand exponent rest =
      scaled negative significand exponent rest := by
  rw [withOptionalExponent, bind_run, peek?_run, follow_ok]
  cases rest with
  | nil => rfl
  | cons b after => simp only [List.head?_cons, (stop b rfl).2.2, Bool.false_eq_true, if_false]

theorem withOptionalExponent_of_mark (negative : Bool) (significand : Nat) (exponent : Int)
    (rest : Bytes) :
    withOptionalExponent negative significand exponent (0x65 :: rest) =
      withExponent negative significand exponent (0x65 :: rest) := by
  rw [withOptionalExponent, bind_run, peek?_run, follow_ok, List.head?_cons]
  rfl

theorem withFraction_run (negative : Bool) {n : Nat} (exponent : Int) {cs : List Char}
    (some : cs ≠ []) (all : ∀ c ∈ cs, c.isDigit = true) {rest : Bytes} (stop : EndsDigits rest)
    (small : Nat.ofDigitChars 10 cs n < 0x10000000000000000) :
    withFraction negative n exponent (0x2E :: (utf8 cs ++ rest)) =
      withOptionalExponent negative (Nat.ofDigitChars 10 cs n) (exponent - cs.length) rest := by
  have taken : (utf8 cs ++ rest).length - rest.length = cs.length := by
    rw [List.length_append, length_utf8_digits all, Nat.add_sub_cancel]
  have moved : ¬ (cs.length : Int) = 0 := by
    rw [Int.natCast_eq_zero, List.length_eq_zero_iff]
    exact some
  rw [withFraction]
  simp only [bind_run, skip_run, follow_ok, List.drop_succ_cons, List.drop_zero, get_run,
    takeDigits_utf8 all stop small, taken, set_run]
  cases rest with
  | nil => simp only [if_neg moved]
  | cons d after => simp only [stop d rfl, Bool.false_eq_true, if_neg moved, if_false]

theorem afterWhole_of_point (negative : Bool) (n : Nat) (rest : Bytes) :
    afterWhole negative n 0 (0x2E :: rest) = withFraction negative n 0 (0x2E :: rest) := by
  rw [afterWhole, bind_run, peek?_run, follow_ok, List.head?_cons]
  simp only [if_true, Int.natCast_zero]

theorem afterWhole_of_mark (negative : Bool) (n : Nat) (rest : Bytes) :
    afterWhole negative n 0 (0x65 :: rest) = withExponent negative n 0 (0x65 :: rest) := by
  have point : ¬ (0x65 : UInt8) = 0x2E := by decide
  have mark : isExponentMark 0x65 = true := rfl
  rw [afterWhole, bind_run, peek?_run, follow_ok, List.head?_cons]
  simp only [if_neg point, mark, if_true, Int.natCast_zero]

theorem afterWhole_of_stops (negative : Bool) (n : Nat) {rest : Bytes} (stop : Stops rest) :
    afterWhole negative n 0 rest = wholeNumber negative n rest := by
  rw [afterWhole, bind_run, peek?_run, follow_ok]
  cases rest with
  | nil => simp only [List.head?_nil, if_true]
  | cons b after =>
      obtain ⟨-, point, mark⟩ := stop b rfl
      simp only [List.head?_cons, if_neg point, mark, Bool.false_eq_true, if_false, if_true]

theorem numberAfterSign_zero (negative : Bool) {rest : Bytes} (stop : EndsDigits rest) :
    numberAfterSign negative (0x30 :: rest) = afterWhole negative 0 0 rest := by
  rw [numberAfterSign, bind_run, peek?_run, follow_ok, List.head?_cons]
  simp only [bind_run, skip_run, follow_ok, List.drop_succ_cons, List.drop_zero, if_true, peek?_run]
  cases rest with
  | nil => simp only [List.head?_nil]
  | cons b after => simp only [List.head?_cons, stop b rfl, Bool.false_eq_true, if_false]

/-- Digits that do not begin with a zero and that a word holds are all taken. -/
theorem numberAfterSign_run (negative : Bool) {c : Char} {others : List Char} (nonzero : c ≠ '0')
    (all : ∀ d ∈ c :: others, d.isDigit = true)
    (small : Nat.ofDigitChars 10 (c :: others) 0 < 0x10000000000000000) {rest : Bytes}
    (stop : EndsDigits rest) :
    numberAfterSign negative (utf8 (c :: others) ++ rest) =
      afterWhole negative (Nat.ofDigitChars 10 (c :: others) 0) 0 rest := by
  obtain ⟨b, coded, digit, value⟩ := utf8EncodeChar_of_isDigit (all c List.mem_cons_self)
  have first : Nat.ofDigitChars 10 (c :: others) 0 = Nat.ofDigitChars 10 others (digitValue b) := by
    rw [Nat.ofDigitChars_cons, Nat.mul_zero, Nat.zero_add, value]
    rfl
  have notZero : b ≠ 0x30 := by
    rintro rfl
    have bounds : 48 ≤ c.toNat := (Char.isDigit_iff_toNat.mp (all c List.mem_cons_self)).1
    have same : c.toNat = 48 := by
      have none : digitValue 0x30 = 0 := rfl
      omega
    exact nonzero (Char.toNat_inj.mp same)
  have kept : rest.dropWhile isDigit = rest := by
    cases rest with
    | nil => rfl
    | cons d after => exact List.dropWhile_cons_of_neg (by simp [stop d rfl])
  rw [first] at small ⊢
  have taken := takeDigits_utf8 (fun d member => all d (List.mem_cons_of_mem c member)) stop small
  rw [utf8_cons, coded, List.cons_append, List.nil_append, List.cons_append, numberAfterSign]
  simp only [bind_run, peek?_run, List.head?_cons, skip_run, follow_ok, List.drop_succ_cons,
    List.drop_zero, if_neg notZero, digit, if_true, get_run, taken, kept, set_run, Nat.sub_self]

theorem isDigit_of_mem_digits {n : Nat} {c : Char} (member : c ∈ Nat.toDigits 10 n) :
    c.isDigit = true :=
  Nat.isDigit_of_mem_toDigits (by decide) (by decide) member

/-- The digits of a number below 2^64 are read as a whole number. -/
theorem numberAfterSign_toDigits (negative : Bool) {n : Nat} (small : n < 0x10000000000000000)
    {rest : Bytes} (stop : Stops rest) :
    numberAfterSign negative (utf8 (Nat.toDigits 10 n) ++ rest) = wholeNumber negative n rest := by
  rw [← afterWhole_of_stops negative n stop]
  rcases Nat.eq_zero_or_pos n with rfl | positive
  · exact numberAfterSign_zero negative stop.endsDigits
  · obtain ⟨c, others, digits, nonzero⟩ := toDigits_of_pos positive
    have whole : Nat.ofDigitChars 10 (c :: others) 0 = n := digits ▸ Nat.ofDigitChars_ten_toDigits
    have run := numberAfterSign_run negative nonzero
      (fun d member => isDigit_of_mem_digits (digits ▸ member)) (whole ▸ small) stop.endsDigits
    rw [whole] at run
    rw [digits]
    exact run

end Reader

theorem ofInt?_val (n : WordInt) : WordInt.ofInt? n.val = some n := by
  rw [WordInt.ofInt?, dif_pos ⟨n.low, n.high⟩]

/-- The digits of an integer after its sign are read as the integer. -/
theorem Reader.wholeNumber_natAbs (n : WordInt) (rest : Bytes) :
    wholeNumber (decide (n.val < 0)) n.val.natAbs rest = (.ok (.integer n), rest) := by
  have low := n.low
  have read := ofInt?_val n
  rw [wholeNumber]
  by_cases negative : n.val < 0
  · have nonzero : (n.val.natAbs == 0) = false := beq_eq_false_iff_ne.mpr (by omega)
    have within : ¬ 0x8000000000000000 < n.val.natAbs := by omega
    have value : -(n.val.natAbs : Int) = n.val := by omega
    simp only [negative, decide_true, nonzero, within, decide_false, Bool.or_self, Bool.and_false,
      Bool.false_eq_true, if_false, if_true, value, read, pure_run]
  · have value : (n.val.natAbs : Int) = n.val := by omega
    simp only [negative, decide_false, Bool.false_and, Bool.false_eq_true, if_false, value, read,
      pure_run]

theorem utf8_toString (n : Int) : utf8 (toString n).toList =
    if n < 0 then 0x2D :: utf8 (Nat.toDigits 10 n.natAbs) else utf8 (Nat.toDigits 10 n.natAbs) := by
  have minus : utf8 "-".toList = [0x2D] := rfl
  rw [Int.toString_eq_repr, Int.repr_eq_if]
  by_cases negative : n < 0
  · have value : (-n).toNat = n.natAbs := by omega
    rw [if_neg (Int.not_le.mpr negative), if_pos negative, String.toList_append, utf8_append, minus,
      Nat.toList_repr, value]
    rfl
  · have value : n.toNat = n.natAbs := by omega
    rw [if_pos (Int.not_lt.mp negative), if_neg negative, Nat.toList_repr, value]

/-! ## The texts of floats -/

open Reader

/-- Characters that open with a digit and are read as a decimal within the format. -/
def IsFloatText (cs : List Char) : Prop :=
  (∃ c others, cs = c :: others ∧ c.isDigit = true) ∧
    ∃ significand exponent, (Binary64.ofDecimal? significand exponent).isSome = true ∧
      ∀ (negative : Bool) (rest : Bytes), Stops rest →
        numberAfterSign negative (utf8 cs ++ rest) = scaled negative significand exponent rest

theorem utf8_point (cs : List Char) (rest : Bytes) :
    utf8 ('.' :: cs) ++ rest = 0x2E :: (utf8 cs ++ rest) := by
  rw [utf8_cons]
  rfl

theorem isSome_ofDecimal?_fraction {n k : Nat} (small : n < 0x10000000000000000) (some : k ≠ 0) :
    (Binary64.ofDecimal? n (0 - k)).isSome = true := by
  obtain ⟨j, rfl⟩ := Nat.exists_eq_succ_of_ne_zero some
  have exponent : (0 : Int) - (j + 1 : Nat) = .negSucc j := by omega
  rw [exponent]
  apply Binary64.isSome_ofDecimal?_negSucc
  obtain ⟨-, -, -, -, -, words⟩ := Binary64.limits
  exact Nat.le_trans (Nat.le_of_lt small) words

section

variable {fraction : List Char} (some : fraction ≠ [])

include some

/-- A whole part and a fraction that together fit a word. -/
theorem isFloatText_point {c : Char} {others : List Char} (nonzero : c ≠ '0')
    (all : ∀ d ∈ (c :: others) ++ fraction, d.isDigit = true)
    (small : Nat.ofDigitChars 10 ((c :: others) ++ fraction) 0 < 0x10000000000000000) :
    IsFloatText ((c :: others) ++ '.' :: fraction) := by
  have whole : ∀ d ∈ c :: others, d.isDigit = true :=
    fun d member => all d (List.mem_append_left _ member)
  have after : ∀ d ∈ fraction, d.isDigit = true :=
    fun d member => all d (List.mem_append_right _ member)
  rw [Nat.ofDigitChars_append] at small
  have less : Nat.ofDigitChars 10 (c :: others) 0 < 0x10000000000000000 := by
    have scale : 0 < 10 ^ fraction.length := Nat.pow_pos (by decide)
    have grows := Nat.le_mul_of_pos_left (Nat.ofDigitChars 10 (c :: others) 0) scale
    rw [Nat.ofDigitChars_eq_ofDigitChars_zero] at small
    omega
  refine ⟨⟨c, _, rfl, whole c List.mem_cons_self⟩, _, _,
    isSome_ofDecimal?_fraction small (fun none => some (List.length_eq_zero_iff.mp none)), ?_⟩
  intro negative rest stop
  rw [utf8_append, List.append_assoc, utf8_point,
    numberAfterSign_run negative nonzero whole less (endsDigits_cons rfl _), afterWhole_of_point,
    withFraction_run negative 0 some after stop.endsDigits small,
    withOptionalExponent_of_stops _ _ _ stop]

/-- A fraction alone that fits a word. -/
theorem isFloatText_fraction (all : ∀ d ∈ fraction, d.isDigit = true)
    (small : Nat.ofDigitChars 10 fraction 0 < 0x10000000000000000) :
    IsFloatText ('0' :: '.' :: fraction) := by
  refine ⟨⟨'0', _, rfl, rfl⟩, _, _,
    isSome_ofDecimal?_fraction small (fun none => some (List.length_eq_zero_iff.mp none)), ?_⟩
  intro negative rest stop
  have zero : utf8 ('0' :: '.' :: fraction) ++ rest = 0x30 :: 0x2E :: (utf8 fraction ++ rest) := by
    rw [utf8_cons, List.append_assoc, utf8_point]
    rfl
  rw [zero, numberAfterSign_zero negative (endsDigits_cons rfl _), afterWhole_of_point,
    withFraction_run negative 0 some all stop.endsDigits small,
    withOptionalExponent_of_stops _ _ _ stop]

end

/-- Digits with a point after the first one, if there are others. -/
def mantissa : List Char → List Char
  | first :: second :: rest => first :: '.' :: second :: rest
  | digits => digits

theorem utf8_exponent (up : Bool) (n : Nat) (rest : Bytes) :
    utf8 ('e' :: (if up then '+' else '-') :: Nat.toDigits 10 n) ++ rest =
      0x65 :: (if up then 0x2B else 0x2D) :: (utf8 (Nat.toDigits 10 n) ++ rest) := by
  rw [utf8_cons, utf8_cons]
  cases up <;> rfl

theorem withExponent_utf8 (negative : Bool) (significand : Nat) {start exponent : Int} {up : Bool}
    {n : Nat} (few : n < 0x80000000) (same : start + (if up then (n : Int) else -n) = exponent)
    (bounds : exponent.natAbs ≤ 1000) {rest : Bytes} (stop : Stops rest) :
    withExponent negative significand start
        (0x65 :: (if up then 0x2B else 0x2D) :: (utf8 (Nat.toDigits 10 n) ++ rest)) =
      scaled negative significand exponent rest := by
  have sum : (if up then start + n else start - n) = exponent := by
    cases up
    · exact same
    · exact same
  have clamped : clampExponent exponent = exponent := by
    rw [clampExponent]
    omega
  rw [withExponent_run negative significand start up few stop.endsDigits, sum, clamped]

/-- Digits with an exponent. -/
theorem isFloatText_scientific {m : Nat} {exponent : Int} (positive : 0 < m)
    (small : m < 0x10000000000000000) (bounds : exponent.natAbs ≤ 1000)
    (within : (Binary64.ofDecimal? m exponent).isSome = true) {up : Bool} {n : Nat}
    (few : n < 0x80000000)
    (same : (if up then (n : Int) else -n) = exponent + (Nat.toDigits 10 m).length - 1) :
    IsFloatText (mantissa (Nat.toDigits 10 m) ++
      'e' :: (if up then '+' else '-') :: Nat.toDigits 10 n) := by
  obtain ⟨c, others, digits, nonzero⟩ := toDigits_of_pos positive
  have all : ∀ d ∈ c :: others, d.isDigit = true :=
    fun d member => isDigit_of_mem_digits (digits ▸ member)
  have value : Nat.ofDigitChars 10 (c :: others) 0 = m := digits ▸ Nat.ofDigitChars_ten_toDigits
  rw [digits, List.length_cons] at same
  rw [digits]
  cases others with
  | nil =>
      refine ⟨⟨c, _, rfl, all c List.mem_cons_self⟩, m, exponent, within, ?_⟩
      intro negative rest stop
      have read := numberAfterSign_run negative nonzero all (value ▸ small)
        (endsDigits_cons (b := 0x65) rfl
          ((if up then 0x2B else 0x2D) :: (utf8 (Nat.toDigits 10 n) ++ rest)))
      rw [mantissa, utf8_append, List.append_assoc, utf8_exponent, read, value, afterWhole_of_mark]
      · apply withExponent_utf8 negative m few _ bounds stop
        rw [same, List.length_nil]
        omega
      · rintro first second rest ⟨⟩
  | cons d rest =>
      have one : ∀ e ∈ [c], e.isDigit = true :=
        List.forall_mem_singleton.mpr (all c List.mem_cons_self)
      have after : ∀ e ∈ d :: rest, e.isDigit = true :=
        fun e member => all e (List.mem_cons_of_mem c member)
      have first : Nat.ofDigitChars 10 [c] 0 < 0x10000000000000000 := by
        have bound : c.toNat ≤ 57 := (Char.isDigit_iff_toNat.mp (all c List.mem_cons_self)).2
        rw [Nat.ofDigitChars_cons, Nat.ofDigitChars_nil]
        omega
      have whole : Nat.ofDigitChars 10 (d :: rest) (Nat.ofDigitChars 10 [c] 0) = m := by
        rw [← Nat.ofDigitChars_append]
        exact value
      refine ⟨⟨c, _, rfl, all c List.mem_cons_self⟩, m, exponent, within, ?_⟩
      intro negative more stop
      have text : utf8 (mantissa (c :: d :: rest) ++
          'e' :: (if up then '+' else '-') :: Nat.toDigits 10 n) ++ more =
            utf8 [c] ++ 0x2E :: (utf8 (d :: rest) ++
              0x65 :: (if up then 0x2B else 0x2D) :: (utf8 (Nat.toDigits 10 n) ++ more)) := by
        rw [← utf8_exponent, ← utf8_point, ← List.append_assoc, ← List.append_assoc, ← utf8_append,
          ← utf8_append]
        rfl
      rw [text, numberAfterSign_run negative nonzero one first (endsDigits_cons rfl _),
        afterWhole_of_point, withFraction_run negative 0 (List.cons_ne_nil d rest) after
          (endsDigits_cons rfl _) (whole ▸ small), whole, withOptionalExponent_of_mark]
      apply withExponent_utf8 negative m few _ bounds stop
      rw [same, List.length_cons]
      omega

/-- Digits before a decimal point that need no exponent, with zeros up to the point. -/
theorem isFloatText_whole {m z : Nat} (positive : 0 < m)
    (short : (Nat.toDigits 10 m).length + z ≤ 16) :
    IsFloatText (Nat.toDigits 10 m ++ List.replicate z '0' ++ '.' :: ['0']) := by
  obtain ⟨c, others, digits, nonzero⟩ := toDigits_of_pos positive
  obtain ⟨k, length, -, below⟩ := Binary64.length_toDigits positive
  have all : ∀ d ∈ Nat.toDigits 10 m ++ List.replicate z '0' ++ ['0'], d.isDigit = true := by
    intro d member
    simp only [List.mem_append, List.mem_replicate, List.mem_singleton] at member
    rcases member with (member | ⟨-, rfl⟩) | rfl
    · exact isDigit_of_mem_digits member
    · rfl
    · rfl
  have small : Nat.ofDigitChars 10 (Nat.toDigits 10 m ++ List.replicate z '0' ++ ['0']) 0 <
      0x10000000000000000 := by
    have value : Nat.ofDigitChars 10 (Nat.toDigits 10 m ++ List.replicate z '0' ++ ['0']) 0 =
        10 * (10 ^ z * m) := by
      rw [Nat.ofDigitChars_append, Nat.ofDigitChars_append, Nat.ofDigitChars_ten_toDigits,
        Nat.ofDigitChars_replicate_zero, Nat.ofDigitChars_cons, Nat.ofDigitChars_nil]
      rfl
    have scaled : 10 ^ z * m < 10 ^ z * 10 ^ (k + 1) :=
      Nat.mul_lt_mul_of_pos_left below (Nat.pow_pos (by decide))
    have bound : 10 ^ z * 10 ^ (k + 1) ≤ 10 ^ 16 := by
      rw [← Nat.pow_add]
      exact Nat.pow_le_pow_right (by decide) (by omega)
    rw [value]
    omega
  rw [digits] at all small ⊢
  exact @isFloatText_point ['0'] (by simp) c (others ++ List.replicate z '0') nonzero all small

/-- Digits with the decimal point among them. -/
theorem isFloatText_split {m k : Nat} (positive : 0 < m) (small : m < 0x10000000000000000)
    (before : 0 < k) (within : k < (Nat.toDigits 10 m).length) :
    IsFloatText ((Nat.toDigits 10 m).take k ++ '.' :: (Nat.toDigits 10 m).drop k) := by
  obtain ⟨c, others, digits, nonzero⟩ := toDigits_of_pos positive
  obtain ⟨j, rfl⟩ := Nat.exists_eq_succ_of_ne_zero (Nat.ne_of_gt before)
  have parts : (c :: others.take j) ++ others.drop j = Nat.toDigits 10 m := by
    rw [List.cons_append, List.take_append_drop, digits]
  have some : others.drop j ≠ [] := by
    rw [digits, List.length_cons] at within
    intro none
    have := List.drop_eq_nil_iff.mp none
    omega
  have read := isFloatText_point some nonzero
    (fun d member => isDigit_of_mem_digits (parts ▸ member))
    (by rw [parts, Nat.ofDigitChars_ten_toDigits]; exact small)
  rw [digits]
  exact read

/-- Digits after a decimal point and zeros. -/
theorem isFloatText_small {m : Nat} (small : m < 0x10000000000000000) (z : Nat) :
    IsFloatText ('0' :: '.' :: (List.replicate z '0' ++ Nat.toDigits 10 m)) := by
  apply isFloatText_fraction
  · simp [Nat.toDigits_ne_nil]
  · intro d member
    rcases List.mem_append.mp member with member | member
    · rw [List.eq_of_mem_replicate member]
      rfl
    · exact isDigit_of_mem_digits member
  · rw [Nat.ofDigitChars_append, Nat.ofDigitChars_replicate_zero, Nat.mul_zero,
      Nat.ofDigitChars_ten_toDigits]
    exact small

theorem toList_mantissa (digits : List Char) :
    (match digits with
      | first :: second :: rest => String.ofList (first :: '.' :: second :: rest)
      | _ => String.ofList digits : String).toList = mantissa digits := by
  unfold mantissa
  split
  · exact String.toList_ofList
  · exact String.toList_ofList

/-- The text of digits is that of a float if their decimal is within the format. -/
theorem isFloatText_text {d : Binary64.Digits} {m : Nat} {exponent : Int} (positive : 0 < m)
    (short : m ≤ Nat.pow 10 18) (digits : d.digits = Nat.toDigits 10 m)
    (point : d.point = exponent + (Nat.toDigits 10 m).length) (bounds : exponent.natAbs ≤ 1000)
    (within : (Binary64.ofDecimal? m exponent).isSome = true) : IsFloatText d.text.toList := by
  have small : m < 0x10000000000000000 := Nat.lt_of_le_of_lt short (by decide)
  have count : (Nat.toDigits 10 m).length ≤ 19 :=
    (Nat.length_toDigits_le_iff (by decide) (by decide)).mpr (Nat.lt_of_le_of_lt short (by decide))
  unfold Binary64.Digits.text
  extract_lets length text power sign fraction
  have lengths : length = (Nat.toDigits 10 m).length := by rw [← digits]
  have textChars : text.toList = Nat.toDigits 10 m := by rw [← digits, String.toList_ofList]
  split
  · rename_i near
    rw [Bool.and_eq_true, decide_eq_true_eq, decide_eq_true_eq] at near
    split
    · have written : (text ++ String.ofList (List.replicate (d.point - length).toNat '0') ++
          ".0").toList = Nat.toDigits 10 m ++ List.replicate (d.point - length).toNat '0' ++
            '.' :: ['0'] := by
        simp [textChars]
      rw [written]
      exact isFloatText_whole positive (by omega)
    · have written : (String.ofList (d.digits.take d.point.toNat) ++ "." ++
          String.ofList (d.digits.drop d.point.toNat)).toList =
            (Nat.toDigits 10 m).take d.point.toNat ++ '.' ::
              (Nat.toDigits 10 m).drop d.point.toNat := by
        simp [digits]
      rw [written]
      exact isFloatText_split positive small (by omega) (by omega)
  · split
    · have written : ("0." ++ String.ofList (List.replicate (-d.point).toNat '0') ++ text).toList =
          '0' :: '.' :: (List.replicate (-d.point).toNat '0' ++ Nat.toDigits 10 m) := by
        simp [textChars]
      rw [written]
      exact isFloatText_small small _
    · have mantissaChars : fraction.toList = mantissa (Nat.toDigits 10 m) := by
        rw [← digits]
        exact toList_mantissa d.digits
      have signChars : sign.toList = ['e', if 0 ≤ power then '+' else '-'] := by
        by_cases negative : power < 0
        · simp only [sign, if_pos negative, if_neg (Int.not_le.mpr negative)]
          rfl
        · simp only [sign, if_neg negative, if_pos (Int.not_lt.mp negative)]
          rfl
      have written : (fraction ++ sign ++ toString power.natAbs).toList =
          mantissa (Nat.toDigits 10 m) ++ 'e' :: (if decide (0 ≤ power) = true then '+' else '-') ::
            Nat.toDigits 10 power.natAbs := by
        simp [mantissaChars, signChars]
      have exponent_eq : power = exponent + (Nat.toDigits 10 m).length - 1 := by
        rw [← point]
      have signed : (if decide (0 ≤ power) = true then (power.natAbs : Int) else -power.natAbs) =
          exponent + (Nat.toDigits 10 m).length - 1 := by
        simp only [← exponent_eq, decide_eq_true_eq]
        split <;> omega
      rw [written]
      exact isFloatText_scientific positive small bounds within (by omega) signed

/-- A written float is a sign, if it is negative, before the text of a float. -/
theorem toList_text (x : Binary64) : ∃ body, IsFloatText body ∧
    x.text.toList = if x.negative then '-' :: body else body := by
  have signed (body : String) : ((if x.negative then "-" else "") ++ body).toList =
      if x.negative then '-' :: body.toList else body.toList := by
    cases x.negative with
    | true => exact String.toList_append
    | false => exact String.toList_append
  rw [Binary64.text]
  split
  · have zero : IsFloatText ('0' :: '.' :: ['0']) := by
      apply isFloatText_fraction (List.cons_ne_nil _ _)
      · exact List.forall_mem_singleton.mpr rfl
      · decide
    exact ⟨"0.0".toList, zero, signed "0.0"⟩
  · rename_i nonzero
    rw [Binary64.isZero, beq_iff_eq] at nonzero
    obtain ⟨m, e, positive, short, digits, point, bounds, within⟩ :=
      Binary64.isSome_ofDecimal?_shortest nonzero
    exact ⟨x.shortest.text.toList,
      isFloatText_text positive short digits point bounds within, signed x.shortest.text⟩

end SearchOperator.Json
