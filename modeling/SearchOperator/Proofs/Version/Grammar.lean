import SearchOperator.Proofs.Step
import SearchOperator.Proofs.Text.Split
import SearchOperator.Version.Basic

/-!
# The grammar of versions

A version is written as three numbers with points between them, then a pre-release text after a
hyphen if there is one, then build metadata after a plus sign if there are any. Reading cuts a text
at its first plus sign, what is before it at its first hyphen, and what is before that at all
points. The order of the cuts is what makes this find the parts of every text of the grammar, and
take no other text for a version.
-/

namespace SearchOperator.Version

/-! ## The grammar -/

/-- An identifier of decimal digits alone. -/
def IsNumeric (identifier : List Char) : Prop :=
  identifier ≠ [] ∧ ∀ c ∈ identifier, Text.isDigit c = true

instance (identifier : List Char) : Decidable (IsNumeric identifier) :=
  decidable_of_iff (identifier ≠ [] ∧ identifier.all Text.isDigit = true)
    (and_congr_right fun _ => List.all_eq_true)

/-- Digits that write a number of a version, which fits a word of 64 bits. -/
structure WritesNumber (digits : List Char) (n : Nat) : Prop where
  numeric : IsNumeric digits
  value : Nat.ofDigitChars 10 digits 0 = n
  fits : n < 0x10000000000000000

/-- A part of a version behind its mark. Of an empty part, the mark is left out as well. -/
def marked (mark : Char) : List Char → List Char
  | [] => []
  | c :: rest => mark :: c :: rest

/-- The texts that write a version. -/
inductive IsWritten (v : Version) : List Char → Prop where
  | intro {major minor patch : List Char} (build : List Char)
      (writesMajor : WritesNumber major v.major) (writesMinor : WritesNumber minor v.minor)
      (writesPatch : WritesNumber patch v.patch) (noPlus : '+' ∉ v.pre.toList) :
      IsWritten v (major ++ '.' :: (minor ++ '.' :: patch) ++ marked '-' v.pre.toList ++
        marked '+' build)

/-- A mark adds nothing but itself. -/
theorem mem_marked {mark c : Char} (other : c ≠ mark) {part : List Char} :
    c ∈ marked mark part ↔ c ∈ part := by
  cases part with
  | nil => exact Iff.rfl
  | cons d rest => exact List.mem_cons.trans (or_iff_right other)

/-! ## Numbers -/

theorem isNumeric_iff {cs : List Char} :
    IsNumeric cs ↔ (cs.isEmpty || !cs.all Text.isDigit) = false := by
  rw [IsNumeric, Bool.or_eq_false_iff, List.isEmpty_eq_false_iff, Bool.not_eq_false',
    List.all_eq_true]

theorem IsNumeric.not_mem {cs : List Char} (numeric : IsNumeric cs) {c : Char}
    (other : Text.isDigit c = false) : c ∉ cs := by
  intro member
  rw [numeric.2 c member] at other
  cases other

theorem readComponent_eq_ok {component : String} {part : Option (List Char)} {n : Nat} :
    readComponent component part = .ok n ↔ ∃ digits, part = some digits ∧ WritesNumber digits n := by
  cases part with
  | none =>
      constructor
      · intro read
        cases read
      · rintro ⟨digits, absent, -⟩
        cases absent
  | some cs =>
      constructor
      · intro read
        rw [readComponent] at read
        split at read
        · cases read
        · rename_i numeric
          split at read
          · rename_i fits
            cases read
            exact ⟨cs, rfl, isNumeric_iff.mpr (Bool.eq_false_iff.mpr numeric), rfl, fits⟩
          · cases read
      · rintro ⟨digits, same, numeric, rfl, fits⟩
        cases same
        rw [readComponent, isNumeric_iff.mp numeric, if_neg Bool.false_ne_true]
        exact if_pos fits

/-! ## Cuts -/

/-- A text is cut at a mark with something after it, or stays whole for lack of the mark, exactly if
it is written with what comes after the mark. -/
theorem cut_iff {mark : Char} {cs before after : List Char} :
    (Text.splitOnce mark cs = some (before, after) ∧ after ≠ [] ∨
      Text.splitOnce mark cs = none ∧ cs = before ∧ after = []) ↔
    mark ∉ before ∧ cs = before ++ marked mark after := by
  constructor
  · rintro (⟨cut, some⟩ | ⟨whole, rfl, rfl⟩)
    · obtain ⟨parts, absent⟩ := Text.splitOnce_eq_some cut
      cases after with
      | nil => exact absurd rfl some
      | cons c rest => exact ⟨absent, parts⟩
    · exact ⟨Text.not_mem_of_splitOnce whole, (List.append_nil cs).symm⟩
  · rintro ⟨absent, rfl⟩
    cases after with
    | nil =>
        rw [marked, List.append_nil]
        exact .inr ⟨Text.splitOnce_of_not_mem absent, rfl, rfl⟩
    | cons c rest => exact .inl ⟨Text.splitOnce_append absent _, List.cons_ne_nil c rest⟩

theorem withoutBuild_eq_ok {cs kept : List Char} :
    withoutBuild cs = .ok kept ↔ '+' ∉ kept ∧ ∃ build, cs = kept ++ marked '+' build := by
  rw [← exists_and_left]
  simp only [← cut_iff]
  rw [withoutBuild]
  split
  · rename_i cut
    simp [cut]
  · rename_i before build some cut
    simp only [cut, Except.ok.injEq, Option.some.injEq, Prod.mk.injEq, reduceCtorEq, false_and,
      or_false]
    constructor
    · rintro rfl
      exact ⟨build, ⟨rfl, rfl⟩, some⟩
    · rintro ⟨_, ⟨same, -⟩, -⟩
      exact same
  · rename_i whole
    simp [whole]

theorem splitPreRelease_eq_ok {cs core pre : List Char} :
    splitPreRelease cs = .ok (core, pre) ↔ '-' ∉ core ∧ cs = core ++ marked '-' pre := by
  rw [← cut_iff, splitPreRelease]
  split
  · rename_i cut
    simp [cut, eq_comm]
  · rename_i before after some cut
    simp only [cut, Except.ok.injEq, Option.some.injEq, Prod.mk.injEq, reduceCtorEq, false_and,
      or_false]
    exact ⟨fun same => ⟨same, same.2 ▸ some⟩, And.left⟩
  · rename_i whole
    simp [whole, eq_comm]

/-- Three numbers and the points between them hold no other character. -/
theorem not_mem_numbers {major minor patch : List Char} (first : IsNumeric major)
    (second : IsNumeric minor) (third : IsNumeric patch) {c : Char}
    (other : Text.isDigit c = false) (point : c ≠ '.') :
    c ∉ major ++ '.' :: (minor ++ '.' :: patch) := by
  simp [first.not_mem other, second.not_mem other, third.not_mem other, point]

theorem splitOn_eq_numbers {cs major minor patch : List Char} (first : IsNumeric major)
    (second : IsNumeric minor) (third : IsNumeric patch) :
    Text.splitOn '.' cs = [major, minor, patch] ↔
      cs = major ++ '.' :: (minor ++ '.' :: patch) := by
  constructor
  · intro pieces
    have whole := Text.intercalate_splitOn '.' cs
    rw [pieces] at whole
    rw [← whole]
    simp
  · rintro rfl
    rw [Text.splitOn_append (first.not_mem rfl), Text.splitOn_append (second.not_mem rfl),
      Text.splitOn_of_not_mem (third.not_mem rfl)]

/-! ## Reading -/

theorem eq_triple {α : Type} {pieces : List α} {a b c : α} (first : pieces[0]? = some a)
    (second : pieces[1]? = some b) (third : pieces[2]? = some c) (short : ¬ 3 < pieces.length) :
    pieces = [a, b, c] := by
  match pieces with
  | [] => cases first
  | [_] => cases second
  | [_, _] => cases third
  | [_, _, _] =>
      cases first
      cases second
      cases third
      rfl
  | _ :: _ :: _ :: _ :: rest => exact absurd (Nat.le_add_left 4 rest.length) short

/-- A text is read part by part. -/
theorem read_eq_ok_iff {cs : List Char} {v : Version} :
    read cs = .ok v ↔ ∃ kept core pre major minor patch,
      withoutBuild cs = .ok kept ∧ splitPreRelease kept = .ok (core, pre) ∧
      Text.splitOn '.' core = [major, minor, patch] ∧ WritesNumber major v.major ∧
      WritesNumber minor v.minor ∧ WritesNumber patch v.patch ∧ String.ofList pre = v.pre := by
  simp only [read, bind_eq_ok, readComponent_eq_ok]
  constructor
  · rintro ⟨kept, build, ⟨core, pre⟩, cut, m, ⟨major, first, writesMajor⟩, n,
      ⟨minor, second, writesMinor⟩, p, ⟨patch, third, writesPatch⟩, finished⟩
    split at finished
    · cases finished
    · rename_i short
      cases finished
      exact ⟨kept, core, pre, major, minor, patch, build, cut, eq_triple first second third short,
        writesMajor, writesMinor, writesPatch, rfl⟩
  · rintro ⟨kept, core, pre, major, minor, patch, build, cut, pieces, writesMajor,
      writesMinor, writesPatch, same⟩
    refine ⟨kept, build, (core, pre), cut, ?_⟩
    rw [pieces]
    refine ⟨v.major, ⟨major, rfl, writesMajor⟩, v.minor, ⟨minor, rfl, writesMinor⟩, v.patch,
      ⟨patch, rfl, writesPatch⟩, ?_⟩
    rw [same]
    rfl

/-- Exactly the texts of the grammar are read, each one as the version that it writes. -/
theorem read_eq_ok {cs : List Char} {v : Version} : read cs = .ok v ↔ v.IsWritten cs := by
  rw [read_eq_ok_iff]
  simp only [withoutBuild_eq_ok, splitPreRelease_eq_ok]
  constructor
  · rintro ⟨kept, core, pre, major, minor, patch, ⟨noPlus, build, rfl⟩, ⟨-, rfl⟩, pieces,
      writesMajor, writesMinor, writesPatch, same⟩
    have numbers := (splitOn_eq_numbers writesMajor.numeric writesMinor.numeric
      writesPatch.numeric).mp pieces
    have rest : pre = v.pre.toList := by rw [← same, String.toList_ofList]
    rw [List.mem_append, mem_marked (by decide), rest, not_or] at noPlus
    rw [numbers, rest]
    exact .intro build writesMajor writesMinor writesPatch noPlus.2
  · rintro @⟨major, minor, patch, build, writesMajor, writesMinor, writesPatch, noPlus⟩
    have absent {c : Char} := not_mem_numbers writesMajor.numeric writesMinor.numeric
      writesPatch.numeric (c := c)
    refine ⟨_, _, v.pre.toList, major, minor, patch, ⟨?_, build, rfl⟩,
      ⟨absent rfl (by decide), rfl⟩, ?_, writesMajor, writesMinor, writesPatch,
      String.ofList_toList⟩
    · rw [List.mem_append, mem_marked (by decide), not_or]
      exact ⟨absent rfl (by decide), noPlus⟩
    · exact (splitOn_eq_numbers writesMajor.numeric writesMinor.numeric
        writesPatch.numeric).mpr rfl

theorem parse_eq_ok {raw : String} {v : Version} :
    parse raw = .ok v ↔ v.IsWritten raw.toList := by
  rw [parse, ← read_eq_ok]
  cases read raw.toList with
  | ok w => simp
  | error fault => simp

theorem parse_eq_error {raw : String} {e : Error} :
    parse raw = .error e ↔
      ∃ fault, read raw.toList = .error fault ∧ e = .malformedVersion raw fault.message := by
  rw [parse]
  cases read raw.toList with
  | ok v => simp
  | error fault => simp [eq_comm]

/-- A text is read as a version exactly if it is written by the grammar: then as the version whose
three numbers and whose pre-release text it writes, whatever its build metadata are. Otherwise it is
malformed, and the error carries all of it. -/
theorem parse_grammar (raw : String) :
    (∀ v, parse raw = .ok v ↔ v.IsWritten raw.toList) ∧
    ((∃ reason, parse raw = .error (.malformedVersion raw reason)) ↔
      ¬ ∃ v : Version, v.IsWritten raw.toList) := by
  refine ⟨fun v => parse_eq_ok, ?_⟩
  simp only [← parse_eq_ok]
  cases found : parse raw with
  | ok v => simp
  | error e =>
      obtain ⟨fault, -, rfl⟩ := parse_eq_error.mp found
      simp

/-- The first plus sign ends the pre-release text, and the first hyphen begins it. -/
example : parse "7.010.0-rc-1+a-b.c+d" = .ok ⟨7, 10, 0, "rc-1"⟩ := by decide +kernel

end SearchOperator.Version
