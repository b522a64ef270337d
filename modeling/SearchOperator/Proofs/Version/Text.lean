import SearchOperator.Proofs.Version.Grammar
import SearchOperator.Version.Order

/-!
# Versions read back

The text of a version that could be read is written by the grammar and has no build metadata, so it
is read as the version again. Whether a step is an upgrade can therefore be told from the texts of
its ends.
-/

namespace SearchOperator.Version

/-- A version that has a text: its numbers fit a word of 64 bits, and its pre-release text leaves
no room for build metadata. -/
structure Readable (v : Version) : Prop where
  major : v.major < 0x10000000000000000
  minor : v.minor < 0x10000000000000000
  patch : v.patch < 0x10000000000000000
  pre : '+' ∉ v.pre.toList

/-! ## What is read is readable -/

theorem IsWritten.readable {v : Version} {cs : List Char} (written : v.IsWritten cs) :
    v.Readable := by
  cases written with
  | intro build major minor patch noPlus => exact ⟨major.fits, minor.fits, patch.fits, noPlus⟩

theorem readable_of_parse {raw : String} {v : Version} (parsed : parse raw = .ok v) :
    v.Readable :=
  (parse_eq_ok.mp parsed).readable

theorem ne_empty_of_parse {raw : String} {v : Version} (parsed : parse raw = .ok v) : raw ≠ "" := by
  rintro rfl
  cases parsed

theorem readable_release {major minor patch : Nat} (fitsMajor : major < 0x10000000000000000)
    (fitsMinor : minor < 0x10000000000000000) (fitsPatch : patch < 0x10000000000000000) :
    (release major minor patch).Readable :=
  ⟨fitsMajor, fitsMinor, fitsPatch, List.not_mem_nil⟩

/-! ## What is readable is read back -/

/-- The digits of a number. -/
theorem isDigit_of_mem_toDigits {n : Nat} {c : Char} (member : c ∈ Nat.toDigits 10 n) :
    Text.isDigit c = true := by
  have digit : c.isDigit = true := Nat.isDigit_of_mem_toDigits (by decide) (by decide) member
  exact digit

theorem writesNumber_toDigits {n : Nat} (small : n < 0x10000000000000000) :
    WritesNumber (Nat.toDigits 10 n) n where
  numeric := ⟨Nat.toDigits_ne_nil, fun _ member => isDigit_of_mem_toDigits member⟩
  value := Nat.ofDigitChars_ten_toDigits
  fits := small

theorem toList_text (v : Version) :
    v.text.toList = Nat.toDigits 10 v.major ++ '.' :: (Nat.toDigits 10 v.minor ++
      '.' :: Nat.toDigits 10 v.patch) ++ marked '-' v.pre.toList := by
  rw [text, isPreRelease]
  cases pre : v.pre.toList with
  | nil =>
      rw [String.toList_eq_nil_iff.mp pre]
      simp [marked]
  | cons c rest =>
      have some : v.pre ≠ "" := fun empty => by simp [empty] at pre
      simp [some, pre, marked]

/-- The text of a readable version writes it, without build metadata. -/
theorem Readable.isWritten_text {v : Version} (readable : v.Readable) :
    v.IsWritten v.text.toList := by
  have written := IsWritten.intro [] (writesNumber_toDigits readable.major)
    (writesNumber_toDigits readable.minor) (writesNumber_toDigits readable.patch) readable.pre
  rw [toList_text]
  rwa [marked, List.append_nil] at written

/-- The text of a readable version is read as the version. -/
theorem parse_text {v : Version} (readable : v.Readable) : parse v.text = .ok v :=
  parse_eq_ok.mpr readable.isWritten_text

theorem isUpgradeText_text {source target : Version} (readable : source.Readable)
    (next : target.Readable) :
    isUpgradeText source.text target.text = .ok (source.isUpgrade target) := by
  rw [isUpgradeText, parse_text readable, parse_text next]
  rfl

/-- The text of a version is read as the version exactly if the version is readable, as everything
is that was read before, and every release whose numbers fit a word. So a text that was written for
what was read is written again when it is read, and whether the step between two readable versions
is an upgrade can be told from their texts. -/
theorem text_reads_back (v w : Version) :
    (parse v.text = .ok v ↔ v.Readable) ∧
    (∀ raw, parse raw = .ok v → v.Readable) ∧
    (∀ major minor patch, major < 0x10000000000000000 → minor < 0x10000000000000000 →
      patch < 0x10000000000000000 → (release major minor patch).Readable) ∧
    (∀ raw s, (parse raw).map text = .ok s → (parse s).map text = .ok s) ∧
    (v.Readable → w.Readable → isUpgradeText v.text w.text = .ok (v.isUpgrade w)) := by
  refine ⟨⟨readable_of_parse, parse_text⟩, fun raw => readable_of_parse,
    fun major minor patch => readable_release, fun raw s written => ?_, isUpgradeText_text⟩
  cases parsed : parse raw with
  | error e =>
      rw [parsed] at written
      cases written
  | ok u =>
      rw [parsed] at written
      cases written
      rw [parse_text (readable_of_parse parsed)]
      rfl

/-- A candidate whose name holds hyphens, points and spaces. -/
def candidate : Version := ⟨7, 17, 9, "rc-2. été.01"⟩

/-- The text of the candidate is read back, and it tells that the next major version is an upgrade
of it. -/
theorem text_reads_back_candidate :
    candidate.Readable ∧ parse "7.17.9-rc-2. été.01" = .ok candidate ∧
      isUpgradeText "7.17.9-rc-2. été.01" "8.0.0" = .ok true := by
  obtain ⟨readsBack, -, releases, -, upgrades⟩ := text_reads_back candidate (release 8 0 0)
  have readable : candidate.Readable := ⟨by decide, by decide, by decide, by decide +kernel⟩
  have next := releases 8 0 0 (by decide) (by decide) (by decide)
  have text : candidate.text = "7.17.9-rc-2. été.01" := by decide +kernel
  have nextText : (release 8 0 0).text = "8.0.0" := by decide +kernel
  have upgrade : candidate.isUpgrade (release 8 0 0) = true := by decide +kernel
  rw [← text, ← nextText]
  exact ⟨readable, readsBack.mpr readable, upgrade ▸ upgrades readable next⟩

end SearchOperator.Version
