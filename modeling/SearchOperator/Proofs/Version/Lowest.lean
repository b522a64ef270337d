import Mathlib.Data.List.Induction
import Mathlib.Data.Set.Defs
import Mathlib.Order.Bounds.Defs
import SearchOperator.Proofs.Step
import SearchOperator.Proofs.Version.Order

/-!
# The lowest of some versions

The search for the lowest version among some texts finds the least of the versions that they hold,
and nothing only if there are no texts. It ends at the first text that is no version, with the fault
of that text. What it finds does not depend on the order of the texts, since the order of versions
is linear and no two of them are equal in it.
-/

namespace SearchOperator.Version

def IsVersion (text : String) : Prop := ∃ v, parse text = .ok v

instance : DecidablePred IsVersion := fun text =>
  match parsed : parse text with
  | .ok v => isTrue ⟨v, parsed⟩
  | .error _ => isFalse fun ⟨_, read⟩ => nomatch parsed.symm.trans read

def versionsOf (texts : List String) : Set Version := {v | ∃ text ∈ texts, parse text = .ok v}

theorem mem_versionsOf {texts : List String} {v : Version} :
    v ∈ versionsOf texts ↔ ∃ text ∈ texts, parse text = .ok v := Iff.rfl

theorem mem_versionsOf_append {texts others : List String} {v : Version} :
    v ∈ versionsOf (texts ++ others) ↔ v ∈ versionsOf texts ∨ v ∈ versionsOf others := by
  simp only [mem_versionsOf, List.mem_append, or_and_right, exists_or]

/-- The least of the versions that some texts hold, or nothing if there are no texts. -/
def LowestOf (texts : List String) : Option Version → Prop
  | some v => IsLeast (versionsOf texts) v
  | none => texts = []

/-! ## The lower of what was found -/

theorem lower_le (v w : Version) : v.lower w ≤ v ∧ v.lower w ≤ w := by
  rw [lower]
  split
  · rename_i below
    exact ⟨Std.le_refl v, below⟩
  · rename_i above
    exact ⟨Std.le_of_not_ge above, Std.le_refl w⟩

/-- The lower of two versions that were found, if any was. -/
def lowerOf : Option Version → Option Version → Option Version
  | some v, some w => some (v.lower w)
  | some v, none => some v
  | none, w => w

variable {texts others : List String} {lowest other : Option Version}

/-- What is lowest among some texts and among others gives what is lowest among all of them. -/
theorem LowestOf.append (one : LowestOf texts lowest) (two : LowestOf others other) :
    LowestOf (texts ++ others) (lowerOf lowest other) := by
  cases lowest with
  | none =>
      cases one
      exact two
  | some v =>
      cases other with
      | none =>
          cases two
          rw [List.append_nil]
          exact one
      | some w =>
          obtain ⟨left, right⟩ := lower_le v w
          constructor
          · rcases lower_eq_or v w with same | same
            · rw [same]
              exact mem_versionsOf_append.mpr (.inl one.1)
            · rw [same]
              exact mem_versionsOf_append.mpr (.inr two.1)
          · intro u member
            rcases mem_versionsOf_append.mp member with member | member
            · exact Std.le_trans left (one.2 member)
            · exact Std.le_trans right (two.2 member)

theorem LowestOf.unique (one : LowestOf texts lowest) (two : LowestOf texts other) :
    lowest = other := by
  have none_of_nil {v : Version} : ¬ IsLeast (versionsOf []) v := by
    rintro ⟨⟨text, member, -⟩, -⟩
    cases member
  cases lowest with
  | none =>
      cases other with
      | none => rfl
      | some w =>
          cases one
          exact absurd two none_of_nil
  | some v =>
      cases other with
      | none =>
          cases two
          exact absurd one none_of_nil
      | some w => exact congrArg some (Std.le_antisymm (one.2 two.1) (two.2 one.1))

/-- The order of the texts does not count. -/
theorem LowestOf.perm (one : LowestOf texts lowest) (perm : texts.Perm others) :
    LowestOf others lowest := by
  cases lowest with
  | none =>
      cases one
      exact perm.nil_eq.symm
  | some v =>
      have same : versionsOf others = versionsOf texts := by
        ext u
        simp only [mem_versionsOf, perm.mem_iff]
      rw [LowestOf, same]
      exact one

/-! ## The search -/

theorem lowestOf_singleton {text : String} {v : Version} (parsed : parse text = .ok v) :
    LowestOf [text] (some v) := by
  constructor
  · exact ⟨text, List.mem_singleton_self text, parsed⟩
  · rintro u ⟨other, member, read⟩
    cases List.mem_singleton.mp member
    cases parsed.symm.trans read
    exact Std.le_refl v

/-- The search in some texts and one more. -/
theorem lowest?_concat (texts : List String) (text : String) :
    lowest? (texts ++ [text]) =
      lowest? texts >>= fun lowest => parse text >>= fun v => .ok (lowerOf lowest (some v)) := by
  rw [lowest?, List.foldlM_append]
  congr 1
  funext lowest
  rw [List.foldlM_cons]
  cases parse text with
  | error e => rfl
  | ok v =>
      cases lowest with
      | none => rfl
      | some current => rfl

/-- A search that ends well read all texts, and found the lowest. -/
theorem lowest?_sound (found : lowest? texts = .ok lowest) :
    (∀ text ∈ texts, IsVersion text) ∧ LowestOf texts lowest := by
  -- the search carries what is lowest so far, so each step of it adds a last text
  induction texts using List.reverseRecOn generalizing lowest with
  | nil =>
      cases found
      exact ⟨fun text member => (List.not_mem_nil member).elim, rfl⟩
  | append_singleton texts text ih =>
      rw [lowest?_concat] at found
      obtain ⟨before, searched, rest⟩ := bind_eq_ok.mp found
      obtain ⟨v, parsed, same⟩ := bind_eq_ok.mp rest
      cases same
      obtain ⟨versions, least⟩ := ih searched
      refine ⟨fun other member => ?_, least.append (lowestOf_singleton parsed)⟩
      rcases List.mem_append.mp member with member | member
      · exact versions other member
      · rw [List.mem_singleton.mp member]
        exact ⟨v, parsed⟩

/-- A search in versions ends well. -/
theorem exists_lowest? (versions : ∀ text ∈ texts, IsVersion text) :
    ∃ lowest, lowest? texts = .ok lowest := by
  induction texts using List.reverseRecOn with
  | nil => exact ⟨none, rfl⟩
  | append_singleton texts text ih =>
      obtain ⟨before, found⟩ := ih fun other member => versions other (List.mem_append_left _ member)
      obtain ⟨v, parsed⟩ := versions text (List.mem_append_right _ (List.mem_singleton_self text))
      refine ⟨lowerOf before (some v), ?_⟩
      rw [lowest?_concat, found, parsed]
      rfl

/-- What a search finds. -/
theorem lowest?_eq_ok : lowest? texts = .ok lowest ↔
    (∀ text ∈ texts, IsVersion text) ∧ LowestOf texts lowest := by
  constructor
  · exact lowest?_sound
  · rintro ⟨versions, least⟩
    obtain ⟨other, found⟩ := exists_lowest? versions
    rw [found, (lowest?_sound found).2.unique least]

theorem lowest?_of_malformed {before : List String} {text : String} {e : Error}
    (found : lowest? before = .ok lowest) (malformed : parse text = .error e)
    (after : List String) : lowest? (before ++ text :: after) = .error e := by
  induction after using List.reverseRecOn with
  | nil =>
      rw [lowest?_concat, found, malformed]
      rfl
  | append_singleton after last ih =>
      rw [← List.cons_append, ← List.append_assoc, lowest?_concat, ih]
      rfl

/-- A search fails with the fault of the first text that is no version. -/
theorem lowest?_eq_error {e : Error} : lowest? texts = .error e ↔
    ∃ before text after, texts = before ++ text :: after ∧
      (∀ other ∈ before, IsVersion other) ∧ parse text = .error e := by
  constructor
  · intro failed
    induction texts using List.reverseRecOn with
    | nil => cases failed
    | append_singleton texts text ih =>
        rw [lowest?_concat] at failed
        rcases bind_eq_error.mp failed with failed | ⟨lowest, found, failed⟩
        · obtain ⟨before, first, after, split, versions, malformed⟩ := ih failed
          exact ⟨before, first, after ++ [text], by rw [split]; simp, versions, malformed⟩
        · rcases bind_eq_error.mp failed with malformed | ⟨v, -, failed⟩
          · exact ⟨texts, text, [], rfl, (lowest?_sound found).1, malformed⟩
          · cases failed
  · rintro ⟨before, text, after, rfl, versions, malformed⟩
    obtain ⟨lowest, found⟩ := exists_lowest? versions
    exact lowest?_of_malformed found malformed after

/-! ## Texts of which one is no version -/

/-- The texts that count: all of them, or none if one is no version. -/
def counted (texts : List String) : List String :=
  if ∀ text ∈ texts, IsVersion text then texts else []

theorem counted_of_versions (versions : ∀ text ∈ texts, IsVersion text) : counted texts = texts :=
  if_pos versions

theorem counted_of_malformed (malformed : ∃ text ∈ texts, ¬ IsVersion text) :
    counted texts = [] := by
  obtain ⟨text, member, malformed⟩ := malformed
  exact if_neg fun versions => malformed (versions text member)

theorem counted_subset : counted texts ⊆ texts := by
  rw [counted]
  split
  · exact List.Subset.refl texts
  · exact List.nil_subset texts

/-- A search whose failure counts as finding nothing finds the lowest of the texts that count. -/
theorem lowestOf_counted (texts : List String) :
    LowestOf (counted texts) (lowest? texts).toOption.join := by
  by_cases versions : ∀ text ∈ texts, IsVersion text
  · obtain ⟨lowest, found⟩ := exists_lowest? versions
    rw [counted_of_versions versions, found]
    exact (lowest?_sound found).2
  · have failed : (lowest? texts).toOption.join = none := by
      cases found : lowest? texts with
      | error e => rfl
      | ok lowest => exact absurd (lowest?_sound found).1 versions
    rw [counted, if_neg versions, failed]
    rfl

theorem counted_perm (perm : texts.Perm others) : (counted texts).Perm (counted others) := by
  rw [counted, counted]
  simp only [perm.mem_iff]
  split
  · exact perm
  · exact .nil

end SearchOperator.Version
