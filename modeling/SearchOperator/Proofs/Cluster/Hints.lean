import SearchOperator.Cluster.Hints
import SearchOperator.Proofs.Json.Equality
import SearchOperator.Proofs.Json.RoundTrip

/-!
# Hints in an annotation

Hints that were loaded, and those that a pass sets, are read back from the annotation they are
written to, up to the values of floats. A hint that is a text or a flag comes back as it was.
-/

namespace SearchOperator.Hints

/-- The values of hints are ordered documents, and the hints nest no deeper than an annotation is
read. -/
structure Readable (h : Hints) : Prop where
  ordered : Json.OrderedMembers h.values.entries
  nests : Json.NestsMembers h.values.entries 126

/-- Hints that differ at most in the values of floats. -/
def Alike (h other : Hints) : Prop := Json.AlikeMembers h.values.entries other.values.entries

theorem same_self (h : Hints) : (h == h) = true := Json.sameMembers_self h.values.entries

theorem same_congr {h other : Hints} (equal : (h == other) = true) (next : Hints) :
    (h == next) = (other == next) :=
  Json.sameMembers_congr _ _ equal _

theorem alike_of_same {h other : Hints} (equal : (h == other) = true) : h.Alike other :=
  Json.alikeMembers_of_same _ _ equal

theorem readable_none : none.Readable := ⟨trivial, trivial⟩

theorem readable_set {h : Hints} (readable : h.Readable) (key : String) {value : Json}
    (ordered : value.Ordered) (nests : value.Nests 126) : (h.set key value).Readable :=
  ⟨(Json.ordered_object_insert ⟨h.values.sorted, readable.ordered⟩ ordered).2,
    Json.nestsMembers_insert readable.nests nests⟩

theorem readable_setOnce {h : Hints} (readable : h.Readable) (key : String) {value : Json}
    (ordered : value.Ordered) (nests : value.Nests 126) : (h.setOnce key value).Readable := by
  unfold setOnce
  split
  · exact readable
  · exact readable_set readable key ordered nests

theorem readable_merge {h other : Hints} (readable : h.Readable) (fits : other.Readable) :
    (h.merge other).Readable := by
  have fold : ∀ (entries : List (String × Json)) (d : Dictionary Json),
      Json.OrderedMembers entries → Json.NestsMembers entries 126 → Readable ⟨d⟩ →
        Readable ⟨entries.foldl (fun acc m => acc.insert m.1 m.2) d⟩ := by
    intro entries
    induction entries with
    | nil => exact fun _ _ _ held => held
    | cons first rest ih =>
        obtain ⟨key, value⟩ := first
        intro d ordered nests held
        exact ih _ ordered.2 nests.2 (readable_set held key ordered.1 nests.1)
  exact fold other.values.entries h.values fits.ordered fits.nests readable

/-! ## Looking hints up -/

theorem get?_merge (h other : Hints) (key : String) :
    (h.merge other).get? key = (other.get? key).or (h.get? key) :=
  Dictionary.get?_merge h.values other.values key

@[simp]
theorem get?_set_self (h : Hints) (key : String) (value : Json) :
    (h.set key value).get? key = some value :=
  Dictionary.get?_insert_self h.values key value

theorem get?_set_of_ne (h : Hints) {key other : String} (differ : other ≠ key) (value : Json) :
    (h.set key value).get? other = h.get? other :=
  Dictionary.get?_insert_of_ne h.values differ value

/-- A hint that is set once keeps the value that it has. -/
theorem get?_setOnce_self (h : Hints) (key : String) (value : Json) :
    (h.setOnce key value).get? key = (h.get? key).or (some value) := by
  rw [setOnce, Dictionary.contains]
  cases found : h.values.get? key with
  | none => rw [show h.get? key = Option.none from found, Option.isSome_none, if_neg (by simp),
      get?_set_self, Option.none_or]
  | some v =>
      rw [Option.isSome_some, if_pos rfl]
      show h.get? key = (h.get? key).or (some value)
      rw [show h.get? key = some v from found, Option.some_or]

theorem get?_setOnce_of_ne (h : Hints) {key other : String} (differ : other ≠ key)
    (value : Json) : (h.setOnce key value).get? other = h.get? other := by
  rw [setOnce]
  split
  · rfl
  · exact get?_set_of_ne h differ value

/-! ## Values of hints alike -/

theorem get?_of_alike {h other : Hints} (alike : h.Alike other) (key : String) :
    (h.get? key = Option.none ∧ other.get? key = Option.none) ∨
      ∃ v w, h.get? key = some v ∧ other.get? key = some w ∧ v.Alike w :=
  Json.get?_of_alike alike key

/-- Hints without floats. -/
def IsExact (h : Hints) : Prop := ∀ key value, h.get? key = some value → ∃ depth, value.Steady depth

theorem isExact_none : none.IsExact := fun _ _ found => nomatch found

theorem isExact_of_steady {h : Hints} {depth : Nat}
    (steady : Json.SteadyMembers h.values.entries depth) : h.IsExact := by
  intro key value found
  exact ⟨depth, Json.steadyMembers_iff.mp steady (key, value) (Entries.mem_of_get? found)⟩

theorem isExact_merge {h other : Hints} (exact : h.IsExact) (precise : other.IsExact) :
    (h.merge other).IsExact := by
  intro key value found
  rw [get?_merge] at found
  cases taken : other.get? key with
  | none =>
      rw [taken, Option.none_or] at found
      exact exact key value found
  | some v =>
      rw [taken, Option.some_or] at found
      cases found
      exact precise key value taken

/-- Hints without floats are like themselves alone. -/
theorem eq_of_alike {h other : Hints} (exact : h.IsExact) (alike : h.Alike other) : other = h := by
  have steady : ∀ m ∈ h.values.entries, ∃ depth, Json.SteadyMember m depth := by
    rintro ⟨key, value⟩ member
    exact exact key value (Entries.get?_of_mem h.values.sorted member)
  exact congrArg Hints.mk (Dictionary.ext (Json.members_eq_of_alike steady alike))

theorem eq_of_same {h other : Hints} (exact : h.IsExact) (same : (h == other) = true) :
    other = h :=
  eq_of_alike exact (alike_of_same same)

theorem get?_eq_of_alike {h other : Hints} (exact : h.IsExact) (alike : h.Alike other)
    (key : String) : other.get? key = h.get? key := by
  rw [eq_of_alike exact alike]

theorem string?_of_alike {h other : Hints} (alike : h.Alike other) (key : String) :
    other.string? key = h.string? key := by
  rw [string?, string?]
  rcases get?_of_alike alike key with ⟨here, there⟩ | ⟨v, w, here, there, values⟩
  · rw [here, there]
  · rw [here, there]
    exact Json.string?_of_alike values

theorem contains_of_alike {h other : Hints} (alike : h.Alike other) (key : String) :
    other.values.contains key = h.values.contains key := by
  rw [Dictionary.contains, Dictionary.contains]
  rcases get?_of_alike alike key with ⟨here, there⟩ | ⟨v, w, here, there, -⟩
  · rw [show h.values.get? key = Option.none from here,
      show other.values.get? key = Option.none from there]
  · rw [show h.values.get? key = some v from here, show other.values.get? key = some w from there]
    rfl

theorem get?_bool_of_alike {h other : Hints} (alike : h.Alike other) (key : String) (b : Bool) :
    h.get? key = some (.bool b) ↔ other.get? key = some (.bool b) := by
  rcases get?_of_alike alike key with ⟨here, there⟩ | ⟨v, w, here, there, values⟩
  · rw [here, there]
  · rw [here, there, Option.some.injEq, Option.some.injEq]
    constructor
    · rintro rfl
      exact Json.eq_bool_of_alike values
    · rintro rfl
      exact Json.eq_bool_of_alike_right values

/-! ## Hints read back -/

theorem isBlankText_text (h : Hints) : Text.isBlankText h.text = false := by
  have opens : ∃ cs, Json.chars (.object h.values.entries) = '\x7b' :: cs := by
    cases h.values.entries with
    | nil => exact ⟨_, rfl⟩
    | cons m rest => exact ⟨_, rfl⟩
  obtain ⟨cs, written⟩ := opens
  rw [text, Json.text, written, Text.isBlankText, String.toList_ofList, List.all_cons]
  rfl

/-- The text of hints is read as hints like them. -/
theorem ofText_text {h : Hints} (readable : h.Readable) :
    ∃ other, ofText h.text = .ok other ∧ h.Alike other := by
  have takes := Json.takes_dictionaryOf h.values readable.ordered 126 []
  rw [List.append_nil] at takes
  rw [ofText, text, Json.text, Json.bytesOf_ofList, Json.readTyped]
  rcases Json.Reader.run_of_takes takes with ⟨d, read, alike⟩ | ⟨deep, -⟩
  · simp only [Json.depthLimit, read]
    exact ⟨⟨d⟩, rfl, alike⟩
  · exact absurd readable.nests deep

/-- Hints are found again in annotations that hold their text. -/
theorem ofAnnotations_text {h : Hints} (readable : h.Readable)
    {annotations : Option (Dictionary String)}
    (stored : annotations.bind (·.get? hintsKey) = some h.text) :
    ∃ other, ofAnnotations annotations = .ok other ∧ h.Alike other := by
  have read : ofAnnotations annotations = ofText h.text := by
    rw [ofAnnotations, stored]
    simp only [isBlankText_text, Bool.false_eq_true, if_false]
  rw [read]
  exact ofText_text readable

/-- Hints without floats are found again as they were. -/
theorem ofAnnotations_text_of_exact {h : Hints} (readable : h.Readable) (exact : h.IsExact)
    {annotations : Option (Dictionary String)}
    (stored : annotations.bind (·.get? hintsKey) = some h.text) :
    ofAnnotations annotations = .ok h := by
  obtain ⟨other, read, alike⟩ := ofAnnotations_text readable stored
  rw [read, eq_of_alike exact alike]

/-- Hints that were loaded can be read again. -/
theorem readable_of_ofAnnotations {annotations : Option (Dictionary String)} {h : Hints}
    (loaded : ofAnnotations annotations = .ok h) : h.Readable := by
  rw [ofAnnotations] at loaded
  split at loaded
  · rename_i raw _
    split at loaded
    · cases loaded
      exact readable_none
    · rw [ofText, Json.readTyped] at loaded
      cases read : (Json.Reader.dictionaryOf Json.Reader.document Json.depthLimit).run
          (Json.bytesOf raw) with
      | error fault =>
          rw [read] at loaded
          cases loaded
      | ok d =>
          rw [read] at loaded
          cases loaded
          have shaped := Json.Reader.yields_run (Json.Reader.shaped_dictionaryOf 126) read
          exact ⟨shaped.1, shaped.2⟩
  · cases loaded
    exact readable_none

/-- The text of hints without floats is never taken for a missing annotation. Next to any other
annotations, it is read as the very hints, with their integers and all, exactly if the object that
it holds nests no deeper than documents are read. -/
theorem ofAnnotations_text_eq_ok {h : Hints} (ordered : Json.OrderedMembers h.values.entries)
    (exact : h.IsExact) {annotations : Dictionary String}
    (written : annotations.get? hintsKey = some h.text) :
    Text.isBlankText h.text = false ∧
      (ofAnnotations (some annotations) = .ok h ↔
        (Json.object h.values.entries).Nests Json.depthLimit) := by
  refine ⟨isBlankText_text h, ?_⟩
  constructor
  · intro loaded
    exact (readable_of_ofAnnotations loaded).nests
  · intro nests
    have readable : h.Readable := ⟨ordered, nests⟩
    exact ofAnnotations_text_of_exact readable exact written

/-- Hints with a quote for a name, a control and characters beyond ASCII, and the least and the
greatest integer. -/
def unusual : Hints where
  values := {
    entries := [("\"", .string "\\\n\x01é😀"),
      ("limits", .array [.ofInt (-0x8000000000000000), .ofInt 0xFFFFFFFFFFFFFFFF]),
      ("nested", .object [("", .null), ("on", .bool true)])]
    sorted := by
      unfold Entries.Sorted
      decide }

/-- Next to another annotation, these hints are found again. -/
theorem ofAnnotations_text_eq_ok_unusual :
    Json.OrderedMembers unusual.values.entries ∧ unusual.IsExact ∧
      ofAnnotations (some ((Dictionary.ofList [(managedKey, "true")]).insert hintsKey
        unusual.text)) = .ok unusual := by
  have sorted : Entries.Sorted [("", Json.null), ("on", Json.bool true)] := by
    unfold Entries.Sorted
    decide
  have ordered : Json.OrderedMembers unusual.values.entries :=
    ⟨trivial, ⟨trivial, trivial, trivial⟩, ⟨sorted, trivial, trivial, trivial⟩, trivial⟩
  have steady : Json.SteadyMembers unusual.values.entries 1 :=
    ⟨trivial, ⟨trivial, trivial, trivial⟩, ⟨trivial, trivial, trivial⟩, trivial⟩
  have nests : (Json.object unusual.values.entries).Nests Json.depthLimit :=
    ⟨trivial, ⟨trivial, trivial, trivial⟩, ⟨trivial, trivial, trivial⟩, trivial⟩
  have found := Dictionary.get?_insert_self (.ofList [(managedKey, "true")]) hintsKey unusual.text
  have exact : unusual.IsExact := isExact_of_steady steady
  exact ⟨ordered, exact, (ofAnnotations_text_eq_ok ordered exact found).2.mpr nests⟩

end SearchOperator.Hints
