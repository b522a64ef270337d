import SearchOperator.Json.Typed
import SearchOperator.Proofs.Json.RoundTrip

/-!
# Records read back

A typed reader takes the text of a document of its shape and leaves what follows. The readers of
scalars do, and a record does if each of its members does, whatever of the optional ones is there.
-/

namespace SearchOperator.Json

namespace Reader

variable {α β : Type}

/-- A reader takes the text of a document, whatever follows it, and gives a value. -/
def Reads (r : Reader α) (j : Json) (a : α) : Prop :=
  ∀ rest, Stops rest → r (utf8 (chars j) ++ rest) = (.ok a, rest)

theorem reads_map {r : Reader α} {j : Json} {a : α} (reads : Reads r j a) (f : α → β) :
    Reads (do return f (← r)) j (f a) := by
  intro rest stop
  rw [bind_run, reads rest stop, follow_ok, pure_run]

theorem place_of_ok {r : Reader α} {input rest : Bytes} {a : α} (run : r input = (.ok a, rest)) :
    place r input = (.ok a, rest) := by
  simp only [place, run]

theorem token_run {b : UInt8} (token : isBlank b = false) (rest : Bytes) :
    Reader.token (b :: rest) = (.ok b, b :: rest) := by
  rw [Reader.token, bind_run, peekToken?_cons token, follow_ok]
  rfl

/-! ## Scalars -/

theorem reads_string (s : String) : Reads string (.string s) s := by
  intro rest _
  rw [chars, utf8_stringChars, List.cons_append, List.append_assoc, List.singleton_append]
  apply place_of_ok
  rw [bind_run, token_run rfl, follow_ok, if_pos rfl, bind_run, skip_run, follow_ok,
    List.drop_succ_cons, List.drop_zero, restOfString_escaped]

theorem reads_variant {names : List (String × α)} {name : String} {a : α}
    (known : names.lookup name = some a) (depth : Nat) :
    Reads (variant names depth) (.string name) a := by
  intro rest _
  rw [chars, utf8_stringChars, List.cons_append, List.append_assoc, List.singleton_append, variant,
    bind_run, token_run rfl, follow_ok]
  simp only [if_true]
  apply place_of_ok
  rw [bind_run, skip_run, follow_ok, List.drop_succ_cons, List.drop_zero, bind_run,
    restOfString_escaped, follow_ok, known]
  rfl

theorem reads_integer (expected : String) {low high : Int} {n : WordInt} (above : low ≤ n.val)
    (below : n.val ≤ high) : Reads (integer expected low high) (.number (.integer n)) n.val := by
  intro rest stop
  have small : n.val.natAbs < 0x10000000000000000 := by
    have := n.low
    have := n.high
    omega
  have whole := wholeNumber_natAbs n rest
  have bounds : (decide (low ≤ n.val) && decide (n.val ≤ high)) = true := by simp [above, below]
  rw [chars, numberChars, utf8_toString]
  apply place_of_ok
  by_cases negative : n.val < 0
  · rw [decide_eq_true negative] at whole
    rw [if_pos negative, List.cons_append, bind_run, token_run rfl, follow_ok]
    simp only [if_true, bind_run, skip_run, follow_ok, List.drop_succ_cons, List.drop_zero,
      numberAfterSign_toDigits true small stop, whole, bounds, pure_run]
  · obtain ⟨b, t, digits, digit⟩ := utf8_toDigits_head n.val.natAbs
    have other : b ≠ 0x2D := ne_of_isDigit digit rfl
    have number := numberAfterSign_toDigits false small stop
    rw [decide_eq_false negative] at whole
    rw [whole, digits, List.cons_append] at number
    rw [if_neg negative, digits, List.cons_append, bind_run,
      token_run (opens_of_isDigit digit).1, follow_ok]
    simp only [if_neg other, digit, if_true, bind_run, number, follow_ok, bounds, pure_run]

/-- A document other than null is read as one that is there. -/
theorem reads_optional {r : Reader α} {j : Json} {a : α} (reads : Reads r j a) (there : j ≠ .null) :
    Reads (optional r) j (some a) := by
  intro rest stop
  obtain ⟨b, t, head, opens, other⟩ := utf8_chars_head_of_ne there
  have read := reads rest stop
  rw [head, List.cons_append] at read
  rw [optional, head, List.cons_append, bind_run, peekToken?_cons opens.1, follow_ok]
  simp only [if_neg other, bind_run, read, follow_ok, pure_run]

/-! ## Lists -/

section

variable {item : Reader α} {f : α → Json} {values : List α}

/-- One item is read, and then those after it. -/
theorem items_cons {j : Json} {a : α} {as : List α} {fuel : Nat} {first : Bool}
    {input text rest : Bytes} (reads : Reads item j a)
    (more : hasItem first input = (.ok true, utf8 (chars j) ++ text)) (stop : Stops text)
    (others : Reader.items item fuel false text = (.ok as, rest)) :
    Reader.items item (fuel + 1) first input = (.ok (a :: as), rest) := by
  rw [Reader.items, bind_run, more, follow_ok]
  simp only [if_true, bind_run, reads text stop, follow_ok, others, pure_run]

theorem items_run (reads : ∀ a ∈ values, Reads item (f a) a) {fuel : Nat}
    (enough : values.length < fuel) (rest : Bytes) :
    Reader.items item fuel false (utf8 (itemsChars (values.map f)) ++ rest) =
      (.ok values, 0x5D :: rest) := by
  induction values generalizing fuel with
  | nil =>
      cases fuel with
      | zero => cases enough
      | succ fuel =>
          have close : hasItem false (utf8 (itemsChars []) ++ rest) = (.ok false, 0x5D :: rest) :=
            hasItem_close false rest
          rw [List.map_nil, Reader.items, bind_run, close, follow_ok]
          rfl
  | cons a others ih =>
      cases fuel with
      | zero => cases enough
      | succ fuel =>
          have one := reads a List.mem_cons_self
          have more := ih (fun b member => reads b (List.mem_cons_of_mem a member))
            (Nat.lt_of_succ_lt_succ enough)
          refine items_cons one ?_ (stops_itemsChars (others.map f) rest) more
          obtain ⟨b, t, head, token, other⟩ := utf8_chars_head (f a)
          rw [List.map_cons, utf8_itemsChars_cons, head]
          simp only [List.cons_append, List.append_assoc]
          exact hasItem_comma token other _

/-- A list is read from an array of documents from which its values are read. -/
theorem reads_listOf {item : Typed α} {depth : Nat}
    (reads : ∀ a ∈ values, Reads (item depth) (f a) a) :
    Reads (listOf item (depth + 1)) (.array (values.map f)) values := by
  intro rest _
  have opened : ∃ text, utf8 (chars (.array (values.map f))) ++ rest = 0x5B :: text ∧
      Reader.items (item depth) (text.length + 1) true text = (.ok values, 0x5D :: rest) := by
    cases values with
    | nil =>
        refine ⟨0x5D :: rest, rfl, ?_⟩
        rw [Reader.items, bind_run, hasItem_close, follow_ok]
        rfl
    | cons a others =>
        have one := reads a List.mem_cons_self
        have enough := length_lt_itemsChars (others.map f)
        have later : ∀ b ∈ others, Reads (item depth) (f b) b := fun b member =>
          reads b (List.mem_cons_of_mem a member)
        refine ⟨utf8 (chars (f a)) ++ (utf8 (itemsChars (others.map f)) ++ rest), ?_, ?_⟩
        · rw [List.map_cons, utf8_chars_array, List.cons_append, List.append_assoc]
        · refine items_cons one ?_ (stops_itemsChars (others.map f) rest)
            (items_run later ?_ rest)
          · obtain ⟨b, t, head, token, other⟩ := utf8_chars_head (f a)
            rw [head]
            exact hasItem_first token other _
          · rw [List.length_map] at enough
            simp only [List.length_append]
            omega
  obtain ⟨text, opened, run⟩ := opened
  have body : (do Reader.items (item depth) (← Reader.fuel) true : Reader (List α)) text =
      (.ok values, 0x5D :: rest) := by
    rw [bind_run, fuel_run, follow_ok, run]
  rw [opened]
  apply place_of_ok
  rw [bind_run, token_run rfl, follow_ok]
  simp only [if_true, bind_run, skip_run, follow_ok, List.drop_succ_cons, List.drop_zero]
  rw [bracketed, body]
  simp only [endArray_run]

end

end Reader

/-! ## Records -/

namespace Record

open Reader

variable {δ : Type}

/-- Members that fill a draft of a record, one after the other. -/
inductive Fills (r : Record δ) (depth : Nat) : List (String × Json) → δ → δ → Prop where
  | nil (d : δ) : Fills r depth [] d d
  | cons {key : String} {value : Json} {field : Field δ} {set : δ → δ}
      {rest : List (String × Json)} {d last : δ}
      (known : r.fields.find? (·.key == key) = some field)
      (fresh : (r.unique && field.isSet d) = false)
      (reads : Reads (field.read depth) value set)
      (others : Fills r depth rest (set d) last) : Fills r depth ((key, value) :: rest) d last

variable {r : Record δ} {depth : Nat} {members : List (String × Json)} {d last : δ}

theorem Fills.append {others : List (String × Json)} {middle : δ}
    (one : r.Fills depth members d middle) (two : r.Fills depth others middle last) :
    r.Fills depth (members ++ others) d last := by
  induction one with
  | nil d => exact two
  | cons known fresh reads _ ih => exact .cons known fresh reads (ih two)

theorem member_run {key : String} {value : Json} {field : Field δ} {set : δ → δ}
    (known : r.fields.find? (·.key == key) = some field)
    (fresh : (r.unique && field.isSet d) = false) (reads : Reads (field.read depth) value set)
    {rest : Bytes} (stop : Stops rest) :
    r.member depth key d (0x3A :: (utf8 (chars value) ++ rest)) = (.ok (set d), rest) := by
  rw [Record.member, known]
  simp only [fresh, Bool.false_eq_true, if_false]
  rw [bind_run, colon_run, follow_ok, bind_run, reads rest stop, follow_ok, pure_run]

/-- One member is read and put into the draft, and then those after it. -/
theorem members_cons {key : String} {value : Json} {field : Field δ} {set : δ → δ} {fuel : Nat}
    {first : Bool} {input text rest : Bytes}
    (known : r.fields.find? (·.key == key) = some field)
    (fresh : (r.unique && field.isSet d) = false) (reads : Reads (field.read depth) value set)
    (more : hasMember first input =
      (.ok true, utf8 (memberChars (key, value)) ++ text)) (stop : Stops text)
    (others : Reader.members (r.member depth) fuel false (set d) text = (.ok last, rest)) :
    Reader.members (r.member depth) (fuel + 1) first d input = (.ok last, rest) := by
  rw [utf8_memberChars] at more
  simp only [List.cons_append, List.append_assoc] at more
  rw [Reader.members, bind_run, more, follow_ok]
  simp only [if_true, bind_run, skip_run, follow_ok, List.drop_succ_cons, List.drop_zero,
    restOfString_escaped, member_run known fresh reads stop, others]

theorem members_run (fills : r.Fills depth members d last) {fuel : Nat}
    (enough : members.length < fuel) (rest : Bytes) :
    Reader.members (r.member depth) fuel false d (utf8 (membersChars members) ++ rest) =
      (.ok last, 0x7D :: rest) := by
  induction fills generalizing fuel with
  | nil d =>
      cases fuel with
      | zero => cases enough
      | succ fuel =>
          have close : hasMember false (utf8 (membersChars []) ++ rest) =
              (.ok false, 0x7D :: rest) := hasMember_close false rest
          rw [Reader.members, bind_run, close, follow_ok]
          rfl
  | @cons key value field set others d last known fresh reads fills ih =>
      cases fuel with
      | zero => cases enough
      | succ fuel =>
          refine members_cons known fresh reads ?_ (stops_membersChars others rest)
            (ih (Nat.lt_of_succ_lt_succ enough))
          rw [utf8_membersChars_cons, utf8_memberChars]
          simp only [List.cons_append, List.append_assoc]
          exact hasMember_comma _

/-- A record is read from an object whose members fill its draft. -/
theorem reads_object (fills : r.Fills depth members r.blank last)
    (complete : ∀ field ∈ r.fields, field.required = true → field.isSet last = true) :
    Reads (r.read (depth + 1)) (.object members) last := by
  intro rest _
  have whole : r.fields.find? (fun field => field.required && !field.isSet last) = none := by
    rw [List.find?_eq_none]
    intro field member lacks
    simp only [Bool.and_eq_true, Bool.not_eq_true'] at lacks
    rw [complete field member lacks.1] at lacks
    cases lacks.2
  have opened : ∃ text, utf8 (chars (.object members)) ++ rest = 0x7B :: text ∧
      Reader.members (r.member depth) (text.length + 1) true r.blank text =
        (.ok last, 0x7D :: rest) := by
    cases fills with
    | nil d =>
        refine ⟨0x7D :: rest, rfl, ?_⟩
        rw [Reader.members, bind_run, hasMember_close, follow_ok]
        rfl
    | @cons key value field set others d last known fresh reads fills =>
        refine ⟨utf8 (memberChars (key, value)) ++ (utf8 (membersChars others) ++ rest), ?_, ?_⟩
        · rw [utf8_chars_object, List.cons_append, List.append_assoc]
        · have enough := length_lt_membersChars others
          refine members_cons known fresh reads ?_ (stops_membersChars others rest)
            (members_run fills ?_ rest)
          · rw [utf8_memberChars]
            exact hasMember_first _
          · simp only [List.length_append]
            omega
  obtain ⟨text, opened, run⟩ := opened
  have body : (do
      let draft ← Reader.members (r.member depth) (← Reader.fuel) true r.blank
      r.checkMissing draft : Reader δ) text = (.ok last, 0x7D :: rest) := by
    rw [bind_run, fuel_run, follow_ok, bind_run, run, follow_ok, checkMissing, whole]
    rfl
  rw [opened]
  apply place_of_ok
  rw [bind_run, token_run rfl, follow_ok]
  simp only [if_true, bind_run, skip_run, follow_ok, List.drop_succ_cons, List.drop_zero]
  rw [bracketed, body]
  simp only [endObject_run]

end Record

/-! ## Texts written by parts -/

theorem toList_intercalate_cons (part : String) (parts : List String) :
    (String.intercalate "," (part :: parts)).toList =
      part.toList ++ parts.flatMap fun other => ',' :: other.toList := by
  induction parts generalizing part with
  | nil => rw [String.intercalate_singleton, List.flatMap_nil, List.append_nil]
  | cons next others ih =>
      rw [String.intercalate_cons_cons, String.toList_append, String.toList_append, ih,
        List.flatMap_cons, List.append_assoc]
      rfl

theorem itemsChars_eq (items : List Json) :
    itemsChars items = (items.flatMap fun j => ',' :: chars j) ++ [']'] := by
  induction items with
  | nil => rfl
  | cons j others ih => rw [itemsChars, ih, List.flatMap_cons, List.append_assoc]; rfl

theorem membersChars_eq (members : List (String × Json)) :
    membersChars members = (members.flatMap fun m => ',' :: memberChars m) ++ ['\x7d'] := by
  induction members with
  | nil => rfl
  | cons m others ih => rw [membersChars, ih, List.flatMap_cons, List.append_assoc]; rfl

/-- The text of an array by those of its items. -/
theorem text_array (items : List Json) :
    "[" ++ String.intercalate "," (items.map text) ++ "]" = (Json.array items).text := by
  apply String.toList_inj.mp
  rw [String.toList_append, String.toList_append, text, String.toList_ofList]
  cases items with
  | nil => rfl
  | cons j others =>
      rw [List.map_cons, toList_intercalate_cons, chars, itemsChars_eq, List.flatMap_map]
      simp [text]

/-- The text of an object by those of its members, in the order in which they are given. -/
theorem orderedText_eq (members : List (String × Json)) :
    orderedText (members.map fun (k, v) => (k, v.text)) = (Json.object members).text := by
  apply String.toList_inj.mp
  rw [orderedText, String.toList_append, String.toList_append, text, String.toList_ofList]
  cases members with
  | nil => rfl
  | cons m others =>
      have written (m : String × Json) :
          memberChars m = stringChars m.1 ++ ':' :: chars m.2 := memberChars.eq_def m
      rw [List.map_cons, List.map_cons, toList_intercalate_cons, chars, membersChars_eq]
      simp [text, written, List.flatMap_map]

theorem readTyped_of_reads {α : Type} {r : Typed α} {j : Json} {a : α}
    (reads : Reader.Reads (r depthLimit) j a) : readTyped r (bytesOf j.text) = .ok a := by
  have run := reads [] Reader.stops_nil
  rw [List.append_nil] at run
  rw [readTyped, text, bytesOf_ofList, Reader.run, bind_run, run, follow_ok]
  rfl

end SearchOperator.Json
