import SearchOperator.Proofs.Json.Alike
import SearchOperator.Proofs.Json.Numbers
import SearchOperator.Proofs.Json.Ordered

/-!
# Documents read back

The text of an ordered document that nests no deeper than the reader goes reads back as the
document, up to the values of floats. Without floats it reads back as the very document.
-/

namespace SearchOperator.Json

/-! ## The first byte of a document -/

open Reader

/-- A byte that opens a document is neither a blank nor the end of an array. -/
def Opens (b : UInt8) : Prop := isBlank b = false ∧ b ≠ 0x5D

theorem opens_of_isDigit {b : UInt8} (digit : isDigit b = true) : Opens b := by
  refine ⟨?_, ?_⟩
  · rw [isBlank, Bool.eq_false_iff]
    intro blank
    simp only [Bool.or_eq_true, beq_iff_eq] at blank
    rcases blank with ((rfl | rfl) | rfl) | rfl <;> cases digit
  · rintro rfl
    cases digit

theorem utf8_toDigits_head (n : Nat) :
    ∃ b t, utf8 (Nat.toDigits 10 n) = b :: t ∧ isDigit b = true := by
  cases digits : Nat.toDigits 10 n with
  | nil => exact absurd digits Nat.toDigits_ne_nil
  | cons c others =>
      have digit : c.isDigit = true :=
        Nat.isDigit_of_mem_toDigits (b := 10) (n := n) (by decide) (by decide) (by rw [digits]; simp)
      obtain ⟨b, coded, isDigit, -⟩ := utf8EncodeChar_of_isDigit digit
      exact ⟨b, utf8 others, by rw [utf8_cons, coded]; rfl, isDigit⟩

/-- The text of a float opens with a digit. -/
theorem isFloatText_head {cs : List Char} (written : IsFloatText cs) :
    ∃ b t, utf8 cs = b :: t ∧ isDigit b = true := by
  obtain ⟨c, others, rfl, first⟩ := written.1
  obtain ⟨b, coded, digit, -⟩ := utf8EncodeChar_of_isDigit first
  exact ⟨b, utf8 others, by rw [utf8_cons, coded]; rfl, digit⟩

theorem utf8_minus (cs : List Char) : utf8 ('-' :: cs) = 0x2D :: utf8 cs := rfl

theorem ne_of_isDigit {b c : UInt8} (digit : isDigit b = true) (other : isDigit c = false) :
    b ≠ c := by
  rintro rfl
  rw [digit] at other
  cases other

/-- No number opens as null does. -/
theorem utf8_numberChars_head (n : Number) :
    ∃ b t, utf8 (numberChars n) = b :: t ∧ Opens b ∧ b ≠ 0x6E := by
  have digits {b : UInt8} (digit : isDigit b = true) : Opens b ∧ b ≠ 0x6E :=
    ⟨opens_of_isDigit digit, ne_of_isDigit digit rfl⟩
  have minus : Opens 0x2D ∧ (0x2D : UInt8) ≠ 0x6E := ⟨⟨rfl, by decide⟩, by decide⟩
  cases n with
  | integer n =>
      rw [numberChars, utf8_toString]
      split
      · exact ⟨0x2D, _, rfl, minus⟩
      · obtain ⟨b, t, written, digit⟩ := utf8_toDigits_head n.val.natAbs
        exact ⟨b, t, written, digits digit⟩
  | float x =>
      obtain ⟨body, written, text⟩ := toList_text x
      rw [numberChars, text]
      split
      · exact ⟨0x2D, _, utf8_minus body, minus⟩
      · obtain ⟨b, t, head, digit⟩ := isFloatText_head written
        exact ⟨b, t, head, digits digit⟩

/-- Only null opens as null does. -/
theorem utf8_chars_head_of_ne {j : Json} (there : j ≠ .null) :
    ∃ b t, utf8 (chars j) = b :: t ∧ Opens b ∧ b ≠ 0x6E := by
  cases j with
  | null => exact absurd rfl there
  | bool b =>
      cases b with
      | true => exact ⟨0x74, _, rfl, ⟨rfl, by decide⟩, by decide⟩
      | false => exact ⟨0x66, _, rfl, ⟨rfl, by decide⟩, by decide⟩
  | number n => exact utf8_numberChars_head n
  | string s => exact ⟨0x22, _, utf8_stringChars s, ⟨rfl, by decide⟩, by decide⟩
  | array items =>
      cases items with
      | nil => exact ⟨0x5B, _, rfl, ⟨rfl, by decide⟩, by decide⟩
      | cons a others => exact ⟨0x5B, _, rfl, ⟨rfl, by decide⟩, by decide⟩
  | object members =>
      cases members with
      | nil => exact ⟨0x7B, _, rfl, ⟨rfl, by decide⟩, by decide⟩
      | cons m others => exact ⟨0x7B, _, rfl, ⟨rfl, by decide⟩, by decide⟩

theorem utf8_chars_head (j : Json) : ∃ b t, utf8 (chars j) = b :: t ∧ Opens b := by
  by_cases null : j = .null
  · rw [null]
    exact ⟨0x6E, _, rfl, rfl, by decide⟩
  · obtain ⟨b, t, written, opens, -⟩ := utf8_chars_head_of_ne null
    exact ⟨b, t, written, opens⟩

/-! ## Scalars -/

theorem document_null (depth : Nat) (rest : Bytes) :
    document depth (utf8 (chars .null) ++ rest) = (.ok .null, rest) := by
  rw [document.eq_def]
  rfl

theorem document_bool (depth : Nat) (b : Bool) (rest : Bytes) :
    document depth (utf8 (chars (.bool b)) ++ rest) = (.ok (.bool b), rest) := by
  rw [document.eq_def]
  cases b with
  | true => rfl
  | false => rfl

theorem document_string (depth : Nat) (s : String) (rest : Bytes) :
    document depth (utf8 (chars (.string s)) ++ rest) = (.ok (.string s), rest) := by
  rw [chars, utf8_stringChars, List.cons_append, List.append_assoc, List.singleton_append,
    document.eq_def, bind_run, peekToken?_cons rfl, follow_ok]
  show (do skip; return .string (← restOfString) : Reader Json) _ = _
  simp only [bind_run, skip_run, follow_ok, List.drop_succ_cons, List.drop_zero,
    restOfString_escaped, pure_run]

/-- A document that opens with a minus sign is a negative number. -/
theorem document_of_minus (depth : Nat) (rest : Bytes) :
    document depth (0x2D :: rest) =
      (do return .number (← numberAfterSign true) : Reader Json) rest := by
  rw [document.eq_def, bind_run, peekToken?_cons rfl, follow_ok]
  show (do skip; return .number (← numberAfterSign true) : Reader Json) _ = _
  rw [bind_run, skip_run, follow_ok]
  rfl

/-- A document that opens with a digit is a number. -/
theorem document_of_isDigit (depth : Nat) {b : UInt8} (digit : isDigit b = true) (rest : Bytes) :
    document depth (b :: rest) =
      (do return .number (← numberAfterSign false) : Reader Json) (b :: rest) := by
  have other : ∀ c, isDigit c = false → b ≠ c := fun _ => ne_of_isDigit digit
  rw [document.eq_def, bind_run, peekToken?_cons (opens_of_isDigit digit).1, follow_ok]
  simp only [if_neg (other 0x6E rfl), if_neg (other 0x74 rfl), if_neg (other 0x66 rfl),
    if_neg (other 0x2D rfl), digit, if_true]

theorem document_integer (depth : Nat) (n : WordInt) {rest : Bytes} (stop : Stops rest) :
    document depth (utf8 (chars (.number (.integer n))) ++ rest) =
      (.ok (.number (.integer n)), rest) := by
  have low := n.low
  have high := n.high
  have small : n.val.natAbs < 0x10000000000000000 := by omega
  have whole := wholeNumber_natAbs n rest
  rw [chars, numberChars, utf8_toString]
  by_cases negative : n.val < 0
  · rw [decide_eq_true negative] at whole
    rw [if_pos negative, List.cons_append, document_of_minus, bind_run,
      numberAfterSign_toDigits true small stop, whole, follow_ok, pure_run]
  · obtain ⟨b, t, digits, digit⟩ := utf8_toDigits_head n.val.natAbs
    rw [decide_eq_false negative] at whole
    rw [if_neg negative, digits, List.cons_append, document_of_isDigit depth digit,
      ← List.cons_append, ← digits, bind_run, numberAfterSign_toDigits false small stop, whole,
      follow_ok, pure_run]

/-- A float that was written is read as a float. -/
theorem document_float (depth : Nat) (x : Binary64) {rest : Bytes} (stop : Stops rest) :
    ∃ y, document depth (utf8 (chars (.number (.float x))) ++ rest) =
      (.ok (.number (.float y)), rest) := by
  obtain ⟨body, written, text⟩ := toList_text x
  obtain ⟨b, t, head, digit⟩ := isFloatText_head written
  obtain ⟨-, significand, exponent, within, run⟩ := written
  rw [chars, numberChars, text]
  by_cases negative : x.negative = true
  · obtain ⟨y, read⟩ := scaled_run true within rest
    refine ⟨y, ?_⟩
    rw [if_pos negative, utf8_minus, List.cons_append, document_of_minus, bind_run,
      run true rest stop, read, follow_ok, pure_run]
  · obtain ⟨y, read⟩ := scaled_run false within rest
    refine ⟨y, ?_⟩
    rw [if_neg negative, head, List.cons_append, document_of_isDigit depth digit,
      ← List.cons_append, ← head, bind_run, run false rest stop, read, follow_ok, pure_run]

/-! ## Parts of arrays and objects -/

theorem utf8_chars_array (a : Json) (as : List Json) :
    utf8 (chars (.array (a :: as))) = 0x5B :: (utf8 (chars a) ++ utf8 (itemsChars as)) := by
  rw [chars, utf8_cons, utf8_append]
  rfl

theorem utf8_itemsChars_cons (a : Json) (as : List Json) :
    utf8 (itemsChars (a :: as)) = 0x2C :: (utf8 (chars a) ++ utf8 (itemsChars as)) := by
  rw [itemsChars, utf8_cons, utf8_append]
  rfl

theorem utf8_memberChars (key : String) (value : Json) :
    utf8 (memberChars (key, value)) =
      0x22 :: (utf8 (key.toList.flatMap escapeChar) ++ 0x22 :: 0x3A :: utf8 (chars value)) := by
  rw [memberChars, utf8_append, utf8_stringChars, utf8_cons, List.cons_append, List.append_assoc]
  rfl

theorem utf8_chars_object (m : String × Json) (ms : List (String × Json)) :
    utf8 (chars (.object (m :: ms))) = 0x7B :: (utf8 (memberChars m) ++ utf8 (membersChars ms)) := by
  rw [chars, utf8_cons, utf8_append]
  rfl

theorem utf8_membersChars_cons (m : String × Json) (ms : List (String × Json)) :
    utf8 (membersChars (m :: ms)) = 0x2C :: (utf8 (memberChars m) ++ utf8 (membersChars ms)) := by
  rw [membersChars, utf8_cons, utf8_append]
  rfl

theorem stops_itemsChars (items : List Json) (rest : Bytes) :
    Stops (utf8 (itemsChars items) ++ rest) := by
  cases items with
  | nil => exact stops_cons (by decide)
  | cons a others =>
      rw [utf8_itemsChars_cons, List.cons_append]
      exact stops_cons (by decide)

theorem stops_membersChars (members : List (String × Json)) (rest : Bytes) :
    Stops (utf8 (membersChars members) ++ rest) := by
  cases members with
  | nil => exact stops_cons (by decide)
  | cons m others =>
      rw [utf8_membersChars_cons, List.cons_append]
      exact stops_cons (by decide)

/-- Each item takes a byte at least. -/
theorem length_lt_itemsChars (items : List Json) :
    items.length < (utf8 (itemsChars items)).length := by
  induction items with
  | nil => decide
  | cons a others ih =>
      rw [utf8_itemsChars_cons, List.length_cons, List.length_cons, List.length_append]
      omega

/-- Each member takes a byte at least. -/
theorem length_lt_membersChars (members : List (String × Json)) :
    members.length < (utf8 (membersChars members)).length := by
  induction members with
  | nil => decide
  | cons m others ih =>
      rw [utf8_membersChars_cons, List.length_cons, List.length_cons, List.length_append]
      omega

/-- Read the value of a key and put it to what was read before. -/
def putMember {σ : Type} (put : String → Json → σ → σ) (depth : Nat) (key : String) (s : σ) :
    Reader σ := do
  colon
  return put key (← document depth) s

/-- What is read of members once each was put to what was read before. -/
def PutAll {σ : Type} (put : String → Json → σ → σ) (members : List (String × Json)) (s t : σ) :
    Prop :=
  ∃ others, AlikeMembers members others ∧ t = others.foldl (fun s m => put m.1 m.2 s) s

/-- Ordered members are put into an object in their order. -/
theorem alike_of_putAll {members others : List (String × Json)} (sorted : Entries.Sorted members)
    (put : PutAll Entries.insert members [] others) : AlikeMembers members others := by
  obtain ⟨read, alike, rfl⟩ := put
  have order : Entries.Sorted read := Entries.sorted_of_keys (keys_of_alike alike) sorted
  rw [Entries.foldl_insert_of_sorted [] read order]
  exact alike

/-! ## Documents -/

/-- A document that opens with a bracket is an array of the items up to the closing one. -/
theorem takes_array {sure : Prop} {depth : Nat} {items : List Json} {text rest : Bytes}
    (inside : Takes sure (Reader.items (document depth) (text.length + 1) true) text (0x5D :: rest)
      (AlikeItems items)) :
    Takes sure (document (depth + 1)) (0x5B :: text) rest (Alike (.array items)) := by
  have body : Takes sure (do return .array (← Reader.items (document depth) (← fuel) true))
      text (0x5D :: rest) (Alike (.array items)) :=
    takes_after (fuel_run text)
      (takes_bind inside fun others alike => takes_ok (pure_run _ _) alike)
  rw [document.eq_def]
  exact takes_after (peekToken?_cons rfl _)
    (takes_after (skip_run _) (takes_bracketed body (endArray_run rest)))

/-- A document that opens with a brace is an object of the members up to the closing one. -/
theorem takes_object {sure : Prop} {depth : Nat} {members : List (String × Json)}
    (sorted : Entries.Sorted members) {text rest : Bytes}
    (inside : Takes sure (Reader.members (putMember Entries.insert depth) (text.length + 1) true [])
      text (0x7D :: rest) (PutAll Entries.insert members [])) :
    Takes sure (document (depth + 1)) (0x7B :: text) rest (Alike (.object members)) := by
  have body : Takes sure
      (do return .object (← Reader.members (putMember Entries.insert depth) (← fuel) true []))
      text (0x7D :: rest) (Alike (.object members)) :=
    takes_after (fuel_run text) (takes_bind inside fun others put =>
      takes_ok (pure_run _ _) (alike_of_putAll sorted put))
  rw [document.eq_def]
  exact takes_after (peekToken?_cons rfl _)
    (takes_after (skip_run _) (takes_bracketed body (endObject_run rest)))

theorem document_tooDeep {b : UInt8} (bracket : b = 0x5B ∨ b = 0x7B) (text : Bytes) :
    ∃ fault after, document 0 (b :: text) = (.error fault, after) := by
  rw [document.eq_def]
  rcases bracket with rfl | rfl
  · exact ⟨_, _, rfl⟩
  · exact ⟨_, _, rfl⟩

/-- A member is read by its value, once its key was. -/
theorem takes_putMember {σ : Type} {put : String → Json → σ → σ} {sure : Prop} {depth : Nat}
    {key : String} {value : Json} {text rest : Bytes} (s : σ)
    (inside : Takes sure (document depth) text rest (Alike value)) :
    Takes sure (putMember put depth key s) (0x3A :: text) rest
      fun t => ∃ other, Alike value other ∧ t = put key other s :=
  takes_after (colon_run text)
    (takes_bind inside fun other alike => takes_ok (pure_run _ _) ⟨other, alike, rfl⟩)

/-- An item and those after it are read if another item is announced. -/
theorem takes_itemsCons {depth fuel : Nat} {first : Bool} {a : Json} {as : List Json}
    {input start between rest : Bytes} (more : hasItem first input = (.ok true, start))
    (one : Takes (Nests a depth) (document depth) start between (Alike a))
    (others : Takes (NestsItems as depth) (Reader.items (document depth) fuel false) between rest
      (AlikeItems as)) :
    Takes (NestsItems (a :: as) depth) (Reader.items (document depth) (fuel + 1) first) input rest
      (AlikeItems (a :: as)) := by
  have head : NestsItems (a :: as) depth → Nests a depth := And.left
  have tail : NestsItems (a :: as) depth → NestsItems as depth := And.right
  refine takes_mono ?_ (takes_item more (takes_weaken head one) (takes_weaken tail others))
  rintro read ⟨b, bs, rfl, alike, follow⟩
  exact ⟨alike, follow⟩

/-- A member and those after it are read if another member is announced. -/
theorem takes_membersCons {σ : Type} {put : String → Json → σ → σ} {depth fuel : Nat}
    {first : Bool} {key : String} {value : Json} {ms : List (String × Json)} {s : σ}
    {input text between rest : Bytes}
    (more : hasMember first input =
      (.ok true, 0x22 :: (utf8 (key.toList.flatMap escapeChar) ++ 0x22 :: 0x3A :: text)))
    (one : Takes (Nests value depth) (document depth) text between (Alike value))
    (others : ∀ t, Takes (NestsMembers ms depth)
      (Reader.members (putMember put depth) fuel false t) between rest (PutAll put ms t)) :
    Takes (NestsMembers ((key, value) :: ms) depth)
      (Reader.members (putMember put depth) (fuel + 1) first s) input rest
      (PutAll put ((key, value) :: ms) s) := by
  have head : NestsMembers ((key, value) :: ms) depth → Nests value depth := And.left
  have tail : NestsMembers ((key, value) :: ms) depth → NestsMembers ms depth := And.right
  refine takes_member more (restOfString_escaped key _)
    (takes_weaken head (takes_putMember s one)) ?_
  rintro t ⟨other, alike, rfl⟩
  refine takes_mono ?_ (takes_weaken tail (others _))
  rintro u ⟨read, follow, rfl⟩
  exact ⟨(key, other) :: read, ⟨⟨rfl, alike⟩, follow⟩, rfl⟩

/-- The members of an object are read if the value of the first and all others are. -/
theorem takes_firstMember {σ : Type} {put : String → Json → σ → σ} {depth : Nat} {key : String}
    {value : Json} {ms : List (String × Json)} {rest : Bytes}
    (one : Takes (Nests value depth) (document depth)
      (utf8 (chars value) ++ (utf8 (membersChars ms) ++ rest)) (utf8 (membersChars ms) ++ rest)
      (Alike value))
    (others : ∀ fuel, ms.length < fuel → ∀ t, Takes (NestsMembers ms depth)
      (Reader.members (putMember put depth) fuel false t) (utf8 (membersChars ms) ++ rest)
      (0x7D :: rest) (PutAll put ms t)) (s : σ) :
    Takes (NestsMembers ((key, value) :: ms) depth)
      (Reader.members (putMember put depth)
        ((utf8 (memberChars (key, value)) ++ (utf8 (membersChars ms) ++ rest)).length + 1) true s)
      (utf8 (memberChars (key, value)) ++ (utf8 (membersChars ms) ++ rest)) (0x7D :: rest)
      (PutAll put ((key, value) :: ms) s) := by
  have enough := length_lt_membersChars ms
  rw [utf8_memberChars]
  simp only [List.cons_append, List.append_assoc]
  refine takes_membersCons (hasMember_first _) one fun t => others _ ?_ t
  simp only [List.length_append, List.length_cons]
  omega

mutual

/-- The text of an ordered document is read as a document like it, unless it nests too deep. -/
theorem takes_document : (j : Json) → Ordered j → (depth : Nat) → (rest : Bytes) → Stops rest →
    Takes (Nests j depth) (document depth) (utf8 (chars j) ++ rest) rest (Alike j)
  | .null, _, depth, rest, _ => takes_ok (document_null depth rest) trivial
  | .bool b, _, depth, rest, _ => takes_ok (document_bool depth b rest) rfl
  | .number (.integer n), _, depth, rest, stop => takes_ok (document_integer depth n stop) rfl
  | .number (.float x), _, depth, rest, stop => by
      obtain ⟨y, read⟩ := document_float depth x stop
      exact takes_ok read trivial
  | .string s, _, depth, rest, _ => takes_ok (document_string depth s rest) rfl
  | .array [], _, 0, rest, _ => by
      obtain ⟨fault, after, failed⟩ := document_tooDeep (.inl rfl) (0x5D :: rest)
      exact takes_error id failed
  | .array (a :: as), _, 0, rest, _ => by
      obtain ⟨fault, after, failed⟩ := document_tooDeep (.inl rfl)
        (utf8 (chars a) ++ utf8 (itemsChars as) ++ rest)
      rw [utf8_chars_array]
      exact takes_error id failed
  | .array [], _, depth + 1, rest, _ => by
      refine takes_array (takes_mono ?_ (takes_noItem _ (hasItem_close true rest)))
      rintro others rfl
      trivial
  | .array (a :: as), ordered, depth + 1, rest, _ => by
      obtain ⟨b, t, head, token, other⟩ := utf8_chars_head a
      have enough := length_lt_itemsChars as
      have one := takes_document a ordered.1 depth _ (stops_itemsChars as rest)
      rw [utf8_chars_array, List.cons_append, List.append_assoc]
      refine takes_array (takes_itemsCons ?_ one ?_)
      · rw [head, List.cons_append]
        exact hasItem_first token other _
      · refine takes_items as ordered.2 depth _ ?_ rest
        simp only [List.length_append]
        omega
  | .object [], _, 0, rest, _ => by
      obtain ⟨fault, after, failed⟩ := document_tooDeep (.inr rfl) (0x7D :: rest)
      exact takes_error id failed
  | .object (m :: ms), _, 0, rest, _ => by
      obtain ⟨fault, after, failed⟩ := document_tooDeep (.inr rfl)
        (utf8 (memberChars m) ++ utf8 (membersChars ms) ++ rest)
      rw [utf8_chars_object]
      exact takes_error id failed
  | .object [], ordered, depth + 1, rest, _ => by
      refine takes_object ordered.1 (takes_mono ?_ (takes_noMember _ [] (hasMember_close true rest)))
      rintro others rfl
      exact ⟨[], trivial, rfl⟩
  | .object ((key, value) :: ms), ordered, depth + 1, rest, _ => by
      obtain ⟨sorted, one, others⟩ := ordered
      have read := takes_document value one depth _ (stops_membersChars ms rest)
      rw [utf8_chars_object, List.cons_append, List.append_assoc]
      exact takes_object sorted (takes_firstMember read
        (fun fuel enough => takes_members ms others depth fuel enough rest Entries.insert) [])
termination_by structural j => j

theorem takes_items : (items : List Json) → OrderedItems items → (depth fuel : Nat) →
    items.length < fuel → (rest : Bytes) →
      Takes (NestsItems items depth) (Reader.items (document depth) fuel false)
        (utf8 (itemsChars items) ++ rest) (0x5D :: rest) (AlikeItems items)
  | [], _, depth, fuel + 1, _, rest => by
      refine takes_mono ?_ (takes_noItem fuel (hasItem_close false rest))
      rintro others rfl
      trivial
  | a :: as, ordered, depth, fuel + 1, enough, rest => by
      obtain ⟨b, t, head, token, other⟩ := utf8_chars_head a
      have one := takes_document a ordered.1 depth _ (stops_itemsChars as rest)
      have more := takes_items as ordered.2 depth fuel (Nat.lt_of_succ_lt_succ enough) rest
      refine takes_itemsCons ?_ one more
      rw [utf8_itemsChars_cons, head]
      simp only [List.cons_append, List.append_assoc]
      exact hasItem_comma token other _
termination_by structural items => items

theorem takes_members : (ms : List (String × Json)) → OrderedMembers ms → (depth fuel : Nat) →
    ms.length < fuel → (rest : Bytes) → {σ : Type} → (put : String → Json → σ → σ) → (s : σ) →
      Takes (NestsMembers ms depth) (Reader.members (putMember put depth) fuel false s)
        (utf8 (membersChars ms) ++ rest) (0x7D :: rest) (PutAll put ms s)
  | [], _, depth, fuel + 1, _, rest, _, put, s => by
      refine takes_mono ?_ (takes_noMember fuel s (hasMember_close false rest))
      rintro t rfl
      exact ⟨[], trivial, rfl⟩
  | (key, value) :: ms, ordered, depth, fuel + 1, enough, rest, _, put, s => by
      have one := takes_document value ordered.1 depth _ (stops_membersChars ms rest)
      refine takes_membersCons ?_ one fun t =>
        takes_members ms ordered.2 depth fuel (Nat.lt_of_succ_lt_succ enough) rest put t
      rw [utf8_membersChars_cons, utf8_memberChars]
      simp only [List.cons_append, List.append_assoc]
      exact hasMember_comma _
termination_by structural ms => ms

end

/-! ## Dictionaries -/

theorem takes_place {α : Type} {sure : Prop} {r : Reader α} {input rest : Bytes} {P : α → Prop}
    (takes : Takes sure r input rest P) : Takes sure (place r) input rest P := by
  rcases takes with ⟨a, run, holds⟩ | ⟨unsure, fault, after, run⟩
  · exact takes_ok (by simp only [place, run]) holds
  · cases fault with
    | placed kind position => exact takes_error unsure (by simp only [place, run]; rfl)
    | pending message => exact takes_error unsure (by simp only [place, run]; rfl)

theorem entries_foldl_insert (members : List (String × Json)) (d : Dictionary Json) :
    (members.foldl (fun d m => d.insert m.1 m.2) d).entries =
      members.foldl (fun acc m => Entries.insert m.1 m.2 acc) d.entries := by
  induction members generalizing d with
  | nil => rfl
  | cons m others ih => rw [List.foldl_cons, List.foldl_cons, ih]; rfl

theorem takes_objectMembers {σ : Type} (put : String → Json → σ → σ) (s : σ)
    {members : List (String × Json)} (ordered : OrderedMembers members) (depth : Nat)
    (rest : Bytes) :
    ∃ text, utf8 (chars (.object members)) ++ rest = 0x7B :: text ∧
      Takes (NestsMembers members depth)
        (Reader.members (putMember put depth) (text.length + 1) true s) text (0x7D :: rest)
        (PutAll put members s) := by
  cases members with
  | nil =>
      refine ⟨0x7D :: rest, rfl, takes_mono ?_ (takes_noMember _ s (hasMember_close true rest))⟩
      rintro t rfl
      exact ⟨[], trivial, rfl⟩
  | cons m ms =>
      obtain ⟨key, value⟩ := m
      obtain ⟨one, others⟩ := ordered
      have read := takes_document value one depth _ (stops_membersChars ms rest)
      refine ⟨utf8 (memberChars (key, value)) ++ (utf8 (membersChars ms) ++ rest), ?_, ?_⟩
      · rw [utf8_chars_object, List.cons_append, List.append_assoc]
      · exact takes_firstMember read
          (fun fuel enough => takes_members ms others depth fuel enough rest put) s

/-- The text of an ordered dictionary is read as a dictionary like it, unless it nests too deep. -/
theorem takes_dictionaryOf (d : Dictionary Json) (ordered : OrderedMembers d.entries) (depth : Nat)
    (rest : Bytes) :
    Takes (NestsMembers d.entries depth) (dictionaryOf document (depth + 1))
      (utf8 (chars (.object d.entries)) ++ rest) rest
      fun e => AlikeMembers d.entries e.entries := by
  obtain ⟨text, opened, inside⟩ := takes_objectMembers
    (fun key value (e : Dictionary Json) => e.insert key value) ∅ ordered depth rest
  have alike : ∀ e : Dictionary Json, PutAll (fun key value e => e.insert key value) d.entries ∅ e →
      AlikeMembers d.entries e.entries := by
    rintro e ⟨others, alike, rfl⟩
    exact alike_of_putAll d.sorted ⟨others, alike, entries_foldl_insert others ∅⟩
  have body : Takes (NestsMembers d.entries depth)
      (do
        let enough ← fuel
        Reader.members (putMember (fun key value (e : Dictionary Json) => e.insert key value) depth)
          enough true ∅)
      text (0x7D :: rest) fun e => AlikeMembers d.entries e.entries :=
    takes_after (fuel_run text) (takes_mono alike inside)
  rw [opened]
  have opens : token (0x7B :: text) = (.ok 0x7B, 0x7B :: text) := rfl
  refine takes_place (takes_after opens ?_)
  exact takes_after (skip_run _) (takes_bracketed body (endObject_run rest))

/-- An ordered document without floats that nests no deeper than documents are read is read back
from its text as it was. -/
theorem read_text {j : Json} (ordered : j.Ordered) (steady : j.Steady depthLimit) :
    read (bytesOf j.text) = .ok j := by
  have takes := takes_document j ordered depthLimit [] stops_nil
  rw [List.append_nil] at takes
  rw [read, text, bytesOf_ofList]
  rcases run_of_takes takes with ⟨k, accepted, alike⟩ | ⟨unsteady, -⟩
  · rw [accepted, eq_of_alike j k depthLimit steady alike]
  · exact absurd (nests_of_steady j depthLimit steady) unsteady

end SearchOperator.Json
