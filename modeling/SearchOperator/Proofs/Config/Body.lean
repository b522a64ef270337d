import SearchOperator.Config.Operation
import SearchOperator.Proofs.Json.Comparison
import SearchOperator.Proofs.Json.RoundTrip

/-!
# Bodies of operations

The bytes that are written for an operation hold its declared document and nothing else, this document
is what an observed one is compared with, and the bytes satisfy themselves. A text and its bytes are
blank by different rules, but whatever the second finds blank the first does too.
-/

namespace SearchOperator

namespace Json

/-- Of the blanks of a body, only the form feed is none of a document. -/
theorem formFeed_of_blank {b : UInt8} (blank : Text.isAsciiBlank b = true)
    (token : Reader.isBlank b = false) : b = 0x0C := by
  simp only [Text.isAsciiBlank, Bool.or_eq_true, beq_iff_eq] at blank
  rcases blank with (((rfl | rfl) | rfl) | rfl) | rfl
  · cases token
  · cases token
  · cases token
  · rfl
  · cases token

/-- Blanks alone hold no document. -/
theorem document_of_blank (depth : Nat) {rest : Bytes} (blank : rest.all Text.isAsciiBlank = true) :
    ∃ fault after, Reader.document depth rest = (.error fault, after) := by
  have token := List.head?_dropWhile_not Reader.isBlank rest
  rw [Reader.document.eq_def, bind_run, Reader.peekToken?_run, follow_ok]
  cases next : (rest.dropWhile Reader.isBlank).head? with
  | none => exact ⟨_, _, rfl⟩
  | some b =>
      rw [next] at token
      have inside : b ∈ rest :=
        (List.dropWhile_sublist Reader.isBlank).mem (List.mem_of_head? next)
      have same : b = 0x0C := formFeed_of_blank (List.all_eq_true.mp blank b inside) token
      subst same
      exact ⟨_, _, rfl⟩

theorem read_of_blank {input : Bytes} (blank : input.all Text.isAsciiBlank = true) (j : Json) :
    read input ≠ .ok j := by
  obtain ⟨fault, after, run⟩ := document_of_blank depthLimit blank
  rw [read, Reader.run, bind_run, run, follow_error]
  intro accepted
  cases accepted

/-- Bytes that hold a document match themselves in full. -/
theorem compareBodies_self {bytes : Bytes} {j : Json} (accepted : read bytes = .ok j) :
    compareBodies bytes bytes = .full := by
  have notBlank : ¬ bytes.all Text.isAsciiBlank = true := fun blank => read_of_blank blank j accepted
  rw [compareBodies]
  simp only [if_neg notBlank, accepted]
  exact compare_self (ordered_of_read accepted)

/-- The only byte of a character that is a blank of ASCII is the character itself, which is blank. -/
theorem isBlank_of_bytes {c : Char}
    (blank : (String.utf8EncodeChar c).all Text.isAsciiBlank = true) : Text.isBlank c = true := by
  have small {b : UInt8} (blank : Text.isAsciiBlank b = true) : b.toNat < 0x80 := by
    simp only [Text.isAsciiBlank, Bool.or_eq_true, beq_iff_eq] at blank
    rcases blank with (((rfl | rfl) | rfl) | rfl) | rfl <;> decide
  by_cases ascii : c.toNat < 0x80
  · have byte : (UInt8.ofNat c.toNat).toNat = c.toNat := by
      rw [UInt8.toNat_ofNat']
      omega
    rw [utf8EncodeChar_of_ascii ascii, List.all_cons, List.all_nil, Bool.and_true] at blank
    simp only [Text.isAsciiBlank, Bool.or_eq_true, beq_iff_eq, ← UInt8.toNat_inj, byte] at blank
    rcases blank with (((same | same) | same) | same) | same <;> (rw [Text.isBlank, same]; rfl)
  · obtain ⟨b, member⟩ := List.exists_mem_of_ne_nil _ (String.utf8EncodeChar_ne_nil)
    have high := high_of_mem_utf8EncodeChar (Nat.le_of_not_lt ascii) member
    have low := small (List.all_eq_true.mp blank b member)
    omega

/-- Bytes that are blanks of ASCII alone are those of a blank text. -/
theorem isBlankText_of_bytes {s : String} (blank : (bytesOf s).all Text.isAsciiBlank = true) :
    Text.isBlankText s = true := by
  rw [← String.ofList_toList (s := s), bytesOf_ofList, utf8, List.all_flatMap] at blank
  rw [Text.isBlankText, List.all_eq_true]
  exact fun c member => isBlank_of_bytes (List.all_eq_true.mp blank c member)

end Json

namespace Operation

/-- An operation declares a document exactly if its body is blank or holds one. -/
theorem exists_desired_iff {op : Operation} :
    (∃ document, op.desired = .ok document) ↔
      Text.isBlankText op.body = true ∨ ∃ document, Json.ofText op.body = .ok document := by
  rw [desired]
  split
  · rename_i blank
    simp [blank]
  · rename_i written
    cases Json.ofText op.body with
    | error fault => simp [written]
    | ok document => simp

theorem desired_eq_error {op : Operation} {e : Error} : op.desired = .error e ↔
    ∃ fault, Text.isBlankText op.body = false ∧ Json.ofText op.body = .error fault ∧
      e = .serialization
        ("invalid body for " ++ op.url ++ ": " ++ fault.text (Json.bytesOf op.body))
        (some "ConfigOperation") := by
  rw [desired]
  split
  · rename_i blank
    simp [blank]
  · rename_i written
    rw [Bool.not_eq_true] at written
    cases Json.ofText op.body with
    | error fault =>
        constructor
        · rintro ⟨⟩
          exact ⟨fault, written, rfl, rfl⟩
        · rintro ⟨other, -, same, rfl⟩
          cases same
          rfl
    | ok document => simp

/-- The bytes that are written hold the declared document. -/
theorem read_desiredBytes {op : Operation} {j : Json} (declared : op.desired = .ok j) :
    Json.read op.desiredBytes = .ok j := by
  rw [desired] at declared
  rw [desiredBytes]
  split at declared
  · rename_i blank
    cases declared
    have written : (Json.object []).text = emptyObject := rfl
    rw [if_pos blank, ← written]
    exact Json.read_text ⟨List.Pairwise.nil, trivial⟩ trivial
  · rename_i blank
    rw [if_neg blank]
    split at declared
    · rename_i document accepted
      cases declared
      exact accepted
    · cases declared

/-- The bytes that are written hold no other document. -/
theorem read_desiredBytes_iff {op : Operation} {j : Json} :
    Json.read op.desiredBytes = .ok j ↔ op.desired = .ok j := by
  constructor
  · intro read
    cases declared : op.desired with
    | ok document =>
        cases (read_desiredBytes declared).symm.trans read
        rfl
    | error e =>
        obtain ⟨fault, written, unread, -⟩ := desired_eq_error.mp declared
        rw [desiredBytes, if_neg (Bool.eq_false_iff.mp written)] at read
        cases unread.symm.trans read
  · exact read_desiredBytes

/-- The bytes that are written are no blanks. -/
theorem desiredBytes_not_blank (op : Operation) :
    ¬ op.desiredBytes.all Text.isAsciiBlank = true := by
  rw [desiredBytes]
  split
  · decide
  · rename_i written
    exact fun blank => written (Json.isBlankText_of_bytes blank)

/-- An observed body is compared with the bytes that are written as its document is compared with the
declared one. If there is none of either, nothing matches. -/
theorem compareBodies_eq (op : Operation) (observed : Bytes) :
    compareBodies observed op.desiredBytes =
      match Json.read observed, op.desired with
      | .ok o, .ok d => Json.compare o d
      | _, _ => .none := by
  rw [compareBodies]
  simp only [if_neg op.desiredBytes_not_blank]
  cases declared : op.desired with
  | ok d =>
      rw [read_desiredBytes declared]
      cases Json.read observed with
      | ok o => rfl
      | error fault => rfl
  | error e =>
      cases read : Json.read op.desiredBytes with
      | ok j => cases declared.symm.trans (read_desiredBytes_iff.mp read)
      | error fault =>
          cases Json.read observed with
          | ok o => rfl
          | error fault => rfl

/-- An observed document is compared with the declared one. -/
theorem compareBodies_desiredBytes {op : Operation} {observed : Bytes} {o d : Json}
    (read : Json.read observed = .ok o) (declared : op.desired = .ok d) :
    compareBodies observed op.desiredBytes = Json.compare o d := by
  rw [compareBodies_eq, read, declared]

end Operation

end SearchOperator
