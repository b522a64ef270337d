import SearchOperator.Json.Document
import SearchOperator.Proofs.Step

/-!
# Laws of readers

What the basic readers do to an input, how a property of what they take is carried from the parts of
a reader to the whole, and how much of an input a reader takes.
-/

namespace SearchOperator.Json.Reader

/-! ## Runs -/

@[simp]
theorem fail_run {α : Type} (kind : FaultKind) (rest : Bytes) :
    (fail kind : Reader α) rest = (.error (.placed kind rest.length), rest) := rfl

@[simp]
theorem failNext_run {α : Type} (kind : FaultKind) (rest : Bytes) :
    (failNext kind : Reader α) rest = (.error (.placed kind (rest.length - 1)), rest) := rfl

@[simp]
theorem peek?_run (rest : Bytes) : peek? rest = (.ok rest.head?, rest) := rfl

@[simp]
theorem skip_run (rest : Bytes) : skip rest = (.ok (), rest.drop 1) := rfl

theorem peekToken?_run (rest : Bytes) :
    peekToken? rest = (.ok (rest.dropWhile isBlank).head?, rest.dropWhile isBlank) := rfl

@[simp]
theorem get_run (rest : Bytes) : (get : Reader Bytes) rest = (.ok rest, rest) := rfl

@[simp]
theorem set_run (after rest : Bytes) : (set after : Reader PUnit) rest = (.ok ⟨⟩, after) := rfl

/-- A byte that is no blank is the next token. -/
theorem peekToken?_cons {b : UInt8} (token : isBlank b = false) (rest : Bytes) :
    peekToken? (b :: rest) = (.ok (some b), b :: rest) := by
  rw [peekToken?_run, List.dropWhile_cons_of_neg (by simp [token])]
  rfl

/-! ## Runs at the parts of a list -/

theorem hasItem_close (first : Bool) (rest : Bytes) :
    hasItem first (0x5D :: rest) = (.ok false, 0x5D :: rest) := by
  rw [hasItem, bind_run, peekToken?_cons rfl, follow_ok]
  rfl

theorem hasItem_first {b : UInt8} (token : isBlank b = false) (other : b ≠ 0x5D) (rest : Bytes) :
    hasItem true (b :: rest) = (.ok true, b :: rest) := by
  rw [hasItem, bind_run, peekToken?_cons token, follow_ok]
  simp only [if_neg other, if_true, pure_run]

theorem hasItem_comma {b : UInt8} (token : isBlank b = false) (other : b ≠ 0x5D) (rest : Bytes) :
    hasItem false (0x2C :: b :: rest) = (.ok true, b :: rest) := by
  have next : ¬ (0x2C : UInt8) = 0x5D := by decide
  rw [hasItem, bind_run, peekToken?_cons rfl, follow_ok]
  simp only [if_neg next, Bool.false_eq_true, if_false, if_true, bind_run, skip_run, follow_ok,
    List.drop_succ_cons, List.drop_zero, peekToken?_cons token, if_neg other, pure_run]

theorem hasMember_close (first : Bool) (rest : Bytes) :
    hasMember first (0x7D :: rest) = (.ok false, 0x7D :: rest) := by
  rw [hasMember, bind_run, peekToken?_cons rfl, follow_ok]
  rfl

theorem hasMember_first (rest : Bytes) :
    hasMember true (0x22 :: rest) = (.ok true, 0x22 :: rest) := by
  rw [hasMember, bind_run, peekToken?_cons rfl, follow_ok]
  rfl

theorem hasMember_comma (rest : Bytes) :
    hasMember false (0x2C :: 0x22 :: rest) = (.ok true, 0x22 :: rest) := by
  rw [hasMember, bind_run, peekToken?_cons rfl, follow_ok]
  rfl

theorem colon_run (rest : Bytes) : colon (0x3A :: rest) = (.ok (), rest) := by
  rw [colon, bind_run, peekToken?_cons rfl, follow_ok]
  rfl

theorem endArray_run (rest : Bytes) : endArray (0x5D :: rest) = (.ok (), rest) := by
  rw [endArray, bind_run, peekToken?_cons rfl, follow_ok]
  rfl

theorem endObject_run (rest : Bytes) : endObject (0x7D :: rest) = (.ok (), rest) := by
  rw [endObject, bind_run, peekToken?_cons rfl, follow_ok]
  rfl

theorem fuel_run (rest : Bytes) : fuel rest = (.ok (rest.length + 1), rest) := rfl

/-! ## Properties of what is taken -/

variable {α β : Type}

/-- Whatever a reader takes from an input has a property. -/
def Yields (r : Reader α) (P : α → Prop) : Prop :=
  ∀ (rest : Bytes) (a : α) (after : Bytes), r rest = (.ok a, after) → P a

section

variable {P : α → Prop} {Q : β → Prop}

theorem yields_pure {a : α} (holds : P a) : Yields (pure a) P := by
  rintro rest b after run
  cases run
  exact holds

theorem yields_fail (kind : FaultKind) : Yields (fail kind) P := by
  rintro rest a after run
  cases run

theorem yields_failNext (kind : FaultKind) : Yields (failNext kind) P := by
  rintro rest a after run
  cases run

theorem yields_ite {c : Prop} [Decidable c] {r s : Reader α} (yes : c → Yields r P)
    (no : ¬ c → Yields s P) : Yields (if c then r else s) P := by
  by_cases holds : c
  · rw [if_pos holds]
    exact yes holds
  · rw [if_neg holds]
    exact no holds

theorem yields_bind {r : Reader α} {f : α → Reader β} (first : Yields r P)
    (second : ∀ a, P a → Yields (f a) Q) : Yields (r >>= f) Q := by
  intro rest b after run
  rw [bind_run] at run
  rcases parts : r rest with ⟨result, between⟩
  rw [parts] at run
  cases result with
  | error fault => cases run
  | ok a => exact second a (first rest a between parts) between b after run

/-- What comes after a reader may have a property whatever the reader took. -/
theorem yields_then {r : Reader α} {f : α → Reader β} (second : ∀ a, Yields (f a) Q) :
    Yields (r >>= f) Q :=
  yields_bind (P := fun _ => True) (fun _ _ _ _ => trivial) fun a _ => second a

theorem yields_bracketed {close : Reader Unit} {body : Reader α} (inside : Yields body P) :
    Yields (bracketed close body) P := by
  intro rest a after run
  rw [bracketed] at run
  split at run
  · rename_i b between parts
    split at run
    · cases run
      exact inside rest _ between parts
    · cases run
  · cases run

theorem yields_items {item : Reader α} (each : Yields item P) (fuel : Nat) (first : Bool) :
    Yields (items item fuel first) fun as => ∀ a ∈ as, P a := by
  induction fuel generalizing first with
  | zero => exact yields_fail _
  | succ fuel ih =>
      refine yields_then fun more => ?_
      cases more with
      | false => exact yields_pure (by simp)
      | true =>
          refine yields_bind each fun a holds => yields_bind (ih false) fun as others => ?_
          exact yields_pure (by simpa using ⟨holds, others⟩)

/-- What every member preserves holds after all members. -/
theorem yields_members {σ : Type} {I : σ → Prop} {member : String → σ → Reader σ}
    (each : ∀ key s, I s → Yields (member key s) I) (fuel : Nat) (first : Bool) {s : σ}
    (start : I s) : Yields (members member fuel first s) I := by
  induction fuel generalizing first s with
  | zero => exact yields_fail _
  | succ fuel ih =>
      refine yields_then fun more => ?_
      cases more with
      | false => exact yields_pure start
      | true =>
          refine yields_then fun _ => yields_then fun key => ?_
          exact yields_bind (each key s start) fun t holds => ih false holds

theorem yields_run {r : Reader α} (each : Yields r P) {input : Bytes} {a : α}
    (read : r.run input = .ok a) : P a := by
  rw [Reader.run, bind_run] at read
  cases first : r input with
  | mk result rest =>
      rw [first] at read
      cases result with
      | error fault => cases read
      | ok b =>
          rw [follow_ok, bind_run, peekToken?_run, follow_ok] at read
          cases next : (rest.dropWhile isBlank).head? with
          | some c =>
              rw [next] at read
              cases read
          | none =>
              rw [next] at read
              cases read
              exact each input _ rest first

end

/-! ## How much is taken -/

variable {α β : Type}

/-- Reading an input leaves a rest and gives a value with a property, or it fails. It does not fail
if `sure` holds. -/
def Takes (sure : Prop) (r : Reader α) (input rest : Bytes) (P : α → Prop) : Prop :=
  (∃ a, r input = (.ok a, rest) ∧ P a) ∨ ¬ sure ∧ ∃ fault after, r input = (.error fault, after)

section

variable {sure other : Prop} {P : α → Prop} {Q : β → Prop} {input between rest : Bytes}

theorem takes_ok {r : Reader α} {a : α} (run : r input = (.ok a, rest)) (holds : P a) :
    Takes sure r input rest P :=
  .inl ⟨a, run, holds⟩

theorem takes_error {r : Reader α} {fault : Fault} {after : Bytes} (unsure : ¬ sure)
    (run : r input = (.error fault, after)) : Takes sure r input rest P :=
  .inr ⟨unsure, fault, after, run⟩

theorem takes_weaken {r : Reader α} (implied : other → sure) (takes : Takes sure r input rest P) :
    Takes other r input rest P := by
  rcases takes with read | ⟨unsure, failed⟩
  · exact .inl read
  · exact .inr ⟨fun holds => unsure (implied holds), failed⟩

theorem takes_mono {r : Reader α} {R : α → Prop} (implied : ∀ a, P a → R a)
    (takes : Takes sure r input rest P) : Takes sure r input rest R := by
  rcases takes with ⟨a, run, holds⟩ | failed
  · exact .inl ⟨a, run, implied a holds⟩
  · exact .inr failed

/-- A reader that takes what it should hands the rest on. -/
theorem takes_bind {r : Reader α} {f : α → Reader β} (first : Takes sure r input between P)
    (second : ∀ a, P a → Takes sure (f a) between rest Q) : Takes sure (r >>= f) input rest Q := by
  rcases first with ⟨a, run, holds⟩ | ⟨unsure, fault, after, run⟩
  · rcases second a holds with ⟨b, next, yields⟩ | ⟨unsure, fault, after, next⟩
    · exact takes_ok (by rw [bind_run, run, follow_ok, next]) yields
    · exact takes_error unsure (by rw [bind_run, run, follow_ok, next])
  · exact takes_error unsure (by rw [bind_run, run, follow_error])

/-- A reader whose run is known hands the rest on. -/
theorem takes_after {r : Reader α} {f : α → Reader β} {a : α} (run : r input = (.ok a, between))
    (second : Takes sure (f a) between rest Q) : Takes sure (r >>= f) input rest Q :=
  takes_bind (P := fun b => b = a) (takes_ok run rfl) fun _ same => same ▸ second

/-- Between brackets, the closing one follows what the body takes. -/
theorem takes_bracketed {close : Reader Unit} {body : Reader α}
    (inside : Takes sure body input between P) (closing : close between = (.ok (), rest)) :
    Takes sure (bracketed close body) input rest P := by
  rcases inside with ⟨a, run, holds⟩ | ⟨unsure, fault, after, run⟩
  · refine takes_ok (a := a) ?_ holds
    simp only [bracketed, run, closing]
  · have failed : bracketed close body input = (.error fault, (close after).2) := by
      simp only [bracketed, run]
    exact takes_error unsure failed

theorem takes_noItem {item : Reader α} {first : Bool} (fuel : Nat)
    (close : hasItem first input = (.ok false, rest)) :
    Takes sure (items item (fuel + 1) first) input rest fun as => as = [] := by
  rw [items]
  exact takes_after close (takes_ok (pure_run _ _) rfl)

theorem takes_item {item : Reader α} {first : Bool} {fuel : Nat} {start : Bytes}
    {S : List α → Prop} (more : hasItem first input = (.ok true, start))
    (one : Takes sure item start between P)
    (others : Takes sure (items item fuel false) between rest S) :
    Takes sure (items item (fuel + 1) first) input rest
      fun all => ∃ a as, all = a :: as ∧ P a ∧ S as := by
  rw [items]
  refine takes_after more (takes_bind one fun a holds => takes_bind others fun as follow => ?_)
  exact takes_ok (pure_run _ _) ⟨a, as, rfl, holds, follow⟩

theorem takes_noMember {σ : Type} {member : String → σ → Reader σ} {first : Bool} (fuel : Nat)
    (s : σ) (close : hasMember first input = (.ok false, rest)) :
    Takes sure (members member (fuel + 1) first s) input rest fun t => t = s := by
  rw [members]
  exact takes_after close (takes_ok (pure_run _ _) rfl)

theorem takes_member {σ : Type} {member : String → σ → Reader σ} {first : Bool} {fuel : Nat}
    {s : σ} {key : String} {text start : Bytes} {S T : σ → Prop}
    (more : hasMember first input = (.ok true, 0x22 :: text))
    (named : restOfString text = (.ok key, start))
    (one : Takes sure (member key s) start between S)
    (others : ∀ t, S t → Takes sure (members member fuel false t) between rest T) :
    Takes sure (members member (fuel + 1) first s) input rest T := by
  rw [members]
  refine takes_after more (takes_after (skip_run _) (takes_after named ?_))
  exact takes_bind one others

/-- A whole input is read if nothing of it is left. -/
theorem run_of_takes {r : Reader α} (takes : Takes sure r input [] P) :
    (∃ a, r.run input = .ok a ∧ P a) ∨ ¬ sure ∧ ∃ fault, r.run input = .error fault := by
  rcases takes with ⟨a, read, holds⟩ | ⟨unsure, fault, after, failed⟩
  · refine .inl ⟨a, ?_, holds⟩
    rw [Reader.run, bind_run, read, follow_ok]
    rfl
  · refine .inr ⟨unsure, fault, ?_⟩
    rw [Reader.run, bind_run, failed, follow_error]

end

end SearchOperator.Json.Reader
