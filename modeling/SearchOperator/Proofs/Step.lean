import Mathlib.Control.Monad.Basic
import SearchOperator.Step

/-!
# Running steps

A computation with a state that may fail gives a result and a state. These are the rules by which
the run of a composed computation follows from the runs of its parts, and by which a computation
leaves alone what its parts leave alone.
-/

namespace SearchOperator

/-- A computation that depends on another succeeds only if both do. -/
theorem bind_eq_ok {ε α β : Type} {x : Except ε α} {f : α → Except ε β} {b : β} :
    x >>= f = .ok b ↔ ∃ a, x = .ok a ∧ f a = .ok b := by
  cases x with
  | error e =>
      constructor
      · intro failed
        cases failed
      · rintro ⟨a, failed, -⟩
        cases failed
  | ok a =>
      constructor
      · intro result
        exact ⟨a, rfl, result⟩
      · rintro ⟨other, equal, result⟩
        cases equal
        exact result

/-- A computation that depends on another fails if either of them does. -/
theorem bind_eq_error {ε α β : Type} {x : Except ε α} {f : α → Except ε β} {e : ε} :
    x >>= f = .error e ↔ x = .error e ∨ ∃ a, x = .ok a ∧ f a = .error e := by
  cases x with
  | error other =>
      constructor
      · intro failed
        cases failed
        exact .inl rfl
      · rintro (failed | ⟨a, worked, -⟩)
        · cases failed
          rfl
        · cases worked
  | ok a =>
      constructor
      · intro failed
        exact .inr ⟨a, rfl, failed⟩
      · rintro (failed | ⟨other, equal, failed⟩)
        · cases failed
        · cases equal
          exact failed

section

variable {ε σ α β : Type}

/-- What a computation does with the result of the one before it. -/
def follow (f : α → ExceptT ε (StateM σ) β) : Except ε α × σ → Except ε β × σ
  | (.ok a, s) => f a s
  | (.error e, s) => (.error e, s)

@[simp]
theorem follow_ok (f : α → ExceptT ε (StateM σ) β) (a : α) (s : σ) :
    follow f (.ok a, s) = f a s := rfl

@[simp]
theorem follow_error (f : α → ExceptT ε (StateM σ) β) (e : ε) (s : σ) :
    follow f (.error e, s) = (.error e, s) := rfl

theorem follow_of_ok (f : α → ExceptT ε (StateM σ) β) {ran : Except ε α × σ} {a : α}
    (gives : ran.1 = .ok a) : follow f ran = f a ran.2 := by
  obtain ⟨result, after⟩ := ran
  cases gives
  rfl

theorem bind_run (x : ExceptT ε (StateM σ) α) (f : α → ExceptT ε (StateM σ) β) (s : σ) :
    (x >>= f) s = follow f (x s) := by
  show (match x s with
    | (result, after) => ExceptT.bindCont f result after) = follow f (x s)
  obtain ⟨result, after⟩ := x s
  cases result with
  | error e => rfl
  | ok a => rfl

/-- A composed computation gives a result only if both its parts do. -/
theorem bind_gives {x : ExceptT ε (StateM σ) α} {f : α → ExceptT ε (StateM σ) β} {s : σ} {b : β}
    (gives : ((x >>= f) s).1 = .ok b) : ∃ a, (x s).1 = .ok a ∧ (f a (x s).2).1 = .ok b := by
  rw [bind_run] at gives
  cases ran : x s with
  | mk result after =>
      rw [ran] at gives
      cases result with
      | error e => cases gives
      | ok a => exact ⟨a, rfl, gives⟩

@[simp]
theorem pure_run (a : α) (s : σ) : (pure a : ExceptT ε (StateM σ) α) s = (.ok a, s) := rfl

@[simp]
theorem throw_run (e : ε) (s : σ) :
    (throw e : ExceptT ε (StateM σ) α) s = (.error e, s) := rfl

end

namespace Step

variable {σ α : Type}

@[simp]
theorem act_run (f : StateM σ α) (s : σ) : act f s = (.ok (f s).1, (f s).2) := rfl

@[simp]
theorem attempt_run (x : Step σ α) (s : σ) : attempt x s = (.ok (x s).1, (x s).2) := rfl

theorem ofExcept_run (x : Except Error α) (s : σ) : (ofExcept x : Step σ α) s = (x, s) := by
  cases x with
  | error e => rfl
  | ok a => rfl

end Step

/-! ## What steps leave alone -/

section

variable {ε σ α β γ : Type} {read : σ → γ}

/-- A computation that leaves what is read off its state as it is, whether it fails or not. -/
def Keeps (read : σ → γ) (x : ExceptT ε (StateM σ) α) : Prop := ∀ s, read (x s).2 = read s

theorem keeps_pure (a : α) : Keeps read (pure a : ExceptT ε (StateM σ) α) := fun _ => rfl

theorem keeps_throw (e : ε) : Keeps read (throw e : ExceptT ε (StateM σ) α) := fun _ => rfl

/-- What the second part of a computation keeps is as the first part left it. -/
theorem read_bind {x : ExceptT ε (StateM σ) α} {f : α → ExceptT ε (StateM σ) β} (s : σ)
    (next : ∀ a, (x s).1 = .ok a → Keeps read (f a)) : read ((x >>= f) s).2 = read (x s).2 := by
  rw [bind_run]
  cases ran : x s with
  | mk result after =>
      rw [ran] at next
      cases result with
      | error e => rfl
      | ok a => exact next a rfl after

/-- A computation whose second part changes nothing leaves what its first part leaves. -/
theorem state_bind {x : ExceptT ε (StateM σ) α} {f : α → ExceptT ε (StateM σ) β} (s : σ)
    (idle : ∀ a t, (f a t).2 = t) : ((x >>= f) s).2 = (x s).2 :=
  @read_bind ε σ α β σ id x f s fun a _ => idle a

theorem keeps_bind {x : ExceptT ε (StateM σ) α} {f : α → ExceptT ε (StateM σ) β}
    (first : Keeps read x) (next : ∀ a, Keeps read (f a)) : Keeps read (x >>= f) := fun s =>
  (read_bind s fun a _ => next a).trans (first s)

end

namespace Step

variable {σ α γ : Type} {read : σ → γ}

theorem keeps_act {f : StateM σ α} (kept : ∀ s, read (f s).2 = read s) : Keeps read (act f) := kept

theorem keeps_attempt {x : Step σ α} (kept : Keeps read x) : Keeps read (attempt x) := kept

end Step

/-! ## Relations that composition preserves -/

/-- A relation between steps that composition preserves. -/
structure Step.IsComposable {σ τ : Type} (R : ∀ {α : Type}, Step σ α → Step τ α → Prop) : Prop where
  pure : ∀ {α : Type} (a : α), R (pure a) (pure a)
  throw : ∀ {α : Type} (e : Error), R (throw e : Step σ α) (throw e)
  bind : ∀ {α β : Type} {x : Step σ α} {y : Step τ α} {f : α → Step σ β} {g : α → Step τ β},
    R x y → (∀ a, R (f a) (g a)) → R (x >>= f) (y >>= g)

namespace Step

variable {σ τ α γ : Type} {read : σ → γ}

theorem IsComposable.ofExcept {R : ∀ {α : Type}, Step σ α → Step τ α → Prop}
    (composable : IsComposable R) (x : Except Error α) : R (ofExcept x) (ofExcept x) := by
  cases x with
  | error e => exact composable.throw e
  | ok a => exact composable.pure a

theorem keeps_isComposable (read : σ → γ) : IsComposable fun x (_ : Step σ _) => Keeps read x :=
  ⟨keeps_pure, keeps_throw, keeps_bind⟩

/-- From states that read the same, two steps give the same, and leave states that read the same. -/
def Agree (read : σ → γ) (x y : Step σ α) : Prop :=
  ∀ s t, read s = read t → (x s).1 = (y t).1 ∧ read (x s).2 = read (y t).2

theorem agree_bind {α β : Type} {x y : Step σ α} {f g : α → Step σ β} (first : Agree read x y)
    (next : ∀ a, Agree read (f a) (g a)) : Agree read (x >>= f) (y >>= g) := by
  intro s t same
  obtain ⟨results, after⟩ := first s t same
  rw [bind_run, bind_run]
  cases ranS : x s with
  | mk result s' =>
      cases ranT : y t with
      | mk result' t' =>
          rw [ranS, ranT] at results after
          cases results
          cases result with
          | error e => exact ⟨rfl, after⟩
          | ok a => exact next a s' t' after

theorem agree_isComposable (read : σ → γ) : IsComposable fun x y => Agree read x y :=
  ⟨fun _ _ _ same => ⟨rfl, same⟩, fun _ _ _ same => ⟨rfl, same⟩, agree_bind⟩

/-- A step that takes every state to one that follows it, whether it fails or not. -/
def Moves (follows : σ → σ → Prop) (x : Step σ α) : Prop := ∀ s, follows s (x s).2

theorem moves_bind {α β : Type} {follows : σ → σ → Prop} {x : Step σ α} {f : α → Step σ β}
    (trans : ∀ ⦃s t u⦄, follows s t → follows t u → follows s u) (first : Moves follows x)
    (next : ∀ a, Moves follows (f a)) : Moves follows (x >>= f) := by
  intro s
  have moved := first s
  rw [bind_run]
  cases ran : x s with
  | mk result t =>
      rw [ran] at moved
      cases result with
      | error e => exact moved
      | ok a => exact trans moved (next a t)

theorem moves_isComposable {follows : σ → σ → Prop} (refl : ∀ s, follows s s)
    (trans : ∀ ⦃s t u⦄, follows s t → follows t u → follows s u) :
    IsComposable fun x (_ : Step σ _) => Moves follows x :=
  ⟨fun _ => refl, fun _ => refl, fun first next => moves_bind trans first next⟩

end Step

end SearchOperator
