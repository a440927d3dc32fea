import Mathlib.Data.Nat.Notation
import Mathlib.Tactic.TypeStar

/-!
# What a computation that may fail comes to

`Meets x E Q` says of a computation `x` that it fails only with errors in `E` and returns only
values in `Q`.  `Meets.bind` composes two stages, `Meets.mono` weakens what is said of one; with no
error allowed the computation returns (`Meets.exists_ok`).  `Keeps π x a` is the frame rule for a
computation that goes on from `a`: what it returns looks like `a` under the projection `π`.
`Settles e f` is for recursion cut off at a depth, where it fails with `e`: at every depth that is
large enough it does not.
-/

namespace Outcome

variable {ε α β : Type*} {x : Except ε α} {E E' : ε → Prop} {Q Q' R : α → Prop}

/-- `x` fails only with an error in `E` and returns only a value in `Q`. -/
def Meets (x : Except ε α) (E : ε → Prop) (Q : α → Prop) : Prop :=
  match x with
  | .ok a => Q a
  | .error e => E e

@[simp] theorem meets_ok {a : α} : Meets (.ok a : Except ε α) E Q ↔ Q a := Iff.rfl

@[simp] theorem meets_error {e : ε} : Meets (.error e : Except ε α) E Q ↔ E e := Iff.rfl

theorem Meets.of_ok {a : α} (h : Meets x E Q) (hx : x = .ok a) : Q a := by
  subst hx
  exact h

theorem Meets.of_error {e : ε} (h : Meets x E Q) (hx : x = .error e) : E e := by
  subst hx
  exact h

theorem Meets.mono (h : Meets x E Q) (hE : ∀ e, E e → E' e) (hQ : ∀ a, Q a → Q' a) :
    Meets x E' Q' := by
  cases x with
  | ok a => exact hQ a h
  | error e => exact hE e h

theorem Meets.and (h : Meets x E Q) (h' : Meets x E' Q') : Meets x E fun a => Q a ∧ Q' a := by
  cases x with
  | ok a => exact ⟨h, h'⟩
  | error e => exact h

/-- Two stages in sequence. -/
theorem Meets.bind {ε α β : Type} {x : Except ε α} {f : α → Except ε β} {E : ε → Prop}
    {R : α → Prop} {Q : β → Prop} (hx : Meets x E R) (hf : ∀ a, R a → Meets (f a) E Q) :
    Meets (x >>= f) E Q := by
  cases x with
  | ok a => exact hf a hx
  | error e => exact hx

/-- Where no error is allowed the computation returns. -/
theorem Meets.exists_ok (h : Meets x (fun _ => False) Q) : ∃ a, x = .ok a ∧ Q a := by
  cases x with
  | ok a => exact ⟨a, rfl, h⟩
  | error e => exact h.elim

/-- What `x` returns looks like `a` under `π`. -/
def Keeps {β : Type*} (π : α → β) (x : Except ε α) (a : α) : Prop :=
  Meets x (fun _ => True) fun b => π b = π a

section Keeps

variable {ε α : Type} {β : Type*} {π : α → β} {x : Except ε α} {a b : α}

theorem Keeps.bind {f : α → Except ε α} (hx : Keeps π x a) (hf : ∀ b, Keeps π (f b) b) :
    Keeps π (x >>= f) a :=
  Meets.bind hx fun b hb => (hf b).mono (fun _ _ => trivial) fun _ hc => hc.trans hb

/-- The computation goes on from a state that looks the same. -/
theorem Keeps.of_eq (hx : Keeps π x b) (h : π b = π a) : Keeps π x a :=
  Meets.mono hx (fun _ _ => trivial) fun _ hc => hc.trans h

/-- A coarser projection. -/
theorem Keeps.comp {γ : Type*} (hx : Keeps π x a) {ρ : α → γ} (h : ∀ b, π b = π a → ρ b = ρ a) :
    Keeps ρ x a :=
  Meets.mono hx (fun _ _ => trivial) h

theorem Keeps.of_ok (hx : Keeps π x a) (h : x = .ok b) : π b = π a :=
  Meets.of_ok (Q := fun c => π c = π a) hx h

end Keeps

section Settles

variable {ε α β : Type} {e : ε} {x : Except ε α} {f : ℕ → Except ε α}

/-- From some depth on the computation does not fail with `e`. -/
def Settles (e : ε) (f : ℕ → Except ε α) : Prop := ∃ m, ∀ k, m ≤ k → f k ≠ .error e

theorem Meets.ne_error {E : ε → Prop} {Q : α → Prop} (h : Meets x E Q) (he : ¬ E e) :
    x ≠ .error e :=
  fun hx => he (h.of_error hx)

/-- What does not depend on the depth. -/
theorem settles_of_meets {Q : α → Prop} (h : Meets x (· ≠ e) Q) : Settles e fun _ => x :=
  ⟨0, fun _ _ => h.ne_error fun hne => hne rfl⟩

/-- A first stage that does not depend on the depth. -/
theorem Meets.bind_settles {R : α → Prop} {g : ℕ → α → Except ε β} (hx : Meets x (· ≠ e) R)
    (hg : ∀ a, R a → Settles e (g · a)) : Settles e fun k => x >>= g k := by
  cases x with
  | ok a => exact hg a hx
  | error e' => exact ⟨0, fun _ _ heq => hx (by cases heq; rfl)⟩

/-- A last stage that does not depend on the depth. -/
theorem Settles.map (h : Settles e f) {g : α → Except ε β} (hg : ∀ a, g a ≠ .error e) :
    Settles e fun k => f k >>= g := by
  obtain ⟨m, hm⟩ := h
  refine ⟨m, fun k hk => ?_⟩
  have hne := hm k hk
  show f k >>= g ≠ .error e
  cases hfk : f k with
  | ok a => exact hg a
  | error e' =>
    rw [hfk] at hne
    exact fun heq => hne (by cases heq; rfl)

end Settles

end Outcome
