import Mathlib.Data.List.Basic

/-!
# Histories that a monitor accepts

A monitor reads a history of events in order.  It says which event may follow in which phase, and
what phase comes next; `phase` is the phase after the whole history, when every event was in order.
Events are appended one at a time (`phase_concat`), and an accepted history may be cut at any of its
events (`phase_split`).
-/

namespace Monitor

variable {σ ι : Type*} {advance : σ → ι → Option σ} {q : σ} {log : List ι} {e : ι}

/-- The phase after a history. -/
def phase (advance : σ → ι → Option σ) : σ → List ι → Option σ
  | q, [] => some q
  | q, e :: log => (advance q e).bind fun q' => phase advance q' log

@[simp] theorem phase_nil : phase advance q [] = some q := rfl

theorem phase_cons : phase advance q (e :: log) = (advance q e).bind (phase advance · log) := rfl

theorem phase_append (log log' : List ι) :
    phase advance q (log ++ log') = (phase advance q log).bind (phase advance · log') := by
  induction log generalizing q with
  | nil => rfl
  | cons e log ih =>
    rw [List.cons_append, phase_cons, phase_cons, Option.bind_assoc]
    congr 1
    funext q'
    exact ih

/-- The next event is in order. -/
theorem phase_concat {q₁ q₂ : σ} (h : phase advance q log = some q₁)
    (he : advance q₁ e = some q₂) : phase advance q (log ++ [e]) = some q₂ := by
  rw [phase_append, h]
  simp [phase, he]

/-- Every event of an accepted history is in order, and so is what follows. -/
theorem phase_split {log' : List ι} {q' : σ} (h : phase advance q (log ++ e :: log') = some q') :
    ∃ q₁ q₂, phase advance q log = some q₁ ∧ advance q₁ e = some q₂ ∧
      phase advance q₂ log' = some q' := by
  rw [phase_append] at h
  obtain ⟨q₁, hq₁, hrest⟩ := Option.bind_eq_some_iff.1 h
  obtain ⟨q₂, hq₂, hend⟩ := Option.bind_eq_some_iff.1 hrest
  exact ⟨q₁, q₂, hq₁, hq₂, hend⟩

end Monitor
