import Mathlib.Data.List.Chain

/-!
# Alternating events

A history of events of two kinds, `true` and `false`, where each is to be followed by one of the
other kind and the first is to be `true`.  `alternates_concat` says when the next event fits.
-/

namespace Alternation

variable {l : List Bool} {b : Bool}

/-- No event is like the one before it, and the first one is `true`. -/
def Alternates (l : List Bool) : Prop := (false :: l).IsChain (· ≠ ·)

instance (l : List Bool) : Decidable (Alternates l) :=
  inferInstanceAs (Decidable ((false :: l).IsChain (· ≠ ·)))

/-- The last event; `false` at the beginning. -/
def last (l : List Bool) : Bool := l.getLast?.getD false

@[simp] theorem last_concat : last (l ++ [b]) = b := by simp [last]

theorem alternates_concat : Alternates (l ++ [b]) ↔ Alternates l ∧ last l ≠ b := by
  unfold Alternates
  rw [← List.cons_append, List.isChain_append]
  have hlast : (false :: l).getLast? = some (last l) := by
    rw [List.getLast?_cons]
    rfl
  simp [hlast]

end Alternation
