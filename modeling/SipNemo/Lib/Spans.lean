import Mathlib.Algebra.Order.Floor.Semiring
import Mathlib.Tactic.Linarith

/-!
# Spans of time

A span has a start and a stop.  Two spans overlap when they have a time in common that is neither
the start nor the stop of one of them, and touch when they have any time in common; spans that touch
without overlapping follow one another.  `slots` is the number of whole slots in a span, those of a
wait at its start apart.
-/

namespace Spans

/-- A span of time. -/
structure Span (T : Type*) where
  start : T
  stop : T
  deriving DecidableEq

namespace Span

section Order

variable {T : Type*} [LinearOrder T] {a b : Span T}

/-- The spans overlap. -/
def Overlaps (a b : Span T) : Prop := a.start < b.stop ∧ b.start < a.stop

/-- The spans have a time in common. -/
def Touches (a b : Span T) : Prop := a.start ≤ b.stop ∧ b.start ≤ a.stop

instance : Decidable (a.Overlaps b) := inferInstanceAs (Decidable (_ ∧ _))

instance : Decidable (a.Touches b) := inferInstanceAs (Decidable (_ ∧ _))

theorem Touches.symm (h : a.Touches b) : b.Touches a := And.symm h

theorem not_overlaps_comm : ¬ a.Overlaps b ↔ ¬ b.Overlaps a := not_congr and_comm

/-- A span that stops before the other starts. -/
theorem not_overlaps_of_le (h : a.stop ≤ b.start) : ¬ a.Overlaps b :=
  fun hab => not_lt.2 h hab.2

end Order

section Slots

variable {K : Type*} [Field K] [LinearOrder K] [IsStrictOrderedRing K] [FloorSemiring K]
  {s : Span K} {slot wait : K}

/-- The number of whole slots in the span after the wait. -/
def slots (slot wait : K) (s : Span K) : ℕ := ⌊(s.stop - (s.start + wait)) / slot⌋₊

/-- The slots of a span that stops within `n` slots after the wait. -/
theorem slots_le (hslot : 0 < slot) {n : ℕ} (h : s.stop ≤ s.start + wait + n * slot) :
    s.slots slot wait ≤ n := by
  refine Nat.floor_le_of_le ((div_le_iff₀ hslot).2 ?_)
  linarith

/-- The slots of a span that stops `n` slots after the wait. -/
theorem slots_eq (hslot : 0 < slot) {n : ℕ} (h : s.stop = s.start + wait + n * slot) :
    s.slots slot wait = n := by
  have hlen : s.stop - (s.start + wait) = n * slot := by rw [h, add_sub_cancel_left]
  rw [slots, hlen, mul_div_cancel_right₀ _ hslot.ne', Nat.floor_natCast]

end Slots

end Span

end Spans
