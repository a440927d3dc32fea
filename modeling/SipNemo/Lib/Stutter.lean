import Mathlib.Data.List.Destutter
import Mathlib.Data.List.Chain

/-!
# Sequences without their repetitions

`List.destutter` leaves out each item that is the same as the one before.  Here the sequence grows
at its end, as a history does: `destutter_concat` is what one more item does, and a history that
never goes back (`pairwise_lt_destutter`) has each of its items once.
-/

namespace Stutter

variable {α : Type*} [DecidableEq α] {l : List α} {a b : α}

theorem destutter'_concat (l : List α) (a b : α) :
    (l ++ [b]).destutter' (· ≠ ·) a =
      if (a :: l).getLast? = some b then l.destutter' (· ≠ ·) a
      else l.destutter' (· ≠ ·) a ++ [b] := by
  induction l generalizing a with
  | nil =>
    by_cases h : a = b
    · subst h
      simp
    · simp [h]
  | cons c l ih =>
    rw [List.cons_append, List.destutter'_cons, List.destutter'_cons, List.getLast?_cons_cons]
    by_cases h : a ≠ c
    · rw [if_pos h, if_pos h, ih c]
      split_ifs <;> rfl
    · obtain rfl := not_not.1 h
      rw [if_neg h, if_neg h, ih a]

/-- One more item is kept unless it is the last one again. -/
theorem destutter_concat (l : List α) (b : α) :
    (l ++ [b]).destutter (· ≠ ·) =
      if l.getLast? = some b then l.destutter (· ≠ ·) else l.destutter (· ≠ ·) ++ [b] := by
  cases l with
  | nil => rfl
  | cons a l => exact destutter'_concat l a b

/-- Every item is kept once at least. -/
theorem mem_destutter : a ∈ l.destutter (· ≠ ·) ↔ a ∈ l := by
  refine ⟨fun h => (List.destutter_sublist _ l).subset h, fun h => ?_⟩
  induction l using List.reverseRecOn with
  | nil => cases h
  | append_singleton l b ih =>
    rw [destutter_concat]
    rcases List.mem_append.1 h with h | h
    · split_ifs
      · exact ih h
      · exact List.mem_append_left _ (ih h)
    · obtain rfl := List.mem_singleton.1 h
      split_ifs with hlast
      · exact ih (List.mem_of_getLast? hlast)
      · exact List.mem_append_right _ h

/-- A history that never goes back has each item once. -/
theorem pairwise_lt_destutter [PartialOrder α] (h : l.Pairwise (· ≤ ·)) :
    (l.destutter (· ≠ ·)).Pairwise (· < ·) := by
  have hle := h.sublist (List.destutter_sublist (· ≠ ·) l)
  have hne := List.isChain_destutter (· ≠ ·) l
  refine List.isChain_iff_pairwise.1 (List.isChain_iff_forall_rel_of_append_cons_cons.2 ?_)
  intro a b l₁ l₂ hl
  rw [hl] at hle
  have hab : a ≤ b := (List.pairwise_cons.1 (List.pairwise_append.1 hle).2.1).1 b List.mem_cons_self
  exact lt_of_le_of_ne hab (List.isChain_iff_forall_rel_of_append_cons_cons.1 hne hl)

end Stutter
