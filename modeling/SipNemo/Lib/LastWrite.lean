import Mathlib.Data.List.Induction

/-!
# Writes under way

A write gives a value to several places.  Writes that are under way, the oldest first, come to what
the last one for each place says (`settle_eq`).  That stays so when a write arrives before older
ones that have no place in common with it (`settle_arrive`), and when one is lost whose places are
all written again later (`settle_lose`).
-/

namespace LastWrite

variable {α β γ : Type*} [DecidableEq α]

/-- A write of a value to some places. -/
structure Write (α β : Type*) where
  places : List α
  value : β
  deriving DecidableEq

/-- The write of what a function makes of the value. -/
def Write.map (g : β → γ) (w : Write α β) : Write α γ := ⟨w.places, g w.value⟩

/-- The values after a write. -/
def arrive (f : α → β) (w : Write α β) : α → β := fun a => if a ∈ w.places then w.value else f a

/-- The values after all writes that are under way. -/
def settle (f : α → β) (ws : List (Write α β)) : α → β := ws.foldl arrive f

/-- The last write for a place. -/
def lastFor (a : α) (ws : List (Write α β)) : Option (Write α β) :=
  (ws.filter fun w => a ∈ w.places).getLast?

variable {f g : α → β} {ws vs : List (Write α β)} {w : Write α β} {a : α}

theorem lastFor_append (a : α) (ws vs : List (Write α β)) :
    lastFor a (ws ++ vs) = (lastFor a vs).or (lastFor a ws) := by
  rw [lastFor, List.filter_append, List.getLast?_append]
  rfl

theorem lastFor_singleton (a : α) (w : Write α β) :
    lastFor a [w] = if a ∈ w.places then some w else none := by
  unfold lastFor
  by_cases h : a ∈ w.places <;> simp [h]

theorem lastFor_eq_none : lastFor a ws = none ↔ ∀ w ∈ ws, a ∉ w.places := by
  simp [lastFor]

theorem lastFor_map (g : β → γ) (ws : List (Write α β)) (a : α) :
    lastFor a (ws.map (Write.map g)) = (lastFor a ws).map (Write.map g) := by
  unfold lastFor
  rw [List.filter_map, List.getLast?_map]
  rfl

theorem mem_of_lastFor (h : lastFor a ws = some w) : w ∈ ws :=
  (List.mem_filter.1 (List.mem_of_getLast? h)).1

@[simp] theorem settle_append (f : α → β) (ws vs : List (Write α β)) :
    settle f (ws ++ vs) = settle (settle f ws) vs := List.foldl_append

/-- What the writes under way come to. -/
theorem settle_eq (f : α → β) (ws : List (Write α β)) (a : α) :
    settle f ws a = (lastFor a ws).elim (f a) Write.value := by
  induction ws using List.reverseRecOn with
  | nil => rfl
  | append_singleton ws w ih =>
    rw [settle_append, lastFor_append, lastFor_singleton]
    show arrive (settle f ws) w a = _
    unfold arrive
    split_ifs
    · rfl
    · exact ih

/-- A place that no write under way is for has its value already. -/
theorem settle_of_forall_not_mem (h : ∀ w ∈ ws, a ∉ w.places) : settle f ws a = f a := by
  rw [settle_eq, lastFor_eq_none.2 h]
  rfl

/-- A write arrives that has overtaken only writes for other places. -/
theorem settle_arrive (h : ∀ v ∈ ws, ∀ a ∈ w.places, a ∉ v.places) :
    settle (arrive f w) (ws ++ vs) = settle f (ws ++ w :: vs) := by
  funext a
  rw [settle_eq, settle_eq, lastFor_append, lastFor_append, ← List.singleton_append,
    lastFor_append, lastFor_singleton]
  by_cases ha : a ∈ w.places
  · have hnone : lastFor a ws = none := lastFor_eq_none.2 fun v hv => h v hv a ha
    rw [if_pos ha, hnone]
    cases lastFor a vs <;> simp [arrive, ha]
  · rw [if_neg ha, Option.or_none]
    simp [arrive, ha]

/-- A write is lost that later writes make up for. -/
theorem settle_lose (h : ∀ a ∈ w.places, ∃ v ∈ vs, a ∈ v.places) :
    settle f (ws ++ vs) = settle f (ws ++ w :: vs) := by
  funext a
  rw [settle_eq, settle_eq, lastFor_append, lastFor_append, ← List.singleton_append,
    lastFor_append, lastFor_singleton]
  by_cases ha : a ∈ w.places
  · obtain ⟨v, hv, hav⟩ := h a ha
    obtain ⟨u, hu⟩ := Option.ne_none_iff_exists'.1 fun hnone => lastFor_eq_none.1 hnone v hv hav
    simp [hu]
  · rw [if_neg ha, Option.or_none]

end LastWrite
