import Mathlib.Tactic

/-!
# Lists of subscribers

A list of subscribers in the order in which they came, each of them once.  `add` appends a
subscriber that is not there yet, `remove` takes one out.  That nobody is in the list twice is
part of the type, so a loop over the list visits each subscriber exactly once (`count_list`,
`count_flatMap_replicate`).  Whether somebody is in a list after a sequence of calls is up to the
last call about it (`foldl_iff_last`); an array of lists that a loop goes through changes at the
places of the loop alone (`foldl_update_apply`).
-/

/-- A list without duplicates. -/
structure Subscribers (α : Type*) where
  list : List α
  nodup : list.Nodup

namespace Subscribers

variable {α : Type*}

instance : Membership α (Subscribers α) := ⟨fun s a => a ∈ s.list⟩

theorem mem_def {s : Subscribers α} {a : α} : a ∈ s ↔ a ∈ s.list := Iff.rfl

/-- No subscribers. -/
def empty : Subscribers α := ⟨[], List.nodup_nil⟩

@[simp] theorem not_mem_empty (a : α) : a ∉ (empty : Subscribers α) := List.not_mem_nil

variable [DecidableEq α]

instance (a : α) (s : Subscribers α) : Decidable (a ∈ s) :=
  inferInstanceAs (Decidable (a ∈ s.list))

/-- Append a subscriber, unless it is there already. -/
def add (s : Subscribers α) (a : α) : Subscribers α :=
  if h : a ∈ s.list then s
  else ⟨s.list ++ [a], by
    rw [List.nodup_append]
    refine ⟨s.nodup, List.nodup_singleton a, ?_⟩
    intro b hb c hc
    obtain rfl := List.mem_singleton.1 hc
    rintro rfl
    exact h hb⟩

/-- Take a subscriber out. -/
def remove (s : Subscribers α) (a : α) : Subscribers α := ⟨s.list.erase a, s.nodup.erase a⟩

@[simp] theorem remove_empty (a : α) : (empty : Subscribers α).remove a = empty := rfl

@[simp] theorem mem_add {s : Subscribers α} {a b : α} : b ∈ s.add a ↔ b ∈ s ∨ b = a := by
  unfold add
  split_ifs with h
  · constructor
    · exact Or.inl
    · rintro (hb | rfl)
      · exact hb
      · exact h
  · simp [mem_def]

@[simp] theorem mem_remove {s : Subscribers α} {a b : α} : b ∈ s.remove a ↔ b ≠ a ∧ b ∈ s :=
  s.nodup.mem_erase_iff

/-- A subscriber is in its list once. -/
theorem count_list (s : Subscribers α) (a : α) : s.list.count a = if a ∈ s then 1 else 0 :=
  s.nodup.count

/-- A loop that produces `k b` copies of each subscriber `b`. -/
theorem count_flatMap_replicate (s : Subscribers α) (k : α → ℕ) (a : α) :
    (s.list.flatMap fun b => List.replicate (k b) b).count a = if a ∈ s then k a else 0 := by
  suffices h : ∀ l : List α, l.Nodup →
      (l.flatMap fun b => List.replicate (k b) b).count a = if a ∈ l then k a else 0 from
    h s.list s.nodup
  intro l hl
  induction l with
  | nil => rfl
  | cons b l ih =>
    obtain ⟨hb, hl⟩ := List.nodup_cons.1 hl
    rw [List.flatMap_cons, List.count_append, ih hl, List.count_replicate]
    by_cases hab : b = a
    · subst hab
      simp [hb]
    · have hne : a ≠ b := Ne.symm hab
      simp [hab, hne]

/-! ### Sequences of calls -/

/-- Let the calls that concern `P` decide it and let the others keep it.  Then the last call that
concerns it has decided it, or none has and it is as it was. -/
theorem foldl_iff_last {σ ι : Type*} {f : σ → ι → σ} {P : σ → Prop} {concerns : ι → Bool}
    {sets : ι → Prop} (hset : ∀ s i, concerns i = true → (P (f s i) ↔ sets i))
    (hkeep : ∀ s i, concerns i = false → (P (f s i) ↔ P s)) (s : σ) (is : List ι) :
    P (is.foldl f s) ↔
      (∃ i, is.reverse.find? concerns = some i ∧ sets i) ∨
        is.reverse.find? concerns = none ∧ P s := by
  induction is using List.reverseRecOn with
  | nil => simp
  | append_singleton is i ih =>
    rw [List.foldl_append, List.foldl_cons, List.foldl_nil, List.reverse_append,
      List.reverse_singleton, List.singleton_append]
    cases hi : concerns i with
    | true =>
      rw [hset _ i hi, List.find?_cons_of_pos hi]
      simp
    | false =>
      rw [hkeep _ i hi, ih, List.find?_cons_of_neg (by simp [hi])]

/-- A loop that replaces what stands at the places of a list, those with `p` only. -/
theorem foldl_update_apply {κ β : Type*} [DecidableEq κ] {p : κ → Bool} (g : β → β) (a : κ → β)
    {l : List κ} (hl : l.Nodup) (k : κ) :
    l.foldl (fun a k => if p k then Function.update a k (g (a k)) else a) a k =
      if k ∈ l ∧ p k then g (a k) else a k := by
  induction l generalizing a with
  | nil => simp
  | cons j l ih =>
    obtain ⟨hj, hl⟩ := List.nodup_cons.1 hl
    rw [List.foldl_cons, ih _ hl]
    by_cases hk : k = j
    · subst hk
      rw [if_neg (fun h => hj h.1)]
      by_cases hp : p k = true <;> simp [hp]
    · have hplace : (if p j then Function.update a j (g (a j)) else a) k = a k := by
        split_ifs
        · exact Function.update_of_ne hk _ _
        · rfl
      rw [hplace]
      simp only [List.mem_cons, hk, false_or]

end Subscribers
