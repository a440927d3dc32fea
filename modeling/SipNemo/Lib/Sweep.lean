import Mathlib.Tactic

/-!
# Sweeping places in place

A loop goes through a list of places.  Everything that is at the place is reported and moved to a
destination at once, so that a place that is swept later, if it is the destination, has it again.
An item is moved when its place is on the list (`items_sweep`), and reported once for the first
time its place is swept and once more for each time the destination is after that (`visits`).  So
each is reported once exactly when the destination does not come after its place
(`reported_once_iff`).
-/

namespace Sweep

variable {α κ γ : Type*} [DecidableEq κ]

/-- The items after the loop, and those it reports. -/
def sweep (place : α → κ) (move : α → α) : List α → List κ → List α × List α
  | items, [] => (items, [])
  | items, d :: ds =>
    let rest := sweep place move (items.map fun x => if place x = d then move x else x) ds
    (rest.1, items.filter (fun x => place x = d) ++ rest.2)

/-- How often an item at the place `p` is reported. -/
def visits (dest : κ) : List κ → κ → ℕ
  | [], _ => 0
  | d :: ds, p => if p = d then 1 + ds.count dest else visits dest ds p

variable {place : α → κ} {move : α → α} {dest : κ}

theorem visits_dest (ds : List κ) : visits dest ds dest = ds.count dest := by
  induction ds with
  | nil => rfl
  | cons d ds ih =>
    rw [visits, List.count_cons]
    by_cases h : dest = d
    · simp [h, add_comm]
    · simp [h, Ne.symm h, ih]

theorem visits_pos {ds : List κ} {p : κ} : 0 < visits dest ds p ↔ p ∈ ds := by
  induction ds with
  | nil => simp [visits]
  | cons d ds ih =>
    rw [visits, List.mem_cons]
    by_cases h : p = d
    · simp [h]
    · simp [h, ih]

/-- An item is reported once at most when its place does not come before the destination. -/
theorem visits_le_one_iff {ds : List κ} {p : κ} :
    visits dest ds p ≤ 1 ↔ ds.Pairwise fun d d' => d = p → d' ≠ dest := by
  induction ds with
  | nil => simp [visits]
  | cons d ds ih =>
    rw [visits, List.pairwise_cons]
    by_cases h : p = d
    · subst h
      have hcount : 1 + ds.count dest ≤ 1 ↔ ∀ d' ∈ ds, d' ≠ dest := by
        rw [add_le_iff_nonpos_right, Nat.le_zero, List.count_eq_zero]
        exact ⟨fun hd d' hd' heq => hd (heq ▸ hd'), fun hd hmem => hd dest hmem rfl⟩
      rw [if_pos rfl, hcount]
      constructor
      · intro hd
        refine ⟨fun d' hd' _ => hd d' hd', ?_⟩
        exact List.pairwise_of_forall_mem_list fun _ _ d' hd' _ => hd d' hd'
      · rintro ⟨hd, -⟩ d' hd'
        exact hd d' hd' rfl
    · rw [if_neg h, ih]
      exact ⟨fun hd => ⟨fun _ _ heq => absurd heq.symm h, hd⟩, And.right⟩

theorem items_sweep (place : α → κ) (move : α → α) (hidem : ∀ x, move (move x) = move x)
    (items : List α) (ds : List κ) :
    (sweep place move items ds).1 = items.map fun x => if place x ∈ ds then move x else x := by
  induction ds generalizing items with
  | nil => simp [sweep]
  | cons d ds ih =>
    rw [sweep, ih, List.map_map]
    refine List.map_congr_left fun x _ => ?_
    by_cases h : place x = d
    · simp [h, hidem]
    · simp [h]

section Reports

variable (hmove : ∀ x, place (move x) = dest)
include hmove

/-- The reports, by something of the items that does not move. -/
theorem reports_sweep {g : α → γ} (hg : ∀ x, g (move x) = g x) (items : List α) (ds : List κ) :
    ((sweep place move items ds).2.map g).Perm
      (items.flatMap fun x => List.replicate (visits dest ds (place x)) (g x)) := by
  induction ds generalizing items with
  | nil => simp [sweep, visits]
  | cons d ds ih =>
    have hfirst : (items.filter fun x => place x = d).map g =
        items.flatMap fun x => if place x = d then [g x] else [] := by
      induction items with
      | nil => rfl
      | cons x items ihx => by_cases h : place x = d <;> simp [h, ihx]
    have hone : ∀ x, (if place x = d then [g x] else []) ++
        List.replicate (visits dest ds (place (if place x = d then move x else x)))
          (g (if place x = d then move x else x)) =
        List.replicate (visits dest (d :: ds) (place x)) (g x) := by
      intro x
      rw [visits]
      by_cases h : place x = d
      · simp only [if_pos h, hmove, hg, visits_dest]
        rw [List.singleton_append, ← List.replicate_succ, add_comm]
      · simp only [if_neg h, List.nil_append]
    rw [sweep, List.map_append, hfirst]
    refine ((ih _).append_left _).trans ?_
    rw [List.flatMap_map]
    refine (List.flatMap_append_perm items _ _).trans (List.Perm.of_eq ?_)
    exact List.flatMap_congr fun x _ => hone x

end Reports

/-- Everything that is swept is reported, and nothing else. -/
theorem mem_reports_sweep (place : α → κ) (move : α → α) (g : α → γ)
    (hmove : ∀ x, place (move x) = dest) (hg : ∀ x, g (move x) = g x) {items : List α}
    {ds : List κ} {a : γ} :
    a ∈ (sweep place move items ds).2.map g ↔ ∃ x ∈ items, place x ∈ ds ∧ g x = a := by
  rw [(reports_sweep hmove hg items ds).mem_iff, List.mem_flatMap]
  refine exists_congr fun x => and_congr_right fun _ => ?_
  rw [List.mem_replicate, ← Nat.pos_iff_ne_zero, visits_pos]
  exact and_congr_right fun _ => eq_comm

/-! ### Reported once -/

theorem flatMap_replicate {k : α → ℕ} {g : α → γ} {items : List α} (hk : ∀ x ∈ items, k x ≤ 1) :
    (items.flatMap fun x => List.replicate (k x) (g x)) =
      (items.filter fun x => 0 < k x).map g := by
  induction items with
  | nil => rfl
  | cons x items ih =>
    have hrest := ih fun y hy => hk y (List.mem_cons_of_mem x hy)
    rw [List.flatMap_cons, hrest]
    rcases Nat.le_one_iff_eq_zero_or_eq_one.1 (hk x List.mem_cons_self) with h | h <;> simp [h]

/-- Names that may be repeated: all are different when none is and no two are the same. -/
theorem nodup_flatMap_replicate {k : α → ℕ} {g : α → γ} {items : List α} :
    (items.flatMap fun x => List.replicate (k x) (g x)).Nodup ↔
      (∀ x ∈ items, k x ≤ 1) ∧ ((items.filter fun x => 0 < k x).map g).Nodup := by
  constructor
  · intro h
    have hk : ∀ x ∈ items, k x ≤ 1 := fun x hx =>
      List.nodup_replicate.1 ((List.nodup_flatMap.1 h).1 x hx)
    exact ⟨hk, flatMap_replicate hk ▸ h⟩
  · rintro ⟨hk, h⟩
    rwa [flatMap_replicate hk]

/-- Each item whose place is swept is reported once, under a name of its own, exactly when the
destination does not come after its place and the names are different. -/
theorem reported_once_iff [DecidableEq γ] (place : α → κ) (move : α → α) (g : α → γ)
    (hmove : ∀ x, place (move x) = dest) (hg : ∀ x, g (move x) = g x) (items : List α)
    (ds : List κ) :
    (∀ x ∈ items, place x ∈ ds → ((sweep place move items ds).2.map g).count (g x) = 1) ↔
      (∀ x ∈ items, ds.Pairwise fun d d' => d = place x → d' ≠ dest) ∧
        ((items.filter fun x => place x ∈ ds).map g).Nodup := by
  have hperm := reports_sweep hmove hg items ds
  have honce : (∀ x ∈ items, place x ∈ ds →
      ((sweep place move items ds).2.map g).count (g x) = 1) ↔
      (items.flatMap fun x => List.replicate (visits dest ds (place x)) (g x)).Nodup := by
    rw [List.nodup_iff_count_eq_one]
    constructor
    · intro h a ha
      obtain ⟨x, hx, hax⟩ := List.mem_flatMap.1 ha
      obtain ⟨hne, rfl⟩ := List.mem_replicate.1 hax
      rw [← hperm.count_eq]
      exact h x hx (visits_pos.1 (Nat.pos_of_ne_zero hne))
    · intro h x hx hplace
      rw [hperm.count_eq]
      refine h _ (List.mem_flatMap.2 ⟨x, hx, List.mem_replicate.2 ⟨?_, rfl⟩⟩)
      exact (visits_pos.2 hplace).ne'
  rw [honce, nodup_flatMap_replicate]
  simp only [visits_le_one_iff, visits_pos]

end Sweep
