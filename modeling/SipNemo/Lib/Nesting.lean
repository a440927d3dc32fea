import Mathlib.Combinatorics.Enumerative.DyckWord
import SipNemo.Lib.Runs

/-!
# Nested operations on a stack

Operations that open a bracket, close one, or do neither.  A sequence is well nested when its
brackets are a Dyck word; before each closing bracket stands the opening one it matches, with a
well-nested sequence between them (`exists_isMatching`, `IsMatching.unique`).  Where opening pushes
what the state shows and closing pops it and shows it again, a well-nested sequence leaves the
stack as it was, and a closing bracket finds what the matching one saw (`stack_of_isMatching`).
-/

namespace Nesting

open Runs

variable {ι : Type*}

/-- The opening brackets of a sequence. -/
def openings (kind : ι → Option DyckStep) (ops : List ι) : ℕ := (ops.filterMap kind).count .U

/-- The closing brackets of a sequence. -/
def closings (kind : ι → Option DyckStep) (ops : List ι) : ℕ := (ops.filterMap kind).count .D

variable {kind : ι → Option DyckStep} {ops ops' before start inside : List ι} {i o : ι}

@[simp] theorem openings_nil : openings kind [] = 0 := rfl

@[simp] theorem closings_nil : closings kind [] = 0 := rfl

@[simp] theorem openings_append : openings kind (ops ++ ops') =
    openings kind ops + openings kind ops' := by
  simp [openings]

@[simp] theorem closings_append : closings kind (ops ++ ops') =
    closings kind ops + closings kind ops' := by
  simp [closings]

theorem openings_cons (i : ι) (ops : List ι) : openings kind (i :: ops) =
    (if kind i = some .U then 1 else 0) + openings kind ops := by
  unfold openings
  rcases hk : kind i with - | - | - <;> simp [hk, add_comm]

theorem closings_cons (i : ι) (ops : List ι) : closings kind (i :: ops) =
    (if kind i = some .D then 1 else 0) + closings kind ops := by
  unfold closings
  rcases hk : kind i with - | - | - <;> simp [hk, add_comm]

/-! ### Well-nested sequences -/

/-- The brackets of the sequence are a Dyck word. -/
def WellNested (kind : ι → Option DyckStep) (ops : List ι) : Prop :=
  ∃ w : DyckWord, w.toList = ops.filterMap kind

/-- No beginning of the sequence closes more brackets than it opens. -/
def Covered (kind : ι → Option DyckStep) (ops : List ι) : Prop :=
  ∀ pre, pre <+: ops → closings kind pre ≤ openings kind pre

theorem Covered.of_append (h : Covered kind (ops ++ ops')) : Covered kind ops :=
  fun _ hp => h _ (hp.trans (List.prefix_append ops ops'))

theorem WellNested.openings_eq (h : WellNested kind ops) :
    openings kind ops = closings kind ops := by
  obtain ⟨w, hw⟩ := h
  unfold openings closings
  rw [← hw]
  exact w.count_U_eq_count_D

theorem WellNested.covered (h : WellNested kind ops) : Covered kind ops := by
  obtain ⟨w, hw⟩ := h
  intro pre hpre
  have htake : pre.filterMap kind = w.toList.take (pre.filterMap kind).length := by
    rw [hw]
    exact List.prefix_iff_eq_take.1 (hpre.filterMap kind)
  unfold openings closings
  rw [htake]
  exact w.count_D_le_count_U _

theorem wellNested_nil : WellNested kind [] := ⟨0, rfl⟩

theorem WellNested.append (h : WellNested kind ops) (h' : WellNested kind ops') :
    WellNested kind (ops ++ ops') := by
  obtain ⟨w, hw⟩ := h
  obtain ⟨w', hw'⟩ := h'
  refine ⟨w + w', ?_⟩
  rw [List.filterMap_append, ← hw, ← hw']
  rfl

theorem wellNested_of_other (hi : kind i = none) : WellNested kind [i] :=
  ⟨0, by simp [hi]; rfl⟩

/-- A sequence in a pair of brackets. -/
theorem WellNested.nest (h : WellNested kind ops) (ho : kind o = some .U) (hi : kind i = some .D) :
    WellNested kind (o :: ops ++ [i]) := by
  obtain ⟨w, hw⟩ := h
  refine ⟨w.nest, ?_⟩
  simp [DyckWord.nest, hw, ho, hi]

/-! ### Matching brackets -/

/-- A closing bracket after `before` matches the opening bracket `o` behind `start`. -/
structure IsMatching (kind : ι → Option DyckStep) (before start : List ι) (o : ι)
    (inside : List ι) : Prop where
  split : before = start ++ o :: inside
  opening : kind o = some .U
  nested : WellNested kind inside

/-- Behind a well-nested sequence the match is the one before it. -/
theorem IsMatching.append (h : IsMatching kind before start o inside) (h' : WellNested kind ops) :
    IsMatching kind (before ++ ops) start o (inside ++ ops) where
  split := by rw [h.split, List.append_assoc, List.cons_append]
  opening := h.opening
  nested := h.nested.append h'

/-- A bracket behind which there is a well-nested sequence is one more that is open. -/
theorem IsMatching.open_count (h : IsMatching kind before start o inside) :
    openings kind before + closings kind start =
      openings kind start + closings kind before + 1 := by
  have heq := h.nested.openings_eq
  rw [h.split]
  simp [openings_cons, closings_cons, h.opening]
  omega

theorem IsMatching.length_lt (h : IsMatching kind before start o inside) :
    start.length < before.length := by
  rw [h.split, List.length_append, List.length_cons]
  omega

/-- While a bracket is open, the next closing bracket has one to match. -/
theorem exists_isMatching (hcov : Covered kind before)
    (hopen : closings kind before < openings kind before) :
    ∃ start o inside, IsMatching kind before start o inside := by
  obtain ⟨n, hn⟩ : ∃ n, before.length = n := ⟨_, rfl⟩
  -- By the last operation: a bracket that closes there sends the search behind its own match.
  induction n using Nat.strong_induction_on generalizing before with
  | _ n ih =>
    rcases List.eq_nil_or_concat before with rfl | ⟨init, i, rfl⟩
    · exact absurd hopen (lt_irrefl 0)
    · rw [List.concat_eq_append] at hcov hopen hn ⊢
      have hinit : Covered kind init := hcov.of_append
      have hlen : init.length < n := by
        rw [← hn, List.length_append]
        exact Nat.lt_succ_self _
      rcases hk : kind i with - | - | -
      · have hless : closings kind init < openings kind init := by
          simpa [openings_cons, closings_cons, hk] using hopen
        obtain ⟨start, o, inside, h⟩ := ih _ hlen hinit hless rfl
        exact ⟨start, o, inside ++ [i], h.append (wellNested_of_other hk)⟩
      · exact ⟨init, i, [], rfl, hk, wellNested_nil⟩
      · have hless : closings kind init + 1 < openings kind init := by
          simpa [openings_cons, closings_cons, hk] using hopen
        obtain ⟨start₁, o₁, inside₁, h₁⟩ := ih _ hlen hinit (by omega) rfl
        have hstart : Covered kind start₁ := (h₁.split ▸ hinit).of_append
        have hless₁ : closings kind start₁ < openings kind start₁ := by
          have hcount := h₁.open_count
          omega
        obtain ⟨start, o, inside, h⟩ := ih _ (h₁.length_lt.trans hlen) hstart hless₁ rfl
        have hpair : init ++ [i] = start₁ ++ (o₁ :: inside₁ ++ [i]) := by
          rw [h₁.split, List.append_assoc]
        exact ⟨start, o, inside ++ (o₁ :: inside₁ ++ [i]),
          hpair ▸ h.append (h₁.nested.nest h₁.opening hk)⟩

/-- What stands between two brackets that match does not end behind another match. -/
theorem IsMatching.eq_nil {a inside' : List ι} {o' : ι} (h : WellNested kind inside)
    (h' : WellNested kind inside') (ho' : kind o' = some .U)
    (hsplit : o :: inside = a ++ o' :: inside') : a = [] := by
  cases a with
  | nil => rfl
  | cons x a =>
    exfalso
    obtain ⟨-, rfl⟩ := List.cons.inj hsplit
    have hle := h.covered a (List.prefix_append a _)
    have heq := h.openings_eq
    have heq' := h'.openings_eq
    simp [openings_cons, closings_cons, ho'] at heq
    omega

/-- There is one opening bracket to match. -/
theorem IsMatching.unique {start' inside' : List ι} {o' : ι}
    (h : IsMatching kind before start o inside) (h' : IsMatching kind before start' o' inside') :
    start = start' ∧ o = o' ∧ inside = inside' := by
  have hsplit : start ++ o :: inside = start' ++ o' :: inside' := h.split.symm.trans h'.split
  have hstart : start = start' := by
    rcases List.append_eq_append_iff.1 hsplit with ⟨a, rfl, ha⟩ | ⟨a, rfl, ha⟩
    · rw [IsMatching.eq_nil h.nested h'.nested h'.opening ha, List.append_nil]
    · rw [IsMatching.eq_nil h'.nested h.nested h.opening ha, List.append_nil]
  subst hstart
  exact ⟨rfl, List.cons.inj (List.append_cancel_left hsplit)⟩

/-! ### Runs on a stack -/

variable {σ τ ε : Type*} {step : σ → ι → Except ε σ} {stack : σ → List τ} {view : σ → τ}
  {s t : σ}

/-- An opening bracket pushes what the state shows, a closing one pops it and shows it again, and
fails on an empty stack; no other operation touches the stack. -/
structure StackStep (kind : ι → Option DyckStep) (step : σ → ι → Except ε σ)
    (stack : σ → List τ) (view : σ → τ) : Prop where
  opening : ∀ s i, kind i = some .U → ∃ t, step s i = .ok t ∧ stack t = view s :: stack s
  closing : ∀ s i x xs, kind i = some .D → stack s = x :: xs →
    ∃ t, step s i = .ok t ∧ stack t = xs ∧ view t = x
  closing_nil : ∀ s i, kind i = some .D → stack s = [] → ∃ e, step s i = .error e
  other : ∀ s i, kind i = none → ∃ t, step s i = .ok t ∧ stack t = stack s

namespace StackStep

variable (hstep : StackStep kind step stack view)
include hstep

/-- What one operation does to the height of the stack. -/
theorem length_step (h : step s i = .ok t) :
    (stack t).length + closings kind [i] = (stack s).length + openings kind [i] := by
  rcases hk : kind i with - | - | -
  · obtain ⟨t', ht', hstack⟩ := hstep.other s i hk
    obtain rfl : t = t' := Except.ok.inj (h.symm.trans ht')
    simp [openings_cons, closings_cons, hk, hstack]
  · obtain ⟨t', ht', hstack⟩ := hstep.opening s i hk
    obtain rfl : t = t' := Except.ok.inj (h.symm.trans ht')
    simp [openings_cons, closings_cons, hk, hstack]
  · cases hs : stack s with
    | nil =>
      obtain ⟨e, he⟩ := hstep.closing_nil s i hk hs
      cases h.symm.trans he
    | cons x xs =>
      obtain ⟨t', ht', hstack, -⟩ := hstep.closing s i x xs hk hs
      obtain rfl : t = t' := Except.ok.inj (h.symm.trans ht')
      simp [openings_cons, closings_cons, hk, hstack]

/-- The height of the stack is the number of brackets that are open. -/
theorem length_run (h : runSteps step s ops = .ok t) :
    (stack t).length + closings kind ops = (stack s).length + openings kind ops := by
  induction ops generalizing s with
  | nil =>
    cases h
    rfl
  | cons i ops ih =>
    obtain ⟨u, hu, hrest⟩ := runSteps_cons_ok.1 h
    have hone := hstep.length_step hu
    have hmany := ih hrest
    simp only [openings_cons, closings_cons, openings_nil, closings_nil] at hone ⊢
    omega

/-- A closing bracket fails when it is one too many. -/
theorem closing_fails_iff (hi : kind i = some .D) (h : runSteps step s ops = .ok t) :
    (∃ e, step t i = .error e) ↔
      (stack s).length + openings kind (ops ++ [i]) < closings kind (ops ++ [i]) := by
  have hlen := hstep.length_run h
  have hcount : openings kind [i] = 0 ∧ closings kind [i] = 1 := by
    simp [openings_cons, closings_cons, hi]
  rw [openings_append, closings_append, hcount.1, hcount.2]
  cases ht : stack t with
  | nil =>
    refine iff_of_true (hstep.closing_nil t i hi ht) ?_
    rw [ht, List.length_nil] at hlen
    omega
  | cons x xs =>
    obtain ⟨u, hu, -⟩ := hstep.closing t i x xs hi ht
    refine iff_of_false ?_ ?_
    · rintro ⟨e, he⟩
      cases hu.symm.trans he
    · rw [ht, List.length_cons] at hlen
      omega

/-- A run that closes only what it has opened returns, over the stack it started on. -/
theorem run_of_covered (hcov : Covered kind ops) (s : σ) :
    ∃ t new, runSteps step s ops = .ok t ∧ stack t = new ++ stack s := by
  induction ops using List.reverseRecOn with
  | nil => exact ⟨s, [], rfl, rfl⟩
  | append_singleton ops i ih =>
    obtain ⟨t, new, hrun, hstack⟩ := ih hcov.of_append
    have hlast : runSteps step s (ops ++ [i]) = step t i := by
      rw [runSteps_append hrun]
      unfold runSteps
      cases step t i <;> rfl
    rw [hlast]
    rcases hk : kind i with - | - | -
    · obtain ⟨u, hu, hstack'⟩ := hstep.other t i hk
      exact ⟨u, new, hu, hstack'.trans hstack⟩
    · obtain ⟨u, hu, hstack'⟩ := hstep.opening t i hk
      exact ⟨u, view t :: new, hu, by rw [hstack', hstack, List.cons_append]⟩
    · have hle := hcov _ List.prefix_rfl
      have hlen := hstep.length_run hrun
      simp [openings_cons, closings_cons, hk] at hle
      rw [hstack, List.length_append] at hlen
      have hnew : new ≠ [] := by
        rintro rfl
        rw [List.length_nil] at hlen
        omega
      obtain ⟨x, new, rfl⟩ := List.exists_cons_of_ne_nil hnew
      obtain ⟨u, hu, hstack', -⟩ := hstep.closing t i x (new ++ stack s) hk hstack
      exact ⟨u, new, hu, hstack'⟩

/-- A well-nested run returns and leaves the stack as it was. -/
theorem run_of_wellNested (h : WellNested kind ops) (s : σ) :
    ∃ t, runSteps step s ops = .ok t ∧ stack t = stack s := by
  obtain ⟨t, new, hrun, hstack⟩ := hstep.run_of_covered h.covered s
  have hlen := hstep.length_run hrun
  have heq := h.openings_eq
  rw [hstack, List.length_append] at hlen
  obtain rfl : new = [] := List.eq_nil_of_length_eq_zero (by omega)
  exact ⟨t, hrun, hstack⟩

/-- Before a closing bracket, the top of the stack is what the state showed before the matching
opening one, over the stack of that time. -/
theorem stack_of_isMatching (h : IsMatching kind before start o inside)
    (hcov : Covered kind before) (s : σ) :
    ∃ u t, runSteps step s start = .ok u ∧ runSteps step s before = .ok t ∧
      stack t = view u :: stack u := by
  have hstart : Covered kind start := (h.split ▸ hcov).of_append
  obtain ⟨u, -, hu, -⟩ := hstep.run_of_covered hstart s
  obtain ⟨v, hv, hpushed⟩ := hstep.opening u o h.opening
  obtain ⟨t, ht, hkept⟩ := hstep.run_of_wellNested h.nested v
  refine ⟨u, t, hu, ?_, hkept.trans hpushed⟩
  rw [h.split, runSteps_append hu]
  exact runSteps_cons_ok.2 ⟨v, hv, ht⟩

end StackStep

end Nesting
