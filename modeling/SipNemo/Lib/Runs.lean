import Mathlib.Tactic

/-!
# Runs of a partial step function

A step takes a state and an event to the next state, or aborts.  `runSteps` performs a list of
events in order; `StepsMeet` says that every step of the run is taken in a state and with an
event that satisfy a given condition.  `runSteps_invariant` is the induction every safety
result uses: a property that holds at the start and is kept by each step that meets the
condition holds in the state a run ends in, hence, runs being closed under prefixes, in every
state it goes through.  `Throughout` says so of every state; `throughout_iff` is for a condition
that is exact, each step that violates it leading to a state without the property.
-/

namespace Runs

variable {σ ι ε : Type*}

/-- The state after the events, in order, when no step aborts. -/
def runSteps (step : σ → ι → Except ε σ) : σ → List ι → Except ε σ
  | s, [] => .ok s
  | s, i :: is =>
    match step s i with
    | .ok s' => runSteps step s' is
    | .error e => .error e

/-- Every step of the run meets the condition `ok` in the state in which it is taken. -/
def StepsMeet (step : σ → ι → Except ε σ) (ok : σ → ι → Prop) : σ → List ι → Prop
  | _, [] => True
  | s, i :: is => ok s i ∧ ∀ s', step s i = .ok s' → StepsMeet step ok s' is

/-- The property `P` holds in every state the run goes through, the first one included. -/
def Throughout (step : σ → ι → Except ε σ) (P : σ → Prop) : σ → List ι → Prop
  | s, [] => P s
  | s, i :: is => P s ∧ ∀ s', step s i = .ok s' → Throughout step P s' is

@[simp] theorem ok_bind {ε α β : Type} (a : α) (rest : α → Except ε β) :
    ((Except.ok a : Except ε α) >>= rest) = rest a := rfl

@[simp] theorem pure_eq_ok {ε α : Type} (a : α) : (pure a : Except ε α) = .ok a := rfl

@[simp] theorem map_ok {ε α β : Type} (a : α) (f : α → β) :
    (Except.ok a : Except ε α).map f = .ok (f a) := rfl

/-- Two stages in sequence return exactly when both do. -/
theorem bind_ok_iff {ε α β : Type} {first : Except ε α} {rest : α → Except ε β} {b : β} :
    (first >>= rest) = .ok b ↔ ∃ a, first = .ok a ∧ rest a = .ok b := by
  rcases first with e | a
  · constructor
    · intro h
      cases h
    · rintro ⟨_, h, _⟩
      cases h
  · constructor
    · intro h
      exact ⟨a, rfl, h⟩
    · rintro ⟨_, ha, h⟩
      cases ha
      exact h

/-- A mapped result comes from a result. -/
theorem map_ok_iff {ε α β : Type} {x : Except ε α} {f : α → β} {b : β} :
    x.map f = .ok b ↔ ∃ a, x = .ok a ∧ f a = b := by
  cases x <;> simp [Except.map]

theorem map_error_iff {ε α β : Type} {x : Except ε α} {f : α → β} {e : ε} :
    x.map f = .error e ↔ x = .error e := by
  cases x <;> simp [Except.map]

/-- Two stages in sequence do not fail with `e` when neither does. -/
theorem bind_ne_error {ε α β : Type} {first : Except ε α} {rest : α → Except ε β} {e : ε}
    (hfirst : first ≠ .error e) (hrest : ∀ a, first = .ok a → rest a ≠ .error e) :
    (first >>= rest) ≠ .error e := by
  rcases first with e' | a
  · intro h
    cases h
    exact hfirst rfl
  · exact hrest a rfl

variable {step : σ → ι → Except ε σ} {ok : σ → ι → Prop}

@[simp] theorem runSteps_nil (s : σ) : runSteps step s [] = .ok s := rfl

theorem runSteps_cons_ok {s s' : σ} {i : ι} {is : List ι} :
    runSteps step s (i :: is) = .ok s' ↔
      ∃ t, step s i = .ok t ∧ runSteps step t is = .ok s' := by
  cases h : step s i with
  | ok t => simp [runSteps, h]
  | error e => simp [runSteps, h]

/-- A run goes on from where its first part ended. -/
theorem runSteps_append {s t : σ} {is js : List ι} (h : runSteps step s is = .ok t) :
    runSteps step s (is ++ js) = runSteps step t js := by
  induction is generalizing s with
  | nil =>
    obtain rfl : s = t := by simpa using h
    rfl
  | cons i is ih =>
    obtain ⟨u, hu, hrest⟩ := runSteps_cons_ok.1 h
    simp only [List.cons_append, runSteps, hu]
    exact ih hrest

/-- The condition along a run whose first step is known. -/
theorem StepsMeet.cons {s t : σ} {i : ι} {is : List ι} (hok : ok s i) (hstep : step s i = .ok t)
    (h : StepsMeet step ok t is) : StepsMeet step ok s (i :: is) := by
  refine ⟨hok, ?_⟩
  intro s' hs'
  rw [hstep] at hs'
  cases hs'
  exact h

theorem StepsMeet.and {ok' : σ → ι → Prop} {s : σ} {is : List ι} (h : StepsMeet step ok s is)
    (h' : StepsMeet step ok' s is) : StepsMeet step (fun s i => ok s i ∧ ok' s i) s is := by
  induction is generalizing s with
  | nil => trivial
  | cons i is ih => exact ⟨⟨h.1, h'.1⟩, fun s' hs' => ih (h.2 s' hs') (h'.2 s' hs')⟩

/-- Two conditions that are the same for every step where an invariant holds. -/
theorem stepsMeet_congr {ok' : σ → ι → Prop} {I : σ → Prop}
    (hstep : ∀ s i s', I s → step s i = .ok s' → I s')
    (h : ∀ s i, I s → (ok s i ↔ ok' s i)) {s : σ} {is : List ι} (h0 : I s) :
    StepsMeet step ok s is ↔ StepsMeet step ok' s is := by
  induction is generalizing s with
  | nil => exact Iff.rfl
  | cons i is ih =>
    refine and_congr (h s i h0) (forall_congr' fun s' => ?_)
    exact imp_congr_right fun hs' => ih (hstep s i s' h0 hs')

/-- What a condition gives where an invariant under another condition holds. -/
theorem StepsMeet.imp {ok' : σ → ι → Prop} {I : σ → Prop}
    (hstep : ∀ s i s', I s → ok s i → step s i = .ok s' → I s')
    (h : ∀ s i, I s → ok s i → ok' s i) {s : σ} {is : List ι} (h0 : I s)
    (hok : StepsMeet step ok s is) : StepsMeet step ok' s is := by
  induction is generalizing s with
  | nil => trivial
  | cons i is ih =>
    refine ⟨h s i h0 hok.1, fun s' hs' => ?_⟩
    exact ih (hstep s i s' h0 hok.1 hs') (hok.2 s' hs')

/-- A condition that the events of the run meet in every state. -/
theorem stepsMeet_of_mem {is : List ι} (h : ∀ i ∈ is, ∀ s, ok s i) (s : σ) :
    StepsMeet step ok s is := by
  induction is generalizing s with
  | nil => trivial
  | cons i is ih =>
    have hrest := fun j (hj : j ∈ is) => h j (List.mem_cons_of_mem i hj)
    exact ⟨h i List.mem_cons_self s, fun s' _ => ih hrest s'⟩

/-- A condition that every step meets. -/
theorem stepsMeet_of_forall (h : ∀ s i, ok s i) (s : σ) (is : List ι) : StepsMeet step ok s is :=
  stepsMeet_of_mem (fun i _ s => h s i) s

/-- Whether the steps of a run meet the condition can be computed. -/
instance decidableStepsMeet [∀ s i, Decidable (ok s i)] :
    ∀ (s : σ) (is : List ι), Decidable (StepsMeet step ok s is)
  | _, [] => isTrue trivial
  | s, i :: is =>
    match h : step s i with
    | .ok t =>
      have := decidableStepsMeet t is
      decidable_of_iff (ok s i ∧ StepsMeet step ok t is)
        ⟨fun hi => .cons hi.1 h hi.2, fun hi => ⟨hi.1, hi.2 t h⟩⟩
    | .error e =>
      decidable_of_iff (ok s i)
        ⟨fun hi => ⟨hi, fun t ht => by rw [h] at ht; cases ht⟩, fun hi => hi.1⟩

/-- A property kept by every step that meets the condition holds at the end of the run. -/
theorem runSteps_invariant {I : σ → Prop}
    (hstep : ∀ s i s', I s → ok s i → step s i = .ok s' → I s')
    {s s' : σ} {is : List ι} (h0 : I s) (hok : StepsMeet step ok s is)
    (hrun : runSteps step s is = .ok s') : I s' := by
  induction is generalizing s with
  | nil =>
    obtain rfl : s = s' := by simpa using hrun
    exact h0
  | cons i is ih =>
    obtain ⟨t, ht, hrest⟩ := runSteps_cons_ok.1 hrun
    exact ih (hstep s i t h0 hok.1 ht) (hok.2 t ht) hrest

/-- The same for a property that every step keeps. -/
theorem runSteps_invariant_of_any {I : σ → Prop}
    (hstep : ∀ s i s', I s → step s i = .ok s' → I s') {s s' : σ} {is : List ι} (h0 : I s)
    (hrun : runSteps step s is = .ok s') : I s' := by
  have hany : StepsMeet step (fun _ _ => True) s is := stepsMeet_of_forall (fun _ _ => trivial) s is
  exact runSteps_invariant (fun s i s' hs _ => hstep s i s' hs) h0 hany hrun

/-- A run does not fail with `e` when no step does that meets the condition where an invariant
holds. -/
theorem runSteps_ne_error {I : σ → Prop} {e : ε}
    (hstep : ∀ s i s', I s → ok s i → step s i = .ok s' → I s')
    (hsafe : ∀ s i, I s → ok s i → step s i ≠ .error e)
    {s : σ} {is : List ι} (h0 : I s) (hok : StepsMeet step ok s is) :
    runSteps step s is ≠ .error e := by
  induction is generalizing s with
  | nil => simp
  | cons i is ih =>
    cases h : step s i with
    | ok t =>
      simp only [runSteps, h]
      exact ih (hstep s i t h0 hok.1 h) (hok.2 t h)
    | error e' =>
      have hne : step s i ≠ .error e := hsafe s i h0 hok.1
      simpa [runSteps, h] using hne

/-- A run returns when every step does that meets the condition where an invariant holds. -/
theorem runSteps_returns {I : σ → Prop}
    (hstep : ∀ s i, I s → ok s i → ∃ s', step s i = .ok s' ∧ I s')
    {s : σ} {is : List ι} (h0 : I s) (hok : StepsMeet step ok s is) :
    ∃ s', runSteps step s is = .ok s' ∧ I s' := by
  induction is generalizing s with
  | nil => exact ⟨s, rfl, h0⟩
  | cons i is ih =>
    obtain ⟨t, ht, hinv⟩ := hstep s i h0 hok.1
    obtain ⟨s', hrun, hinv'⟩ := ih hinv (hok.2 t ht)
    exact ⟨s', runSteps_cons_ok.2 ⟨t, ht, hrun⟩, hinv'⟩

theorem Throughout.first {P : σ → Prop} {s : σ} {is : List ι} (h : Throughout step P s is) :
    P s := by
  cases is with
  | nil => exact h
  | cons i is => exact h.1

/-- What holds throughout a run holds in the state it ends in. -/
theorem Throughout.last {P : σ → Prop} {s s' : σ} {is : List ι} (h : Throughout step P s is)
    (hrun : runSteps step s is = .ok s') : P s' := by
  induction is generalizing s with
  | nil =>
    obtain rfl : s = s' := by simpa using hrun
    exact h
  | cons i is ih =>
    obtain ⟨t, ht, hrest⟩ := runSteps_cons_ok.1 hrun
    exact ih (h.2 t ht) hrest

/-- An invariant under a condition that every step of the run meets. -/
theorem throughout_of_invariant {I P : σ → Prop}
    (hstep : ∀ s i s', I s → ok s i → step s i = .ok s' → I s') (hinv : ∀ s, I s → P s)
    {s : σ} {is : List ι} (h0 : I s) (hok : StepsMeet step ok s is) :
    Throughout step P s is := by
  induction is generalizing s with
  | nil => exact hinv s h0
  | cons i is ih =>
    exact ⟨hinv s h0, fun s' hs' => ih (hstep s i s' h0 hok.1 hs') (hok.2 s' hs')⟩

/-- The same for an invariant that every step keeps. -/
theorem throughout_of_any {I P : σ → Prop} (hstep : ∀ s i s', I s → step s i = .ok s' → I s')
    (hinv : ∀ s, I s → P s) {s : σ} (h0 : I s) (is : List ι) : Throughout step P s is := by
  have hany : StepsMeet step (fun _ _ => True) s is := stepsMeet_of_forall (fun _ _ => trivial) s is
  exact throughout_of_invariant (fun s i s' hs _ => hstep s i s' hs) hinv h0 hany

/-- Let the steps of a run meet `E`, let `I` be an invariant under the condition `ok`, and let
every step that violates `ok` lead to a state without `P`.  Then `P` holds throughout the run if
and only if every step meets `ok`. -/
theorem throughout_iff {E : σ → ι → Prop} {I P : σ → Prop}
    (hstep : ∀ s i s', I s → E s i → ok s i → step s i = .ok s' → I s')
    (hinv : ∀ s, I s → P s)
    (hbad : ∀ s i, I s → E s i → ¬ ok s i → ∃ s', step s i = .ok s' ∧ ¬ P s')
    {s : σ} {is : List ι} (h0 : I s) (henv : StepsMeet step E s is) :
    Throughout step P s is ↔ StepsMeet step ok s is := by
  induction is generalizing s with
  | nil => exact iff_of_true (hinv s h0) trivial
  | cons i is ih =>
    constructor
    · rintro ⟨-, hrest⟩
      have hok : ok s i := by
        by_contra hno
        obtain ⟨s', hs', hP⟩ := hbad s i h0 henv.1 hno
        exact hP (hrest s' hs').first
      refine ⟨hok, fun s' hs' => ?_⟩
      exact (ih (hstep s i s' h0 henv.1 hok hs') (henv.2 s' hs')).1 (hrest s' hs')
    · rintro ⟨hok, hrest⟩
      refine ⟨hinv s h0, fun s' hs' => ?_⟩
      exact (ih (hstep s i s' h0 henv.1 hok hs') (henv.2 s' hs')).2 (hrest s' hs')

/-- The same for runs of any steps. -/
theorem throughout_iff_of_any {I P : σ → Prop}
    (hstep : ∀ s i s', I s → ok s i → step s i = .ok s' → I s') (hinv : ∀ s, I s → P s)
    (hbad : ∀ s i, I s → ¬ ok s i → ∃ s', step s i = .ok s' ∧ ¬ P s') {s : σ} (h0 : I s)
    (is : List ι) : Throughout step P s is ↔ StepsMeet step ok s is :=
  throughout_iff (E := fun _ _ => True) (fun s i s' h _ => hstep s i s' h) hinv
    (fun s i h _ => hbad s i h) h0 (stepsMeet_of_forall (fun _ _ => trivial) s is)

/-- What the property gives for each step that is taken where it holds. -/
theorem Throughout.stepsMeet {P : σ → Prop} (hok : ∀ s i, P s → ok s i) {s : σ} {is : List ι}
    (h : Throughout step P s is) : StepsMeet step ok s is := by
  induction is generalizing s with
  | nil => trivial
  | cons i is ih => exact ⟨hok s i h.1, fun s' hs' => ih (h.2 s' hs')⟩

/-- Let every step that violates `ok` lead to a state without `P`, if it does not abort.  Where `P`
holds throughout a run that returns, every step meets `ok`. -/
theorem stepsMeet_of_throughout {I P : σ → Prop}
    (hstep : ∀ s i s', I s → ok s i → step s i = .ok s' → I s')
    (hbad : ∀ s i s', I s → ¬ ok s i → step s i = .ok s' → ¬ P s')
    {s s' : σ} {is : List ι} (h0 : I s) (hrun : runSteps step s is = .ok s')
    (hP : Throughout step P s is) : StepsMeet step ok s is := by
  induction is generalizing s with
  | nil => trivial
  | cons i is ih =>
    obtain ⟨t, ht, hrest⟩ := runSteps_cons_ok.1 hrun
    have hok : ok s i := by
      by_contra hno
      exact hbad s i t h0 hno ht (hP.2 t ht).first
    exact .cons hok ht (ih (hstep s i t h0 hok ht) hrest (hP.2 t ht))

section Decides

/- Let the steps of a run meet `E`, and let a step from a state with the invariant `I` lead to a
state with `P` exactly when it meets `ok`, and then to one with `I`. -/
variable {E : σ → ι → Prop} {I P : σ → Prop}
  (hdecides : ∀ s i s', I s → E s i → step s i = .ok s' → (P s' ↔ ok s i) ∧ (P s' → I s'))
include hdecides

theorem throughout_of_decides (hinv : ∀ s, I s → P s) {s : σ} {is : List ι} (h0 : I s)
    (henv : StepsMeet step E s is) (hok : StepsMeet step ok s is) : Throughout step P s is := by
  induction is generalizing s with
  | nil => exact hinv s h0
  | cons i is ih =>
    refine ⟨hinv s h0, fun s' hs' => ?_⟩
    obtain ⟨hiff, hI⟩ := hdecides s i s' h0 henv.1 hs'
    exact ih (hI (hiff.2 hok.1)) (henv.2 s' hs') (hok.2 s' hs')

/-- In a run that returns, `P` holds throughout only when every step meets `ok`. -/
theorem stepsMeet_of_decides {s s' : σ} {is : List ι} (h0 : I s) (henv : StepsMeet step E s is)
    (hrun : runSteps step s is = .ok s') (hP : Throughout step P s is) :
    StepsMeet step ok s is := by
  induction is generalizing s with
  | nil => trivial
  | cons i is ih =>
    obtain ⟨t, ht, hrest⟩ := runSteps_cons_ok.1 hrun
    obtain ⟨hiff, hI⟩ := hdecides s i t h0 henv.1 ht
    have hPt := hP.2 t ht
    exact .cons (hiff.1 hPt.first) ht (ih (hI hPt.first) (henv.2 t ht) hrest hPt)

end Decides

/-- A property kept by every step holds at the end of the run. -/
theorem runSteps_preserves {inv : σ → Prop}
    (hstep : ∀ s i s', inv s → step s i = .ok s' → inv s')
    {s s' : σ} {is : List ι} (h0 : inv s) (hrun : runSteps step s is = .ok s') : inv s' := by
  induction is generalizing s with
  | nil =>
    obtain rfl : s = s' := by simpa using hrun
    exact h0
  | cons i is ih =>
    obtain ⟨t, ht, hrest⟩ := runSteps_cons_ok.1 hrun
    exact ih (hstep s i t h0 ht) hrest

end Runs
