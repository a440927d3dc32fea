import Mathlib.Tactic

/-!
# Registries that keep the first source

A registry maps keys to a source and a target.  An update that finds its key unknown records both;
one that finds it known replaces the target and keeps the source.  `foldl_keepFirst` says what a
sequence of updates leaves behind at every key: the source that was there first and the target that
came last.

The registry that overwrites both parts is not a separate development: at a key with updates it
holds source and target of the last one (`lastFor`), so that the two agree there exactly when first
and last source do.
-/

namespace Registry

variable {κ σ τ : Type*}

/-- A request to bind `key`, sent by `source`, to `target`. -/
structure Update (κ σ τ : Type*) where
  key : κ
  source : σ
  target : τ

variable [DecidableEq κ]

/-- Bind a key, keeping the source of a known one. -/
def keepFirst (m : κ → Option (σ × τ)) (u : Update κ σ τ) : κ → Option (σ × τ) :=
  Function.update m u.key (some (((m u.key).map Prod.fst).getD u.source, u.target))

/-- The test for updates of `k`. -/
def isFor (k : κ) (u : Update κ σ τ) : Bool := decide (u.key = k)

/-- The last update of `k`. -/
def lastFor (us : List (Update κ σ τ)) (k : κ) : Option (Update κ σ τ) := us.reverse.find? (isFor k)

/-- The source that is kept for `k`: the one `m` has, or that of the first update. -/
def firstSource (m : κ → Option (σ × τ)) (us : List (Update κ σ τ)) (k : κ) : Option σ :=
  ((m k).map Prod.fst).or ((us.find? (isFor k)).map Update.source)

/-- The target of `k`: that of the last update, or the one `m` has. -/
def lastTarget (m : κ → Option (σ × τ)) (us : List (Update κ σ τ)) (k : κ) : Option τ :=
  ((lastFor us k).map Update.target).or ((m k).map Prod.snd)

variable {m : κ → Option (σ × τ)} {u : Update κ σ τ} {us : List (Update κ σ τ)} {k : κ}

theorem keepFirst_of_ne (h : u.key ≠ k) : keepFirst m u k = m k :=
  Function.update_of_ne (Ne.symm h) _ _

theorem keepFirst_self :
    keepFirst m u u.key = some (((m u.key).map Prod.fst).getD u.source, u.target) :=
  Function.update_self _ _ _

theorem firstSource_cons : firstSource (keepFirst m u) us k = firstSource m (u :: us) k := by
  unfold firstSource
  by_cases h : u.key = k
  · subst h
    have hfor : isFor u.key u = true := decide_eq_true rfl
    rw [keepFirst_self, List.find?_cons_of_pos hfor]
    cases m u.key <;> rfl
  · have hfor : ¬ isFor k u = true := by simp [isFor, h]
    rw [keepFirst_of_ne h, List.find?_cons_of_neg hfor]

theorem lastFor_cons :
    lastFor (u :: us) k = (lastFor us k).or (if u.key = k then some u else none) := by
  unfold lastFor
  rw [List.reverse_cons, List.find?_append]
  by_cases h : u.key = k
  · simp [isFor, h]
  · simp [isFor, h]

theorem lastTarget_cons : lastTarget (keepFirst m u) us k = lastTarget m (u :: us) k := by
  unfold lastTarget
  rw [lastFor_cons]
  by_cases h : u.key = k
  · subst h
    rw [keepFirst_self]
    cases lastFor us u.key <;> simp
  · rw [keepFirst_of_ne h]
    cases lastFor us k <;> simp [h]

/-- What the updates leave behind: the first source and the last target. -/
theorem foldl_keepFirst (m : κ → Option (σ × τ)) (us : List (Update κ σ τ)) (k : κ) :
    us.foldl keepFirst m k =
      (firstSource m us k).bind fun s => (lastTarget m us k).map fun t => (s, t) := by
  induction us generalizing m with
  | nil =>
    rw [List.foldl_nil]
    unfold firstSource lastTarget
    cases m k <;> rfl
  | cons u us ih => rw [List.foldl_cons, ih, firstSource_cons, lastTarget_cons]

/-- A key is bound to `s` and `t` when these are its first source and its last target. -/
theorem foldl_keepFirst_eq_some {s : σ} {t : τ} :
    us.foldl keepFirst m k = some (s, t) ↔
      firstSource m us k = some s ∧ lastTarget m us k = some t := by
  rw [foldl_keepFirst]
  cases firstSource m us k <;> cases lastTarget m us k <;> simp

end Registry
