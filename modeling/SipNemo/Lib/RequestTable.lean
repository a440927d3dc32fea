import Mathlib.Tactic

/-!
# Tables of outstanding requests

A requester keeps an object for each request it has sent, with a timer, and an index that leads
from the key in a response to the object.  Objects are allocated one after the other and never
reused; an object that is `alive` is a request that waits for its response.

The index is filled by insertion if absent: creating a request whose key is in use leaves the
index as it is, and the new object is out of reach.

* `WellFormed`: the index leads to living objects, each under its own key;
* `Timed`: every object in the index has its timer pending, so that something will happen to it;
* `Reachable`: every living object is in the index, so that its response will find it;
* `Keeps`: the objects of a table are still there in a later one, with the same key and the same
  fixed part of their data.

One lemma for each operation says what it needs to keep `Timed` and `Reachable`.
-/

namespace RequestTable

/-- A timer is idle, pending, or its expiry is being handled. -/
inductive TimerStatus
  | idle | pending | handling
  deriving DecidableEq, Repr

/-- A request object. -/
structure Obj (κ ρ : Type*) where
  key : κ
  data : ρ
  timer : TimerStatus := .pending
  alive : Bool := true
  deriving DecidableEq, Repr

/-- The objects allocated so far, those below `next`, and the index. -/
structure Table (κ ρ : Type*) where
  obj : ℕ → Obj κ ρ
  next : ℕ
  index : κ → Option ℕ

variable {κ ρ : Type*}

/-- A table without requests; `o` fills the places that are not in use. -/
def Table.empty (o : Obj κ ρ) : Table κ ρ where
  obj := fun _ => { o with alive := false }
  next := 0
  index := fun _ => none

/-- Change the object `r`. -/
def Table.modify (t : Table κ ρ) (r : ℕ) (f : Obj κ ρ → Obj κ ρ) : Table κ ρ :=
  { t with obj := Function.update t.obj r (f (t.obj r)) }

/-- Set the timer of an object. -/
def Obj.setTimer (o : Obj κ ρ) (x : TimerStatus) : Obj κ ρ := { o with timer := x }

/-- The index leads to living objects, each under its own key. -/
structure Table.WellFormed (t : Table κ ρ) : Prop where
  lt_next : ∀ k r, t.index k = some r → r < t.next
  key_eq : ∀ k r, t.index k = some r → (t.obj r).key = k
  alive : ∀ k r, t.index k = some r → (t.obj r).alive = true
  fresh : ∀ r, t.next ≤ r → (t.obj r).alive = false

/-- Every object in the index has its timer pending. -/
def Table.Timed (t : Table κ ρ) : Prop :=
  ∀ k r, t.index k = some r → (t.obj r).timer = .pending

/-- Every living object is in the index under its key. -/
def Table.Reachable (t : Table κ ρ) : Prop :=
  ∀ r, (t.obj r).alive = true → t.index (t.obj r).key = some r

/-- The objects of `t` are in `t'`, with their keys and the part `g` of their data. -/
structure Table.Keeps {γ : Type*} (g : ρ → γ) (t t' : Table κ ρ) : Prop where
  next_le : t.next ≤ t'.next
  key : ∀ r < t.next, (t'.obj r).key = (t.obj r).key
  part : ∀ r < t.next, g (t'.obj r).data = g (t.obj r).data

variable {t : Table κ ρ}

/-- No object is alive or in the index. -/
structure Table.Blank (t : Table κ ρ) : Prop where
  index : ∀ k, t.index k = none
  dead : ∀ r, (t.obj r).alive = false

theorem Table.blank_empty (o : Obj κ ρ) : (Table.empty o).Blank := ⟨fun _ => rfl, fun _ => rfl⟩

theorem Table.Blank.wellFormed (h : t.Blank) : t.WellFormed where
  lt_next := by simp [h.index]
  key_eq := by simp [h.index]
  alive := by simp [h.index]
  fresh := fun r _ => h.dead r

theorem Table.Blank.timed (h : t.Blank) : t.Timed := by
  intro k r hr
  simp [h.index] at hr

theorem Table.Blank.reachable (h : t.Blank) : t.Reachable := by
  intro r hr
  simp [h.dead] at hr

/-- Two living objects with one key are the same. -/
theorem Table.Reachable.unique (h : t.Reachable) {r q : ℕ} (hr : (t.obj r).alive = true)
    (hq : (t.obj q).alive = true) (hkey : (t.obj r).key = (t.obj q).key) : r = q := by
  have hfind := h r hr
  rw [hkey, h q hq] at hfind
  exact (Option.some.inj hfind).symm

section Keeps

variable {γ : Type*} {g : ρ → γ} {t₁ t₂ : Table κ ρ}

theorem Table.Keeps.refl (t : Table κ ρ) : t.Keeps g t := ⟨le_rfl, fun _ _ => rfl, fun _ _ => rfl⟩

theorem Table.Keeps.trans (h₁ : t.Keeps g t₁) (h₂ : t₁.Keeps g t₂) : t.Keeps g t₂ where
  next_le := h₁.next_le.trans h₂.next_le
  key := fun r hr => (h₂.key r (hr.trans_le h₁.next_le)).trans (h₁.key r hr)
  part := fun r hr => (h₂.part r (hr.trans_le h₁.next_le)).trans (h₁.part r hr)

end Keeps

/-! ### Changes -/

theorem Table.modify_obj (r q : ℕ) (f : Obj κ ρ → Obj κ ρ) :
    (t.modify r f).obj q = if q = r then f (t.obj r) else t.obj q := by
  by_cases h : q = r
  · subst h
    simp [Table.modify]
  · simp [Table.modify, h]

/-- Changes that concern neither the key nor the life of an object. -/
def Inner (f : Obj κ ρ → Obj κ ρ) : Prop := ∀ o, (f o).key = o.key ∧ (f o).alive = o.alive

theorem Table.modify_key_alive {f : Obj κ ρ → Obj κ ρ} (hf : Inner f) (r q : ℕ) :
    ((t.modify r f).obj q).key = (t.obj q).key ∧
      ((t.modify r f).obj q).alive = (t.obj q).alive := by
  rw [Table.modify_obj]
  by_cases h : q = r
  · rw [if_pos h, h]
    exact hf _
  · rw [if_neg h]
    exact ⟨rfl, rfl⟩

theorem Table.WellFormed.modify (h : t.WellFormed) {f : Obj κ ρ → Obj κ ρ} (hf : Inner f) (r : ℕ) :
    (t.modify r f).WellFormed where
  lt_next := h.lt_next
  key_eq := by
    intro k q hq
    rw [(Table.modify_key_alive hf r q).1]
    exact h.key_eq k q hq
  alive := by
    intro k q hq
    rw [(Table.modify_key_alive hf r q).2]
    exact h.alive k q hq
  fresh := by
    intro q hq
    rw [(Table.modify_key_alive hf r q).2]
    exact h.fresh q hq

/-- A change keeps the timers going if it leaves that of the changed object pending, or the
object is not in the index. -/
theorem Table.Timed.modify (ht : t.Timed) {f : Obj κ ρ → Obj κ ρ} {r : ℕ}
    (hf : (∃ k, t.index k = some r) → (f (t.obj r)).timer = .pending) : (t.modify r f).Timed := by
  intro k q hq
  rw [Table.modify_obj]
  by_cases h : q = r
  · subst h
    rw [if_pos rfl]
    exact hf ⟨k, hq⟩
  · rw [if_neg h]
    exact ht k q hq

theorem Table.Reachable.modify (ht : t.Reachable) {f : Obj κ ρ → Obj κ ρ} (hf : Inner f) (r : ℕ) :
    (t.modify r f).Reachable := by
  intro q hq
  obtain ⟨hkey, halive⟩ := Table.modify_key_alive (t := t) hf r q
  rw [halive] at hq
  rw [hkey]
  exact ht q hq

theorem Table.Keeps.modify {γ : Type*} {g : ρ → γ} {f : Obj κ ρ → Obj κ ρ} (hf : Inner f)
    (hg : ∀ o, g (f o).data = g o.data) (r : ℕ) : t.Keeps g (t.modify r f) where
  next_le := le_rfl
  key := fun q _ => (Table.modify_key_alive hf r q).1
  part := by
    intro q _
    rw [Table.modify_obj]
    by_cases h : q = r
    · rw [if_pos h, h]
      exact hg _
    · rw [if_neg h]

variable [DecidableEq κ]

/-! ### Creation -/

/-- Allocate an object and enter it in the index if its key is free. -/
def Table.create (t : Table κ ρ) (o : Obj κ ρ) : Table κ ρ where
  obj := Function.update t.obj t.next o
  next := t.next + 1
  index :=
    match t.index o.key with
    | none => Function.update t.index o.key (some t.next)
    | some _ => t.index

/-- What the index has after a creation: what it had, or the new object under a free key. -/
theorem Table.create_index {o : Obj κ ρ} {k : κ} {r : ℕ} (h : (t.create o).index k = some r) :
    t.index k = some r ∨ (k = o.key ∧ r = t.next ∧ t.index o.key = none) := by
  unfold Table.create at h
  cases hkey : t.index o.key with
  | some q =>
    simp only [hkey] at h
    exact Or.inl h
  | none =>
    simp only [hkey] at h
    by_cases hk : k = o.key
    · subst hk
      rw [Function.update_self] at h
      exact Or.inr ⟨rfl, (Option.some.inj h).symm, rfl⟩
    · rw [Function.update_of_ne hk] at h
      exact Or.inl h

theorem Table.create_obj_of_lt (o : Obj κ ρ) {r : ℕ} (h : r < t.next) :
    (t.create o).obj r = t.obj r :=
  Function.update_of_ne (Nat.ne_of_lt h) _ _

theorem Table.create_obj_next (o : Obj κ ρ) : (t.create o).obj t.next = o :=
  Function.update_self _ _ _

theorem Table.WellFormed.create (h : t.WellFormed) {o : Obj κ ρ} (ho : o.alive = true) :
    (t.create o).WellFormed where
  lt_next := by
    intro k r hr
    rcases Table.create_index hr with hr | ⟨-, rfl, -⟩
    · exact Nat.lt_succ_of_lt (h.lt_next k r hr)
    · exact Nat.lt_succ_self _
  key_eq := by
    intro k r hr
    rcases Table.create_index hr with hr | ⟨rfl, rfl, -⟩
    · rw [Table.create_obj_of_lt o (h.lt_next k r hr)]
      exact h.key_eq k r hr
    · rw [Table.create_obj_next]
  alive := by
    intro k r hr
    rcases Table.create_index hr with hr | ⟨-, rfl, -⟩
    · rw [Table.create_obj_of_lt o (h.lt_next k r hr)]
      exact h.alive k r hr
    · rw [Table.create_obj_next]
      exact ho
  fresh := by
    intro r hr
    have hne : r ≠ t.next := Nat.ne_of_gt hr
    show (Function.update t.obj t.next o r).alive = false
    rw [Function.update_of_ne hne]
    exact h.fresh r (Nat.le_of_succ_le hr)

/-- A request is created with its timer running. -/
theorem Table.Timed.create (ht : t.Timed) (h : t.WellFormed) {o : Obj κ ρ}
    (ho : o.timer = .pending) : (t.create o).Timed := by
  intro k r hr
  rcases Table.create_index hr with hr | ⟨-, rfl, -⟩
  · rw [Table.create_obj_of_lt o (h.lt_next k r hr)]
    exact ht k r hr
  · rw [Table.create_obj_next]
    exact ho

/-- A request created under a free key can be reached. -/
theorem Table.Reachable.create (ht : t.Reachable) (h : t.WellFormed) {o : Obj κ ρ}
    (hfree : t.index o.key = none) : (t.create o).Reachable := by
  intro r hr
  have hindex : (t.create o).index = Function.update t.index o.key (some t.next) := by
    simp [Table.create, hfree]
  rw [hindex]
  rcases Nat.lt_trichotomy r t.next with hlt | rfl | hgt
  · rw [Table.create_obj_of_lt o hlt] at hr ⊢
    -- the key of an older request is in use, so it is not the new one
    have hne : (t.obj r).key ≠ o.key := by
      intro heq
      have hused := ht r hr
      rw [heq, hfree] at hused
      cases hused
    rw [Function.update_of_ne hne]
    exact ht r hr
  · rw [Table.create_obj_next, Function.update_self]
  · have hdead : ((t.create o).obj r).alive = false := by
      show (Function.update t.obj t.next o r).alive = false
      rw [Function.update_of_ne (Nat.ne_of_gt hgt)]
      exact h.fresh r (Nat.le_of_lt hgt)
    rw [hdead] at hr
    cases hr

theorem Table.Keeps.create {γ : Type*} {g : ρ → γ} (o : Obj κ ρ) : t.Keeps g (t.create o) where
  next_le := Nat.le_succ _
  key := fun r hr => by rw [Table.create_obj_of_lt o hr]
  part := fun r hr => by rw [Table.create_obj_of_lt o hr]

/-! ### Release -/

/-- Take the object `r` out of the index and free it. -/
def Table.release (t : Table κ ρ) (r : ℕ) : Table κ ρ :=
  { t with
    obj := Function.update t.obj r { t.obj r with alive := false }
    index := Function.update t.index (t.obj r).key none }

/-- What the index has after a release. -/
theorem Table.release_index {r q : ℕ} {k : κ} (h : (t.release r).index k = some q) :
    t.index k = some q ∧ k ≠ (t.obj r).key := by
  by_cases hk : k = (t.obj r).key
  · subst hk
    simp [Table.release] at h
  · refine ⟨?_, hk⟩
    rw [← h]
    exact (Function.update_of_ne hk _ _).symm

theorem Table.release_obj_of_ne {r q : ℕ} (h : q ≠ r) : (t.release r).obj q = t.obj q :=
  Function.update_of_ne h _ _

/-- An object that is still in the index after a release is another one. -/
theorem Table.WellFormed.ne_of_release (h : t.WellFormed) {r q : ℕ} {k : κ}
    (hq : (t.release r).index k = some q) : q ≠ r := by
  obtain ⟨hold, hk⟩ := Table.release_index hq
  intro heq
  rw [heq] at hold
  exact hk (h.key_eq k r hold).symm

theorem Table.WellFormed.release (h : t.WellFormed) (r : ℕ) : (t.release r).WellFormed where
  lt_next := fun k q hq => h.lt_next k q (Table.release_index hq).1
  key_eq := by
    intro k q hq
    rw [Table.release_obj_of_ne (h.ne_of_release hq)]
    exact h.key_eq k q (Table.release_index hq).1
  alive := by
    intro k q hq
    rw [Table.release_obj_of_ne (h.ne_of_release hq)]
    exact h.alive k q (Table.release_index hq).1
  fresh := by
    intro q hq
    by_cases hqr : q = r
    · subst hqr
      simp [Table.release]
    · rw [Table.release_obj_of_ne hqr]
      exact h.fresh q hq

theorem Table.Keeps.release {γ : Type*} {g : ρ → γ} (r : ℕ) : t.Keeps g (t.release r) where
  next_le := le_rfl
  key := by
    intro q _
    by_cases h : q = r
    · rw [h]
      simp [Table.release]
    · rw [Table.release_obj_of_ne h]
  part := by
    intro q _
    by_cases h : q = r
    · rw [h]
      simp [Table.release]
    · rw [Table.release_obj_of_ne h]

theorem Table.Timed.release (ht : t.Timed) (h : t.WellFormed) (r : ℕ) : (t.release r).Timed := by
  intro k q hq
  rw [Table.release_obj_of_ne (h.ne_of_release hq)]
  exact ht k q (Table.release_index hq).1

/-- Releasing an object that can be reached leaves the others within reach. -/
theorem Table.Reachable.release (ht : t.Reachable) {r : ℕ} (hr : t.index (t.obj r).key = some r) :
    (t.release r).Reachable := by
  intro q hq
  by_cases hqr : q = r
  · subst hqr
    simp [Table.release] at hq
  · rw [Table.release_obj_of_ne hqr] at hq ⊢
    have hne : (t.obj q).key ≠ (t.obj r).key := by
      intro heq
      have hreach := ht q hq
      rw [heq, hr] at hreach
      exact hqr (Option.some.inj hreach).symm
    show Function.update t.index (t.obj r).key none (t.obj q).key = some q
    rw [Function.update_of_ne hne]
    exact ht q hq

end RequestTable
