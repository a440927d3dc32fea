import SipNemo.Lib.RequestTable

/-!
# Timers and the queue of their events

A simulator keeps the events to come in a queue ordered by time; of events at the same time the one
that was scheduled first comes first.  A timer has at most one event.  Scheduling a timer that is
not idle, cancelling one that is not pending and an event in the past end the simulation: the
operations give `none`.

* `Consistent`: the pending timers are those with an event, and have one each;
* `Sorted`: the queue is in the order of the times;
* `mem_resched`, `mem_sched`, `mem_cancel` say which events an operation leaves in the queue;
* `pair_insert_of_lt` and `pair_insert_of_le` say where a new event comes in the queue, and
  `pair_resched` and its companions that two other events keep their order;
* `status_resched` and its companions say which states of timers an operation changes;
* `Spares P`: the events of the timers in `P` are left alone, with one rule for each operation on
  another timer.
-/

namespace EventQueue

open RequestTable

variable {T τ : Type*}

/-- The clock, the queue of events and the states of the timers. -/
structure Scheduler (T τ : Type*) where
  clock : T
  queue : List (T × τ)
  status : τ → TimerStatus

section Insert

variable [LinearOrder T] {e f : T × τ} {q : List (T × τ)}

/-- Put an event behind those that are not later. -/
def insert (e : T × τ) : List (T × τ) → List (T × τ)
  | [] => [e]
  | f :: q => if e.1 < f.1 then e :: f :: q else f :: insert e q

theorem perm_insert (e : T × τ) (q : List (T × τ)) : (insert e q).Perm (e :: q) := by
  induction q with
  | nil => exact .refl _
  | cons f q ih =>
    unfold insert
    split_ifs
    · exact .refl _
    · exact (ih.cons f).trans (.swap e f q)

@[simp] theorem mem_insert : f ∈ insert e q ↔ f = e ∨ f ∈ q := by
  rw [(perm_insert e q).mem_iff, List.mem_cons]

theorem sublist_insert (e : T × τ) (q : List (T × τ)) : q.Sublist (insert e q) := by
  induction q with
  | nil => exact List.nil_sublist _
  | cons f q ih =>
    unfold insert
    split_ifs
    · exact List.sublist_cons_self e (f :: q)
    · exact ih.cons_cons f

theorem sorted_insert (h : q.Pairwise fun a b => a.1 ≤ b.1) :
    (insert e q).Pairwise fun a b => a.1 ≤ b.1 := by
  induction q with
  | nil => exact List.pairwise_singleton _ _
  | cons f q ih =>
    obtain ⟨hf, hq⟩ := List.pairwise_cons.1 h
    unfold insert
    split_ifs with hlt
    · refine List.pairwise_cons.2 ⟨fun g hg => ?_, h⟩
      rcases List.mem_cons.1 hg with rfl | hg
      · exact hlt.le
      · exact hlt.le.trans (hf g hg)
    · refine List.pairwise_cons.2 ⟨fun g hg => ?_, ih hq⟩
      rcases mem_insert.1 hg with rfl | hg
      · exact not_lt.1 hlt
      · exact hf g hg

/-- A new event comes before one that is later. -/
theorem pair_insert_of_lt (h : e.1 < f.1) (hf : f ∈ q) : [e, f].Sublist (insert e q) := by
  induction q with
  | nil => cases hf
  | cons g q ih =>
    unfold insert
    split_ifs with hlt
    · exact (List.singleton_sublist.2 hf).cons_cons e
    · rcases List.mem_cons.1 hf with rfl | hf
      · exact absurd h hlt
      · exact (ih hf).cons g

/-- A new event comes behind one that is not later. -/
theorem pair_insert_of_le (hq : q.Pairwise fun a b => a.1 ≤ b.1) (h : f.1 ≤ e.1) (hf : f ∈ q) :
    [f, e].Sublist (insert e q) := by
  induction q with
  | nil => cases hf
  | cons g q ih =>
    obtain ⟨hg, hq⟩ := List.pairwise_cons.1 hq
    unfold insert
    rcases List.mem_cons.1 hf with rfl | hf
    · rw [if_neg (not_lt.2 h)]
      exact (List.singleton_sublist.2 (mem_insert.2 (Or.inl rfl))).cons_cons f
    · rw [if_neg (not_lt.2 ((hg f hf).trans h))]
      exact (ih hq hf).cons g

end Insert

namespace Scheduler

variable [DecidableEq τ] {s s' : Scheduler T τ} {x y : τ} {t d : T} {f g : T × τ}

/-! ### The operations -/

section Operations

variable (s) (x)

/-- Set the state of a timer. -/
def setStatus (st : TimerStatus) : Scheduler T τ :=
  { s with status := Function.update s.status x st }

/-- The event of a timer is taken out of the queue. -/
def unschedule : Scheduler T τ := { s with queue := s.queue.filter fun e => e.2 ≠ x }

/-- `TimerHandler::cancel`. -/
def cancel : Option (Scheduler T τ) :=
  if s.status x = .pending then some ((s.unschedule x).setStatus x .idle) else none

/-- The end of `TimerHandler::handle`: a timer that was not started again is idle. -/
def finish : Scheduler T τ := if s.status x = .handling then s.setStatus x .idle else s

variable [LinearOrder T] [Add T]

/-- `Scheduler::schedule`. -/
def schedule (delay : T) : Scheduler T τ :=
  { s with queue := insert (s.clock + delay, x) s.queue }

/-- `TimerHandler::sched`. -/
def sched (delay : T) : Option (Scheduler T τ) :=
  if s.status x = .idle then some ((s.schedule x delay).setStatus x .pending) else none

/-- `TimerHandler::resched`. -/
def resched (delay : T) : Scheduler T τ :=
  ((if s.status x = .pending then s.unschedule x else s).schedule x delay).setStatus x .pending

omit [Add T]

/-- `Scheduler::dispatch` of the first event, up to the call of `expire`. -/
def dispatch : Option (τ × Scheduler T τ) :=
  match s.queue with
  | [] => none
  | (t, x) :: q =>
    if s.clock ≤ t ∧ s.status x = .pending then
      some (x, setStatus { s with clock := t, queue := q } x .handling)
    else none

/-- Time passes, up to the next event at most. -/
def wait (t : T) : Option (Scheduler T τ) :=
  if s.clock ≤ t ∧ ∀ e ∈ s.queue, t ≤ e.1 then some { s with clock := t } else none

end Operations

/-! ### Which events are in the queue -/

/-- The pending timers are those with an event, and have one each. -/
structure Consistent (s : Scheduler T τ) : Prop where
  nodup : (s.queue.map Prod.snd).Nodup
  pending_iff : ∀ x, s.status x = .pending ↔ x ∈ s.queue.map Prod.snd

/-- The queue is in the order of the times. -/
def Sorted [LinearOrder T] (s : Scheduler T τ) : Prop :=
  s.queue.Pairwise fun a b => a.1 ≤ b.1

theorem mem_unschedule : f ∈ (s.unschedule x).queue ↔ f ∈ s.queue ∧ f.2 ≠ x := by
  simp [unschedule]

theorem mem_cancel (h : s.cancel x = some s') : f ∈ s'.queue ↔ f ∈ s.queue ∧ f.2 ≠ x := by
  unfold cancel at h
  split_ifs at h
  obtain rfl := Option.some.inj h
  exact mem_unschedule

@[simp] theorem queue_finish (s : Scheduler T τ) (x : τ) : (s.finish x).queue = s.queue := by
  unfold finish
  split_ifs <;> rfl

@[simp] theorem clock_finish (s : Scheduler T τ) (x : τ) : (s.finish x).clock = s.clock := by
  unfold finish
  split_ifs <;> rfl

theorem status_finish_of_ne (h : y ≠ x) : (s.finish x).status y = s.status y := by
  unfold finish
  split_ifs
  · exact Function.update_of_ne h _ _
  · rfl

theorem status_finish_self (s : Scheduler T τ) (x : τ) :
    (s.finish x).status x = if s.status x = .handling then .idle else s.status x := by
  unfold finish
  split_ifs
  · exact Function.update_self _ _ _
  · rfl

theorem clock_cancel (h : s.cancel x = some s') : s'.clock = s.clock := by
  unfold cancel at h
  split_ifs at h
  obtain rfl := Option.some.inj h
  rfl

omit [DecidableEq τ] in
/-- A timer that is not pending has no event. -/
theorem Consistent.ne_of_mem (hs : s.Consistent) (h : s.status x ≠ .pending) (hf : f ∈ s.queue) :
    f.2 ≠ x := by
  rintro rfl
  exact h ((hs.pending_iff f.2).2 (List.mem_map_of_mem hf))

theorem Consistent.cancel (hs : s.Consistent) (h : s.cancel x = some s') : s'.Consistent := by
  have hmem : ∀ f, f ∈ s'.queue ↔ f ∈ s.queue ∧ f.2 ≠ x := fun f => mem_cancel h
  unfold Scheduler.cancel at h
  split_ifs at h
  obtain rfl := Option.some.inj h
  refine ⟨hs.nodup.sublist ((List.filter_sublist).map _), fun y => ?_⟩
  by_cases hy : y = x
  · subst hy
    simp [setStatus, unschedule]
  · simp [setStatus, unschedule, hy, hs.pending_iff y]

theorem Consistent.finish (hs : s.Consistent) (x : τ) : (s.finish x).Consistent := by
  unfold Scheduler.finish
  split_ifs with hx
  · refine ⟨hs.nodup, fun y => ?_⟩
    by_cases hy : y = x
    · subst hy
      have hno := (hs.pending_iff y).not.1 (by simp [hx])
      simpa [setStatus] using hno
    · simpa [setStatus, hy] using hs.pending_iff y
  · exact hs

theorem clock_getD_cancel (s : Scheduler T τ) (x : τ) : ((s.cancel x).getD s).clock = s.clock := by
  cases h : s.cancel x with
  | none => rfl
  | some t => exact clock_cancel h

theorem mem_getD_cancel (hs : s.Consistent) :
    f ∈ ((s.cancel x).getD s).queue ↔ f ∈ s.queue ∧ f.2 ≠ x := by
  cases h : s.cancel x with
  | none =>
    have hx : s.status x ≠ .pending := by
      intro hx
      simp [Scheduler.cancel, hx] at h
    exact ⟨fun hf => ⟨hf, hs.ne_of_mem hx hf⟩, And.left⟩
  | some t => exact mem_cancel h

/-- Two other events keep their order. -/
theorem pair_cancel (h : s.cancel x = some s') (hfg : [f, g].Sublist s.queue) (hf : f.2 ≠ x)
    (hg : g.2 ≠ x) : [f, g].Sublist s'.queue := by
  unfold Scheduler.cancel at h
  split_ifs at h
  obtain rfl := Option.some.inj h
  have hpair := hfg.filter fun e => decide (e.2 ≠ x)
  simpa [List.filter, hf, hg, unschedule, setStatus] using hpair

section Order

variable [LinearOrder T]

theorem dispatch_eq_some (h : s.dispatch = some (x, s')) :
    ∃ t q, s.queue = (t, x) :: q ∧ s.clock ≤ t ∧ s'.clock = t ∧ s'.queue = q := by
  unfold dispatch at h
  split at h
  · cases h
  · next t y q hq =>
    split_ifs at h with hy
    obtain ⟨rfl, rfl⟩ := Prod.mk.inj (Option.some.inj h)
    exact ⟨t, q, hq, hy.1, rfl, rfl⟩

theorem status_dispatch (h : s.dispatch = some (x, s')) :
    s.status x = .pending ∧ s'.status = Function.update s.status x .handling := by
  unfold dispatch at h
  split at h
  · cases h
  · next t y q hq =>
    split_ifs at h with hy
    obtain ⟨rfl, rfl⟩ := Prod.mk.inj (Option.some.inj h)
    exact ⟨hy.2, rfl⟩

theorem Consistent.dispatch (hs : s.Consistent) (h : s.dispatch = some (x, s')) :
    s'.Consistent := by
  unfold Scheduler.dispatch at h
  split at h
  · cases h
  · next t y q hq =>
    split_ifs at h with hy
    obtain ⟨rfl, rfl⟩ := Prod.mk.inj (Option.some.inj h)
    have hnodup := hs.nodup
    rw [hq, List.map_cons, List.nodup_cons] at hnodup
    refine ⟨hnodup.2, fun z => ?_⟩
    by_cases hz : z = y
    · subst hz
      simpa [setStatus] using hnodup.1
    · have hiff := hs.pending_iff z
      simpa [setStatus, hz, hq] using hiff

theorem Sorted.dispatch (hs : s.Sorted) (h : s.dispatch = some (x, s')) : s'.Sorted := by
  obtain ⟨t, q, hq, -, -, rfl⟩ := dispatch_eq_some h
  have hs' := hs
  rw [Sorted, hq] at hs'
  exact (List.pairwise_cons.1 hs').2

theorem Sorted.cancel (hs : s.Sorted) (h : s.cancel x = some s') : s'.Sorted := by
  unfold Scheduler.cancel at h
  split_ifs at h
  obtain rfl := Option.some.inj h
  exact hs.sublist List.filter_sublist

theorem Sorted.getD_cancel (hs : s.Sorted) (x : τ) : ((s.cancel x).getD s).Sorted := by
  cases h : s.cancel x with
  | none => exact hs
  | some t => exact hs.cancel h

theorem Sorted.finish (hs : s.Sorted) (x : τ) : (s.finish x).Sorted := by
  rw [Sorted, queue_finish]
  exact hs

omit [DecidableEq τ] in
theorem wait_eq_some (h : s.wait t = some s') :
    s.clock ≤ t ∧ s' = { s with clock := t } := by
  unfold wait at h
  split_ifs at h with ht
  exact ⟨ht.1, (Option.some.inj h).symm⟩

variable [Add T]

theorem sched_eq_some (h : s.sched x d = some s') :
    s.status x = .idle ∧ s' = (s.schedule x d).setStatus x .pending := by
  unfold sched at h
  split_ifs at h with hx
  exact ⟨hx, (Option.some.inj h).symm⟩

theorem status_resched (s : Scheduler T τ) (x : τ) (d : T) :
    (s.resched x d).status = Function.update s.status x .pending := by
  unfold resched
  split_ifs <;> rfl

/-- Scheduling a timer that has no event. -/
theorem Consistent.schedule (hs : s.Consistent) (hx : s.status x ≠ .pending) (d : T) :
    ((s.schedule x d).setStatus x .pending).Consistent := by
  have hno := (hs.pending_iff x).not.1 hx
  refine ⟨?_, fun y => ?_⟩
  · have hperm := (perm_insert (s.clock + d, x) s.queue).map Prod.snd
    exact hperm.nodup_iff.2 (List.nodup_cons.2 ⟨hno, hs.nodup⟩)
  · have hperm := (perm_insert (s.clock + d, x) s.queue).map Prod.snd
    show _ ↔ y ∈ (insert (s.clock + d, x) s.queue).map Prod.snd
    rw [hperm.mem_iff, List.map_cons, List.mem_cons]
    by_cases hy : y = x
    · subst hy
      simp [setStatus]
    · simpa [setStatus, Scheduler.schedule, hy] using hs.pending_iff y

theorem Consistent.sched (hs : s.Consistent) (h : s.sched x d = some s') : s'.Consistent := by
  obtain ⟨hx, rfl⟩ := sched_eq_some h
  exact hs.schedule (by simp [hx]) d

/-- Rescheduling a timer is cancelling it, if it is pending, and scheduling it. -/
theorem resched_eq (s : Scheduler T τ) (x : τ) (d : T) :
    s.resched x d = (((s.cancel x).getD s).schedule x d).setStatus x .pending := by
  unfold resched Scheduler.cancel
  split_ifs
  · simp [Scheduler.schedule, setStatus, unschedule]
  · rfl

theorem Consistent.resched (hs : s.Consistent) (x : τ) (d : T) : (s.resched x d).Consistent := by
  rw [resched_eq]
  cases h : s.cancel x with
  | none =>
    refine hs.schedule (fun hx => ?_) d
    simp [Scheduler.cancel, hx] at h
  | some t =>
    refine (hs.cancel h).schedule (fun hx => ?_) d
    unfold Scheduler.cancel at h
    split_ifs at h
    obtain rfl := Option.some.inj h
    simp [setStatus] at hx

theorem mem_resched (hs : s.Consistent) :
    f ∈ (s.resched x d).queue ↔ f = (s.clock + d, x) ∨ f ∈ s.queue ∧ f.2 ≠ x := by
  rw [resched_eq]
  show f ∈ insert _ _ ↔ _
  rw [mem_insert, mem_getD_cancel hs, clock_getD_cancel]

theorem mem_sched (h : s.sched x d = some s') :
    f ∈ s'.queue ↔ f = (s.clock + d, x) ∨ f ∈ s.queue := by
  obtain ⟨-, rfl⟩ := sched_eq_some h
  exact mem_insert

@[simp] theorem clock_resched (s : Scheduler T τ) (x : τ) (d : T) :
    (s.resched x d).clock = s.clock := by
  rw [resched_eq]
  exact clock_getD_cancel s x

theorem clock_sched (h : s.sched x d = some s') : s'.clock = s.clock := by
  obtain ⟨-, rfl⟩ := sched_eq_some h
  rfl

theorem Sorted.resched (hs : s.Sorted) (x : τ) (d : T) : (s.resched x d).Sorted := by
  rw [resched_eq]
  exact sorted_insert (hs.getD_cancel x)

theorem Sorted.sched (hs : s.Sorted) (h : s.sched x d = some s') : s'.Sorted := by
  obtain ⟨-, rfl⟩ := sched_eq_some h
  exact sorted_insert hs

theorem pair_resched (hfg : [f, g].Sublist s.queue) (hf : f.2 ≠ x) (hg : g.2 ≠ x) :
    [f, g].Sublist (s.resched x d).queue := by
  rw [resched_eq]
  refine List.Sublist.trans ?_ (sublist_insert _ _)
  cases h : s.cancel x with
  | none => exact hfg
  | some t => exact pair_cancel h hfg hf hg

theorem pair_sched (h : s.sched x d = some s') (hfg : [f, g].Sublist s.queue) :
    [f, g].Sublist s'.queue := by
  obtain ⟨-, rfl⟩ := sched_eq_some h
  exact hfg.trans (sublist_insert _ _)

/-- A timer is rescheduled to before a later event. -/
theorem pair_resched_of_lt (hs : s.Consistent) (h : s.clock + d < g.1) (hg : g ∈ s.queue)
    (hx : g.2 ≠ x) : [(s.clock + d, x), g].Sublist (s.resched x d).queue := by
  rw [resched_eq, ← clock_getD_cancel s x]
  exact pair_insert_of_lt (by rwa [clock_getD_cancel]) ((mem_getD_cancel hs).2 ⟨hg, hx⟩)

/-- A timer is rescheduled to behind an event that is not later. -/
theorem pair_resched_of_le (hs : s.Consistent) (hsorted : s.Sorted) (h : f.1 ≤ s.clock + d)
    (hf : f ∈ s.queue) (hx : f.2 ≠ x) : [f, (s.clock + d, x)].Sublist (s.resched x d).queue := by
  rw [resched_eq, ← clock_getD_cancel s x]
  exact pair_insert_of_le (hsorted.getD_cancel x) (by rwa [clock_getD_cancel])
    ((mem_getD_cancel hs).2 ⟨hf, hx⟩)

end Order

/-! ### What an operation leaves alone -/

section Spares

variable [LinearOrder T] {P : τ → Prop} {s'' : Scheduler T τ}

/-- The queue has one event for each pending timer, in the order of the times. -/
structure Orderly (s : Scheduler T τ) : Prop where
  consistent : s.Consistent
  sorted : s.Sorted

/-- At one time, the events of the timers in `P` are as before, in the same order. -/
structure Spares (P : τ → Prop) (s s' : Scheduler T τ) : Prop where
  clock : s'.clock = s.clock
  mem : ∀ e : T × τ, P e.2 → (e ∈ s'.queue ↔ e ∈ s.queue)
  pair : ∀ e f : T × τ, P e.2 → P f.2 → [e, f].Sublist s.queue → [e, f].Sublist s'.queue
  orderly : s'.Orderly

omit [DecidableEq τ] in
theorem Orderly.spares (hs : s.Orderly) : s.Spares P s :=
  ⟨rfl, fun _ _ => Iff.rfl, fun _ _ _ _ => id, hs⟩

omit [DecidableEq τ] in
theorem Spares.trans (h : s.Spares P s') (h' : s'.Spares P s'') : s.Spares P s'' where
  clock := h'.clock.trans h.clock
  mem e he := (h'.mem e he).trans (h.mem e he)
  pair e f he hf hef := h'.pair e f he hf (h.pair e f he hf hef)
  orderly := h'.orderly

theorem Orderly.cancel (hs : s.Orderly) (hx : ¬ P x) (h : s.cancel x = some s') :
    s.Spares P s' where
  clock := clock_cancel h
  mem e he := by
    rw [mem_cancel h, and_iff_left_iff_imp]
    rintro - rfl
    exact hx he
  pair e f he hf hef := pair_cancel h hef (fun heq => hx (heq ▸ he)) (fun heq => hx (heq ▸ hf))
  orderly := ⟨hs.consistent.cancel h, hs.sorted.cancel h⟩

theorem Orderly.finish (hs : s.Orderly) (x : τ) : s.Spares P (s.finish x) where
  clock := clock_finish s x
  mem e _ := by rw [queue_finish]
  pair e f _ _ hef := by rwa [queue_finish]
  orderly := ⟨hs.consistent.finish x, hs.sorted.finish x⟩

/-- The first event is taken from the queue, and nothing else. -/
theorem mem_dispatch (hs : s.Consistent) (h : s.dispatch = some (x, s')) :
    f ∈ s'.queue ↔ f ∈ s.queue ∧ f.2 ≠ x := by
  obtain ⟨t, q, hq, -, -, hq'⟩ := dispatch_eq_some h
  have hnodup := hs.nodup
  rw [hq, List.map_cons, List.nodup_cons] at hnodup
  rw [hq, hq', List.mem_cons]
  constructor
  · intro hf
    refine ⟨Or.inr hf, fun hx => hnodup.1 ?_⟩
    exact List.mem_map.2 ⟨f, hf, hx⟩
  · rintro ⟨rfl | hf, hx⟩
    · exact absurd rfl hx
    · exact hf

theorem pair_dispatch (h : s.dispatch = some (x, s')) (hfg : [f, g].Sublist s.queue)
    (hf : f.2 ≠ x) : [f, g].Sublist s'.queue := by
  obtain ⟨t, q, hq, -, -, hq'⟩ := dispatch_eq_some h
  rw [hq] at hfg
  rw [hq']
  cases hfg with
  | cons _ hfg => exact hfg
  | cons_cons _ _ => exact absurd rfl hf

/-- The first event comes behind no other. -/
theorem ne_of_pair_dispatch (hs : s.Consistent) (h : s.dispatch = some (x, s'))
    (hfg : [f, g].Sublist s.queue) : g.2 ≠ x := by
  obtain ⟨t, q, hq, -, -, -⟩ := dispatch_eq_some h
  have hnodup := hs.nodup
  rw [hq, List.map_cons, List.nodup_cons] at hnodup
  rw [hq] at hfg
  intro hg
  have hmem : g ∈ q := by
    cases hfg with
    | cons _ hfg => exact hfg.subset (by simp)
    | cons_cons _ hfg => exact List.singleton_sublist.1 hfg
  exact hnodup.1 (List.mem_map.2 ⟨g, hmem, hg⟩)

theorem Orderly.dispatch (hs : s.Orderly) (h : s.dispatch = some (x, s')) : s'.Orderly :=
  ⟨hs.consistent.dispatch h, hs.sorted.dispatch h⟩

omit [DecidableEq τ] in
theorem Orderly.wait (hs : s.Orderly) (h : s.wait t = some s') : s'.Orderly := by
  obtain ⟨-, rfl⟩ := wait_eq_some h
  exact ⟨⟨hs.consistent.nodup, hs.consistent.pending_iff⟩, hs.sorted⟩

variable [Add T]

theorem Orderly.resched (hs : s.Orderly) (hx : ¬ P x) (d : T) : s.Spares P (s.resched x d) where
  clock := clock_resched s x d
  mem e he := by
    have hne : e.2 ≠ x := fun heq => hx (heq ▸ he)
    rw [mem_resched hs.consistent]
    constructor
    · rintro (rfl | ⟨hmem, -⟩)
      · exact absurd rfl hne
      · exact hmem
    · exact fun hmem => Or.inr ⟨hmem, hne⟩
  pair e f he hf hef := pair_resched hef (fun heq => hx (heq ▸ he)) (fun heq => hx (heq ▸ hf))
  orderly := ⟨hs.consistent.resched x d, hs.sorted.resched x d⟩

theorem Orderly.sched (hs : s.Orderly) (hx : ¬ P x) (h : s.sched x d = some s') :
    s.Spares P s' where
  clock := clock_sched h
  mem e he := by
    rw [mem_sched h, or_iff_right]
    rintro rfl
    exact hx he
  pair e f _ _ hef := pair_sched h hef
  orderly := ⟨hs.consistent.sched h, hs.sorted.sched h⟩

end Spares

end Scheduler

end EventQueue
