import SipNemo.Nd.PrefixTimers

/-!
# The neighbor list along a run

One agent on its scheduler, with the events its interface manager has got and, for each prefix, the
time until which its latest advertisement holds.  Along every run in which no prefix is negative the
list and the timers of its prefixes stay in step, and the manager hears of a prefix and of its
expiry in turn.
-/

namespace SipNemo.Nd

open EventQueue EventQueue.Scheduler Runs NDAgent

/-- An agent, its scheduler, the events of the interface manager, the latest first, and the expiry
that the latest advertisement of a prefix sets. -/
structure NdRun where
  agent : NDAgent
  sched : NdScheduler Unit
  log : List NdOutput
  heard : Addr → Option ℚ

namespace NdRun

/-- An agent that has heard nothing yet. -/
def start (clock : ℚ) (addr : Addr) (node : NodeId) (settings : NdSettings) : NdRun where
  agent := { addr := addr, node := node, settings := settings }
  sched := ⟨clock, [], fun _ => .idle⟩
  log := []
  heard := fun _ => none

/-- The events about a prefix. -/
def events (p : Addr) (log : List NdOutput) : List NdEvent := log.filterMap (NdOutput.about p)

/-- Something happens to the agent, its next timer is up, or time passes. -/
inductive Input
  | now (i : NdStep)
  | fire (rand : Rand)
  | wait (t : ℚ)

/-- The advertisement that a host hears is good for three of its intervals, which are in
milliseconds, or for the lifetime of its router. -/
def hear (r : NdRun) : NdStep → Addr → Option ℚ
  | .rads rh _ =>
    if r.agent.settings.router then r.heard
    else
      Function.update r.heard rh.prefix_ (some (r.sched.clock +
        if r.agent.settings.useAdvInterval then (rh.advertisementInterval.toNat : ℚ) * (3 / 1000)
        else rh.routerLifetime))
  | _ => r.heard

def step (r : NdRun) : Input → Act NdRun
  | .now i => do
    let ((a, s), out) ← r.agent.perform () r.sched i
    pure ⟨a, s, out.reverse ++ r.log, r.hear i⟩
  | .fire rand => do
    let (x, s) ← orAbort r.sched.dispatch
    let ((a, s), out) ← r.agent.handle () s x.2 rand
    pure ⟨a, s, out.reverse ++ r.log, r.heard⟩
  | .wait t => do
    let s ← orAbort (r.sched.wait t)
    pure { r with sched := s }

/-- Advertised prefixes are not negative, and an interface manager is never unregistered. -/
def Ok (r : NdRun) : Input → Prop
  | .now (.rads rh _) => 0 ≤ rh.prefix_.toInt
  | .now (.set settings) => r.agent.settings.iMngmnt → settings.iMngmnt
  | _ => True

/-- The list and the timers of the prefixes are in step, and the manager has heard of each prefix
and of its expiry in turn. -/
structure Good (r : NdRun) : Prop where
  /-- No two entries have the same prefix. -/
  unique : (r.agent.nlist.map Entry.prefix_).Nodup
  /-- An entry has exactly one event, at its expiry. -/
  one_timer : ∀ e ∈ r.agent.nlist, r.sched.status ((), e.timer) = .pending ∧
    (r.sched.queue.map Prod.snd).count ((), e.timer) = 1 ∧
    (e.expire, ((), e.timer)) ∈ r.sched.queue
  /-- The timer of a prefix belongs to a listed entry. -/
  listed : ∀ id p, ((), NdTimer.ofPrefix id p) ∈ r.sched.queue.map Prod.snd →
    ∃ e ∈ r.agent.nlist, e.timer = .ofPrefix id p
  /-- A prefix is listed for the lifetime of its latest advertisement. -/
  kept : ∀ p t, r.heard p = some t → r.sched.clock < t → p ∈ r.agent.nlist.map Entry.prefix_
  /-- Between two events of expiry there is one of a new prefix, and conversely. -/
  in_turn : ∀ p, (events p r.log).IsChain (· ≠ ·)

/-! ### What the interface manager has heard -/

/-- The events are in turn, the latest one is of a new prefix if and only if the prefix is listed,
and without a manager `m` there is none. -/
structure InTurn (m : Bool) (listed : Addr → Prop) (log : List NdOutput) : Prop where
  in_turn : ∀ p, (events p log).IsChain (· ≠ ·)
  newest : ∀ p ev, (events p log).head? = some ev → (ev = .newPrefix ↔ listed p)
  silent : m = false → ∀ p, events p log = []

theorem events_append (p : Addr) (out log : List NdOutput) :
    events p (out.reverse ++ log) = (events p out).reverse ++ events p log := by
  simp [events, List.filterMap_append, List.filterMap_reverse]

theorem events_silent {out : List NdOutput} (h : ∀ o ∈ out, ∀ p, o.about p = none) (p : Addr) :
    events p out = [] :=
  List.filterMap_eq_nil_iff.2 fun o ho => h o ho p

/-- The chain goes on with an event that is not the one at its head. -/
theorem isChain_cons {ev : NdEvent} {l : List NdEvent} (h : l.IsChain (· ≠ ·))
    (hev : ∀ ev', l.head? = some ev' → ev ≠ ev') : (ev :: l).IsChain (· ≠ ·) := by
  cases l with
  | nil => exact List.isChain_singleton _
  | cons ev' l => exact List.isChain_cons_cons.2 ⟨hev ev' rfl, h⟩

/-- The manager, if there is one, hears that the prefix `q` is new or that it has expired. -/
theorem InTurn.tell {m : Bool} {listed listed' : Addr → Prop} {log out : List NdOutput}
    {ev : NdEvent} {q : Addr} (h : InTurn m listed log) (hev : ev = .newPrefix ↔ ¬ listed q)
    (hq : ev = .newPrefix ↔ listed' q) (hother : ∀ p, p ≠ q → (listed' p ↔ listed p))
    (hout : ∀ p, events p out = if m ∧ p = q then [ev] else []) :
    InTurn m listed' (out.reverse ++ log) := by
  have hlog : ∀ p, events p (out.reverse ++ log) =
      if m ∧ p = q then ev :: events p log else events p log := fun p => by
    rw [events_append, hout]
    split_ifs <;> rfl
  refine ⟨fun p => ?_, fun p ev' hev' => ?_, fun hm p => ?_⟩
  · rw [hlog]
    split_ifs with hp
    · obtain ⟨-, rfl⟩ := hp
      refine isChain_cons (h.in_turn p) ?_
      rintro ev' hev' rfl
      exact iff_not_self ((h.newest p ev hev').symm.trans hev)
    · exact h.in_turn p
  · rw [hlog] at hev'
    split_ifs at hev' with hp
    · obtain rfl := Option.some.inj hev'
      exact hp.2 ▸ hq
    · -- with a manager the prefix is another one, without one there are no events
      have hne : p ≠ q := by
        rintro rfl
        have hm : m = false := by
          by_contra hm
          exact hp ⟨Bool.eq_true_of_not_eq_false hm, rfl⟩
        simp [h.silent hm] at hev'
      rw [hother p hne]
      exact h.newest p ev' hev'
  · rw [hlog, if_neg fun hp => by simp [hp.1] at hm]
    exact h.silent hm p

/-! ### The invariant -/

structure Inv (r : NdRun) : Prop where
  orderly : r.sched.Orderly
  inStep : InStep () r.agent r.sched
  plain : ∀ e ∈ r.agent.nlist, ¬ Special e.prefix_
  due : ∀ e ∈ r.agent.nlist, r.heard e.prefix_ = some e.expire
  kept : ∀ p t, r.heard p = some t → r.sched.clock < t → p ∈ r.agent.nlist.map Entry.prefix_
  told : InTurn r.agent.settings.iMngmnt (· ∈ r.agent.nlist.map Entry.prefix_) r.log

theorem start_inv (clock : ℚ) (addr : Addr) (node : NodeId) (settings : NdSettings) :
    (start clock addr node settings).Inv where
  orderly := ⟨⟨List.nodup_nil, fun x => by simp [start]⟩, List.Pairwise.nil⟩
  inStep := ⟨List.nodup_nil, by simp [start], by simp [start], by simp [start]⟩
  plain := by simp [start]
  due := by simp [start]
  kept := by simp [start]
  told := ⟨by simp [start, events], by simp [start, events], by simp [start, events]⟩

theorem not_special_of_nonneg {p : Addr} (h : 0 ≤ p.toInt) : ¬ Special p := by
  rintro (rfl | rfl)
  · exact absurd h (by decide)
  · exact absurd h (by decide)

theorem Inv.good {r : NdRun} (h : r.Inv) : r.Good where
  unique := h.inStep.unique
  one_timer e he := by
    have hmem := h.inStep.timer e he (h.plain e he)
    have hx : ((), e.timer) ∈ r.sched.queue.map Prod.snd := List.mem_map_of_mem hmem
    exact ⟨(h.orderly.consistent.pending_iff _).2 hx,
      List.count_eq_one_of_mem h.orderly.consistent.nodup hx, hmem⟩
  listed id p hx := by
    obtain ⟨⟨t, x⟩, ht, rfl⟩ := List.mem_map.1 hx
    obtain ⟨e, he, htimer, -⟩ := h.inStep.listed t id p ht
    exact ⟨e, he, htimer⟩
  kept := h.kept
  in_turn := h.told.in_turn

/-! ### One step -/

/-- A step that says nothing of any prefix. -/
theorem Inv.quiet {r : NdRun} {a : NDAgent} {s : NdScheduler Unit} {out : List NdOutput}
    (h : r.Inv) (hq : Quiet r.agent r.sched a s out) :
    Inv ⟨a, s, out.reverse ++ r.log, r.heard⟩ := by
  have hlog : ∀ p, events p (out.reverse ++ r.log) = events p r.log := fun p => by
    simp [events_append, events_silent hq.silent]
  refine ⟨hq.spares.orderly, hq.inStep h.inStep, ?_, ?_, ?_, ?_, ?_, ?_⟩
  · simpa only [hq.nlist] using h.plain
  · simpa only [hq.nlist] using h.due
  · simpa only [hq.nlist, hq.spares.clock] using h.kept
  · simpa only [hlog] using h.told.in_turn
  · simpa only [hlog, hq.nlist] using h.told.newest
  · simpa only [hlog, hq.settings] using h.told.silent

/-- A manager may be registered at any time. -/
theorem Inv.set {r : NdRun} {settings : NdSettings} (h : r.Inv)
    (hset : r.agent.settings.iMngmnt → settings.iMngmnt) :
    Inv { r with agent := { r.agent with settings := settings } } := by
  refine ⟨h.orderly, h.inStep.congr rfl rfl, h.plain, h.due, h.kept, h.told.in_turn,
    h.told.newest, fun hno => h.told.silent ?_⟩
  by_contra hyes
  simp [hset (Bool.eq_true_of_not_eq_false hyes)] at hno

/-- Time passes, by itself or with an event of the queue. -/
theorem Inv.later {r : NdRun} {s : NdScheduler Unit} (h : r.Inv) (hs : s.Orderly)
    (hstep : InStep () r.agent s) (hclock : r.sched.clock ≤ s.clock) :
    Inv { r with sched := s } :=
  ⟨hs, hstep, h.plain, h.due, fun p t hp ht => h.kept p t hp (hclock.trans_lt ht), h.told⟩

/-- An advertisement of a listed prefix. -/
theorem Inv.refresh {r : NdRun} {e : Entry} {l : ℚ} (h : r.Inv) (he : e ∈ r.agent.nlist) :
    Inv ⟨(updateEntry () r.agent r.sched e l).1, (updateEntry () r.agent r.sched e l).2, r.log,
      Function.update r.heard e.prefix_ (some (r.sched.clock + l))⟩ := by
  have hmem : ∀ f, f ∈ (updateEntry () r.agent r.sched e l).1.nlist ↔
      f = { e with time := r.sched.clock, lftm := l } ∨ f ∈ r.agent.nlist ∧ f ≠ e :=
    fun _ => mem_updateEntry he
  have hkeys : ∀ p, p ∈ (updateEntry () r.agent r.sched e l).1.nlist.map Entry.prefix_ ↔
      p ∈ r.agent.nlist.map Entry.prefix_ := fun p => by
    rw [map_prefix_updateEntry]
  refine ⟨(h.orderly.resched (P := fun _ => False) id _).orderly,
    h.inStep.updateEntry h.orderly he, ?_, ?_, ?_, ?_⟩
  · intro f hf
    rcases (hmem f).1 hf with rfl | ⟨hf, -⟩
    · exact h.plain e he
    · exact h.plain f hf
  · intro f hf
    rcases (hmem f).1 hf with rfl | ⟨hf, hne⟩
    · exact Function.update_self _ _ _
    · have hp : f.prefix_ ≠ e.prefix_ := fun heq => hne (h.inStep.eq_of_prefix hf he heq)
      exact (Function.update_of_ne hp _ _).trans (h.due f hf)
  · intro p t hp ht
    rw [hkeys]
    by_cases hpe : p = e.prefix_
    · exact hpe ▸ List.mem_map_of_mem he
    · have hold : r.heard p = some t := (Function.update_of_ne hpe _ _).symm.trans hp
      exact h.kept p t hold (by simpa [updateEntry] using ht)
  · show InTurn r.agent.settings.iMngmnt _ r.log
    simpa only [hkeys] using h.told

/-- What an advertisement of a new prefix adds to the events about a prefix. -/
theorem events_announceNew (a : NDAgent) (rh : RtAds) (saddr : Addr) (p : Addr) :
    events p (a.announceNew rh saddr) =
      if a.settings.iMngmnt ∧ p = rh.prefix_ then [.newPrefix] else [] := by
  unfold announceNew
  by_cases hm : a.settings.iMngmnt <;> by_cases hb : a.settings.mrBs <;>
    by_cases hp : p = rh.prefix_ <;> simp [events, NdOutput.about, hm, hb, hp]

/-- An advertisement of a prefix that is not listed. -/
theorem Inv.learn {r : NdRun} {rh : RtAds} {saddr : Addr} {a : NDAgent} {s : NdScheduler Unit}
    (h : r.Inv) (hp : ¬ Special rh.prefix_)
    (hadd : addPrefix () r.agent r.sched rh.prefix_ (r.agent.lifetimeOf rh) = .ok (a, s)) :
    Inv ⟨a, s, (r.agent.announceNew rh saddr).reverse ++ r.log,
      Function.update r.heard rh.prefix_
        (some (r.sched.clock + r.agent.lifetimeOf rh))⟩ := by
  obtain ⟨hno, rfl, rfl⟩ := addPrefix_eq_ok hadd
  have hnot : rh.prefix_ ∉ r.agent.nlist.map Entry.prefix_ := by
    simpa using lookupEntry_eq_none.1 hno
  refine ⟨(h.orderly.resched (P := fun _ => False) id _).orderly,
    h.inStep.insertEntry h.orderly hno, ?_, ?_, ?_, ?_⟩
  · intro e he
    rcases List.mem_cons.1 he with rfl | he
    · exact hp
    · exact h.plain e he
  · intro e he
    rcases List.mem_cons.1 he with rfl | he
    · exact Function.update_self _ _ _
    · have hne : e.prefix_ ≠ rh.prefix_ := lookupEntry_eq_none.1 hno e he
      exact (Function.update_of_ne hne _ _).trans (h.due e he)
  · intro p t ht hlt
    by_cases hpr : p = rh.prefix_
    · exact hpr ▸ List.mem_cons_self
    · have hold : r.heard p = some t := (Function.update_of_ne hpr _ _).symm.trans ht
      exact List.mem_cons_of_mem _ (h.kept p t hold (by simpa using hlt))
  · refine h.told.tell (iff_of_true rfl hnot) (iff_of_true rfl List.mem_cons_self) ?_
      (events_announceNew r.agent rh saddr)
    intro p hpr
    exact List.mem_cons.trans (or_iff_right hpr)

/-- The entry whose timer is up goes. -/
theorem Inv.forget {r : NdRun} {s : NdScheduler Unit} {e : Entry} (h : r.Inv)
    (hd : r.sched.dispatch = some (((), e.timer), s)) (he : e ∈ r.agent.nlist)
    (hexp : e.expire = s.clock) :
    Inv ⟨r.agent.removeEntry e, s,
      (if r.agent.settings.iMngmnt then
        [NdOutput.ndEvent .prefixExpired e.prefix_ r.agent.node none] else []).reverse ++ r.log,
      r.heard⟩ := by
  have hnodup : r.agent.nlist.Nodup := .of_map _ h.inStep.unique
  have hmem : ∀ f, f ∈ r.agent.nlist.erase e ↔ f ≠ e ∧ f ∈ r.agent.nlist :=
    fun f => hnodup.mem_erase_iff
  have hkeys : ∀ p, p ∈ (r.agent.nlist.erase e).map Entry.prefix_ ↔
      p ≠ e.prefix_ ∧ p ∈ r.agent.nlist.map Entry.prefix_ := by
    intro p
    simp only [List.mem_map, hmem]
    constructor
    · rintro ⟨f, ⟨hne, hf⟩, rfl⟩
      exact ⟨fun heq => hne (h.inStep.eq_of_prefix hf he heq), f, hf, rfl⟩
    · rintro ⟨hne, f, hf, rfl⟩
      exact ⟨f, ⟨fun heq => hne (by rw [heq]), hf⟩, rfl⟩
  have hclock : r.sched.clock ≤ s.clock := by
    obtain ⟨t, q, -, hle, hcl, -⟩ := dispatch_eq_some hd
    rwa [hcl]
  refine ⟨h.orderly.dispatch hd, h.inStep.removeEntry h.orderly he hd, ?_, ?_, ?_, ?_⟩
  · exact fun f hf => h.plain f ((hmem f).1 hf).2
  · exact fun f hf => h.due f ((hmem f).1 hf).2
  · intro p t ht hlt
    refine (hkeys p).2 ⟨?_, h.kept p t ht (hclock.trans_lt hlt)⟩
    -- the latest advertisement of the prefix holds until now only
    rintro rfl
    obtain rfl : e.expire = t := Option.some.inj ((h.due e he).symm.trans ht)
    exact absurd hlt (by simp [hexp])
  · have hev : NdEvent.prefixExpired ≠ .newPrefix := by decide
    refine h.told.tell (iff_of_false hev (not_not_intro (List.mem_map_of_mem he)))
      (iff_of_false hev fun hno => ((hkeys _).1 hno).1 rfl) ?_ fun p => ?_
    · exact fun p hp => (hkeys p).trans (and_iff_right hp)
    · by_cases hm : r.agent.settings.iMngmnt <;> by_cases hp : p = e.prefix_ <;>
        simp [events, NdOutput.about, hm, hp]

/-! ### The run -/

theorem dispatch_le {r : NdRun} {x : Unit × NdTimer} {s : NdScheduler Unit}
    (hd : r.sched.dispatch = some (x, s)) : r.sched.clock ≤ s.clock := by
  obtain ⟨t, q, -, hle, hclock, -⟩ := dispatch_eq_some hd
  rwa [hclock]

theorem now_inv {r r' : NdRun} {i : NdStep} (h : r.Inv) (hok : r.Ok (.now i))
    (hstep : r.step (.now i) = .ok r') : r'.Inv := by
  obtain ⟨⟨⟨a, s⟩, out⟩, hperform, hr⟩ := bind_ok_iff.1 hstep
  obtain rfl := Except.ok.inj hr
  rcases perform_cases h.orderly hperform with
    ⟨hquiet, hrouter⟩ | ⟨settings, rfl, rfl, rfl, rfl⟩ | ⟨rh, saddr, rfl, hrouter, hrecv⟩
  · have hhear : r.hear i = r.heard := by
      cases i with
      | rads rh saddr => exact if_pos (hrouter rh saddr rfl)
      | _ => rfl
    rw [hhear]
    exact h.quiet hquiet
  · exact h.set hok
  · have hhear : r.hear (.rads rh saddr) = Function.update r.heard rh.prefix_
        (some (r.sched.clock + r.agent.lifetimeOf rh)) := if_neg (by simp [hrouter])
    rw [hhear]
    -- the solicitation timer may have been cancelled on the way
    obtain ⟨s₁, hs₁, hcases⟩ := recvAds_cases h.orderly hrecv
    have h₁ : Inv { r with sched := s₁ } :=
      h.later hs₁.orderly (h.inStep.spares hs₁ fun _ _ => trivial) hs₁.clock.ge
    rw [← hs₁.clock]
    rcases hcases with ⟨e, he, heq, rfl⟩ | ⟨hadd, rfl⟩
    · obtain ⟨he, hp⟩ := lookupEntry_some he
      obtain ⟨rfl, rfl⟩ := Prod.mk.inj heq
      rw [← hp]
      exact h₁.refresh he
    · exact h₁.learn (not_special_of_nonneg hok) hadd

/-- The timer that is up finds what it needs. -/
theorem expire_inv {r : NdRun} {x : NdTimer} {s : NdScheduler Unit} (rand : Rand) (h : r.Inv)
    (hd : r.sched.dispatch = some (((), x), s)) :
    ∃ a s' out, expire () r.agent s x rand = .ok ((a, s'), out) ∧
      Inv ⟨a, s', out.reverse ++ r.log, r.heard⟩ := by
  have hs : s.Orderly := h.orderly.dispatch hd
  -- the other timers change neither the list nor the timers of its prefixes
  have hother : (∀ id p, x ≠ .ofPrefix id p) →
      (∃ y, expire () r.agent s x rand = .ok y) →
      ∃ a s' out, expire () r.agent s x rand = .ok ((a, s'), out) ∧
        Inv ⟨a, s', out.reverse ++ r.log, r.heard⟩ := by
    rintro hx ⟨⟨⟨a, s'⟩, out⟩, hy⟩
    have hstep : InStep () r.agent s := h.inStep.dispatch_other h.orderly hd fun e _ _ heq =>
      hx e.id e.prefix_ (Prod.mk.inj heq).2.symm
    have hquiet := expire_quiet hs (fun id p heq => absurd heq (hx id p)) hy
    exact ⟨a, s', out, hy, (h.later hs hstep (dispatch_le hd)).quiet hquiet⟩
  cases x with
  | ra => exact hother nofun (timeout_total (Or.inl rfl))
  | rs => exact hother nofun (timeout_total (Or.inr rfl))
  | reply id daddr => exact hother nofun ⟨_, rfl⟩
  | ofPrefix id p =>
    obtain ⟨e, he, htimer, hexp⟩ := h.inStep.dispatch hd
    obtain ⟨rfl, rfl⟩ := NdTimer.ofPrefix.inj htimer
    have hfound : r.agent.lookupEntry e.prefix_ = some e := h.inStep.lookupEntry he
    refine ⟨_, _, _, ?_, h.forget hd he hexp⟩
    show timeout () r.agent s e.prefix_ rand = _
    rw [timeout_plain (h.plain e he), hfound]
    rfl

theorem fire_inv {r r' : NdRun} {rand : Rand} (h : r.Inv)
    (hstep : r.step (.fire rand) = .ok r') : r'.Inv := by
  obtain ⟨⟨⟨⟨⟩, x⟩, s⟩, hd, hstep⟩ := bind_ok_iff.1 hstep
  obtain ⟨a, s', out, hexpire, hinv⟩ := expire_inv rand h (orAbort_eq_ok.1 hd)
  simp only [handle, hexpire, ok_bind, pure_eq_ok] at hstep
  obtain rfl := Except.ok.inj hstep
  have hfinish : s'.Spares OfPrefix (s'.finish ((), x)) := hinv.orderly.finish _
  exact hinv.later hfinish.orderly (hinv.inStep.spares hfinish fun _ _ => trivial)
    hfinish.clock.ge

theorem step_inv (r : NdRun) (i : Input) (r' : NdRun) (h : r.Inv) (hok : r.Ok i)
    (hstep : r.step i = .ok r') : r'.Inv := by
  cases i with
  | now i => exact now_inv h hok hstep
  | fire rand => exact fire_inv h hstep
  | wait t =>
    obtain ⟨s, hs, hr⟩ := bind_ok_iff.1 hstep
    obtain rfl := Except.ok.inj hr
    have hwait := orAbort_eq_ok.1 hs
    obtain ⟨hle, rfl⟩ := wait_eq_some hwait
    exact h.later (h.orderly.wait hwait)
      ⟨h.inStep.unique, h.inStep.fresh, h.inStep.timer, h.inStep.listed⟩ hle

/-- What ends a run is a misused timer or an empty queue, never a lookup. -/
theorem step_ne_error (r : NdRun) (i : Input) {err : Abort} (herr : err ≠ .exit) (h : r.Inv) :
    r.step i ≠ .error err := by
  cases i with
  | now i => exact bind_ne_error (perform_ne_error herr) fun _ _ => nofun
  | wait t => exact bind_ne_error (orAbort_ne_error herr _) fun _ _ => nofun
  | fire rand =>
    refine bind_ne_error (orAbort_ne_error herr _) ?_
    rintro ⟨⟨⟨⟩, x⟩, s⟩ hd
    obtain ⟨a, s', out, hexpire, -⟩ := expire_inv rand h (orAbort_eq_ok.1 hd)
    simp [handle, hexpire]

/-- Along a run whose advertised prefixes are not negative, the neighbor list and the timers of the
prefixes are in step, a prefix stays listed for the lifetime of its latest advertisement, and the
interface manager hears of it and of its expiry in turn; no lookup fails. -/
theorem neighbors_inStep (clock : ℚ) (addr : Addr) (node : NodeId) (settings : NdSettings)
    {is : List Input} (hok : StepsMeet step Ok (start clock addr node settings) is) :
    Throughout step Good (start clock addr node settings) is ∧
      ∀ err, runSteps step (start clock addr node settings) is = .error err → err = .exit := by
  have h0 := start_inv clock addr node settings
  refine ⟨throughout_of_invariant step_inv (fun _ => Inv.good) h0 hok, fun err hrun => ?_⟩
  by_contra herr
  exact runSteps_ne_error step_inv (fun r i h _ => step_ne_error r i herr h) h0 hok hrun

/-- A host with an interface manager. -/
def sampleHost : NdSettings where
  router := false
  mrBs := false
  useAdvInterval := false
  broadcast := true
  rtrlftm := 0
  prefixLifetime := 0
  minRtrAdvInterval := 0
  maxRtrAdvInterval := 0
  minDelayBetweenRA := 0
  maxRADelay := 0
  rsTimeout := 1
  maxRtrSolicitation := 3
  raDaddrs := []
  rsDaddrs := []
  nodeAddress := 1
  iMngmnt := true

/-- A prefix is advertised for three seconds, again after two, and then no more. -/
def sampleAds : List Input :=
  [.now (.rads ⟨3, 0, 0, 2048, 0⟩ 2049), .wait 2, .now (.rads ⟨3, 0, 0, 2048, 0⟩ 2049),
    .wait 4, .fire ⟨0, fun _ => 0⟩]

theorem neighbors_inStep_sample :
    Throughout step Good (start 0 1 1 sampleHost) sampleAds ∧
      ∀ err, runSteps step (start 0 1 1 sampleHost) sampleAds = .error err → err = .exit := by
  have hp : 0 ≤ (2048 : Addr).toInt := by decide
  refine neighbors_inStep 0 1 1 sampleHost ⟨hp, fun _ _ => ⟨trivial, fun _ _ => ⟨hp, ?_⟩⟩⟩
  exact fun _ _ => ⟨trivial, fun _ _ => ⟨trivial, fun _ _ => trivial⟩⟩

example : (runSteps step (start 0 1 1 sampleHost) sampleAds).map
    (fun r => (r.sched.clock, r.agent.nlist, events 2048 r.log)) =
      .ok (5, [], [.prefixExpired, .newPrefix]) := by
  decide +kernel

end NdRun

end SipNemo.Nd
