import SipNemo.Nd.Agent

/-!
# The pace of router advertisements

A router that has started to advertise answers solicitations on the way.  `recv_rs` keeps the
answer apart from the last advertisement of the RA timer, and does not look at other answers, which
`lastRA_time_` does not record, nor at how close the next advertisement comes after the answer.
`spaced_of_clear`: if each answer is scheduled for a time that is apart from the last advertisement
and from those that are scheduled, advertisements are never sent too soon after one another.
-/

namespace SipNemo.Nd

open EventQueue EventQueue.Scheduler Runs

/-- Two times at least `d` apart. -/
def Apart (d x y : ℚ) : Prop := x + d ≤ y ∨ y + d ≤ x

instance (d x y : ℚ) : Decidable (Apart d x y) := inferInstanceAs (Decidable (_ ∨ _))

section Apart

variable {d x y : ℚ}

theorem Apart.symm (h : Apart d x y) : Apart d y x := Or.symm h

theorem Apart.le (h : Apart d x y) (hxy : x ≤ y) : x + d ≤ y := by
  rcases h with h | h
  · exact h
  · linarith

end Apart

/-- The draw is a number between 0 and 1. -/
def Rand.Drawn (rand : Rand) : Prop := 0 ≤ rand.uniform ∧ rand.uniform ≤ 1

theorem Rand.Drawn.between {rand : Rand} (h : rand.Drawn) {lo hi : ℚ} (hle : lo ≤ hi) :
    lo ≤ rand.between lo hi := by
  have hmul : 0 ≤ rand.uniform * (hi - lo) := mul_nonneg h.1 (sub_nonneg.2 hle)
  unfold Rand.between
  linarith

/-- Delays and intervals as they are meant: the intervals are not below the delay. -/
structure NdSettings.Paced (c : NdSettings) : Prop where
  router : c.router = true
  delay : 0 ≤ c.minDelayBetweenRA
  interval : c.minDelayBetweenRA ≤ c.minRtrAdvInterval
  intervals : c.minRtrAdvInterval ≤ c.maxRtrAdvInterval
  raDelay : 0 ≤ c.maxRADelay

/-- How often the RA timer calls `send_ads` when it expires. -/
def NdSettings.adsCalls (c : NdSettings) : ℕ := if c.broadcast then 1 else c.raDaddrs.length

/-- How often a timer calls `send_ads` when it expires.  The prefix timer of `-1` times out as the RA
timer. -/
def NdSettings.callsOf (c : NdSettings) : NdTimer → ℕ
  | .ra => c.adsCalls
  | .reply _ _ => 1
  | .ofPrefix _ p => if p = timerRA then c.adsCalls else 0
  | .rs => 0

/-- The output is an advertisement. -/
def NdOutput.isAds : NdOutput → Bool
  | .ads _ _ _ => true
  | _ => false

section Calls

variable {a a' : NDAgent} {s s' : NdScheduler Unit} {out : List NdOutput} {rand : Rand}
  {x : NdTimer}

/-- A call of `send_ads` is a packet, except for the prefixes of a mobile router. -/
theorem countP_sendAds (h : a.settings.mrBs = false) (daddr : Addr) (random : ℕ) :
    (a.sendAds daddr random).countP NdOutput.isAds = 1 := by
  simp [NDAgent.sendAds, h, NdOutput.isAds]

theorem countP_advertise (h : a.settings.mrBs = false) (rand : Rand) :
    (a.advertise rand).countP NdOutput.isAds = a.settings.adsCalls := by
  unfold NDAgent.advertise NdSettings.adsCalls
  split_ifs
  · exact countP_sendAds h _ _
  · simp [List.countP_flatMap, Function.comp_def, countP_sendAds h]

theorem countP_sendRs (h : NDAgent.sendRs () a s = ((a', s'), out)) :
    out.countP NdOutput.isAds = 0 := by
  unfold NDAgent.sendRs at h
  split_ifs at h <;> obtain ⟨-, rfl⟩ := Prod.mk.inj h <;>
    simp [List.countP_eq_zero, NdOutput.isAds]

theorem countP_timeout (hmr : a.settings.mrBs = false) {value : Addr}
    (h : NDAgent.timeout () a s value rand = .ok ((a', s'), out)) :
    out.countP NdOutput.isAds = if value = timerRA then a.settings.adsCalls else 0 := by
  unfold NDAgent.timeout at h
  by_cases hra : value = timerRA
  · rw [if_pos hra] at h ⊢
    obtain ⟨-, rfl⟩ := Prod.mk.inj (Except.ok.inj h)
    exact countP_advertise hmr rand
  · rw [if_neg hra] at h ⊢
    by_cases hrs : value = timerRS
    · rw [if_pos hrs] at h
      dsimp only at h
      split_ifs at h
      · exact countP_sendRs (Except.ok.inj h)
      · obtain ⟨-, rfl⟩ := Prod.mk.inj (Except.ok.inj h)
        rfl
    · rw [if_neg hrs] at h
      obtain ⟨n, -, h⟩ := bind_ok_iff.1 h
      obtain ⟨-, rfl⟩ := Prod.mk.inj (Except.ok.inj h)
      split_ifs <;> rfl

/-- `callsOf` counts the advertisements that the expiry of a timer sends. -/
theorem countP_handle (hmr : a.settings.mrBs = false)
    (h : NDAgent.handle () a s x rand = .ok ((a', s'), out)) :
    out.countP NdOutput.isAds = a.settings.callsOf x := by
  obtain ⟨⟨⟨a₁, s₁⟩, out₁⟩, hexpire, h⟩ := bind_ok_iff.1 h
  obtain ⟨-, rfl⟩ := Prod.mk.inj (Except.ok.inj h)
  cases x with
  | ra => exact countP_timeout hmr hexpire
  | rs => exact countP_timeout hmr hexpire
  | ofPrefix id p => exact countP_timeout hmr hexpire
  | reply id daddr =>
    obtain ⟨-, rfl⟩ := Prod.mk.inj (Except.ok.inj hexpire)
    exact countP_sendAds hmr _ _

end Calls

/-- A router, with the times of the calls of `send_ads` by its timers, the newest first. -/
structure RaWatch where
  agent : NDAgent
  sched : NdScheduler Unit
  calls : List ℚ := []

namespace RaWatch

/-- Time passes, a solicitation comes, the next timer expires. -/
inductive Event
  | wait (t : ℚ)
  | rsol (saddr : Addr) (rand : Rand)
  | expire (rand : Rand)

/-- One event. -/
def step (w : RaWatch) : Event → Act RaWatch
  | .wait t => do
    let s ← orAbort (w.sched.wait t)
    pure { w with sched := s }
  | .rsol saddr rand => do
    let ((a, s), _) ← NDAgent.perform () w.agent w.sched (.rsol saddr rand)
    pure { w with agent := a, sched := s }
  | .expire rand => do
    let (x, s) ← orAbort w.sched.dispatch
    let ((a, s'), _) ← NDAgent.handle () w.agent s x.2 rand
    pure
      { agent := a
        sched := s'
        calls := List.replicate (w.agent.settings.callsOf x.2) s.clock ++ w.calls }

/-- The state after `start-ra`, where no timer is pending. -/
def start (a : NDAgent) (clock : ℚ) (rand : Rand) : RaWatch :=
  let (a, s) := NDAgent.scheduleRa () a ⟨clock, [], fun _ => .idle⟩ rand
  { agent := a, sched := s }

variable (w : RaWatch)

/-- `minDelayBetweenRA_`. -/
def delay : ℚ := w.agent.settings.minDelayBetweenRA

/-- The expiry of the event calls `send_ads`. -/
def Sends (e : ℚ × Unit × NdTimer) : Prop := 0 < w.agent.settings.callsOf e.2.2

/-- Each call of `send_ads` comes at least the delay after the one before. -/
def Spaced : Prop := w.calls.IsChain fun later earlier => earlier + w.delay ≤ later

/-- The next advertisement of the RA timer is not too soon for an answer after the delay `r`. -/
def Answers (r : ℚ) : Prop :=
  w.sched.clock + r ≤ w.agent.nextRATime ∧
    (w.sched.clock + r < w.agent.lastRATime + w.delay →
      w.sched.clock + r + w.delay ≤ w.agent.nextRATime)

/-- The time of that answer. -/
def answerTime (r : ℚ) : ℚ :=
  if w.sched.clock + r < w.agent.lastRATime + w.delay then w.agent.lastRATime + w.delay + r
  else w.sched.clock + r

/-- The time is apart from the last call of `send_ads` and from those that are scheduled. -/
def Clear (t : ℚ) : Prop :=
  (∀ c ∈ w.calls.head?, Apart w.delay c t) ∧
    ∀ e ∈ w.sched.queue, w.Sends e → Apart w.delay e.1 t

/-- An answer is for a time that is clear; the RA timer expires for one target, or none. -/
def OnePerTime : Event → Prop
  | .wait _ => True
  | .rsol _ rand =>
    w.Answers (rand.between 0 w.agent.settings.maxRADelay) →
      w.Clear (w.answerTime (rand.between 0 w.agent.settings.maxRADelay))
  | .expire _ => ∀ e ∈ w.sched.queue.head?, e.2.2 = .ra →
    w.delay = 0 ∨ w.agent.settings.adsCalls ≤ 1

instance (r : ℚ) : Decidable (w.Answers r) := inferInstanceAs (Decidable (_ ∧ (_ → _)))

instance (e : ℚ × Unit × NdTimer) : Decidable (w.Sends e) := inferInstanceAs (Decidable (_ < _))

instance (t : ℚ) : Decidable (w.Clear t) := inferInstanceAs (Decidable ((∀ _ ∈ _, _) ∧ ∀ _ ∈ _, _))

instance : DecidablePred w.OnePerTime
  | .wait _ => inferInstanceAs (Decidable True)
  | .rsol _ _ => inferInstanceAs (Decidable (_ → _))
  | .expire _ => inferInstanceAs (Decidable (∀ _ ∈ _, _))

/-- The numbers of the event are drawn. -/
def Event.Drawn : Event → Prop
  | .wait _ => True
  | .rsol _ rand => rand.Drawn
  | .expire rand => rand.Drawn

/-! ### The invariant -/

/-- What the timers of the router and the calls so far have to do with each other. -/
structure Pace (w : RaWatch) : Prop where
  settings : w.agent.settings.Paced
  orderly : w.sched.Orderly
  timers : ∀ e ∈ w.sched.queue, e.2.2 = .ra ∨ ∃ id daddr, e.2.2 = .reply id daddr
  ra : ∀ e ∈ w.sched.queue, e.2.2 = .ra → e.1 = w.agent.nextRATime
  reply : ∀ e ∈ w.sched.queue, e.2.2 ≠ .ra → e.1 ≤ w.agent.nextRATime
  next_nonneg : 0 ≤ w.agent.nextRATime
  last_le : w.agent.lastRATime ≤ w.sched.clock
  last_next : w.agent.lastRATime + w.delay ≤ w.agent.nextRATime
  calls_le : ∀ c ∈ w.calls, c ≤ w.sched.clock
  spaced : w.Spaced
  clear : ∀ c ∈ w.calls.head?, ∀ e ∈ w.sched.queue, w.Sends e → Apart w.delay c e.1
  apart : ∀ e ∈ w.sched.queue, ∀ f ∈ w.sched.queue, e ≠ f → w.Sends e → w.Sends f →
    Apart w.delay e.1 f.1

variable {w w' : RaWatch} {t r : ℚ} {saddr : Addr} {rand : Rand}

/-- The calls of an expiry are the advertisements that it sends. -/
theorem step_calls (hmr : w.agent.settings.mrBs = false) (h : w.step (.expire rand) = .ok w') :
    ∃ x s a s' out, w.sched.dispatch = some (x, s) ∧
      NDAgent.handle () w.agent s x.2 rand = .ok ((a, s'), out) ∧
      w'.calls = List.replicate (out.countP NdOutput.isAds) s.clock ++ w.calls := by
  obtain ⟨⟨x, s⟩, hd, h⟩ := bind_ok_iff.1 h
  obtain ⟨⟨⟨a, s'⟩, out⟩, hhandle, h⟩ := bind_ok_iff.1 h
  obtain rfl := Except.ok.inj h
  refine ⟨x, s, a, s', out, orAbort_eq_ok.1 hd, hhandle, ?_⟩
  rw [countP_handle hmr hhandle]

theorem Pace.wait (h : w.Pace) (hstep : w.step (.wait t) = .ok w') : w'.Pace := by
  obtain ⟨s, hs, hw'⟩ := bind_ok_iff.1 hstep
  obtain rfl := Except.ok.inj hw'
  rw [orAbort_eq_ok] at hs
  have horderly := h.orderly.wait hs
  obtain ⟨hle, rfl⟩ := wait_eq_some hs
  exact { h with
    orderly := horderly
    last_le := h.last_le.trans hle
    calls_le := fun c hc => (h.calls_le c hc).trans hle }

/-- What `recv_rs` checks before it schedules an answer. -/
theorem Pace.answers (h : w.Pace) {d : ℚ} (hr : 0 ≤ r)
    (hd : w.agent.replyDelay w.sched r = some d) :
    w.Answers r ∧ w.sched.clock + d = w.answerTime r ∧
      w.sched.clock + d ≤ w.agent.nextRATime := by
  have hnext : w.agent.nextRATime ≠ -1 := by
    have := h.next_nonneg
    linarith
  have hlast := h.last_next
  have hclock := h.last_le
  unfold NDAgent.replyDelay at hd
  simp only [hnext, ne_eq, not_false_eq_true, true_and] at hd
  change w.agent.lastRATime + w.agent.settings.minDelayBetweenRA ≤ _ at hlast
  unfold Answers answerTime delay
  split_ifs at hd with hsoon hearly hlate
  · obtain rfl := Option.some.inj hd
    rw [not_lt] at hsoon
    -- the advertisement that is due is not due now, as the last one is too recent
    have hroom : w.sched.clock + r + w.agent.settings.minDelayBetweenRA ≤ w.agent.nextRATime := by
      by_contra hno
      exact hlate ⟨by linarith, by linarith⟩
    rw [if_pos (by linarith)]
    exact ⟨⟨by linarith, fun _ => hroom⟩, by linarith, by linarith⟩
  · obtain rfl := Option.some.inj hd
    rw [not_lt] at hsoon hearly
    rw [if_neg (by linarith)]
    exact ⟨⟨by linarith, fun hno => absurd hno (by linarith)⟩, rfl, by linarith⟩

/-- A solicitation is not answered, or its answer is scheduled. -/
theorem step_rsol (hrouter : w.agent.settings.router = true)
    (hstep : w.step (.rsol saddr rand) = .ok w') :
    w' = w ∨
      ∃ d s, w.agent.replyDelay w.sched (rand.between 0 w.agent.settings.maxRADelay) = some d ∧
        w.sched.sched ((), .reply w.agent.nextReply saddr) d = some s ∧
        w' = { w with
          agent := { w.agent with
            rsList := w.agent.nextReply :: w.agent.rsList
            nextReply := w.agent.nextReply + 1 }
          sched := s } := by
  obtain ⟨⟨⟨a, s⟩, out⟩, hperform, hw'⟩ := bind_ok_iff.1 hstep
  obtain rfl := Except.ok.inj hw'
  simp only [NDAgent.perform, hrouter, if_true, NDAgent.recvRs] at hperform
  cases hd : w.agent.replyDelay w.sched (rand.between 0 w.agent.settings.maxRADelay) with
  | none =>
    rw [hd] at hperform
    obtain ⟨hstate, -⟩ := Prod.mk.inj (Except.ok.inj hperform)
    obtain ⟨rfl, rfl⟩ := Prod.mk.inj hstate
    exact Or.inl rfl
  | some d =>
    rw [hd] at hperform
    obtain ⟨s₁, hs₁, hperform⟩ := bind_ok_iff.1 hperform
    obtain ⟨hstate, -⟩ := Prod.mk.inj (Except.ok.inj hperform)
    obtain ⟨rfl, rfl⟩ := Prod.mk.inj hstate
    exact Or.inr ⟨d, s₁, rfl, orAbort_eq_ok.1 hs₁, rfl⟩

theorem Pace.rsol (h : w.Pace) (hdrawn : rand.Drawn) (hok : w.OnePerTime (.rsol saddr rand))
    (hstep : w.step (.rsol saddr rand) = .ok w') : w'.Pace := by
  rcases step_rsol h.settings.router hstep with rfl | ⟨d, s, hd, hs, rfl⟩
  · exact h
  have hr := hdrawn.between h.settings.raDelay
  obtain ⟨hanswers, htime, hle⟩ := h.answers hr hd
  obtain ⟨hcalls, hqueue⟩ := hok hanswers
  rw [← htime] at hcalls hqueue
  have hmem : ∀ e, e ∈ s.queue ↔
      e = (w.sched.clock + d, (), NdTimer.reply w.agent.nextReply saddr) ∨ e ∈ w.sched.queue :=
    fun e => mem_sched hs
  have hclock : s.clock = w.sched.clock := clock_sched hs
  refine { h with
    orderly := ⟨h.orderly.consistent.sched hs, h.orderly.sorted.sched hs⟩
    timers := ?_, ra := ?_, reply := ?_, last_le := ?_, calls_le := ?_, clear := ?_, apart := ?_ }
  · intro e he
    rcases (hmem e).1 he with rfl | he
    · exact Or.inr ⟨_, _, rfl⟩
    · exact h.timers e he
  · intro e he hra
    rcases (hmem e).1 he with rfl | he
    · cases hra
    · exact h.ra e he hra
  · intro e he hne
    rcases (hmem e).1 he with rfl | he
    · exact hle
    · exact h.reply e he hne
  · exact hclock.symm ▸ h.last_le
  · exact hclock.symm ▸ h.calls_le
  · intro c hc e he hsends
    rcases (hmem e).1 he with rfl | he
    · exact hcalls c hc
    · exact h.clear c hc e he hsends
  · intro e he f hf hne hse hsf
    rcases (hmem e).1 he with rfl | he <;> rcases (hmem f).1 hf with rfl | hf
    · exact absurd rfl hne
    · exact (hqueue f hf hsf).symm
    · exact hqueue e he hse
    · exact h.apart e he f hf hne hse hsf

/-! ### A timer expires -/

/-- The calls of one timer, after the others. -/
theorem isChain_calls {d : ℚ} {n : ℕ} {calls : List ℚ} (hn : d = 0 ∨ n ≤ 1)
    (h : calls.IsChain fun later earlier => earlier + d ≤ later)
    (hlast : 0 < n → ∀ c ∈ calls.head?, c + d ≤ t) :
    (List.replicate n t ++ calls).IsChain fun later earlier => earlier + d ≤ later := by
  induction n with
  | zero => exact h
  | succ n ih =>
    have hrest := ih (hn.imp_right fun h => (Nat.le_succ n).trans h) fun _ => hlast n.succ_pos
    rw [List.replicate_succ, List.cons_append, List.isChain_cons]
    refine ⟨fun c hc => ?_, hrest⟩
    cases n with
    | zero => exact hlast Nat.one_pos c hc
    | succ n =>
      obtain rfl : d = 0 := hn.resolve_right (by omega)
      obtain rfl : t = c := by simpa [List.replicate_succ] using hc
      exact (add_zero t).le

/-- The event that the scheduler dispatches, and what it leaves. -/
structure Fires (w : RaWatch) (x : NdTimer) (s : NdScheduler Unit) : Prop where
  event : (s.clock, (), x) ∈ w.sched.queue
  head : w.sched.queue.head? = some (s.clock, (), x)
  clock : w.sched.clock ≤ s.clock
  later : ∀ e ∈ s.queue, s.clock ≤ e.1
  rest : ∀ e, e ∈ s.queue ↔ e ∈ w.sched.queue ∧ e.2 ≠ ((), x)
  orderly : s.Orderly

theorem Pace.fires (h : w.Pace) {x : Unit × NdTimer} {s : NdScheduler Unit}
    (hd : w.sched.dispatch = some (x, s)) : w.Fires x.2 s := by
  obtain ⟨t, q, hq, hclock, ht, hrest⟩ := dispatch_eq_some hd
  have hsorted := h.orderly.sorted
  rw [Sorted, hq, List.pairwise_cons] at hsorted
  refine ⟨?_, ?_, ?_, ?_, fun e => mem_dispatch h.orderly.consistent hd, h.orderly.dispatch hd⟩
  · rw [hq, ht]
    exact List.mem_cons_self
  · rw [hq, ht]
    rfl
  · rw [ht]
    exact hclock
  · rw [ht, hrest]
    exact hsorted.1

/-- The calls after an expiry. -/
def callsAfter (w : RaWatch) (x : NdTimer) (t : ℚ) : List ℚ :=
  List.replicate (w.agent.settings.callsOf x) t ++ w.calls

section Fires

variable {x : NdTimer} {s : NdScheduler Unit}

/-- An expiry that sends is the last call. -/
theorem head?_callsAfter (w : RaWatch) {x : NdTimer} (t : ℚ)
    (hsends : 0 < w.agent.settings.callsOf x) : (w.callsAfter x t).head? = some t := by
  obtain ⟨n, hn⟩ := Nat.exists_eq_succ_of_ne_zero hsends.ne'
  rw [callsAfter, hn, List.replicate_succ, List.cons_append, List.head?_cons]

theorem Fires.spaced (hf : w.Fires x s) (h : w.Pace)
    (hone : x = .ra → w.delay = 0 ∨ w.agent.settings.adsCalls ≤ 1) :
    (w.callsAfter x s.clock).IsChain fun later earlier => earlier + w.delay ≤ later := by
  refine isChain_calls ?_ h.spaced fun hsends c hc => ?_
  · rcases h.timers _ hf.event with hx | ⟨id, daddr, hx⟩
    · obtain rfl : x = .ra := hx
      exact hone rfl
    · obtain rfl : x = .reply id daddr := hx
      exact Or.inr le_rfl
  · refine (h.clear c hc _ hf.event hsends).le ((h.calls_le c ?_).trans hf.clock)
    exact List.mem_of_mem_head? hc

theorem Fires.calls_le (hf : w.Fires x s) (h : w.Pace) :
    ∀ c ∈ w.callsAfter x s.clock, c ≤ s.clock := by
  intro c hc
  rcases List.mem_append.1 hc with hc | hc
  · exact (List.eq_of_mem_replicate hc).le
  · exact (h.calls_le c hc).trans hf.clock

/-- What is still scheduled is apart from the last call. -/
theorem Fires.clear (hf : w.Fires x s) (h : w.Pace) :
    ∀ c ∈ (w.callsAfter x s.clock).head?, ∀ e ∈ s.queue, w.Sends e → Apart w.delay c e.1 := by
  intro c hc e he hsends
  obtain ⟨hmem, hne⟩ := (hf.rest e).1 he
  by_cases hx : w.Sends (s.clock, (), x)
  · rw [head?_callsAfter w s.clock hx] at hc
    obtain rfl := Option.some.inj hc
    refine h.apart _ hf.event e hmem ?_ hx hsends
    rintro rfl
    exact hne rfl
  · have hnone : w.agent.settings.callsOf x = 0 := Nat.eq_zero_of_not_pos hx
    rw [callsAfter, hnone] at hc
    exact h.clear c hc e hmem hsends

end Fires

/-- What an expiry does. -/
theorem step_expire (h : w.Pace) (hstep : w.step (.expire rand) = .ok w') :
    ∃ x s, w.Fires x s ∧ w'.calls = w.callsAfter x s.clock ∧
      (x = .ra ∧ w'.agent = (NDAgent.scheduleRa ()
            { w.agent with lastRATime := s.clock } s rand).1 ∧
          w'.sched = (NDAgent.scheduleRa ()
            { w.agent with lastRATime := s.clock } s rand).2.finish ((), x) ∨
        x ≠ .ra ∧ (∃ l, w'.agent = { w.agent with rsList := l }) ∧
          w'.sched = s.finish ((), x)) := by
  obtain ⟨⟨x, s⟩, hd, hrest⟩ := bind_ok_iff.1 hstep
  rw [orAbort_eq_ok] at hd
  obtain ⟨⟨⟨a, s'⟩, out⟩, hhandle, hw'⟩ := bind_ok_iff.1 hrest
  obtain rfl := Except.ok.inj hw'
  obtain ⟨⟨⟨a₁, s₁⟩, out₁⟩, hexpire, hfinish⟩ := bind_ok_iff.1 hhandle
  obtain ⟨hstate, -⟩ := Prod.mk.inj (Except.ok.inj hfinish)
  obtain ⟨rfl, rfl⟩ := Prod.mk.inj hstate
  have hf := h.fires hd
  refine ⟨x.2, s, hf, rfl, ?_⟩
  rcases h.timers _ hf.event with hx | ⟨id, daddr, hx⟩
  · dsimp only at hx
    rw [hx] at hexpire
    obtain ⟨hstate, -⟩ := Prod.mk.inj (Except.ok.inj hexpire)
    obtain ⟨rfl, rfl⟩ := Prod.mk.inj hstate
    exact Or.inl ⟨hx, rfl, rfl⟩
  · dsimp only at hx
    rw [hx] at hexpire
    obtain ⟨hstate, -⟩ := Prod.mk.inj (Except.ok.inj hexpire)
    obtain ⟨rfl, rfl⟩ := Prod.mk.inj hstate
    exact Or.inr ⟨by rw [hx]; exact nofun, ⟨_, rfl⟩, rfl⟩

section Expire

variable {x : NdTimer} {s : NdScheduler Unit}

/-- The timer of an answer expires. -/
theorem Fires.pace_reply (hf : w.Fires x s) (h : w.Pace) (hx : x ≠ .ra) (l : List ℕ) :
    Pace
      { agent := { w.agent with rsList := l }
        sched := s.finish ((), x)
        calls := w.callsAfter x s.clock } := by
  have hmem : ∀ e, e ∈ (s.finish ((), x)).queue ↔ e ∈ w.sched.queue ∧ e.2 ≠ ((), x) := by
    intro e
    rw [queue_finish]
    exact hf.rest e
  refine { h with
    orderly := ⟨hf.orderly.consistent.finish _, hf.orderly.sorted.finish _⟩
    timers := fun e he => h.timers e ((hmem e).1 he).1
    ra := fun e he => h.ra e ((hmem e).1 he).1
    reply := fun e he => h.reply e ((hmem e).1 he).1
    last_le := ?_, calls_le := ?_, spaced := hf.spaced h fun hra => absurd hra hx
    clear := ?_
    apart := fun e he f hf => h.apart e ((hmem e).1 he).1 f ((hmem f).1 hf).1 }
  · rw [clock_finish]
    exact h.last_le.trans hf.clock
  · rw [clock_finish]
    exact hf.calls_le h
  · rw [queue_finish]
    exact hf.clear h

/-- When the RA timer expires, an answer that is still scheduled is for the present time. -/
theorem Fires.reply_now (hf : w.Fires .ra s) (h : w.Pace) {e : ℚ × Unit × NdTimer}
    (he : e ∈ s.queue) (hne : e.2 ≠ ((), NdTimer.ra)) : e.1 = s.clock := by
  have hnext : s.clock = w.agent.nextRATime := h.ra _ hf.event rfl
  refine le_antisymm ?_ (hf.later e he)
  rw [hnext]
  exact h.reply e ((hf.rest e).1 he).1 fun hra => hne (Prod.ext rfl hra)

/-- Such an answer is apart from the advertisement of the present time only where there is no
delay. -/
theorem Fires.delay_eq_zero (hf : w.Fires .ra s) (h : w.Pace) {e : ℚ × Unit × NdTimer}
    (he : e ∈ s.queue) (hne : e.2 ≠ ((), NdTimer.ra)) (hsends : w.Sends e)
    (hads : 0 < w.agent.settings.adsCalls) : w.delay = 0 := by
  have hdelay : 0 ≤ w.delay := h.settings.delay
  have hapart := h.apart _ hf.event e ((hf.rest e).1 he).1
    (fun heq => hne (congrArg Prod.snd heq).symm) hads hsends
  rw [hf.reply_now h he hne] at hapart
  exact le_antisymm (by linarith [hapart.le le_rfl]) hdelay

/-- It is apart from the next one, too. -/
theorem Fires.next_apart (hf : w.Fires .ra s) (h : w.Pace) {e : ℚ × Unit × NdTimer}
    (he : e ∈ s.queue) (hne : e.2 ≠ ((), NdTimer.ra)) (hsends : w.Sends e)
    (hads : 0 < w.agent.settings.adsCalls) {period : ℚ} (hperiod : 0 ≤ period) :
    Apart w.delay (s.clock + period) e.1 := by
  rw [hf.delay_eq_zero h he hne hsends hads, hf.reply_now h he hne]
  exact Or.inr (by linarith)

/-- The RA timer expires and is set again. -/
theorem Fires.pace_ra (hf : w.Fires .ra s) (h : w.Pace) (hdrawn : rand.Drawn)
    (hone : w.delay = 0 ∨ w.agent.settings.adsCalls ≤ 1) :
    Pace
      { agent := (NDAgent.scheduleRa () { w.agent with lastRATime := s.clock } s rand).1
        sched := (NDAgent.scheduleRa () { w.agent with lastRATime := s.clock } s rand).2.finish
          ((), .ra)
        calls := w.callsAfter .ra s.clock } := by
  have hperiod := hdrawn.between h.settings.intervals
  have hinterval := h.settings.interval
  have hdelay := h.settings.delay
  have hnext : s.clock = w.agent.nextRATime := h.ra _ hf.event rfl
  have hnonneg := h.next_nonneg
  unfold NDAgent.scheduleRa
  dsimp only
  generalize rand.between w.agent.settings.minRtrAdvInterval w.agent.settings.maxRtrAdvInterval =
    period at hperiod ⊢
  have hmem : ∀ e, e ∈ ((s.resched ((), .ra) period).finish ((), .ra)).queue ↔
      e = (s.clock + period, (), .ra) ∨ e ∈ s.queue ∧ e.2 ≠ ((), .ra) := by
    intro e
    rw [queue_finish]
    exact mem_resched hf.orderly.consistent
  have horderly : ((s.resched ((), .ra) period).finish ((), .ra)).Orderly :=
    ⟨(hf.orderly.consistent.resched _ _).finish _, (hf.orderly.sorted.resched _ _).finish _⟩
  have hold : ∀ e ∈ s.queue, e ∈ w.sched.queue := fun e he => ((hf.rest e).1 he).1
  have hpos : 0 ≤ period := by linarith
  refine
    { settings := h.settings
      orderly := horderly, timers := ?_, ra := ?_, reply := ?_
      next_nonneg := by show 0 ≤ period + s.clock; linarith
      last_le := ?_
      last_next := by show s.clock + w.delay ≤ period + s.clock; unfold delay; linarith
      calls_le := ?_
      spaced := hf.spaced h fun _ => hone
      clear := ?_, apart := ?_ }
  · intro e he
    rcases (hmem e).1 he with rfl | ⟨he, -⟩
    · exact Or.inl rfl
    · exact h.timers e (hold e he)
  · intro e he hra
    rcases (hmem e).1 he with rfl | ⟨-, hne⟩
    · exact add_comm _ _
    · exact (hne (Prod.ext rfl hra)).elim
  · intro e he hne
    rcases (hmem e).1 he with rfl | ⟨he, hne⟩
    · exact absurd rfl hne
    · show e.1 ≤ period + s.clock
      rw [hf.reply_now h he hne]
      linarith
  · rw [clock_finish, clock_resched]
  · rw [clock_finish, clock_resched]
    exact hf.calls_le h
  · intro c hc e he hsends
    rcases (hmem e).1 he with rfl | ⟨he, -⟩
    · rw [head?_callsAfter w s.clock hsends] at hc
      obtain rfl := Option.some.inj hc
      exact Or.inl (by show s.clock + w.delay ≤ s.clock + period; unfold delay; linarith)
    · exact hf.clear h c hc e he hsends
  · intro e he f hf' hne hse hsf
    rcases (hmem e).1 he with rfl | ⟨he, hnera⟩ <;> rcases (hmem f).1 hf' with rfl | ⟨hf', hnfra⟩
    · exact absurd rfl hne
    · exact hf.next_apart h hf' hnfra hsf hse hpos
    · exact (hf.next_apart h he hnera hse hsf hpos).symm
    · exact h.apart e (hold e he) f (hold f hf') hne hse hsf

end Expire

theorem Pace.expire (h : w.Pace) (hdrawn : rand.Drawn) (hok : w.OnePerTime (.expire rand))
    (hstep : w.step (.expire rand) = .ok w') : w'.Pace := by
  obtain ⟨x, s, hf, hcalls, hcase⟩ := step_expire h hstep
  obtain ⟨agent, sched, calls⟩ := w'
  obtain rfl : calls = w.callsAfter x s.clock := hcalls
  rcases hcase with ⟨rfl, hagent, hsched⟩ | ⟨hx, ⟨l, hagent⟩, hsched⟩
  · obtain rfl := hagent
    obtain rfl := hsched
    exact hf.pace_ra h hdrawn (hok _ hf.head rfl)
  · obtain rfl := hagent
    obtain rfl := hsched
    exact hf.pace_reply h hx l

/-- Every event keeps the pace. -/
theorem Pace.step {i : Event} (h : w.Pace) (hdrawn : i.Drawn) (hok : w.OnePerTime i)
    (hstep : w.step i = .ok w') : w'.Pace := by
  cases i with
  | wait t => exact h.wait hstep
  | rsol saddr rand => exact h.rsol hdrawn hok hstep
  | expire rand => exact h.expire hdrawn hok hstep

/-! ### Runs -/

/-- The state after `start-ra`. -/
theorem pace_start {a : NDAgent} {clock : ℚ} (hsettings : a.settings.Paced) (hclock : 0 ≤ clock)
    (hlast : a.lastRATime ≤ clock) (hdrawn : rand.Drawn) : (start a clock rand).Pace := by
  have hperiod := hdrawn.between hsettings.intervals
  have hinterval := hsettings.interval
  have hdelay := hsettings.delay
  unfold start NDAgent.scheduleRa
  dsimp only
  generalize rand.between a.settings.minRtrAdvInterval a.settings.maxRtrAdvInterval = period
    at hperiod ⊢
  have hempty : Orderly (⟨clock, [], fun _ => .idle⟩ : NdScheduler Unit) :=
    ⟨⟨List.nodup_nil, by simp⟩, List.Pairwise.nil⟩
  have hmem : ∀ e, e ∈ (resched (⟨clock, [], fun _ => .idle⟩ : NdScheduler Unit) ((), .ra)
      period).queue → e = (clock + period, (), .ra) := by
    intro e he
    rcases (mem_resched hempty.consistent).1 he with rfl | ⟨he, -⟩
    · rfl
    · exact absurd he List.not_mem_nil
  refine
    { settings := hsettings
      orderly := ⟨hempty.consistent.resched _ _, hempty.sorted.resched _ _⟩
      timers := fun e he => ?_
      ra := fun e he _ => ?_
      reply := fun e he hne => ?_
      next_nonneg := by show 0 ≤ period + clock; linarith
      last_le := ?_
      last_next := by
        show a.lastRATime + a.settings.minDelayBetweenRA ≤ period + clock
        linarith
      calls_le := nofun
      spaced := List.isChain_nil
      clear := nofun
      apart := fun e he f hf hne => ?_ }
  · rw [hmem e he]
    exact Or.inl rfl
  · rw [hmem e he]
    exact add_comm _ _
  · rw [hmem e he] at hne
    exact absurd rfl hne
  · rw [clock_resched]
    exact hlast
  · rw [hmem e he, hmem f hf] at hne
    exact absurd rfl hne

/-- From `start-ra` on, if every answer is for a time that is clear and the RA timer does not send
to several targets at once, the calls of `send_ads` stay apart, whatever is drawn. -/
theorem spaced_of_clear (a : NDAgent) (clock : ℚ) (rand : Rand) (events : List Event)
    (hsettings : a.settings.Paced) (hclock : 0 ≤ clock) (hlast : a.lastRATime ≤ clock)
    (hrand : rand.Drawn) (hdrawn : ∀ i ∈ events, i.Drawn)
    (hok : StepsMeet step OnePerTime (start a clock rand) events) :
    Throughout step Spaced (start a clock rand) events := by
  have hboth := hok.and (stepsMeet_of_mem (fun i hi _ => hdrawn i hi) (start a clock rand))
  refine throughout_of_invariant ?_ (fun _ => Pace.spaced)
    (pace_start hsettings hclock hlast hrand) hboth
  exact fun w i w' h hok hstep => h.step hok.2 hok.1 hstep

/-- A router that broadcasts advertisements, every 5 to 10 seconds and 3 seconds apart. -/
def sampleRouterAgent : NDAgent where
  addr := 7
  node := 0
  settings :=
    { router := true, mrBs := false, useAdvInterval := false, broadcast := true, rtrlftm := 1800,
      prefixLifetime := 600, minRtrAdvInterval := 5, maxRtrAdvInterval := 10,
      minDelayBetweenRA := 3, maxRADelay := 1 / 2, rsTimeout := 1, maxRtrSolicitation := 3,
      raDaddrs := [], rsDaddrs := [], nodeAddress := 7, iMngmnt := false }

/-- The number that is drawn. -/
def drawing (u : ℚ) : Rand := ⟨u, fun _ => 0⟩

/-- The router, which will advertise at 10. -/
def sampleAdvertiser : RaWatch := start sampleRouterAgent 0 (drawing 1)

/-- One answer, and the next advertisement. -/
def oneAnswer : List Event :=
  [.wait 4, .rsol 20 (drawing 1), .expire (drawing 0), .expire (drawing 0)]

theorem spaced_of_clear_one : Throughout step Spaced sampleAdvertiser oneAnswer :=
  spaced_of_clear sampleRouterAgent 0 (drawing 1) oneAnswer
    ⟨rfl, by decide +kernel, by decide +kernel, by decide +kernel, by decide +kernel⟩ le_rfl le_rfl
    ⟨by decide +kernel, by decide +kernel⟩
    (by
      intro i hi
      fin_cases hi
      · trivial
      · exact ⟨by decide +kernel, by decide +kernel⟩
      · exact ⟨by decide +kernel, by decide +kernel⟩
      · exact ⟨by decide +kernel, by decide +kernel⟩)
    (by decide +kernel)

/-- Two solicitations shortly before the next advertisement. -/
def twoAnswers : List Event :=
  [.wait 9, .rsol 20 (drawing (2 / 5)), .wait (91 / 10), .rsol 21 (drawing 1),
    .expire (drawing 0), .expire (drawing 0), .expire (drawing 0)]

/-- Three calls of `send_ads` within one second. -/
theorem not_spaced :
    ∃ w, runSteps step sampleAdvertiser twoAnswers = .ok w ∧ w.delay = 3 ∧
      w.calls = [10, 48 / 5, 46 / 5] ∧ ¬ Throughout step Spaced sampleAdvertiser twoAnswers := by
  obtain ⟨w, hrun, hdelay, hcalls⟩ : ∃ w, runSteps step sampleAdvertiser twoAnswers = .ok w ∧
      w.delay = 3 ∧ w.calls = [10, 48 / 5, 46 / 5] := by
    have hshown : (runSteps step sampleAdvertiser twoAnswers).map (fun w => (w.delay, w.calls)) =
        .ok (3, [10, 48 / 5, 46 / 5]) := by decide +kernel
    obtain ⟨w, hrun, hw⟩ := map_ok_iff.1 hshown
    obtain ⟨hdelay, hcalls⟩ := Prod.mk.inj hw
    exact ⟨w, hrun, hdelay, hcalls⟩
  refine ⟨w, hrun, hdelay, hcalls, fun h => ?_⟩
  have hspaced := h.last hrun
  rw [Spaced, hcalls, hdelay, List.isChain_cons_cons] at hspaced
  exact absurd hspaced.1 (by decide +kernel)

end RaWatch

end SipNemo.Nd
