import SipNemo.Mac.Medium

/-!
# The receiving side never fails

The assertions of the receiving side and of its timers: `pktRx_` is there whenever a frame is being
received, `mhRecv_` runs until its end, the back-off timer is paused only while it counts and
resumed only while it is paused, and what is left of it is never negative.  `Sound` is the
invariant; while `recv_timer` handles a frame, `mhRecv_` has expired already.  `run_returns`: as
long as the transmitting side starts no timer that is busy, every run goes on, in exact arithmetic.
-/

namespace SipNemo.Mac

open Mih (MacAddr)
open MacTimers Runs Spans

/-- The whole slots that were counted. -/
def BackoffRound.total (slotTime : ℚ) (r : BackoffRound) : ℕ :=
  (r.counted.map fun c => c.span.slots slotTime c.wait).sum

namespace Radio

/-- What the back-off timer has left is a whole number of slots, those that were not counted. -/
def Remains (s : Radio) (rtime : ℚ) : Prop :=
  ∃ k : ℕ, rtime = k * s.phy.slotTime ∧ s.round.drawn = k + s.round.total s.phy.slotTime

/-- The back-off timer and the record of what it counted agree. -/
def Counts (s : Radio) : Prop :=
  match s.mhBackoff with
  | .idle => True
  | .paused rtime => s.Remains rtime
  | .running stime difsWait rtime => stime ≤ s.clock ∧ 0 ≤ difsWait ∧ s.Remains rtime

/-- The timers and the state, the back-off timer's being paused apart. -/
structure Steady (s : Radio) : Prop where
  tx : s.txActive = s.mhIF.isSome
  due : ∀ d ∈ s.pending, s.clock ≤ d
  clock : 0 ≤ s.clock
  navTimer : ∀ c ∈ s.mhNav, c.due = s.nav
  nav : s.clock < s.nav → s.mhNav.isSome
  counts : s.Counts

/-- The back-off timer counts only while the medium is idle, and is paused only while it is not, or
until the NAV timer, which is due, expires. -/
structure Poised (s : Radio) : Prop extends s.Steady where
  running : s.mhBackoff.status = .running → s.IsIdle
  paused : s.mhBackoff.status = .paused → s.IsIdle → s.mhNav.map Countdown.due = some s.clock

/-- What is received, and until when; `mhRecv_` has expired when its handler is called. -/
def Receives (handling : Bool) (s : Radio) : Prop :=
  s.rxState = .idle ∧ s.pktRx = none ∧ s.mhRecv = none ∨
    (s.rxState = .recv ∨ s.rxState = .coll) ∧ s.pktRx.isSome ∧ s.mhRecv.isSome = !handling

/-- The invariant. -/
structure Sound (handling : Bool) (s : Radio) : Prop extends s.Poised where
  rx : s.Receives handling

/-- What `checkBackoffTimer` does to the timer and the record. -/
inductive Turns (s : Radio) : MacTimers.BackoffTimer → BackoffRound → Prop
  | same : Turns s s.mhBackoff s.round
  | resumed {rtime} (hb : s.mhBackoff = .paused rtime) (hidle : s.IsIdle) :
    Turns s (.running s.clock s.phy.difs rtime) s.round
  | paused (rtime : ℚ) (hrun : s.mhBackoff.status = .running) (hbusy : ¬ s.IsIdle) :
    Turns s (.paused rtime) s.countedUntil

/-- The state with another back-off timer. -/
def withBackoff (s : Radio) (t : MacTimers.BackoffTimer) (r : BackoffRound) : Radio :=
  { s with mhBackoff := t, round := r }

/-- `pktRx_` is given back. -/
def rested (s : Radio) : Radio := { s with pktRx := none, rxState := .idle }

/-- A frame is heard, until the timer `c` expires. -/
def hears (s : Radio) (x : MacState) (q : Option AirFrame) (c : Countdown) (p : AirFrame) : Radio :=
  { s with rxState := x, pktRx := q, mhRecv := some c }.hear p

/-- A frame is on the channel. -/
def sends (s : Radio) (x : MacState) (txtime : ℚ) : Radio :=
  { s with
    txState := x
    txActive := true
    pktRx := s.pktRx.map fun p => { p with error := true }
    mhIF := some ⟨s.clock, txtime⟩
    air := { s.air with sent := ⟨s.clock, s.clock + txtime⟩ :: s.air.sent } }

/-- What the transmitting side can do without sending. -/
inductive Acts (s : Radio) : Radio → Prop
  | turned {x t r} (ht : { s with txState := x }.Turns t r) :
    Acts s ({ s with txState := x }.withBackoff t r)
  | started {slots} (rtime : ℚ) (hslots : slots ≤ s.cw) (hidle : s.IsIdle) :
    Acts s (s.withBackoff (.running s.clock 0 rtime) ⟨slots, []⟩)
  | waiting {slots} (rtime : ℚ) (hslots : slots ≤ s.cw) :
    Acts s (s.withBackoff (.paused rtime) ⟨slots, []⟩)
  | stopped : Acts s (s.withBackoff .idle s.round)
  | window {n} (hn : n ≤ s.phy.cwMax) : Acts s { s with cw := n }
  | cleared : Acts s s.clearTxRx.listenAnew

/-- What a handler can do. -/
abbrev Handles : Radio → Radio → Prop := Relation.ReflTransGen Acts

/-- What can happen. -/
inductive Happens (s : Radio) : Radio → Prop
  | waited {t} (hle : s.clock ≤ t) (hdue : ∀ d ∈ s.pending, t ≤ d) : Happens s { s with clock := t }
  | began {p t r} (hrx : s.rxState = .idle) (ht : { s with rxState := .recv }.Turns t r) :
    Happens s <| (s.withBackoff t r).hears .recv
      (some { p with error := p.error || s.txActive }) ⟨s.clock, p.txtime⟩ p
  | captured {p} (hrx : s.rxState ≠ .idle) : Happens s ((s.capture p).passOver p)
  | collided {p q c c' t r} (hrx : s.rxState ≠ .idle) (ht : { s with rxState := .coll }.Turns t r)
    (hc : s.mhRecv = some c) (hc' : c'.due = max c.due (s.clock + p.txtime)) :
    Happens s ((s.withBackoff t r).hears .coll (some q) c' p)
  | acted {s'} (ha : s.Acts s') : Happens s s'
  | sent {x d t r} (hx : x ≠ .idle) (hd : 0 ≤ d) (hif : s.mhIF = none)
    (ht : { s with txState := x }.Turns t r) : Happens s ((s.withBackoff t r).sends x d)
  | lost {s₁ t r} (hdue : s.mhRecv.map Countdown.due = some s.clock)
    (hlost : s.rxState = .coll ∨ (∀ p ∈ s.pktRx, p.error = true) ∨ s.txActive = true)
    (hs₁ : s₁ = { s with mhRecv := none } ∨ ∃ us, s₁ = { s with mhRecv := none }.setNav us)
    (ht : s₁.rested.Turns t r) : Happens s (s₁.rested.withBackoff t r)
  | dropped {s'} (hdue : s.mhRecv.map Countdown.due = some s.clock)
    (hlink : Handles { s with mhRecv := none } s') (hrx : s'.pktRx = none) : Happens s s'
  | accepted {p s₁ s₂ t r} (hdue : s.mhRecv.map Countdown.due = some s.clock)
    (hrx : s.rxState = .recv) (hp : s.pktRx = some p) (herror : p.error = false)
    (htx : s.txActive = false) (hlink : Handles { s with mhRecv := none } s₁)
    (hs₁ : s₁.pktRx.isSome) (hcontent : Handles (s₁.overhear p) s₂)
    (ht : s₂.rested.Turns t r) : Happens s (s₂.rested.withBackoff t r)
  | navEnded {t r} (hdue : s.mhNav.map Countdown.due = some s.clock)
    (ht : { s with mhNav := none }.Turns t r) :
    Happens s ({ s with mhNav := none }.withBackoff t r)
  | ifEnded (hdue : s.mhIF.map Countdown.due = some s.clock) :
    Happens s { s with mhIF := none, txActive := false }
  | backoffEnded (hdue : s.mhBackoff.due = some s.clock) : Happens s s.backoffExpired

variable {s s' : Radio} {h : Bool} {p : AirFrame} {d : ℚ}

theorem mem_pending : d ∈ s.pending ↔
    s.mhRecv.map Countdown.due = some d ∨ s.mhNav.map Countdown.due = some d ∨
      s.mhIF.map Countdown.due = some d ∨ s.mhBackoff.due = some d := by
  simp only [pending, List.mem_append, Option.mem_toList, or_assoc]

/-! ### The back-off timer -/

theorem Steady.withBackoff {t : MacTimers.BackoffTimer} {r : BackoffRound} (hs : s.Steady)
    (hcounts : (s.withBackoff t r).Counts) (hdue : ∀ d, t.due = some d → s.clock ≤ d) :
    (s.withBackoff t r).Steady where
  tx := hs.tx
  due d hd := by
    rcases mem_pending.1 hd with hd | hd | hd | hd
    · exact hs.due d (mem_pending.2 (Or.inl hd))
    · exact hs.due d (mem_pending.2 (Or.inr (Or.inl hd)))
    · exact hs.due d (mem_pending.2 (Or.inr (Or.inr (Or.inl hd))))
    · exact hdue d hd
  clock := hs.clock
  navTimer := hs.navTimer
  nav := hs.nav
  counts := hcounts

theorem Remains.nonneg {r : ℚ} (hr : s.Remains r) : 0 ≤ r := by
  obtain ⟨k, rfl, -⟩ := hr
  exact mul_nonneg (Nat.cast_nonneg k) s.phy.slotTime_pos.le

/-- A paused timer is resumed. -/
theorem Steady.resumeBackoff {r : ℚ} (hs : s.Steady) (hb : s.mhBackoff = .paused r) :
    s.resumeBackoff = .ok (s.withBackoff (.running s.clock s.phy.difs r) s.round) ∧
      (s.withBackoff (.running s.clock s.phy.difs r) s.round).Steady := by
  have hcounts := hs.counts
  rw [Counts, hb] at hcounts
  have hdifs := s.phy.difs_nonneg
  have hr := hcounts.nonneg
  have hle : 0 ≤ r + s.phy.difs := add_nonneg hr hdifs
  refine ⟨?_, hs.withBackoff ⟨le_rfl, hdifs, hcounts⟩ fun d hd => ?_⟩
  · simp [Radio.resumeBackoff, hb, MacTimers.BackoffTimer.resume, assertThat, hle,
      Radio.withBackoff]
  · obtain rfl := Option.some.inj hd
    linarith

/-- The slots that a running timer has counted are among those it had left. -/
theorem Steady.slots_le {st w r : ℚ} {k : ℕ} (hs : s.Steady)
    (hb : s.mhBackoff = .running st w r) (hr : r = k * s.phy.slotTime) :
    (⟨st, s.clock⟩ : Span ℚ).slots s.phy.slotTime w ≤ k := by
  have hdue := hs.due (st + (r + w)) (mem_pending.2 (by simp [hb, MacTimers.BackoffTimer.due]))
  refine Span.slots_le s.phy.slotTime_pos ?_
  show s.clock ≤ st + w + k * s.phy.slotTime
  rw [← hr]
  linarith

/-- A running timer is paused. -/
theorem Steady.pauseBackoff {st w r : ℚ} (hs : s.Steady)
    (hb : s.mhBackoff = .running st w r) :
    ∃ r', s.pauseBackoff = .ok (s.withBackoff (.paused r') s.countedUntil) ∧
      (s.withBackoff (.paused r') s.countedUntil).Steady := by
  have hcounts := hs.counts
  rw [Counts, hb] at hcounts
  obtain ⟨-, -, k, hr, hdrawn⟩ := hcounts
  have hslots := hs.slots_le hb hr
  set n := (⟨st, s.clock⟩ : Span ℚ).slots s.phy.slotTime w with hn
  have hrest : r - n * s.phy.slotTime = ((k - n : ℕ) : ℚ) * s.phy.slotTime := by
    rw [hr, Nat.cast_sub hslots, sub_mul]
  have hnonneg : 0 ≤ r - n * s.phy.slotTime := by
    rw [hrest]
    exact mul_nonneg (Nat.cast_nonneg _) s.phy.slotTime_pos.le
  refine ⟨r - n * s.phy.slotTime, ?_, hs.withBackoff ⟨k - n, hrest, ?_⟩ fun d hd => ?_⟩
  · simp only [Radio.pauseBackoff, hb, MacTimers.BackoffTimer.pause,
      MacTimers.BackoffTimer.spanUntil, ← hn, assertThat, hnonneg, if_true, ok_bind]
    rfl
  · simp only [Radio.withBackoff, countedUntil, hb, BackoffRound.total, List.map_cons,
      List.sum_cons, ← hn]
    rw [BackoffRound.total] at hdrawn
    omega
  · cases hd

theorem status_eq_paused {t : MacTimers.BackoffTimer} (ht : t.status = .paused) :
    ∃ r, t = .paused r := by
  cases t with
  | paused r => exact ⟨r, rfl⟩
  | _ => cases ht

theorem status_eq_running {t : MacTimers.BackoffTimer} (ht : t.status = .running) :
    ∃ st w r, t = .running st w r := by
  cases t with
  | running st w r => exact ⟨st, w, r, rfl⟩
  | _ => cases ht

/-- After `checkBackoffTimer` the timer counts exactly while the medium is idle. -/
theorem Steady.checkBackoffTimer (hs : s.Steady) :
    ∃ t r, s.checkBackoffTimer = .ok (s.withBackoff t r) ∧ s.Turns t r ∧
      (s.withBackoff t r).Poised := by
  by_cases hpaused : s.IsIdle ∧ s.mhBackoff.status = .paused
  · obtain ⟨r, hb⟩ := status_eq_paused hpaused.2
    obtain ⟨heq, hsteady⟩ := hs.resumeBackoff hb
    refine ⟨_, _, ?_, .resumed hb hpaused.1, hsteady, fun _ => hpaused.1, fun hno => by cases hno⟩
    rw [Radio.checkBackoffTimer, if_pos hpaused, heq, ok_bind]
    exact if_neg fun hno => hno.1 hpaused.1
  · by_cases hrunning : ¬ s.IsIdle ∧ s.mhBackoff.status = .running
    · obtain ⟨st, w, r, hb⟩ := status_eq_running hrunning.2
      obtain ⟨r', heq, hsteady⟩ := hs.pauseBackoff hb
      refine ⟨_, _, ?_, .paused r' hrunning.2 hrunning.1, hsteady, (fun hno => by cases hno),
        fun _ hidle => absurd hidle hrunning.1⟩
      rw [Radio.checkBackoffTimer, if_neg hpaused, ok_bind, ← heq]
      exact if_pos hrunning
    · refine ⟨s.mhBackoff, s.round, ?_, .same, hs, fun hrun => ?_, fun hp hidle => ?_⟩
      · rw [Radio.checkBackoffTimer, if_neg hpaused, ok_bind]
        exact if_neg hrunning
      · by_contra hidle
        exact hrunning ⟨hidle, hrun⟩
      · exact absurd ⟨hidle, hp⟩ hpaused

/-! ### What the operations keep -/

theorem Steady.withTxState (hs : s.Steady) (x : MacState) : { s with txState := x }.Steady :=
  ⟨hs.tx, hs.due, hs.clock, hs.navTimer, hs.nav, hs.counts⟩

theorem Steady.withAir (hs : s.Steady) (air : AirRecord) : { s with air := air }.Steady :=
  ⟨hs.tx, hs.due, hs.clock, hs.navTimer, hs.nav, hs.counts⟩

theorem Poised.withAir (hs : s.Poised) (air : AirRecord) : { s with air := air }.Poised :=
  ⟨hs.toSteady.withAir air, hs.running, hs.paused⟩

theorem Steady.setNav (hs : s.Steady) (us : ℕ) : (s.setNav us).Steady := by
  unfold Radio.setNav
  dsimp only
  split_ifs with hlt
  · have ht : (0 : ℚ) ≤ (us : ℚ) / 10 ^ 6 := by positivity
    refine ⟨hs.tx, fun d hd => ?_, hs.clock, ?_, fun _ => rfl, hs.counts⟩
    · rcases mem_pending.1 hd with hd | hd | hd | hd
      · exact hs.due d (mem_pending.2 (Or.inl hd))
      · obtain rfl := Option.some.inj hd
        show s.clock ≤ s.clock + us / 10 ^ 6
        linarith
      · exact hs.due d (mem_pending.2 (Or.inr (Or.inr (Or.inl hd))))
      · exact hs.due d (mem_pending.2 (Or.inr (Or.inr (Or.inr hd))))
    · intro c hc
      obtain rfl := Option.some.inj hc
      rfl
  · exact hs

@[simp] theorem rxState_setNav (s : Radio) (us : ℕ) : (s.setNav us).rxState = s.rxState := by
  unfold Radio.setNav
  dsimp only
  split_ifs <;> rfl

theorem receives_setNav (us : ℕ) : (s.setNav us).Receives h ↔ s.Receives h := by
  unfold Radio.setNav
  dsimp only
  split_ifs <;> rfl

@[simp] theorem mhBackoff_setNav (s : Radio) (us : ℕ) : (s.setNav us).mhBackoff = s.mhBackoff := by
  unfold Radio.setNav
  dsimp only
  split_ifs <;> rfl

/-- While a frame is heard, the back-off timer does not run. -/
theorem Poised.setNav (hs : s.Poised) (hrx : s.rxState ≠ .idle) (us : ℕ) :
    (s.setNav us).Poised where
  toSteady := hs.toSteady.setNav us
  running hrun := absurd (hs.running (by simpa using hrun)).1 hrx
  paused _ hidle := absurd (by simpa using hidle.1) hrx

theorem Steady.clearTxRx (hs : s.Steady) : s.clearTxRx.Sound h := by
  refine ⟨⟨⟨rfl, fun d hd => ?_, hs.clock, (fun c hc => by cases hc),
    fun hlt => absurd hlt (not_lt.2 hs.clock), trivial⟩, (fun hno => by cases hno),
    fun hno => by cases hno⟩, Or.inl ⟨rfl, rfl, rfl⟩⟩
  rcases mem_pending.1 hd with hd | hd | hd | hd <;> cases hd

/-- The back-off timer starts with whole slots. -/
theorem Steady.startBackoff (hs : s.Steady) (hb : s.mhBackoff = .idle) (random : ℕ) :
    ∃ t r, s.startBackoff random = .ok (s.withBackoff t r) ∧ s.Acts (s.withBackoff t r) ∧
      (s.withBackoff t r).Poised := by
  set n := random % (s.cw + 1) with hn
  set r : ℚ := n * s.phy.slotTime with hr
  have hnonneg : 0 ≤ r := mul_nonneg (Nat.cast_nonneg n) s.phy.slotTime_pos.le
  have hslots : n ≤ s.cw := Nat.lt_succ_iff.1 (Nat.mod_lt random s.cw.succ_pos)
  have hremains : ∀ t, (s.withBackoff t ⟨n, []⟩).Remains r := fun t => ⟨n, rfl, rfl⟩
  by_cases hidle : s.IsIdle
  · refine ⟨.running s.clock 0 r, ⟨n, []⟩, ?_, .started r hslots hidle,
      hs.withBackoff ⟨le_rfl, le_rfl, hremains _⟩ ?_, fun _ => hidle, fun hno => by cases hno⟩
    · simp [Radio.startBackoff, MacTimers.BackoffTimer.start, hb, hidle, assertThat, ← hn, ← hr,
        hnonneg, Radio.withBackoff]
    · intro d hd
      obtain rfl := Option.some.inj hd
      linarith
  · refine ⟨.paused r, ⟨n, []⟩, ?_, .waiting r hslots,
      hs.withBackoff (hremains _) (fun d hd => by cases hd), (fun hno => by cases hno),
      fun _ hyes => absurd hyes hidle⟩
    simp [Radio.startBackoff, MacTimers.BackoffTimer.start, hb, hidle, assertThat, ← hn, ← hr,
      Radio.withBackoff]

/-- What the transmitting side does. -/
theorem Sound.perform {a : TxAction} (hs : s.Sound h) (ha : s.Allowed a) :
    ∃ s', s.perform a = .ok s' ∧ s.Acts s' ∧ s'.Sound h := by
  cases a with
  | resume =>
    obtain ⟨t, r, heq, hturn, hpoised⟩ := (hs.toSteady.withTxState .idle).checkBackoffTimer
    exact ⟨_, heq, .turned hturn, hpoised, hs.rx⟩
  | startBackoff random =>
    obtain ⟨t, r, heq, hacts, hpoised⟩ := hs.toSteady.startBackoff ha random
    exact ⟨_, heq, hacts, hpoised, hs.rx⟩
  | stopBackoff =>
    refine ⟨_, rfl, .stopped, ⟨hs.toSteady.withBackoff trivial (fun d hd => by cases hd),
      (fun hno => by cases hno), fun hno => by cases hno⟩, hs.rx⟩
  | incCw =>
    exact ⟨_, rfl, .window (min_le_right _ _),
      ⟨⟨hs.tx, hs.due, hs.clock, hs.navTimer, hs.nav, hs.counts⟩,
      hs.running, hs.paused⟩, hs.rx⟩
  | rstCw =>
    exact ⟨_, rfl, .window s.phy.cwMin_le_cwMax,
      ⟨⟨hs.tx, hs.due, hs.clock, hs.navTimer, hs.nav, hs.counts⟩,
      hs.running, hs.paused⟩, hs.rx⟩
  | clear =>
    have hs' : s.clearTxRx.Sound h := hs.toSteady.clearTxRx
    exact ⟨_, rfl, .cleared, hs'.toPoised.withAir {}, hs'.rx⟩

/-- What a handler does. -/
theorem Sound.handlers {as : List TxAction} (hs : s.Sound h)
    (has : StepsMeet Radio.perform Allowed s as) :
    ∃ s', runSteps Radio.perform s as = .ok s' ∧ s.Handles s' ∧ s'.Sound h := by
  refine runSteps_returns (I := fun s' => s.Handles s' ∧ s'.Sound h) (fun s₁ a ⟨h₁, hs₁⟩ ha => ?_)
    ⟨.refl, hs⟩ has
  obtain ⟨s₂, heq, hacts, hs₂⟩ := hs₁.perform ha
  exact ⟨s₂, heq, h₁.tail hacts, hs₂⟩

/-! ### What the events keep -/

theorem Steady.withRx (hs : s.Steady) (x : MacState) : { s with rxState := x }.Steady :=
  ⟨hs.tx, hs.due, hs.clock, hs.navTimer, hs.nav, hs.counts⟩

/-- A frame is heard until after now. -/
theorem Poised.hears {x : MacState} {q : Option AirFrame} {c : Countdown}
    (hs : { s with rxState := x }.Poised) (hc : s.clock ≤ c.due) : (s.hears x q c p).Poised := by
  refine ⟨⟨hs.tx, fun d hd => ?_, hs.clock, hs.navTimer, hs.nav, hs.counts⟩, hs.running, hs.paused⟩
  rcases mem_pending.1 hd with hd | hd
  · obtain rfl := Option.some.inj hd
    exact hc
  · exact hs.due d (mem_pending.2 (Or.inr hd))

/-- A frame that comes while the MAC sends is spoilt. -/
theorem spoil_eq (s : Radio) (p : AirFrame) :
    (if s.txActive = true ∧ p.error = false then { p with error := true } else p) =
      { p with error := p.error || s.txActive } := by
  cases hp : p.error <;> cases htx : s.txActive <;> simp [← hp]

/-- The timer of a frame that lasts longer is started again. -/
theorem collision_coll {q r : AirFrame} {c : Countdown} (hrx : s.rxState = .coll)
    (hpkt : s.pktRx = some r) (hrecv : s.mhRecv = some c) :
    ∃ q' c', s.collision q = .ok { s with pktRx := some q', mhRecv := some c' } ∧
      c'.due = max c.due (s.clock + q.txtime) := by
  by_cases hlt : c.due - s.clock < q.txtime
  · refine ⟨q, ⟨s.clock, q.txtime⟩, ?_, (max_eq_right ?_).symm⟩
    · simp [Radio.collision, hrx, hpkt, hrecv, assertNonNull, hlt]
    · show c.due ≤ s.clock + q.txtime
      linarith
  · refine ⟨r, c, ?_, (max_eq_left ?_).symm⟩
    · have heq : { s with pktRx := some r, mhRecv := some c } = s := by rw [← hpkt, ← hrecv]
      rw [heq]
      simp [Radio.collision, hrx, hpkt, hrecv, assertNonNull, hlt]
    · linarith

/-- A frame that is received collides as one that has collided. -/
theorem collision_recv {q : AirFrame} {t : MacTimers.BackoffTimer} {r : BackoffRound}
    (hrx : s.rxState = .recv)
    (hset : s.setRxState .coll = .ok ({ s with rxState := .coll }.withBackoff t r)) :
    s.collision q = ({ s with rxState := .coll }.withBackoff t r).collision q := by
  simp [Radio.collision, hrx, hset, Radio.withBackoff]

/-- A frame that is captured. -/
theorem Sound.capture (hs : s.Sound h) (hrx : s.rxState ≠ .idle) (p : AirFrame) :
    ((s.capture p).passOver p).Sound h :=
  ⟨(hs.toPoised.setNav hrx _).withAir _, (receives_setNav _).2 hs.rx⟩

/-- A frame that collides. -/
theorem Sound.collision {q c} (hs : s.Sound false) (hrx : s.rxState = .recv ∨ s.rxState = .coll)
    (hpkt : s.pktRx = some q) (hrecv : s.mhRecv = some c) (spoilt : Bool) (p : AirFrame) :
    ∃ s', s.collision { p with error := spoilt } = .ok s' ∧ s.Happens (s'.hear p) ∧
      (s'.hear p).Sound false := by
  have hbusy : s.rxState ≠ .idle := by rcases hrx with hrx | hrx <;> simp [hrx]
  -- the state in which the frame collides
  obtain ⟨t, r, heq, hturn, hpoised⟩ : ∃ t r, s.collision { p with error := spoilt } =
      ({ s with rxState := .coll }.withBackoff t r).collision { p with error := spoilt } ∧
      { s with rxState := .coll }.Turns t r ∧
      ({ s with rxState := .coll }.withBackoff t r).Poised := by
    rcases hrx with hrx | hrx
    · obtain ⟨t, r, heq, hturn, hpoised⟩ := (hs.toSteady.withRx .coll).checkBackoffTimer
      exact ⟨t, r, collision_recv hrx heq, hturn, hpoised⟩
    · have hself : { s with rxState := .coll } = s := by rw [← hrx]
      refine ⟨s.mhBackoff, s.round, ?_, hself ▸ .same, ?_⟩
      · rw [hself]
        rfl
      · rw [hself]
        exact hs.toPoised
  obtain ⟨q', c', hcol, hdue⟩ := collision_coll (q := { p with error := spoilt })
    (s := { s with rxState := .coll }.withBackoff t r) rfl hpkt hrecv
  have hhappens : s.Happens ((s.withBackoff t r).hears .coll (some q') c' p) :=
    .collided hbusy hturn hrecv hdue
  refine ⟨_, heq.trans hcol, hhappens, Poised.hears hpoised ?_, Or.inr ⟨Or.inr rfl, rfl, rfl⟩⟩
  rw [hdue]
  exact le_max_of_le_left (hs.due _ (mem_pending.2 (Or.inl (by rw [hrecv]; rfl))))

/-- A frame comes. -/
theorem Sound.recv (hs : s.Sound false) (p : AirFrame) :
    ∃ s', s.step (.frame p) = .ok s' ∧ s.Happens s' ∧ s'.Sound false := by
  rcases hs.rx with ⟨hrx, -, hrecv⟩ | ⟨hrx, hpkt, hrecv⟩
  · obtain ⟨t, r, heq, hturn, hpoised⟩ := (hs.toSteady.withRx .recv).checkBackoffTimer
    have hset : s.setRxState .recv = .ok ({ s with rxState := .recv }.withBackoff t r) := heq
    have hheard : ¬ s.Captures p := fun hno => hno.1 hrx
    refine ⟨_, ?_, .began (p := p) hrx hturn, Poised.hears hpoised ?_,
      Or.inr ⟨Or.inl rfl, rfl, rfl⟩⟩
    · simp only [step, Radio.recv, spoil_eq, hrx, if_true, hset, ok_bind, if_neg hheard]
      simp [Radio.withBackoff, hrecv, MacTimer.start_none p.txtime_nonneg]
      rfl
    · exact le_add_of_nonneg_right p.txtime_nonneg
  · have hbusy : s.rxState ≠ .idle := by rcases hrx with hrx | hrx <;> simp [hrx]
    obtain ⟨c, hc⟩ := Option.isSome_iff_exists.1 hrecv
    obtain ⟨q, hq⟩ := Option.isSome_iff_exists.1 hpkt
    have hcaptures : s.Captures p ↔ p.cpThresh ≤ q.rxPr / p.rxPr := by simp [Captures, hbusy, hq]
    by_cases hcap : p.cpThresh ≤ q.rxPr / p.rxPr
    · refine ⟨(s.capture p).passOver p, ?_, .captured hbusy, hs.capture hbusy p⟩
      simp [step, Radio.recv, hbusy, hq, deref, hcap, hcaptures]
    · have hrecv' : s.recv p = s.collision { p with error := p.error || s.txActive } := by
        simp only [Radio.recv, spoil_eq, hbusy, if_false, hq, deref, ok_bind, hcap]
      obtain ⟨s', heq, hhappens, hsound⟩ := hs.collision hrx hq hc (p.error || s.txActive) p
      refine ⟨s'.hear p, ?_, hhappens, hsound⟩
      simp [step, hrecv', heq, hcaptures, hcap]

/-- `checkBackoffTimer` has nothing to do with own frames. -/
theorem Poised.sends {x : MacState} {txtime : ℚ} (hs : { s with txState := x }.Poised)
    (htime : 0 ≤ txtime) : (s.sends x txtime).Poised := by
  refine ⟨⟨rfl, fun d hd => ?_, hs.clock, hs.navTimer, hs.nav, hs.counts⟩, hs.running, hs.paused⟩
  rcases mem_pending.1 hd with hd | hd | hd | hd
  · exact hs.due d (mem_pending.2 (Or.inl hd))
  · exact hs.due d (mem_pending.2 (Or.inr (Or.inl hd)))
  · obtain rfl := Option.some.inj hd
    exact le_add_of_nonneg_right htime
  · exact hs.due d (mem_pending.2 (Or.inr (Or.inr (Or.inr hd))))

/-- A frame is sent. -/
theorem Sound.transmit {x : MacState} {txtime : ℚ} (hs : s.Sound false) (hif : s.mhIF = none)
    (hx : x ≠ .idle) (htime : 0 ≤ txtime) :
    ∃ s', s.step (.transmit x txtime) = .ok s' ∧ s.Happens s' ∧ s'.Sound false := by
  obtain ⟨t, r, heq, hturn, hpoised⟩ := (hs.toSteady.withTxState x).checkBackoffTimer
  have hset : s.setTxState x = .ok ({ s with txState := x }.withBackoff t r) := heq
  refine ⟨_, ?_, .sent hx htime hif hturn, Poised.sends hpoised htime, ?_⟩
  · rcases hs.rx with ⟨hrx, hpkt, -⟩ | ⟨hrx, hpkt, -⟩
    · simp [step, hset, Radio.withBackoff, Radio.transmit, hrx, hif, MacTimer.start_none htime,
        Radio.emit, Radio.sends, hpkt]
    · obtain ⟨q, hq⟩ := Option.isSome_iff_exists.1 hpkt
      have hbusy : s.rxState ≠ .idle := by rcases hrx with hrx | hrx <;> simp [hrx]
      simp [step, hset, Radio.withBackoff, Radio.transmit, hbusy, hif, MacTimer.start_none htime,
        Radio.emit, Radio.sends, hq, assertNonNull]
  · rcases hs.rx with ⟨hrx, hpkt, hrecv⟩ | ⟨hrx, hpkt, hrecv⟩
    · exact Or.inl ⟨hrx, by simp [Radio.sends, Radio.withBackoff, hpkt], hrecv⟩
    · exact Or.inr ⟨hrx, by simpa [Radio.sends, Radio.withBackoff] using hpkt, hrecv⟩

/-- A timer that has expired is not pending any more. -/
theorem Steady.expire {recv nav : MacTimer} (hs : s.Steady)
    (hrecv : recv = s.mhRecv ∨ recv = none)
    (hnav : nav = s.mhNav ∨ nav = none ∧ s.mhNav.map Countdown.due = some s.clock) :
    { s with mhRecv := recv, mhNav := nav }.Steady := by
  refine ⟨hs.tx, fun d hd => ?_, hs.clock, fun c hc => ?_, fun hlt => ?_, hs.counts⟩
  · rcases mem_pending.1 hd with hd | hd | hd
    · rcases hrecv with rfl | rfl
      · exact hs.due d (mem_pending.2 (Or.inl hd))
      · cases hd
    · rcases hnav with rfl | ⟨rfl, -⟩
      · exact hs.due d (mem_pending.2 (Or.inr (Or.inl hd)))
      · cases hd
    · exact hs.due d (mem_pending.2 (Or.inr (Or.inr hd)))
  · rcases hnav with rfl | ⟨rfl, -⟩
    · exact hs.navTimer c hc
    · cases hc
  · rcases hnav with rfl | ⟨rfl, hdue⟩
    · exact hs.nav hlt
    · obtain ⟨c, hc, hcdue⟩ := Option.map_eq_some_iff.1 hdue
      have hnow : s.nav = s.clock := by rw [← hs.navTimer c hc, hcdue]
      exact absurd hlt (not_lt.2 hnow.le)

theorem isSome_of_due {t : MacTimer} (h : t.map Countdown.due = some d) : t.isSome := by
  rw [← Option.isSome_map, h]
  rfl

/-- `mhRecv_` has expired. -/
theorem Sound.expireRecv (hs : s.Sound false) (hdue : s.mhRecv.isSome) :
    { s with mhRecv := none }.Sound true ∧ (s.rxState = .recv ∨ s.rxState = .coll) ∧
      s.pktRx.isSome := by
  rcases hs.rx with ⟨-, -, hrecv⟩ | ⟨hrx, hpkt, -⟩
  · rw [hrecv] at hdue
    cases hdue
  · have hsteady := hs.toSteady.expire (Or.inr rfl) (Or.inl rfl)
    exact ⟨⟨⟨hsteady, hs.running, hs.paused⟩, Or.inr ⟨hrx, hpkt, rfl⟩⟩, hrx, hpkt⟩

/-- The end of `recv_timer`. -/
theorem Sound.done (hs : s.Sound true) :
    ∃ t r, s.done = .ok (s.rested.withBackoff t r) ∧ s.rested.Turns t r ∧
      (s.rested.withBackoff t r).Sound false := by
  have hrecv : s.mhRecv = none := by
    rcases hs.rx with ⟨-, -, hrecv⟩ | ⟨-, -, hrecv⟩
    · exact hrecv
    · simpa using hrecv
  have hsteady : s.rested.Steady := ⟨hs.tx, hs.due, hs.clock, hs.navTimer, hs.nav, hs.counts⟩
  obtain ⟨t, r, heq, hturn, hpoised⟩ := hsteady.checkBackoffTimer
  refine ⟨t, r, ?_, hturn, hpoised, Or.inl ⟨rfl, rfl, hrecv⟩⟩
  rw [Radio.done, rxResume, assertThat, if_pos rfl, ok_bind, assertThat, if_pos hrecv, ok_bind]
  exact heq

theorem Sound.setNav (hs : s.Sound h) (hrx : s.rxState ≠ .idle) (us : ℕ) : (s.setNav us).Sound h :=
  ⟨hs.toPoised.setNav hrx us, (receives_setNav us).2 hs.rx⟩

theorem Sound.overhear (hs : s.Sound h) (hrx : s.rxState ≠ .idle) (p : AirFrame) :
    (s.overhear p).Sound h := by
  unfold Radio.overhear
  dsimp only
  set air : AirRecord := { s.air with received := ⟨s.clock - p.txtime, p⟩ :: s.air.received }
  have hair : { s with air := air }.Sound h := ⟨hs.toPoised.withAir air, hs.rx⟩
  split_ifs
  · exact hair.setNav hrx p.duration
  · exact hair

/-- The reception of a frame ends. -/
theorem Sound.recvTimer {link content : List TxAction} (hs : s.Sound false)
    (he : s.Enabled (.recvTimer link content)) :
    ∃ s', s.step (.recvTimer link content) = .ok s' ∧ s.Happens s' ∧ s'.Sound false := by
  obtain ⟨hdue, hallowed⟩ := he
  obtain ⟨hs₀, hrx, hpkt⟩ := hs.expireRecv (isSome_of_due hdue)
  obtain ⟨p, hp⟩ := Option.isSome_iff_exists.1 hpkt
  obtain ⟨hlink, hcontent⟩ := hallowed p hp
  have hbusy : s.rxState ≠ .idle := by rcases hrx with hrx | hrx <;> simp [hrx]
  have heq : s.step (.recvTimer link content) = { s with mhRecv := none }.recvTimer link content :=
    rfl
  by_cases htx : s.txActive = true
  · obtain ⟨t, r, hdone, hturn, hsound⟩ := hs₀.done
    refine ⟨_, ?_, .lost hdue (Or.inr (Or.inr htx)) (Or.inl rfl) hturn, hsound⟩
    simpa [heq, Radio.recvTimer, hp, deref, assertThat, hrx, htx] using hdone
  by_cases hlost : s.rxState = .coll ∨ p.error = true
  · obtain ⟨t, r, hdone, hturn, hsound⟩ := (hs₀.setNav hbusy (usec s.phy.eifs)).done
    refine ⟨_, ?_, .lost hdue ?_ (Or.inr ⟨_, rfl⟩) hturn, hsound⟩
    · by_cases hcoll : s.rxState = .coll
      · simpa [heq, Radio.recvTimer, hp, deref, assertThat, htx, hcoll] using hdone
      · have hrecv := hrx.resolve_right hcoll
        have herror := hlost.resolve_left hcoll
        simpa [heq, Radio.recvTimer, hp, deref, assertThat, htx, hrecv, herror] using hdone
    · refine hlost.imp id fun herror => Or.inl fun q hq => ?_
      rw [hp] at hq
      cases hq
      exact herror
  · obtain ⟨hcoll, herror⟩ := not_or.1 hlost
    have hrecv := hrx.resolve_right hcoll
    have haccept : s.step (.recvTimer link content) =
        { s with mhRecv := none }.accept p link content := by
      simp [heq, Radio.recvTimer, hp, deref, assertThat, htx, hrecv, herror]
    obtain ⟨s₁, hrun₁, hhandles₁, hs₁⟩ := hs₀.handlers hlink
    cases hpkt₁ : s₁.pktRx with
    | none =>
      refine ⟨s₁, ?_, .dropped hdue hhandles₁ hpkt₁, hs₁.toPoised, ?_⟩
      · simp [haccept, accept, hrun₁, hpkt₁]
      · rcases hs₁.rx with hidle | ⟨-, hsome, -⟩
        · exact Or.inl hidle
        · rw [hpkt₁] at hsome
          cases hsome
    | some q =>
      have hbusy₁ : s₁.rxState ≠ .idle := by
        rcases hs₁.rx with ⟨-, hnone, -⟩ | ⟨hrx₁, -, -⟩
        · rw [hpkt₁] at hnone
          cases hnone
        · rcases hrx₁ with hrx₁ | hrx₁ <;> simp [hrx₁]
      obtain ⟨s₂, hrun₂, hhandles₂, hs₂⟩ :=
        (hs₁.overhear hbusy₁ p).handlers (hcontent s₁ hrun₁)
      obtain ⟨t, r, hdone, hturn, hsound⟩ := hs₂.done
      refine ⟨_, ?_, .accepted hdue hrecv hp (by simpa using herror) (by simpa using htx) hhandles₁
        (by rw [hpkt₁]; rfl) hhandles₂ hturn, hsound⟩
      simp [haccept, accept, hrun₁, hpkt₁, hrun₂, hdone]

/-- The navigation vector ends. -/
theorem Sound.navExpired (hs : s.Sound false) (hdue : s.mhNav.map Countdown.due = some s.clock) :
    ∃ s', s.step .navTimer = .ok s' ∧ s.Happens s' ∧ s'.Sound false := by
  have hsteady := hs.toSteady.expire (Or.inl rfl) (Or.inr ⟨rfl, hdue⟩)
  by_cases hpaused : s.IsIdle ∧ s.mhBackoff.status = .paused
  · obtain ⟨r, hb⟩ := status_eq_paused hpaused.2
    obtain ⟨heq, hresumed⟩ := hsteady.resumeBackoff hb
    refine ⟨_, ?_, .navEnded hdue (.resumed hb hpaused.1),
      ⟨hresumed, fun _ => hpaused.1, fun hno => by cases hno⟩, hs.rx⟩
    rw [← heq]
    exact if_pos hpaused
  · refine ⟨_, if_neg hpaused, .navEnded hdue .same,
      ⟨hsteady, hs.running, fun hp hidle => ?_⟩, hs.rx⟩
    exact absurd ⟨hidle, hp⟩ hpaused

/-- Time passes. -/
theorem Sound.wait {t : ℚ} (hs : s.Sound h) (hle : s.clock ≤ t)
    (hpending : ∀ d ∈ s.pending, t ≤ d) :
    { s with clock := t }.Sound h := by
  have hcounts : { s with clock := t }.Counts := by
    have hcounts := hs.counts
    unfold Counts at hcounts ⊢
    dsimp only
    split
    · trivial
    · next rtime hb =>
      rw [hb] at hcounts
      exact hcounts
    · next st w rtime hb =>
      rw [hb] at hcounts
      exact ⟨hcounts.1.trans hle, hcounts.2⟩
  refine ⟨⟨⟨hs.tx, hpending, hs.clock.trans hle, hs.navTimer, fun hlt => hs.nav (hle.trans_lt hlt),
    hcounts⟩, fun hrun => ?_, fun hp hidle => ?_⟩, hs.rx⟩
  · obtain ⟨hrx, htx, hnav⟩ := hs.running hrun
    exact ⟨hrx, htx, not_lt.2 ((not_lt.1 hnav).trans hle)⟩
  · obtain ⟨hrx, htx, hnav⟩ := hidle
    have hnow : ∀ d, s.mhNav.map Countdown.due = some d → t ≤ d := fun d hd =>
      hpending d (mem_pending.2 (Or.inr (Or.inl hd)))
    by_cases hlt : s.clock < s.nav
    · obtain ⟨c, hc⟩ := Option.isSome_iff_exists.1 (hs.nav hlt)
      have hdue : s.mhNav.map Countdown.due = some s.nav := by rw [hc, ← hs.navTimer c hc]; rfl
      show s.mhNav.map Countdown.due = some t
      rw [hdue, le_antisymm (hnow s.nav hdue) (not_lt.1 hnav)]
    · have hdue := hs.paused hp ⟨hrx, htx, hlt⟩
      show s.mhNav.map Countdown.due = some t
      rw [hdue, le_antisymm (hnow s.clock hdue) hle]

/-- What was sent has left the interface. -/
theorem Sound.ifExpired (hs : s.Sound h) : { s with mhIF := none, txActive := false }.Sound h := by
  refine ⟨⟨⟨rfl, fun d hd => ?_, hs.clock, hs.navTimer, hs.nav, hs.counts⟩, hs.running, hs.paused⟩,
    hs.rx⟩
  rcases mem_pending.1 hd with hd | hd | hd | hd
  · exact hs.due d (mem_pending.2 (Or.inl hd))
  · exact hs.due d (mem_pending.2 (Or.inr (Or.inl hd)))
  · cases hd
  · exact hs.due d (mem_pending.2 (Or.inr (Or.inr (Or.inr hd))))

/-- The back-off is over. -/
theorem Sound.backoffExpired (hs : s.Sound h) : s.backoffExpired.Sound h := by
  have hstopped := hs.toSteady.withBackoff (t := .idle) (r := s.round) trivial
    fun d hd => by cases hd
  exact ⟨⟨⟨hstopped.tx, hstopped.due, hstopped.clock, hstopped.navTimer, hstopped.nav, trivial⟩,
    (fun hno => by cases hno), fun hno => by cases hno⟩, hs.rx⟩

/-- One event: no assertion fails, and the invariant holds. -/
theorem Sound.step {e : RadioEvent} (hs : s.Sound false) (he : s.Enabled e) :
    ∃ s', s.step e = .ok s' ∧ s.Happens s' ∧ s'.Sound false := by
  cases e with
  | wait t => exact ⟨_, rfl, .waited he.1 he.2, hs.wait he.1 he.2⟩
  | frame p => exact hs.recv p
  | action a =>
    obtain ⟨s', heq, hacts, hsound⟩ := hs.perform he
    exact ⟨s', heq, .acted hacts, hsound⟩
  | transmit x d => exact hs.transmit he.1 he.2.1 he.2.2
  | recvTimer link content => exact hs.recvTimer he
  | navTimer => exact hs.navExpired he
  | ifTimer => exact ⟨_, rfl, .ifEnded he, hs.ifExpired⟩
  | backoffTimer => exact ⟨_, rfl, .backoffEnded he, hs.backoffExpired⟩

theorem sound_fresh (phy : Phy) (index : MacAddr) : (fresh phy index).Sound false := by
  refine ⟨⟨⟨rfl, fun d hd => ?_, le_rfl, (fun c hc => by cases hc),
    fun hlt => absurd hlt (lt_irrefl _), trivial⟩, (fun hno => by cases hno),
    fun hno => by cases hno⟩, Or.inl ⟨rfl, rfl, rfl⟩⟩
  rcases mem_pending.1 hd with hd | hd | hd | hd <;> cases hd

/-- What a step that is enabled does. -/
theorem Sound.happens {e : RadioEvent} (hs : s.Sound false) (he : s.Enabled e)
    (hstep : s.step e = .ok s') : s.Happens s' ∧ s'.Sound false := by
  obtain ⟨s'', heq, hhappens, hs''⟩ := hs.step he
  rw [hstep] at heq
  cases heq
  exact ⟨hhappens, hs''⟩

theorem sound_run {phy : Phy} {index : MacAddr} {es : List RadioEvent}
    (henabled : StepsMeet Radio.step Enabled (fresh phy index) es)
    (hrun : runSteps Radio.step (fresh phy index) es = .ok s) : s.Sound false :=
  runSteps_invariant (fun _ _ _ hs he hstep => (hs.happens he hstep).2) (sound_fresh phy index)
    henabled hrun

/-- No assertion of the receiving side or of its timers fails, in any run. -/
theorem run_returns (phy : Phy) (index : MacAddr) {es : List RadioEvent}
    (henabled : StepsMeet Radio.step Enabled (fresh phy index) es) :
    ∃ s, runSteps Radio.step (fresh phy index) es = .ok s ∧ s.Sound false :=
  runSteps_returns (fun s e hs he => by
    obtain ⟨s', heq, -, hs'⟩ := Sound.step hs he
    exact ⟨s', heq, hs'⟩) (sound_fresh phy index) henabled

/-- A frame of a millisecond. -/
def millisecond : AirFrame where
  ra := 1
  duration := 0
  txtime := 1 / 1000
  rxPr := 1
  cpThresh := 10
  error := false
  txtime_nonneg := by norm_num

/-- Two frames collide; a back-off waits for the end of `getEIFS` and is interrupted by a third. -/
def afterCollision : List RadioEvent :=
  [.frame millisecond, .wait (500 / 10 ^ 6), .frame millisecond, .wait (1500 / 10 ^ 6),
    .recvTimer [] [], .action (.startBackoff 2), .wait (1864 / 10 ^ 6), .navTimer,
    .wait (1940 / 10 ^ 6), .frame millisecond, .wait (2940 / 10 ^ 6), .recvTimer [] [],
    .wait (3010 / 10 ^ 6), .backoffTimer]

theorem afterCollision_enabled :
    StepsMeet Radio.step Enabled (fresh .nsDefault 1) afterCollision := by
  decide +kernel

theorem run_returns_afterCollision :
    ∃ s, runSteps Radio.step (fresh .nsDefault 1) afterCollision = .ok s ∧ s.Sound false :=
  run_returns .nsDefault 1 afterCollision_enabled

end Radio

end SipNemo.Mac
