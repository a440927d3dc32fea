import SipNemo.Mac.Backoff

/-!
# How long a back-off can wait

A back-off that is paused waits for the frame that is received to end and for the navigation
vector. When the transmitting side is idle, no frame comes and no handler does anything, nothing
else holds it up: `overBy` is a time by which it has run out, whatever the order of the events.
-/

namespace SipNemo.Mac.Radio

open Mih (MacAddr)
open MacTimers Runs

/-- The longest time for which the end of the frame `p` sets the navigation vector. -/
def navAfter (s : Radio) (p : AirFrame) : ℚ := max (usec s.phy.eifs) p.duration / 10 ^ 6

/-- Until when the navigation vector lasts after the frame that is received. -/
def navBy (s : Radio) : ℚ :=
  match s.pktRx, s.mhRecv with
  | some p, some c => max s.nav (c.due + s.navAfter p)
  | _, _ => s.nav

/-- Until when the medium is busy. -/
def freeBy (s : Radio) : ℚ := max s.clock s.navBy

/-- Until when the back-off has run out. -/
def overBy (s : Radio) : ℚ :=
  match s.mhBackoff with
  | .idle => s.clock
  | .paused rtime => s.freeBy + s.phy.difs + rtime
  | .running stime difsWait rtime => stime + (rtime + difsWait)

/-- Nobody sends anything. -/
def Passive : RadioEvent → Prop
  | .wait _ | .navTimer | .ifTimer | .backoffTimer => True
  | .recvTimer link content => link = [] ∧ content = []
  | .frame _ | .action _ | .transmit _ _ => False

/-- The back-off of `s` still waits in `s'`, and no longer than in `s`. -/
structure Waits (s s' : Radio) : Prop where
  txState : s'.txState = .idle
  mhBackoff : s'.mhBackoff ≠ .idle
  rounds : s'.rounds = s.rounds
  drawn : s'.round.drawn = s.round.drawn
  overBy : s'.overBy ≤ s.overBy

/-- The back-off of `s` has run out in `s'`. -/
structure RanOut (s s' : Radio) : Prop where
  mhBackoff : s'.mhBackoff = .idle
  round : ∃ b, s'.rounds = b :: s.rounds ∧ b.drawn = s.round.drawn

variable {s s' s₁ : Radio} {t : MacTimers.BackoffTimer} {r : BackoffRound} {p : AirFrame} {us : ℕ}

theorem Waits.trans (h : s.Waits s₁) (h' : s₁.Waits s') : s.Waits s' :=
  ⟨h'.txState, h'.mhBackoff, h'.rounds.trans h.rounds, h'.drawn.trans h.drawn,
    h'.overBy.trans h.overBy⟩

theorem Waits.ranOut (h : s.Waits s₁) (h' : s₁.RanOut s') : s.RanOut s' := by
  obtain ⟨b, hb, hdrawn⟩ := h'.round
  exact ⟨h'.mhBackoff, b, hb.trans (congrArg _ h.rounds), hdrawn.trans h.drawn⟩

theorem navBy_of_receiving {c : Countdown} (hp : s.pktRx = some p) (hc : s.mhRecv = some c) :
    s.navBy = max s.nav (c.due + s.navAfter p) := by
  simp only [navBy, hp, hc]

theorem nav_le_navBy (s : Radio) : s.nav ≤ s.navBy := by
  unfold navBy
  split
  · exact le_max_left _ _
  · exact le_rfl

/-- Before the back-off has run out, its time has not come. -/
theorem Sound.clock_le_overBy {h : Bool} (hs : s.Sound h) : s.clock ≤ s.overBy := by
  have hcounts := hs.counts
  unfold overBy
  unfold Counts at hcounts
  split
  · exact le_rfl
  · next rtime hb =>
    rw [hb] at hcounts
    have hdifs := s.phy.difs_nonneg
    have hr := hcounts.nonneg
    have hclock : s.clock ≤ s.freeBy := le_max_left _ _
    linarith
  · next st w rtime hb => exact hs.due _ (mem_pending.2 (by simp [hb, MacTimers.BackoffTimer.due]))

/-- Nothing has happened to the back-off. -/
structure SameBackoff (s s' : Radio) : Prop where
  phy : s'.phy = s.phy
  clock : s'.clock = s.clock
  txState : s'.txState = s.txState
  mhBackoff : s'.mhBackoff = s.mhBackoff
  round : s'.round = s.round
  rounds : s'.rounds = s.rounds

/-- The timer goes on counting, or counts again. -/
theorem Waits.turns (htx : s.txState = .idle) (hb : s.mhBackoff ≠ .idle) (h₁ : s.SameBackoff s₁)
    (hfree : s₁.freeBy ≤ s.freeBy) (hrunning : s.mhBackoff.status = .running → s₁.IsIdle)
    (ht : s₁.Turns t r) : s.Waits (s₁.withBackoff t r) := by
  cases ht with
  | same =>
    refine ⟨h₁.txState.trans htx, ?_, h₁.rounds, congrArg _ h₁.round, ?_⟩
    · rw [withBackoff, h₁.mhBackoff]
      exact hb
    · show s₁.overBy ≤ s.overBy
      unfold Radio.overBy
      rw [h₁.mhBackoff, h₁.phy]
      split
      · exact h₁.clock.le
      · linarith
      · exact le_rfl
  | @resumed rtime hpaused hidle =>
    refine ⟨h₁.txState.trans htx, (fun hno => by cases hno), h₁.rounds, congrArg _ h₁.round, ?_⟩
    have hclock : s₁.clock ≤ s.freeBy := (le_max_left _ _).trans hfree
    have hover : s.overBy = s.freeBy + s.phy.difs + rtime := by
      rw [Radio.overBy, ← h₁.mhBackoff, hpaused]
    rw [hover]
    show s₁.clock + (rtime + s₁.phy.difs) ≤ _
    rw [h₁.phy]
    linarith
  | paused rtime hrun hbusy => exact absurd (hrunning (h₁.mhBackoff ▸ hrun)) hbusy

theorem SameBackoff.trans (h : s.SameBackoff s₁) (h' : s₁.SameBackoff s') : s.SameBackoff s' :=
  ⟨h'.phy.trans h.phy, h'.clock.trans h.clock, h'.txState.trans h.txState,
    h'.mhBackoff.trans h.mhBackoff, h'.round.trans h.round, h'.rounds.trans h.rounds⟩

theorem sameBackoff_setNav (s : Radio) (us : ℕ) : s.SameBackoff (s.setNav us) := by
  unfold Radio.setNav
  dsimp only
  split_ifs <;> exact ⟨rfl, rfl, rfl, rfl, rfl, rfl⟩

/-- The navigation vector after it is set at the end of a frame. -/
theorem nav_setNav_le {b : ℚ} (hnav : s.nav ≤ b) (hus : s.clock + us / 10 ^ 6 ≤ b) :
    (s.setNav us).nav ≤ b := by
  unfold Radio.setNav
  dsimp only
  split_ifs
  · exact hus
  · exact hnav

/-- `mhRecv_` expires, and its handlers do nothing. -/
theorem recvTimer_passive (hs : s.Sound false) (he : s.Enabled (.recvTimer [] [])) :
    ∃ s₁ t r, s.step (.recvTimer [] []) = .ok (s₁.rested.withBackoff t r) ∧
      s₁.rested.Turns t r ∧ s.SameBackoff s₁ ∧ s₁.nav ≤ s.freeBy := by
  obtain ⟨hdue, -⟩ := he
  obtain ⟨hs₀, hrx, hpkt⟩ := hs.expireRecv (isSome_of_due hdue)
  obtain ⟨p, hp⟩ := Option.isSome_iff_exists.1 hpkt
  obtain ⟨c, hc, hclock⟩ := Option.map_eq_some_iff.1 hdue
  have hbusy : s.rxState ≠ .idle := by rcases hrx with hrx | hrx <;> simp [hrx]
  -- what the navigation vector may be set to
  have hfree : s.freeBy = max s.clock (max s.nav (s.clock + s.navAfter p)) := by
    rw [freeBy, navBy_of_receiving hp hc, hclock]
  have hnav : s.nav ≤ s.freeBy := by simp [hfree]
  have hset : ∀ us : ℕ, us ≤ max (usec s.phy.eifs) p.duration →
      s.clock + (us : ℚ) / 10 ^ 6 ≤ s.freeBy := by
    intro us hus
    have hafter : s.clock + s.navAfter p ≤ s.freeBy := by simp [hfree]
    have hus' : (us : ℚ) ≤ (max (usec s.phy.eifs) p.duration : ℕ) := by exact_mod_cast hus
    refine le_trans ?_ hafter
    rw [Nat.cast_max] at hus'
    unfold navAfter
    gcongr
  have hsame : ∀ air, s.SameBackoff { s with mhRecv := none, air := air } :=
    fun _ => ⟨rfl, rfl, rfl, rfl, rfl, rfl⟩
  have heq : s.step (.recvTimer [] []) = { s with mhRecv := none }.recvTimer [] [] := rfl
  by_cases htx : s.txActive = true
  · obtain ⟨t, r, hdone, hturn, -⟩ := hs₀.done
    refine ⟨_, t, r, ?_, hturn, ⟨rfl, rfl, rfl, rfl, rfl, rfl⟩, hnav⟩
    simpa [heq, Radio.recvTimer, hp, deref, assertThat, hrx, htx] using hdone
  by_cases hlost : s.rxState = .coll ∨ p.error = true
  · obtain ⟨t, r, hdone, hturn, -⟩ := (hs₀.setNav hbusy (usec s.phy.eifs)).done
    refine ⟨_, t, r, ?_, hturn, (hsame s.air).trans (sameBackoff_setNav _ _),
      nav_setNav_le hnav (hset _ (le_max_left _ _))⟩
    by_cases hcoll : s.rxState = .coll
    · simpa [heq, Radio.recvTimer, hp, deref, assertThat, htx, hcoll] using hdone
    · have hrecv := hrx.resolve_right hcoll
      have herror := hlost.resolve_left hcoll
      simpa [heq, Radio.recvTimer, hp, deref, assertThat, htx, hrecv, herror] using hdone
  · obtain ⟨hcoll, herror⟩ := not_or.1 hlost
    have hrecv := hrx.resolve_right hcoll
    obtain ⟨t, r, hdone, hturn, -⟩ := (hs₀.overhear hbusy p).done
    refine ⟨_, t, r, ?_, hturn, ?_, ?_⟩
    · simpa [heq, Radio.recvTimer, hp, deref, assertThat, htx, hrecv, herror, accept] using hdone
    · unfold Radio.overhear
      dsimp only
      split_ifs
      · exact (hsame _).trans (sameBackoff_setNav _ _)
      · exact hsame _
    · unfold Radio.overhear
      dsimp only
      split_ifs
      · exact nav_setNav_le hnav (hset _ (le_max_right _ _))
      · exact hnav

theorem sameBackoff_rested (s : Radio) : s.SameBackoff s.rested := ⟨rfl, rfl, rfl, rfl, rfl, rfl⟩

/-- While `mhRecv_` is busy, so is the receiver. -/
theorem Sound.busy_of_due (hs : s.Sound false) (hrecv : s.mhRecv.isSome) : s.rxState ≠ .idle := by
  obtain ⟨-, hrx, -⟩ := hs.expireRecv hrecv
  rcases hrx with hrx | hrx <;> simp [hrx]

/-- While a back-off is paused, time passes up to the end of what pauses it. -/
theorem Waits.le_freeBy {t rtime : ℚ} (hs : s.Sound false) (htx : s.txState = .idle)
    (hb : s.mhBackoff = .paused rtime) (ht : ∀ d ∈ s.pending, t ≤ d) : t ≤ s.freeBy := by
  have hnavBy : s.navBy ≤ s.freeBy := le_max_right _ _
  rcases hs.rx with ⟨hrx, -, -⟩ | ⟨-, hpkt, hrecv⟩
  · by_cases hlt : s.clock < s.nav
    · obtain ⟨c, hc⟩ := Option.isSome_iff_exists.1 (hs.nav hlt)
      have hdue := ht c.due (mem_pending.2 (Or.inr (Or.inl (by rw [hc]; rfl))))
      rw [hs.navTimer c hc] at hdue
      exact hdue.trans ((nav_le_navBy s).trans hnavBy)
    · have hidle := hs.paused (by rw [hb]; rfl) ⟨hrx, htx, hlt⟩
      exact (ht s.clock (mem_pending.2 (Or.inr (Or.inl hidle)))).trans (le_max_left _ _)
  · obtain ⟨p, hp⟩ := Option.isSome_iff_exists.1 hpkt
    obtain ⟨c, hc⟩ := Option.isSome_iff_exists.1 hrecv
    have hafter : 0 ≤ s.navAfter p := by unfold navAfter; positivity
    have hdue := ht c.due (mem_pending.2 (Or.inl (by rw [hc]; rfl)))
    rw [navBy_of_receiving hp hc] at hnavBy
    have hle : c.due + s.navAfter p ≤ s.freeBy := (le_max_right _ _).trans hnavBy
    linarith

/-- Time passes. -/
theorem Waits.wait {t : ℚ} (hs : s.Sound false) (htx : s.txState = .idle)
    (hb : s.mhBackoff ≠ .idle) (ht : ∀ d ∈ s.pending, t ≤ d) : s.Waits { s with clock := t } := by
  refine ⟨htx, hb, rfl, rfl, ?_⟩
  have hfree : ∀ rtime, s.mhBackoff = .paused rtime → { s with clock := t }.freeBy ≤ s.freeBy :=
    fun rtime hpaused => max_le (Waits.le_freeBy hs htx hpaused ht) (le_max_right _ _)
  show { s with clock := t }.overBy ≤ s.overBy
  unfold Radio.overBy
  dsimp only
  split
  · next hno => exact absurd hno hb
  · next rtime hpaused =>
    have hle := hfree rtime hpaused
    linarith
  · exact le_rfl

/-- The navigation vector ends. -/
theorem Waits.navTimer (hs : s.Sound false) (htx : s.txState = .idle) (hb : s.mhBackoff ≠ .idle)
    (he : s.Enabled .navTimer) : ∃ s', s.step .navTimer = .ok s' ∧ s.Waits s' := by
  have hsame : s.SameBackoff { s with mhNav := none } := ⟨rfl, rfl, rfl, rfl, rfl, rfl⟩
  have hsteady := hs.toSteady.expire (Or.inl rfl) (Or.inr ⟨rfl, he⟩)
  by_cases hpaused : s.IsIdle ∧ s.mhBackoff.status = .paused
  · obtain ⟨r, hr⟩ := status_eq_paused hpaused.2
    obtain ⟨heq, -⟩ := hsteady.resumeBackoff hr
    refine ⟨_, (if_pos hpaused).trans heq,
      Waits.turns htx hb hsame le_rfl (fun hrun => ?_) (.resumed hr hpaused.1)⟩
    exact hs.running hrun
  · exact ⟨_, if_neg hpaused,
      Waits.turns htx hb hsame le_rfl (fun hrun => hs.running hrun) .same⟩

/-- A passive event: the back-off waits, and not for longer, or has run out. -/
theorem waits_or_ranOut {e : RadioEvent} (hs : s.Sound false) (htx : s.txState = .idle)
    (hb : s.mhBackoff ≠ .idle) (he : s.Enabled e) (hpassive : Passive e) :
    ∃ s', s.step e = .ok s' ∧ (s.Waits s' ∨ s.RanOut s') := by
  cases e with
  | wait t => exact ⟨_, rfl, Or.inl (Waits.wait hs htx hb he.2)⟩
  | recvTimer link content =>
    obtain ⟨rfl, rfl⟩ := hpassive
    obtain ⟨s₁, t, r, hstep, hturn, hsame, hnav⟩ := recvTimer_passive hs he
    have hclock : s₁.clock ≤ s.freeBy := hsame.clock.le.trans (le_max_left _ _)
    refine ⟨_, hstep, Or.inl (Waits.turns htx hb (hsame.trans (sameBackoff_rested s₁))
      (max_le hclock hnav) (fun hrun => ?_) hturn)⟩
    exact absurd (hs.running hrun).1 (hs.busy_of_due (isSome_of_due he.1))
  | navTimer =>
    obtain ⟨s', hstep, hwaits⟩ := Waits.navTimer hs htx hb he
    exact ⟨s', hstep, Or.inl hwaits⟩
  | ifTimer => exact ⟨_, rfl, Or.inl ⟨htx, hb, rfl, rfl, le_rfl⟩⟩
  | backoffTimer =>
    refine ⟨_, rfl, Or.inr ⟨rfl, s.countedUntil, rfl, ?_⟩⟩
    unfold countedUntil
    split <;> rfl
  | _ => exact hpassive.elim

theorem Turns.of_idle (ht : s.Turns t r) (hb : s.mhBackoff = .idle) : t = .idle := by
  cases ht with
  | same => exact hb
  | resumed hpaused hidle =>
    rw [hb] at hpaused
    cases hpaused
  | paused rtime hrun hbusy =>
    rw [hb] at hrun
    cases hrun

/-- A passive event after the back-off has run out. -/
theorem RanOut.step {b : Radio} {e : RadioEvent} (h : b.RanOut s) (hs : s.Sound false)
    (he : s.Enabled e) (hpassive : Passive e) (hstep : s.step e = .ok s') : b.RanOut s' := by
  obtain ⟨hb, hround⟩ := h
  cases e with
  | wait t =>
    cases hstep
    exact ⟨hb, hround⟩
  | recvTimer link content =>
    obtain ⟨rfl, rfl⟩ := hpassive
    obtain ⟨s₁, t, r, hstep', hturn, hsame, -⟩ := recvTimer_passive hs he
    rw [hstep'] at hstep
    cases hstep
    refine ⟨hturn.of_idle (hsame.mhBackoff.trans hb), ?_⟩
    show ∃ b', s₁.rounds = b' :: b.rounds ∧ b'.drawn = b.round.drawn
    rwa [hsame.rounds]
  | navTimer =>
    have hpaused : ¬ (s.IsIdle ∧ s.mhBackoff.status = .paused) := by
      rintro ⟨-, hpaused⟩
      rw [hb] at hpaused
      cases hpaused
    cases (if_neg hpaused).symm.trans hstep
    exact ⟨hb, hround⟩
  | ifTimer =>
    cases hstep
    exact ⟨hb, hround⟩
  | backoffTimer =>
    have hdue : s.mhBackoff.due = some s.clock := he
    rw [hb] at hdue
    cases hdue
  | _ => exact hpassive.elim

/-- A back-off that is under way runs out, at the latest when `overBy` has passed, unless the MAC
sends or hears something more. -/
theorem backoff_over_by (phy : Phy) (index : MacAddr) {es es' : List RadioEvent}
    (henabled : StepsMeet Radio.step Enabled (fresh phy index) es)
    (hrun : runSteps Radio.step (fresh phy index) es = .ok s) (htx : s.txState = .idle)
    (hb : s.mhBackoff ≠ .idle) (hpassive : ∀ e ∈ es', Passive e)
    (henabled' : StepsMeet Radio.step Enabled s es') (hrun' : runSteps Radio.step s es' = .ok s')
    (hlate : s.overBy < s'.clock) :
    ∃ b, s'.rounds = b :: s.rounds ∧ b.drawn = s.round.drawn := by
  have hpassive' : StepsMeet Radio.step (fun _ e => Passive e) s es' :=
    stepsMeet_of_mem (fun e he _ => hpassive e he) s
  have hinv : s'.Sound false ∧ (s.Waits s' ∨ s.RanOut s') := by
    refine runSteps_invariant (I := fun s₁ : Radio => s₁.Sound false ∧ (s.Waits s₁ ∨ s.RanOut s₁))
      (fun s₁ e s₂ ⟨hs, hor⟩ ⟨he, hp⟩ hstep => ?_)
      ⟨sound_run henabled hrun, Or.inl ⟨htx, hb, rfl, rfl, le_rfl⟩⟩ (henabled'.and hpassive') hrun'
    refine ⟨(hs.happens he hstep).2, ?_⟩
    rcases hor with hwaits | hran
    · obtain ⟨s₄, heq', hor'⟩ := waits_or_ranOut hs hwaits.txState hwaits.mhBackoff he hp
      rw [hstep] at heq'
      cases heq'
      exact hor'.imp hwaits.trans hwaits.ranOut
    · exact Or.inr (hran.step hs he hp hstep)
  obtain ⟨hs', hwaits | hran⟩ := hinv
  · have hclock := hs'.clock_le_overBy.trans hwaits.overBy
    exact absurd hlate (not_lt.2 hclock)
  · exact hran.round

/-- A back-off that starts when two frames have collided. -/
theorem backoff_over_by_afterCollision :
    ∃ s s', runSteps Radio.step (fresh .nsDefault 1) (afterCollision.take 6) = .ok s ∧
      runSteps Radio.step s [.wait (1864 / 10 ^ 6), .navTimer, .wait (1954 / 10 ^ 6), .backoffTimer,
        .wait (2 / 1000)] = .ok s' ∧ ∃ b, s'.rounds = b :: s.rounds ∧ b.drawn = s.round.drawn := by
  have hchecks : (runSteps Radio.step (fresh .nsDefault 1) (afterCollision.take 6)).map (fun s =>
      decide (s.txState = .idle ∧ s.mhBackoff ≠ .idle ∧
        StepsMeet Radio.step Enabled s [.wait (1864 / 10 ^ 6), .navTimer, .wait (1954 / 10 ^ 6),
          .backoffTimer, .wait (2 / 1000)] ∧
        (runSteps Radio.step s [.wait (1864 / 10 ^ 6), .navTimer, .wait (1954 / 10 ^ 6),
          .backoffTimer, .wait (2 / 1000)]).map (fun s' => decide (s.overBy < s'.clock)) =
            .ok true)) = .ok true := by
    decide +kernel
  obtain ⟨s, hrun, hs⟩ := map_ok_iff.1 hchecks
  obtain ⟨htx, hb, henabled', hlate⟩ := of_decide_eq_true hs
  obtain ⟨s', hrun', hs'⟩ := map_ok_iff.1 hlate
  have henabled : StepsMeet Radio.step Enabled (fresh .nsDefault 1) (afterCollision.take 6) := by
    decide +kernel
  refine ⟨s, s', hrun, hrun', backoff_over_by .nsDefault 1 henabled hrun htx hb ?_ henabled' hrun'
    (of_decide_eq_true hs')⟩
  rintro e (_ | ⟨_, _ | ⟨_, _ | ⟨_, _ | ⟨_, _ | ⟨_, ⟨⟩⟩⟩⟩⟩⟩) <;> trivial

end SipNemo.Mac.Radio
