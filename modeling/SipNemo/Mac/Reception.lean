import SipNemo.Mac.Listening

/-!
# Which frames are received

The MAC as a receiver that hears one frame at a time: the frames that are captured do not count, a
frame that collides keeps the receiver until the last of them is over, and a frame that comes while
the MAC sends, or that the MAC sends over, is spoilt.  `reception` says of each frame that has come
since the last `clear_tx_rx` and was not captured: it is received if it comes without errors and
nothing else that has come since then is on the air at the same time, neither another frame nor one
of the MAC's own, and not if anything overlaps with it.
-/

namespace SipNemo.Mac.Radio

open Mih (MacAddr)
open MacTimers Reception Runs Spans

/-- What is heard. -/
def current (s : Radio) : Option (Current ℚ) :=
  match s.pktRx, s.mhRecv with
  | some p, some c => some ⟨c.due, decide (s.rxState = .coll), p.error⟩
  | _, _ => none

/-- The MAC as a receiver that hears `c`. -/
def ear (s : Radio) (c : Option (Current ℚ)) : Receiver ℚ AirFrame where
  clock := s.clock
  current := c
  sendingUntil := s.mhIF.map Countdown.due
  onAir := s.air.onAir
  sent := s.air.sent
  received := s.air.received

/-- The invariant of receivers. -/
def Hears (s : Radio) (c : Option (Current ℚ)) : Prop :=
  (s.ear c).Hears AirFrame.txtime AirFrame.error

/-- The frame came with errors, or something else was on the air during it. -/
def Disturbed (s : Radio) (a : Arrival) : Prop :=
  (s.ear none).Disturbed AirFrame.txtime AirFrame.error a

/-- The frame came without errors, and nothing overlaps with it. -/
def ClearOf (s : Radio) (a : Arrival) : Prop :=
  (s.ear none).Clear AirFrame.txtime AirFrame.error a

variable {s s' s'' : Radio} {c : Option (Current ℚ)} {h : Bool}

/-- The frame that is being received is the newest one, unless it is spoilt. -/
def Newest (s : Radio) : Prop :=
  s.rxState = .recv → ∀ p ∈ s.pktRx, p.error = false → ∃ a ∈ s.air.onAir.head?, a.frame = p

/-- Nothing has changed for the receiver. -/
structure SameEar (s s' : Radio) : Prop where
  clock : s'.clock = s.clock
  rxState : s'.rxState = s.rxState
  pktRx : s'.pktRx = s.pktRx
  mhRecv : s'.mhRecv = s.mhRecv
  mhIF : s'.mhIF = s.mhIF
  air : s'.air = s.air

/-- The receiver is cleared. -/
structure Silent (s : Radio) : Prop where
  pktRx : s.pktRx = none
  mhIF : s.mhIF = none
  air : s.air = {}

theorem SameEar.trans (h : s.SameEar s') (h' : s'.SameEar s'') : s.SameEar s'' where
  clock := h'.clock.trans h.clock
  rxState := h'.rxState.trans h.rxState
  pktRx := h'.pktRx.trans h.pktRx
  mhRecv := h'.mhRecv.trans h.mhRecv
  mhIF := h'.mhIF.trans h.mhIF
  air := h'.air.trans h.air

theorem Silent.of_sameEar (hs : s.Silent) (h : s.SameEar s') : s'.Silent :=
  ⟨h.pktRx.trans hs.pktRx, h.mhIF.trans hs.mhIF, h.air.trans hs.air⟩

theorem SameEar.ear (h : s.SameEar s') : s'.ear c = s.ear c := by
  simp [Radio.ear, h.clock, h.mhIF, h.air]

theorem SameEar.current (h : s.SameEar s') : s'.current = s.current := by
  simp [Radio.current, h.pktRx, h.mhRecv, h.rxState]

theorem SameEar.hears (h : s.SameEar s') (hears : s.Hears c) : s'.Hears c := by
  rw [Hears, h.ear]
  exact hears

theorem Silent.hears (h : s.Silent) : s.Hears none := by
  apply Receiver.hears_of_nil <;> simp [Radio.ear, h.mhIF, h.air]

theorem Silent.current (h : s.Silent) : s.current = none := by
  simp [Radio.current, h.pktRx]

theorem Newest.of_eq (hs : s.Newest) (hrx : s'.rxState = s.rxState) (hpkt : s'.pktRx = s.pktRx)
    (honAir : s'.air.onAir = s.air.onAir) : s'.Newest := by
  unfold Newest
  rwa [hrx, hpkt, honAir]

theorem newest_of_none (hpkt : s.pktRx = none) : s.Newest := by
  intro _ p hp
  rw [hpkt] at hp
  cases hp

/-- When the last bit of a frame comes, the first one has come as long ago as the frame takes. -/
theorem arrival_eq {a : Arrival} {t : ℚ} (hstop : (a.span AirFrame.txtime).stop = t) :
    (⟨t - a.frame.txtime, a.frame⟩ : Arrival) = a := by
  have hcame : t - a.frame.txtime = a.came := by
    rw [← hstop]
    exact add_sub_cancel_right _ _
  rw [hcame]

theorem sameEar_setNav (s : Radio) (us : ℕ) : s.SameEar (s.setNav us) := by
  unfold Radio.setNav
  dsimp only
  split_ifs <;> exact ⟨rfl, rfl, rfl, rfl, rfl, rfl⟩

/-! ### What the events keep -/

/-- What the transmitting side does leaves the receiver alone, or clears it. -/
theorem Acts.ear (h : s.Acts s') : s.SameEar s' ∨ s'.Silent := by
  cases h with
  | cleared => exact Or.inr ⟨rfl, rfl, rfl⟩
  | _ => exact Or.inl ⟨rfl, rfl, rfl, rfl, rfl, rfl⟩

theorem Handles.ear (h : s.Handles s') : s.SameEar s' ∨ s'.Silent := by
  induction h with
  | refl => exact Or.inl ⟨rfl, rfl, rfl, rfl, rfl, rfl⟩
  | tail _ hacts ih =>
    rcases hacts.ear with hsame | hsilent
    · exact ih.imp (fun h => h.trans hsame) fun h => h.of_sameEar hsame
    · exact Or.inr hsilent

theorem Silent.not_hearing (h : s.Silent) : ¬ s.pktRx.isSome := by
  simp [h.pktRx]

/-- While there is a frame, a handler has not touched the receiver. -/
theorem Handles.sameEar (h : s.Handles s') (hpkt : s'.pktRx.isSome) : s.SameEar s' :=
  h.ear.resolve_right fun hsilent => hsilent.not_hearing hpkt

theorem current_eq_some {c : Current ℚ} (hc : s.current = some c) :
    ∃ p t, s.pktRx = some p ∧ s.mhRecv = some t ∧
      c = ⟨t.due, decide (s.rxState = .coll), p.error⟩ := by
  unfold Radio.current at hc
  split at hc
  · next p t hp ht => exact ⟨p, t, hp, ht, (Option.some.inj hc).symm⟩
  · cases hc

/-- What is heard when its reception ends. -/
theorem current_of_due (hs : s.Sound false) (hdue : s.mhRecv.map Countdown.due = some s.clock) :
    ∃ p, s.pktRx = some p ∧ s.current = some ⟨s.clock, decide (s.rxState = .coll), p.error⟩ := by
  obtain ⟨t, ht, hnow⟩ := Option.map_eq_some_iff.1 hdue
  obtain ⟨-, -, hpkt⟩ := hs.expireRecv (isSome_of_due hdue)
  obtain ⟨p, hp⟩ := Option.isSome_iff_exists.1 hpkt
  exact ⟨p, hp, by simp [Radio.current, hp, ht, hnow]⟩

theorem current_of_idle (hs : s.Sound false) (hrx : s.rxState = .idle) : s.current = none := by
  rcases hs.rx with ⟨-, hpkt, -⟩ | ⟨hrx', -, -⟩
  · simp [Radio.current, hpkt]
  · rcases hrx' with hrx' | hrx' <;> rw [hrx] at hrx' <;> cases hrx'

section Events

variable (hs : s.Sound false) (hears : s.Hears s.current)
include hears

theorem hears_wait {t : ℚ} (hle : s.clock ≤ t) (hdue : ∀ d ∈ s.pending, t ≤ d) :
    { s with clock := t }.Hears { s with clock := t }.current := by
  refine Receiver.Hears.wait hears hle (fun c hc => ?_) fun u hu => ?_
  · obtain ⟨p, r, -, hr, rfl⟩ := current_eq_some hc
    exact hdue r.due (mem_pending.2 (Or.inl (by rw [hr]; rfl)))
  · exact hdue u (mem_pending.2 (Or.inr (Or.inr (Or.inl hu))))

/-- The MAC sends. -/
theorem hears_sent {x : MacState} {d : ℚ} (hd : 0 ≤ d) (hif : s.mhIF = none)
    (t : MacTimers.BackoffTimer) (r : BackoffRound) (s' : Radio)
    (hs' : s' = (s.withBackoff t r).sends x d) : s'.Hears s'.current := by
  have hsend := Receiver.Hears.send hears hd (by simp [Radio.ear, hif])
  have hcurrent : s'.current = s.current.map fun c => { c with spoilt := true } := by
    rw [hs']
    cases hp : s.pktRx <;> cases ht : s.mhRecv <;>
      simp [Radio.current, Radio.sends, Radio.withBackoff, hp, ht]
  rw [hcurrent, hs']
  exact hsend

include hs

/-- A frame comes while nothing is heard. -/
theorem hears_began (hrx : s.rxState = .idle) (t : MacTimers.BackoffTimer) (r : BackoffRound)
    (p : AirFrame) (s' : Radio) (hs' : s' = (s.withBackoff t r).hears .recv
      (some { p with error := p.error || s.txActive }) ⟨s.clock, p.txtime⟩ p) :
    s'.Hears s'.current := by
  have hnone := current_of_idle hs hrx
  rw [hnone] at hears
  have hcurrent : s'.current = some ⟨s.clock + p.txtime, false, p.error || s.txActive⟩ := by
    rw [hs']
    rfl
  have hbegin := Receiver.Hears.begin_ hears AirFrame.txtime_nonneg rfl p
  have htx : (s.ear none).sendingUntil.isSome = s.txActive := by
    rw [hs.tx]
    exact Option.isSome_map
  rw [Receiver.begin_, htx] at hbegin
  rw [hcurrent, hs']
  exact hbegin

/-- A frame collides with what is heard. -/
theorem hears_collided {c c' : Countdown} (q p : AirFrame) (t : MacTimers.BackoffTimer)
    (r : BackoffRound) (hrx : s.rxState ≠ .idle) (hc : s.mhRecv = some c)
    (hc' : c'.due = max c.due (s.clock + p.txtime)) (s' : Radio)
    (hs' : s' = (s.withBackoff t r).hears .coll (some q) c' p) : s'.Hears s'.current := by
  obtain ⟨q₀, hq₀⟩ : ∃ q₀, s.pktRx = some q₀ := by
    rcases hs.rx with ⟨hidle, -, -⟩ | ⟨-, hpkt, -⟩
    · exact absurd hidle hrx
    · exact Option.isSome_iff_exists.1 hpkt
  have hcurrent : s.current = some ⟨c.due, decide (s.rxState = .coll), q₀.error⟩ := by
    simp [Radio.current, hq₀, hc]
  rw [hcurrent] at hears
  have hcollide := Receiver.Hears.collide hears AirFrame.txtime_nonneg rfl q.error p
  have hcurrent' : s'.current = some ⟨max c.due (s.clock + p.txtime), true, q.error⟩ := by
    rw [hs', ← hc']
    rfl
  rw [hcurrent', hs']
  exact hcollide

/-- What is heard is over and lost. -/
theorem hears_lost {s₁ : Radio} (hdue : s.mhRecv.map Countdown.due = some s.clock)
    (hlost : s.rxState = .coll ∨ (∀ p ∈ s.pktRx, p.error = true) ∨ s.txActive = true)
    (hs₁ : { s with mhRecv := none }.SameEar s₁) (t : MacTimers.BackoffTimer) (r : BackoffRound) :
    (s₁.rested.withBackoff t r).Hears (s₁.rested.withBackoff t r).current := by
  obtain ⟨p, hp, hcurrent⟩ := current_of_due hs hdue
  rw [hcurrent] at hears
  have hdrop := Receiver.Hears.drop hears rfl rfl (hlost.imp (fun h => by simpa using h)
    (Or.imp (fun h => h p hp) fun h => by simpa [Radio.ear, ← hs.tx] using h))
  have hear : (s₁.rested.withBackoff t r).ear none = (s.ear none) := hs₁.ear
  rw [Hears, show (s₁.rested.withBackoff t r).current = none from rfl, hear]
  exact hdrop

/-- What is heard is over and received. -/
theorem hears_accepted {p : AirFrame} {s₁ s₂ : Radio} (hnewest : s.Newest)
    (hdue : s.mhRecv.map Countdown.due = some s.clock) (hrx : s.rxState = .recv)
    (hp : s.pktRx = some p) (herror : p.error = false)
    (hlink : Handles { s with mhRecv := none } s₁) (hs₁ : s₁.pktRx.isSome)
    (hcontent : Handles (s₁.overhear p) s₂) (t : MacTimers.BackoffTimer) (r : BackoffRound) :
    (s₂.rested.withBackoff t r).Hears (s₂.rested.withBackoff t r).current := by
  obtain ⟨q, hq, hcurrent⟩ := current_of_due hs hdue
  rw [hp] at hq
  cases hq
  rw [hcurrent, hrx, herror] at hears
  have haccept := Receiver.Hears.accept hears rfl rfl rfl rfl
  -- the frame that is passed on is the one that was heard
  obtain ⟨a, rest, halone⟩ := hears.alone _ rfl rfl
  have honAir : s.air.onAir = a :: rest := halone.onAir
  obtain ⟨b, hb, rfl⟩ := hnewest hrx p hp herror
  rw [honAir] at hb
  obtain rfl : a = b := Option.some.inj hb
  have harrival : (⟨s.clock - a.frame.txtime, a.frame⟩ : Arrival) = a := arrival_eq halone.ends
  have hsame₁ := hlink.sameEar hs₁
  have hoverheard : (s₁.overhear a.frame).Hears none := by
    have hear : (s₁.overhear a.frame).ear none = (s.ear none).accept := by
      have hair : ∀ air : AirRecord, { s₁ with air := air }.SameEar
          (if a.frame.ra ≠ s₁.index then { s₁ with air := air }.setNav a.frame.duration
            else { s₁ with air := air }) := by
        intro air
        split_ifs
        · exact sameEar_setNav _ _
        · exact ⟨rfl, rfl, rfl, rfl, rfl, rfl⟩
      refine (hair _).ear.trans ?_
      simp [Radio.ear, Receiver.accept, hsame₁.clock, hsame₁.mhIF, hsame₁.air, harrival, honAir]
    rw [Hears, hear]
    exact haccept
  rw [show (s₂.rested.withBackoff t r).current = none from rfl]
  rcases hcontent.ear with hsame | hsilent
  · exact hsame.hears hoverheard
  · exact hsilent.hears

end Events

/-- One event: another frame that comes collides or is captured, and a frame that the MAC sends over
is spoilt. -/
theorem Happens.newest (h : s.Happens s') (hnewest : s.Newest) : s'.Newest := by
  cases h with
  | waited hle hdue => exact hnewest.of_eq rfl rfl rfl
  | @began p t r hrx ht =>
    intro _ q hq herror
    obtain rfl := Option.some.inj hq
    have hclean : p.error = (p.error || s.txActive) :=
      (Bool.or_eq_false_iff.1 herror).1.trans herror.symm
    exact ⟨_, rfl, congrArg (fun e => { p with error := e }) hclean⟩
  | @captured p hrx =>
    have hsame : s.SameEar (s.capture p) := sameEar_setNav s _
    have honAir : (s.capture p).air.onAir = s.air.onAir := by rw [hsame.air]
    exact hnewest.of_eq hsame.rxState hsame.pktRx honAir
  | collided hrx ht hc hc' =>
    intro hrecv
    cases hrecv
  | acted ha =>
    rcases ha.ear with hsame | hsilent
    · exact hnewest.of_eq hsame.rxState hsame.pktRx (congrArg AirRecord.onAir hsame.air)
    · exact newest_of_none hsilent.pktRx
  | sent hx hd hif ht =>
    intro _ q hq herror
    obtain ⟨p, -, rfl⟩ := Option.map_eq_some_iff.1 hq
    cases herror
  | lost hdue hlost hs₁ ht => exact newest_of_none rfl
  | dropped hdue hlink hrx => exact newest_of_none hrx
  | accepted hdue hrx hp herror htx hlink hs₁ hcontent ht => exact newest_of_none rfl
  | navEnded hdue ht => exact hnewest.of_eq rfl rfl rfl
  | ifEnded hdue => exact hnewest.of_eq rfl rfl rfl
  | backoffEnded hdue => exact hnewest.of_eq rfl rfl rfl

/-- One event keeps the invariant of receivers. -/
theorem Happens.hears (h : s.Happens s') (hs : s.Sound false) (hears : s.Hears s.current)
    (hnewest : s.Newest) : s'.Hears s'.current := by
  cases h with
  | waited hle hdue => exact hears_wait hears hle hdue
  | began hrx ht => exact hears_began hs hears hrx _ _ _ _ rfl
  | @captured p hrx =>
    have hsame : s.SameEar (s.capture p) := sameEar_setNav s _
    have hears' : (s.capture p).Hears (s.capture p).current := hsame.current ▸ hsame.hears hears
    exact hears'
  | collided hrx ht hc hc' => exact hears_collided hs hears _ _ _ _ hrx hc hc' _ rfl
  | acted ha =>
    rcases ha.ear with hsame | hsilent
    · exact hsame.current ▸ hsame.hears hears
    · exact hsilent.current ▸ hsilent.hears
  | sent hx hd hif ht => exact hears_sent hears hd hif _ _ _ rfl
  | lost hdue hlost hs₁ ht =>
    refine hears_lost hs hears hdue hlost ?_ _ _
    rcases hs₁ with rfl | ⟨us, rfl⟩
    · exact ⟨rfl, rfl, rfl, rfl, rfl, rfl⟩
    · exact sameEar_setNav _ us
  | dropped hdue hlink hrx =>
    obtain ⟨p, hp, -⟩ := current_of_due hs hdue
    have hsilent : s'.Silent := hlink.ear.resolve_left fun hsame => by
      rw [hsame.pktRx] at hrx
      rw [hrx] at hp
      cases hp
    exact hsilent.current ▸ hsilent.hears
  | accepted hdue hrx hp herror htx hlink hs₁ hcontent ht =>
    exact hears_accepted hs hears hnewest hdue hrx hp herror hlink hs₁ hcontent _ _
  | navEnded hdue ht => exact hears
  | ifEnded hdue => exact Receiver.Hears.sendEnds hears hdue
  | backoffEnded hdue => exact hears

/-- What was received, and what was not: every frame that has come since the last `clear_tx_rx` is in
`onAir`, captured ones apart, and every frame that was passed on since then is in `received`. -/
theorem reception (phy : Phy) (index : MacAddr) {es : List RadioEvent}
    (henabled : StepsMeet Radio.step Enabled (fresh phy index) es)
    (hrun : runSteps Radio.step (fresh phy index) es = .ok s) :
    s.air.received.Sublist s.air.onAir ∧ ∀ a ∈ s.air.onAir,
      (a ∈ s.air.received → s.ClearOf a) ∧
        (a.came + a.frame.txtime < s.clock → ¬ s.Disturbed a → a ∈ s.air.received) := by
  have hinv : s.Sound false ∧ s.Hears s.current ∧ s.Newest := by
    have hsilent : (fresh phy index).Silent := ⟨rfl, rfl, rfl⟩
    refine runSteps_invariant (I := fun s : Radio => s.Sound false ∧ s.Hears s.current ∧ s.Newest)
      (fun s₁ e s₂ ⟨hs, hears, hnewest⟩ he hstep => ?_)
      ⟨sound_fresh phy index, hsilent.hears, newest_of_none rfl⟩ henabled hrun
    obtain ⟨hhappens, hs'⟩ := hs.happens he hstep
    exact ⟨hs', hhappens.hears hs hears hnewest, hhappens.newest hnewest⟩
  have hears := hinv.2.1
  exact ⟨hears.received, fun a ha => ⟨fun hr => hears.clear_of_received hr,
    fun hover hclear => hears.received_of_clear ha hover hclear⟩⟩

/-- Of the three frames, the one that did not collide is received. -/
theorem reception_afterCollision :
    ∃ s, runSteps Radio.step (fresh .nsDefault 1) afterCollision = .ok s ∧
      (s.air.received.length, s.air.onAir.length) = (1, 3) ∧
        s.air.received.Sublist s.air.onAir ∧ ∀ a ∈ s.air.onAir,
          (a ∈ s.air.received → s.ClearOf a) ∧
            (a.came + a.frame.txtime < s.clock → ¬ s.Disturbed a → a ∈ s.air.received) := by
  have hlengths : (runSteps Radio.step (fresh .nsDefault 1) afterCollision).map
      (fun s => (s.air.received.length, s.air.onAir.length)) = .ok (1, 3) := by
    decide +kernel
  obtain ⟨s, hrun, hs⟩ := map_ok_iff.1 hlengths
  exact ⟨s, hrun, hs, reception .nsDefault 1 afterCollision_enabled hrun⟩

end SipNemo.Mac.Radio
