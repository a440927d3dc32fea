import SipNemo.Mac.Reception

/-!
# Carrier sense

`is_idle` says so only when every frame that has come since the last `clear_tx_rx` is over; what was
on the air before that is forgotten.  For a frame that is received or collides that is what
`rx_state_` stands for; for one that is captured `capture` moves the navigation vector beyond its
end, unless the time does not fit the 16 bits of `usec`.  `carrier_sense`: the back-off timer counts
only while none of these frames is on the air.
-/

namespace SipNemo.Mac

open Mih (MacAddr)
open MacTimers Reception Runs Spans

/-- `usec` of the time for which a captured frame keeps the medium busy fits 16 bits. -/
def Phy.Fits (phy : Phy) (p : AirFrame) : Prop := (phy.eifs + p.txtime) * 10 ^ 6 + 1 / 2 < 2 ^ 16

instance (phy : Phy) : DecidablePred phy.Fits := fun _ => inferInstanceAs (Decidable (_ < _))

theorem Phy.micro_le_eifs (phy : Phy) : 1 / 10 ^ 6 ≤ phy.eifs := by
  have hsifs := phy.micro_le_sifs
  have hdifs := phy.difs_nonneg
  have hack : 0 ≤ 8 * (phy.ackLen : ℚ) / phy.plcpDataRate :=
    div_nonneg (by positivity) phy.plcpDataRate_pos.le
  unfold Phy.eifs
  linarith

/-- `usec` rounds. -/
theorem le_usec {t : ℚ} (hnonneg : 0 ≤ t) (hfits : t * 10 ^ 6 + 1 / 2 < 2 ^ 16) :
    t * 10 ^ 6 - 1 / 2 ≤ usec t := by
  have hfloor : 0 ≤ ⌊t * 10 ^ 6 + 1 / 2⌋ := Int.floor_nonneg.2 (by positivity)
  have hlt : ⌊t * 10 ^ 6 + 1 / 2⌋ < 2 ^ 16 := Int.floor_lt.2 (by exact_mod_cast hfits)
  have heq : ((usec t : ℤ) : ℚ) = ⌊t * 10 ^ 6 + 1 / 2⌋ := by
    rw [usec, Int.emod_eq_of_lt hfloor hlt, Int.toNat_of_nonneg hfloor]
  have hround := Int.lt_floor_add_one (t * 10 ^ 6 + 1 / 2)
  have hcast : ((usec t : ℕ) : ℚ) = ⌊t * 10 ^ 6 + 1 / 2⌋ := by exact_mod_cast heq
  rw [hcast]
  linarith

namespace Radio

/-- The frames that have come since the last `clear_tx_rx`, long captured ones apart. -/
def heard (s : Radio) : List Arrival :=
  s.air.onAir ++ s.air.captured.filter fun a => s.phy.Fits a.frame

/-- When the frame is over. -/
def stopOf (a : Arrival) : ℚ := (a.span AirFrame.txtime).stop

/-- The navigation vector covers the frames that were captured. -/
def Covered (s : Radio) : Prop := ∀ a ∈ s.air.captured, s.phy.Fits a.frame → stopOf a ≤ s.nav

/-- Once nothing is received and the navigation vector has passed, every frame is over. -/
def Ended (s : Radio) : Prop :=
  s.rxState = .idle → ¬ s.clock < s.nav → ∀ a ∈ s.heard, stopOf a ≤ s.clock

variable {s s' s'' : Radio} {h : Bool} {a : Arrival}

theorem le_nav_setNav (s : Radio) (us : ℕ) :
    s.nav ≤ (s.setNav us).nav ∧ s.clock + us / 10 ^ 6 ≤ (s.setNav us).nav := by
  unfold Radio.setNav
  dsimp only
  split_ifs with hlt
  · exact ⟨hlt.le, le_rfl⟩
  · exact ⟨le_rfl, not_lt.1 hlt⟩

/-- No frame is captured, and the navigation vector does not go back. -/
structure NavKept (s s' : Radio) : Prop where
  phy : s'.phy = s.phy
  captured : ∀ a ∈ s'.air.captured, a ∈ s.air.captured ∧ s.nav ≤ s'.nav

theorem NavKept.trans (h : s.NavKept s') (h' : s'.NavKept s'') : s.NavKept s'' where
  phy := h'.phy.trans h.phy
  captured a ha :=
    have ha' := h'.captured a ha
    ⟨(h.captured a ha'.1).1, (h.captured a ha'.1).2.trans ha'.2⟩

theorem NavKept.covered (h : s.NavKept s') (hs : s.Covered) : s'.Covered := by
  intro a ha hfits
  obtain ⟨hmem, hle⟩ := h.captured a ha
  exact (hs a hmem (h.phy ▸ hfits)).trans hle

theorem navKept_of_eq (hphy : s'.phy = s.phy) (hair : s'.air.captured = s.air.captured)
    (hnav : s'.nav = s.nav) : s.NavKept s' :=
  ⟨hphy, fun _ ha => ⟨hair ▸ ha, hnav ▸ le_rfl⟩⟩

theorem NavKept.setNav (h : s.NavKept s') (us : ℕ) : s.NavKept (s'.setNav us) := by
  refine h.trans ⟨?_, fun a ha => ⟨?_, (le_nav_setNav s' us).1⟩⟩
  · unfold Radio.setNav
    dsimp only
    split_ifs <;> rfl
  · rwa [(sameEar_setNav s' us).air] at ha

theorem Acts.navKept (h : s.Acts s') : s.NavKept s' := by
  cases h with
  | cleared => exact ⟨rfl, fun _ ha => by cases ha⟩
  | _ => exact navKept_of_eq rfl rfl rfl

theorem Handles.navKept (h : s.Handles s') : s.NavKept s' := by
  induction h with
  | refl => exact navKept_of_eq rfl rfl rfl
  | tail _ hacts ih => exact ih.trans hacts.navKept

theorem navKept_overhear (s : Radio) (p : AirFrame) : s.NavKept (s.overhear p) := by
  unfold Radio.overhear
  dsimp only
  split_ifs
  · refine NavKept.setNav ?_ _
    exact navKept_of_eq rfl rfl rfl
  · exact navKept_of_eq rfl rfl rfl

/-- A captured frame keeps the medium busy. -/
theorem Covered.capture (hs : s.Covered) (p : AirFrame) :
    ((s.capture p).passOver p).Covered := by
  have hkept : s.NavKept (s.capture p) := NavKept.setNav (navKept_of_eq rfl rfl rfl) _
  have hle := (le_nav_setNav s (usec (s.phy.eifs + p.txtime))).2
  intro a ha hfits
  rcases List.mem_cons.1 ha with rfl | ha
  · have hmicro := s.phy.micro_le_eifs
    have hfits' : s.phy.Fits p := hkept.phy ▸ hfits
    have husec := le_usec (by linarith [p.txtime_nonneg]) hfits'
    refine le_trans ?_ hle
    show (s.capture p).clock + p.txtime ≤ s.clock + usec (s.phy.eifs + p.txtime) / 10 ^ 6
    rw [Radio.capture, (sameEar_setNav s _).clock]
    have hdiv : p.txtime ≤ usec (s.phy.eifs + p.txtime) / 10 ^ 6 := by
      rw [le_div_iff₀ (by norm_num)]
      linarith
    linarith
  · exact hkept.covered hs a ha hfits

/-- One event keeps the captured frames covered. -/
theorem Happens.covered (h : s.Happens s') (hs : s.Covered) : s'.Covered := by
  cases h with
  | captured hrx => exact hs.capture _
  | acted ha => exact ha.navKept.covered hs
  | lost hdue hlost hs₁ ht =>
    refine NavKept.covered (s := s) ?_ hs
    rcases hs₁ with rfl | ⟨us, rfl⟩
    · exact navKept_of_eq rfl rfl rfl
    · have hrecv : s.NavKept { s with mhRecv := none } := navKept_of_eq rfl rfl rfl
      exact (hrecv.setNav us).trans (navKept_of_eq rfl rfl rfl)
  | dropped hdue hlink hrx => exact hlink.navKept.covered hs
  | accepted hdue hrx hp herror htx hlink hs₁ hcontent ht =>
    have hover := (hlink.navKept.trans (navKept_overhear _ _)).trans hcontent.navKept
    exact (hover.trans (navKept_of_eq rfl rfl rfl)).covered hs
  | _ => exact NavKept.covered (navKept_of_eq rfl rfl rfl) hs

theorem mem_heard : a ∈ s.heard ↔
    a ∈ s.air.onAir ∨ a ∈ s.air.captured ∧ s.phy.Fits a.frame := by
  simp [heard]

/-- What the state of the medium says of the frames that have come. -/
theorem ended (hs : s.Sound false) (hears : s.Hears s.current) (hcovered : s.Covered) :
    s.Ended := by
  intro hrx hnav a ha
  rcases mem_heard.1 ha with ha | ⟨ha, hfits⟩
  · rw [current_of_idle hs hrx] at hears
    exact hears.idle rfl a ha
  · exact (hcovered a ha hfits).trans (not_lt.1 hnav)

/-! ### What the back-off timer counts -/

/-- A time in which the back-off timer counted is over, and nothing was on the air. -/
def WasQuiet (s : Radio) (k : Counting) : Prop :=
  k.span.stop ≤ s.clock ∧ ∀ a ∈ s.heard, ¬ (a.span AirFrame.txtime).Overlaps k.span

/-- Nothing is on the air while the timer counts, and nothing was while it did. -/
structure Quiet (s : Radio) : Prop where
  running : ∀ st w r, s.mhBackoff = .running st w r → ∀ a ∈ s.heard, stopOf a ≤ st
  round : ∀ k ∈ s.round.counted, s.WasQuiet k
  rounds : ∀ b ∈ s.rounds, ∀ k ∈ b.counted, s.WasQuiet k

/-- No frame comes while the timer counts. -/
structure Hushed (s s' : Radio) : Prop where
  clock : s.clock ≤ s'.clock
  heard : ∀ a ∈ s'.heard, a ∈ s.heard ∨ s.clock ≤ a.came ∧ s.mhBackoff.status ≠ .running

theorem Hushed.wasQuiet {k : Counting} (h : s.Hushed s') (hk : s.WasQuiet k) : s'.WasQuiet k := by
  refine ⟨hk.1.trans h.clock, fun a ha => ?_⟩
  rcases h.heard a ha with ha | ⟨hcame, -⟩
  · exact hk.2 a ha
  · exact Span.not_overlaps_comm.1 (Span.not_overlaps_of_le (hk.1.trans hcame))

theorem Quiet.of_hushed (hs : s.Quiet) (h : s.Hushed s') (hb : s'.mhBackoff = s.mhBackoff)
    (hround : s'.round = s.round) (hrounds : s'.rounds = s.rounds) : s'.Quiet := by
  refine ⟨fun st w r hrun a ha => ?_, fun k hk => ?_, fun b hb' k hk => ?_⟩
  · rw [hb] at hrun
    rcases h.heard a ha with ha | ⟨-, hno⟩
    · exact hs.running st w r hrun a ha
    · rw [hrun] at hno
      exact absurd rfl hno
  · exact h.wasQuiet (hs.round k (hround ▸ hk))
  · exact h.wasQuiet (hs.rounds b (hrounds ▸ hb') k hk)

theorem hushed_of_eq (hclock : s'.clock = s.clock) (hair : s'.air = s.air)
    (hphy : s'.phy = s.phy) : s.Hushed s' :=
  ⟨hclock.ge, fun a ha => Or.inl (by rwa [Radio.heard, hair, hphy] at ha)⟩

/-- The time the timer has counted until now. -/
theorem Quiet.countedUntil (hs : s.Quiet) : ∀ k ∈ s.countedUntil.counted, s.WasQuiet k := by
  unfold Radio.countedUntil
  split
  · next st w r hb =>
    intro k hk
    rcases List.mem_cons.1 hk with rfl | hk
    · exact ⟨le_rfl, fun a ha => Span.not_overlaps_of_le (hs.running st w r hb a ha)⟩
    · exact hs.round k hk
  · exact hs.round

/-- The timer is paused or resumed. -/
theorem Quiet.turns {t : MacTimers.BackoffTimer} {r : BackoffRound} (hs : s.Quiet)
    (hended : s.Ended) (ht : s.Turns t r) : (s.withBackoff t r).Quiet := by
  cases ht with
  | same => exact hs
  | resumed hb hidle =>
    refine ⟨fun st w r' hrun a ha => ?_, hs.round, hs.rounds⟩
    cases hrun
    exact hended hidle.1 hidle.2.2 a ha
  | paused rtime =>
    exact ⟨(fun st w r' hrun => by cases hrun), hs.countedUntil, hs.rounds⟩

/-- What the transmitting side does. -/
theorem Quiet.acts (hs : s.Quiet) (hended : s.Ended) (h : s.Acts s') : s'.Quiet ∧ s'.Ended := by
  cases h with
  | @turned x t r ht =>
    have hs₁ : { s with txState := x }.Quiet := hs.of_hushed (hushed_of_eq rfl rfl rfl) rfl rfl rfl
    exact ⟨hs₁.turns hended ht, hended⟩
  | started rtime hslots hidle =>
    refine ⟨⟨fun st w r hrun a ha => ?_, (fun k hk => by cases hk), hs.rounds⟩, hended⟩
    cases hrun
    exact hended hidle.1 hidle.2.2 a ha
  | waiting rtime hslots =>
    exact ⟨⟨(fun st w r hrun => by cases hrun), (fun k hk => by cases hk), hs.rounds⟩, hended⟩
  | stopped => exact ⟨⟨(fun st w r hrun => by cases hrun), hs.round, hs.rounds⟩, hended⟩
  | window hn => exact ⟨hs.of_hushed (hushed_of_eq rfl rfl rfl) rfl rfl rfl, hended⟩
  | cleared =>
    have hhushed : s.Hushed s.clearTxRx.listenAnew :=
      ⟨le_rfl, fun a ha => by simp [Radio.heard, listenAnew] at ha⟩
    refine ⟨⟨(fun st w r hrun => by cases hrun), fun k hk => hhushed.wasQuiet (hs.round k hk),
      fun b hb k hk => hhushed.wasQuiet (hs.rounds b hb k hk)⟩, fun _ _ a ha => ?_⟩
    simp [Radio.heard, listenAnew] at ha

theorem Quiet.handles (hs : s.Quiet) (hended : s.Ended) (h : s.Handles s') :
    s'.Quiet ∧ s'.Ended := by
  induction h with
  | refl => exact ⟨hs, hended⟩
  | tail _ hacts ih => exact ih.1.acts ih.2 hacts

/-- A frame that is heard from now on. -/
theorem hushed_hears {x : MacState} (q : Option AirFrame) (c : Countdown) (p : AirFrame)
    (hrun : s.mhBackoff.status ≠ .running) : s.Hushed (s.hears x q c p) := by
  refine ⟨le_rfl, fun a ha => ?_⟩
  rcases List.mem_append.1 ha with ha | ha
  · rcases List.mem_cons.1 ha with rfl | ha
    · exact Or.inr ⟨le_rfl, hrun⟩
    · exact Or.inl (List.mem_append_left _ ha)
  · exact Or.inl (List.mem_append_right _ ha)

theorem hushed_setNav (us : ℕ) (h : s.Hushed s') : s.Hushed (s'.setNav us) := by
  have hsame := sameEar_setNav s' us
  refine ⟨hsame.clock ▸ h.clock, fun a ha => h.heard a ?_⟩
  rwa [Radio.heard, hsame.air, (NavKept.setNav (navKept_of_eq rfl rfl rfl) us : s'.NavKept _).phy]
    at ha

theorem round_setNav (s : Radio) (us : ℕ) :
    (s.setNav us).round = s.round ∧ (s.setNav us).rounds = s.rounds := by
  unfold Radio.setNav
  dsimp only
  split_ifs <;> exact ⟨rfl, rfl⟩

theorem Quiet.setNav (hs : s.Quiet) (us : ℕ) : (s.setNav us).Quiet :=
  hs.of_hushed (hushed_setNav us (hushed_of_eq rfl rfl rfl)) (mhBackoff_setNav s us)
    (round_setNav s us).1 (round_setNav s us).2

/-- A frame that is captured from now on. -/
theorem Quiet.capture (hs : s.Quiet) (hrun : s.mhBackoff.status ≠ .running) (p : AirFrame) :
    ((s.capture p).passOver p).Quiet := by
  have hsame : s.SameEar (s.capture p) := sameEar_setNav s _
  have hhushed : (s.capture p).Hushed ((s.capture p).passOver p) := by
    refine ⟨le_rfl, fun a ha => ?_⟩
    rcases mem_heard.1 ha with ha | ⟨ha, hfits⟩
    · exact Or.inl (mem_heard.2 (Or.inl ha))
    · rcases List.mem_cons.1 ha with rfl | ha
      · refine Or.inr ⟨le_rfl, ?_⟩
        rw [Radio.capture, mhBackoff_setNav]
        exact hrun
      · exact Or.inl (mem_heard.2 (Or.inr ⟨ha, hfits⟩))
  have hs' : (s.capture p).Quiet := hs.setNav _
  exact hs'.of_hushed hhushed rfl rfl rfl

/-- The timer does not run while a frame is heard. -/
theorem Poised.not_running (hs : s.Poised) (hrx : s.rxState ≠ .idle) :
    s.mhBackoff.status ≠ .running := fun hrun => hrx (hs.running hrun).1

/-- The reception of a frame ends. -/
theorem Quiet.rested {t : MacTimers.BackoffTimer} {r : BackoffRound} (hs : s.Quiet)
    (hended : s.rested.Ended) (ht : s.rested.Turns t r) : (s.rested.withBackoff t r).Quiet := by
  have hs' : s.rested.Quiet := hs.of_hushed (hushed_of_eq rfl rfl rfl) rfl rfl rfl
  exact hs'.turns hended ht

theorem Quiet.overhear (hs : s.Quiet) (p : AirFrame) : (s.overhear p).Quiet := by
  unfold Radio.overhear
  dsimp only
  set air : AirRecord := { s.air with received := ⟨s.clock - p.txtime, p⟩ :: s.air.received }
  have hair : { s with air := air }.Quiet :=
    hs.of_hushed ⟨le_rfl, fun a ha => Or.inl ha⟩ rfl rfl rfl
  split_ifs
  · exact hair.setNav p.duration
  · exact hair

/-- A frame is heard from now on. -/
theorem Quiet.hears {x : MacState} {t : MacTimers.BackoffTimer} {r : BackoffRound} (hs : s.Quiet)
    (hx : x ≠ .idle) (ht : { s with rxState := x }.Turns t r) (q : Option AirFrame) (c : Countdown)
    (p : AirFrame) (hs' : ((s.withBackoff t r).hears x q c p).Poised) :
    ((s.withBackoff t r).hears x q c p).Quiet := by
  have hs₁ : { s with rxState := x }.Quiet := hs.of_hushed (hushed_of_eq rfl rfl rfl) rfl rfl rfl
  have hturned := hs₁.turns (fun hidle => absurd hidle hx) ht
  have hs₂ : (s.withBackoff t r).Quiet := ⟨hturned.running, hturned.round, hturned.rounds⟩
  exact hs₂.of_hushed (hushed_hears q c p (hs'.not_running hx)) rfl rfl rfl

/-- One event keeps the medium quiet while the back-off timer counts. -/
theorem Happens.quiet (h : s.Happens s') (hs : s.Sound false) (hs' : s'.Sound false)
    (hended : s.Ended) (hended' : s'.Ended) (hquiet : s.Quiet) : s'.Quiet := by
  cases h with
  | waited hle hdue =>
    exact hquiet.of_hushed ⟨hle, fun a ha => Or.inl ha⟩ rfl rfl rfl
  | began hrx ht => exact hquiet.hears (by decide) ht _ _ _ hs'.toPoised
  | captured hrx => exact hquiet.capture (hs.toPoised.not_running hrx) _
  | collided hrx ht hc hc' => exact hquiet.hears (by decide) ht _ _ _ hs'.toPoised
  | acted ha => exact (hquiet.acts hended ha).1
  | @sent x d t r hx hd hif ht =>
    have hs₁ : { s with txState := x }.Quiet :=
      hquiet.of_hushed (hushed_of_eq rfl rfl rfl) rfl rfl rfl
    exact (hs₁.turns hended ht).of_hushed ⟨le_rfl, fun a ha => Or.inl ha⟩ rfl rfl rfl
  | lost hdue hlost hs₁ ht =>
    have hrecv : { s with mhRecv := none }.Quiet :=
      hquiet.of_hushed (hushed_of_eq rfl rfl rfl) rfl rfl rfl
    rcases hs₁ with rfl | ⟨us, rfl⟩
    · exact hrecv.rested hended' ht
    · exact (hrecv.setNav us).rested hended' ht
  | dropped hdue hlink hrx =>
    have hrecv : { s with mhRecv := none }.Quiet :=
      hquiet.of_hushed (hushed_of_eq rfl rfl rfl) rfl rfl rfl
    exact (hrecv.handles hended hlink).1
  | @accepted p s₁ s₂ t r hdue hrx hp herror htx hlink hs₁ hcontent ht =>
    have hrecv : { s with mhRecv := none }.Quiet :=
      hquiet.of_hushed (hushed_of_eq rfl rfl rfl) rfl rfl rfl
    have hquiet₁ := (hrecv.handles hended hlink).1.overhear p
    -- the frame is still there when its content is handled
    have hended₁ : (s₁.overhear p).Ended := by
      intro hidle
      have hsame := hlink.sameEar hs₁
      have hbusy : (s₁.overhear p).rxState = .recv := by
        rw [← hrx, ← hsame.rxState]
        unfold Radio.overhear
        dsimp only
        split_ifs
        · exact rxState_setNav _ _
        · rfl
      rw [hidle] at hbusy
      cases hbusy
    exact (hquiet₁.handles hended₁ hcontent).1.rested hended' ht
  | navEnded hdue ht =>
    have hnav : { s with mhNav := none }.Quiet :=
      hquiet.of_hushed (hushed_of_eq rfl rfl rfl) rfl rfl rfl
    exact hnav.turns hended ht
  | ifEnded hdue => exact hquiet.of_hushed (hushed_of_eq rfl rfl rfl) rfl rfl rfl
  | backoffEnded hdue =>
    refine ⟨(fun st w r hrun => by cases hrun), hquiet.round, fun b hb => ?_⟩
    rcases List.mem_cons.1 hb with rfl | hb
    · exact hquiet.countedUntil
    · exact hquiet.rounds b hb

/-- What holds of the medium in every state. -/
structure Attentive (s : Radio) : Prop where
  sound : s.Sound false
  hears : s.Hears s.current
  newest : s.Newest
  covered : s.Covered
  quiet : s.Quiet

theorem Attentive.step {e : RadioEvent} (hs : s.Attentive) (he : s.Enabled e)
    (hstep : s.step e = .ok s') : s'.Attentive := by
  obtain ⟨hhappens, hs₁⟩ := hs.sound.happens he hstep
  have hears' := hhappens.hears hs.sound hs.hears hs.newest
  have hcovered' := hhappens.covered hs.covered
  exact ⟨hs₁, hears', hhappens.newest hs.newest, hcovered', hhappens.quiet hs.sound hs₁
    (ended hs.sound hs.hears hs.covered) (ended hs₁ hears' hcovered') hs.quiet⟩

theorem attentive_fresh (phy : Phy) (index : MacAddr) : (fresh phy index).Attentive where
  sound := sound_fresh phy index
  hears := Silent.hears (s := fresh phy index) ⟨rfl, rfl, rfl⟩
  newest := newest_of_none rfl
  covered _ ha := by cases ha
  quiet := ⟨(fun st w r hrun => by cases hrun), (fun k hk => by cases hk),
    fun b hb => by cases hb⟩

theorem attentive_run {phy : Phy} {index : MacAddr} {es : List RadioEvent}
    (henabled : StepsMeet Radio.step Enabled (fresh phy index) es)
    (hrun : runSteps Radio.step (fresh phy index) es = .ok s) : s.Attentive :=
  runSteps_invariant (fun _ _ _ hs he hstep => hs.step he hstep) (attentive_fresh phy index)
    henabled hrun

/-- The medium is sensed idle only when every frame that has come is over, long captured frames
apart, and the back-off timer has counted only while none was on the air. -/
theorem carrier_sense (phy : Phy) (index : MacAddr) {es : List RadioEvent}
    (henabled : StepsMeet Radio.step Enabled (fresh phy index) es)
    (hrun : runSteps Radio.step (fresh phy index) es = .ok s) :
    (s.IsIdle → ∀ a ∈ s.heard, a.came + a.frame.txtime ≤ s.clock) ∧
      ∀ b ∈ s.rounds, ∀ k ∈ b.counted, ∀ a ∈ s.heard,
        ¬ (a.span AirFrame.txtime).Overlaps k.span := by
  have hs := attentive_run henabled hrun
  have hended := ended hs.sound hs.hears hs.covered
  exact ⟨fun hidle => hended hidle.1 hidle.2.2,
    fun b hb k hk => (hs.quiet.rounds b hb k hk).2⟩

/-- The back-off counts before and after the third frame. -/
theorem carrier_sense_afterCollision :
    ∃ s, runSteps Radio.step (fresh .nsDefault 1) afterCollision = .ok s ∧
      s.rounds.map (·.counted.length) = [2] ∧
        (s.IsIdle → ∀ a ∈ s.heard, a.came + a.frame.txtime ≤ s.clock) ∧
          ∀ b ∈ s.rounds, ∀ k ∈ b.counted, ∀ a ∈ s.heard,
            ¬ (a.span AirFrame.txtime).Overlaps k.span := by
  have hlengths : (runSteps Radio.step (fresh .nsDefault 1) afterCollision).map
      (fun s => s.rounds.map (·.counted.length)) = .ok [2] := by
    decide +kernel
  obtain ⟨s, hrun, hs⟩ := map_ok_iff.1 hlengths
  exact ⟨s, hrun, hs, carrier_sense .nsDefault 1 afterCollision_enabled hrun⟩

end Radio

end SipNemo.Mac
