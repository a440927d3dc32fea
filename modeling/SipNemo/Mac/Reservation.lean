import SipNemo.Mac.CarrierSense

/-!
# Virtual carrier sense

A frame for another MAC announces for how long the medium is needed after it.  `recv_timer` moves the
navigation vector there, and nothing moves it back until the MAC is cleared.  So the MAC senses the
medium idle only when all that it has heard announced is over, and its back-off timer counts nothing
of it (`virtual_carrier_sense`).
-/

namespace SipNemo.Mac.Radio

open Mih (MacAddr)
open MacTimers Reception Runs Spans

/-- The time that a frame takes and announces. -/
def reserved (a : Arrival) : Span ℚ :=
  ⟨a.came, a.came + a.frame.txtime + a.frame.duration / 10 ^ 6⟩

/-- The frames for other MACs that were received. -/
def overheard (s : Radio) : List Arrival := s.air.received.filter fun a => a.frame.ra ≠ s.index

/-- The times in which the back-off timer counted. -/
def countings (s : Radio) : List Counting :=
  s.round.counted ++ s.rounds.flatMap BackoffRound.counted

/-- The navigation vector is beyond what was announced, the back-off timer waits for it, and has
counted nothing of what was announced. -/
structure Heeds (s : Radio) : Prop where
  nav : ∀ a ∈ s.overheard, (reserved a).stop ≤ s.nav
  running : ∀ st w r, s.mhBackoff = .running st w r → s.nav ≤ st ∧ st ≤ s.clock
  ordered : ∀ k ∈ s.countings, k.span.start ≤ k.span.stop
  counted : ∀ k ∈ s.countings, ∀ a ∈ s.overheard, ¬ (reserved a).Overlaps k.span

/-- While a frame is being received, the back-off timer has not counted since the newest one came. -/
def Follows (s : Radio) : Prop :=
  s.rxState = .recv → ∃ a ∈ s.air.onAir.head?, ∀ k ∈ s.countings, k.span.stop ≤ a.came

variable {s s' : Radio} {a : Arrival} {k : Counting} {t : MacTimers.BackoffTimer}
  {r : BackoffRound}

theorem mem_countings : k ∈ s.countings ↔
    k ∈ s.round.counted ∨ ∃ b ∈ s.rounds, k ∈ b.counted := by
  simp [countings]

theorem mem_overheard : a ∈ s.overheard ↔ a ∈ s.air.received ∧ a.frame.ra ≠ s.index := by
  simp [overheard]

/-- What the timer has counted until now is what it had counted before, and the time since it was
started or resumed. -/
theorem mem_countedUntil (h : k ∈ s.countedUntil.counted) :
    k ∈ s.round.counted ∨ ∃ st w r, s.mhBackoff = .running st w r ∧ k.span = ⟨st, s.clock⟩ := by
  unfold Radio.countedUntil at h
  split at h
  · next st w r hb =>
    rcases List.mem_cons.1 h with rfl | h
    · exact Or.inr ⟨st, w, r, hb, rfl⟩
    · exact Or.inl h
  · exact Or.inl h

/-! ### What the operations keep -/

theorem Heeds.of_eq (hs : s.Heeds) (hclock : s.clock ≤ s'.clock)
    (hair : s'.air.received = s.air.received) (hindex : s'.index = s.index)
    (hnav : s'.nav = s.nav) (hb : s'.mhBackoff = s.mhBackoff) (hround : s'.round = s.round)
    (hrounds : s'.rounds = s.rounds) : s'.Heeds := by
  have hover : s'.overheard = s.overheard := by simp [overheard, hair, hindex]
  have hcount : s'.countings = s.countings := by simp [countings, hround, hrounds]
  refine ⟨?_, fun st w r hrun => ?_, ?_, ?_⟩
  · rw [hover, hnav]
    exact hs.nav
  · rw [hb] at hrun
    obtain ⟨hle, hst⟩ := hs.running st w r hrun
    exact ⟨hnav ▸ hle, hst.trans hclock⟩
  · rw [hcount]
    exact hs.ordered
  · rw [hover, hcount]
    exact hs.counted

theorem Heeds.of_same (hs : s.Heeds) (hclock : s'.clock = s.clock)
    (hair : s'.air.received = s.air.received) (hindex : s'.index = s.index)
    (hnav : s'.nav = s.nav) (hb : s'.mhBackoff = s.mhBackoff) (hround : s'.round = s.round)
    (hrounds : s'.rounds = s.rounds) : s'.Heeds :=
  hs.of_eq hclock.ge hair hindex hnav hb hround hrounds

/-- What has been counted since the timer was started or resumed. -/
theorem Heeds.countedUntil (hs : s.Heeds) (hk : k ∈ s.countedUntil.counted) :
    k.span.start ≤ k.span.stop ∧ ∀ a ∈ s.overheard, ¬ (reserved a).Overlaps k.span := by
  rcases mem_countedUntil hk with hk | ⟨st, w, r, hb, hspan⟩
  · have hmem := mem_countings.2 (Or.inl hk)
    exact ⟨hs.ordered k hmem, hs.counted k hmem⟩
  · obtain ⟨hnav, hst⟩ := hs.running st w r hb
    rw [hspan]
    exact ⟨hst, fun a ha => Span.not_overlaps_of_le ((hs.nav a ha).trans hnav)⟩

/-- What has been counted, when the time since the timer was started or resumed is added. -/
theorem Heeds.countings (hs : s.Heeds)
    (h : k ∈ s.countedUntil.counted ∨ ∃ b ∈ s.rounds, k ∈ b.counted) :
    k.span.start ≤ k.span.stop ∧ ∀ a ∈ s.overheard, ¬ (reserved a).Overlaps k.span := by
  rcases h with hk | hk
  · exact hs.countedUntil hk
  · have hmem := mem_countings.2 (Or.inr hk)
    exact ⟨hs.ordered k hmem, hs.counted k hmem⟩

/-- The timer is paused or resumed. -/
theorem Heeds.turns (hs : s.Heeds) (ht : s.Turns t r) : (s.withBackoff t r).Heeds := by
  cases ht with
  | same => exact hs
  | resumed hb hidle =>
    refine ⟨hs.nav, fun st w r' hrun => ?_, hs.ordered, hs.counted⟩
    cases hrun
    exact ⟨not_lt.1 hidle.2.2, le_rfl⟩
  | paused rtime =>
    exact ⟨hs.nav, (fun st w r' hrun => by cases hrun),
      fun k hk => (hs.countings (mem_countings.1 hk)).1,
      fun k hk => (hs.countings (mem_countings.1 hk)).2⟩

/-- A new back-off has counted nothing. -/
theorem mem_countings_of_new {n : ℕ} (hk : k ∈ (s.withBackoff t ⟨n, []⟩).countings) :
    k ∈ s.countings := by
  rcases mem_countings.1 hk with hk | hk
  · cases hk
  · exact mem_countings.2 (Or.inr hk)

/-- What the transmitting side does. -/
theorem Heeds.acts (hs : s.Heeds) (h : s.Acts s') : s'.Heeds := by
  cases h with
  | @turned x t r ht =>
    have hs₁ : { s with txState := x }.Heeds := hs.of_same rfl rfl rfl rfl rfl rfl rfl
    exact hs₁.turns ht
  | started rtime hslots hidle =>
    refine ⟨hs.nav, fun st w r hrun => ?_, fun k hk => hs.ordered k (mem_countings_of_new hk),
      fun k hk => hs.counted k (mem_countings_of_new hk)⟩
    cases hrun
    exact ⟨not_lt.1 hidle.2.2, le_rfl⟩
  | waiting rtime hslots =>
    exact ⟨hs.nav, (fun st w r hrun => by cases hrun),
      fun k hk => hs.ordered k (mem_countings_of_new hk),
      fun k hk => hs.counted k (mem_countings_of_new hk)⟩
  | stopped => exact ⟨hs.nav, (fun st w r hrun => by cases hrun), hs.ordered, hs.counted⟩
  | window hn => exact hs.of_same rfl rfl rfl rfl rfl rfl rfl
  | cleared =>
    have hover : s.clearTxRx.listenAnew.overheard = [] := rfl
    refine ⟨?_, (fun st w r hrun => by cases hrun), hs.ordered, ?_⟩ <;> rw [hover]
    · exact fun a ha => by cases ha
    · exact fun k hk a ha => by cases ha

theorem Heeds.handles (hs : s.Heeds) (h : s.Handles s') : s'.Heeds := by
  induction h with
  | refl => exact hs
  | tail _ hacts ih => exact ih.acts hacts

@[simp] theorem overheard_setNav (s : Radio) (us : ℕ) : (s.setNav us).overheard = s.overheard := by
  unfold Radio.setNav
  dsimp only
  split_ifs <;> rfl

@[simp] theorem countings_setNav (s : Radio) (us : ℕ) : (s.setNav us).countings = s.countings := by
  rw [countings, countings, (round_setNav s us).1, (round_setNav s us).2]

/-- The navigation vector moves beyond what was announced while the timer does not run. -/
theorem heeds_setNav {us : ℕ} (hrun : s.mhBackoff.status ≠ .running)
    (hnav : ∀ a ∈ s.overheard, (reserved a).stop ≤ s.nav ∨
      (reserved a).stop ≤ s.clock + us / 10 ^ 6)
    (hordered : ∀ k ∈ s.countings, k.span.start ≤ k.span.stop)
    (hcounted : ∀ k ∈ s.countings, ∀ a ∈ s.overheard, ¬ (reserved a).Overlaps k.span) :
    (s.setNav us).Heeds := by
  have hle := le_nav_setNav s us
  refine ⟨fun a ha => ?_, fun st w r hb => ?_, ?_, ?_⟩
  · rw [overheard_setNav] at ha
    rcases hnav a ha with hstop | hstop
    · exact hstop.trans hle.1
    · exact hstop.trans hle.2
  · rw [mhBackoff_setNav] at hb
    rw [hb] at hrun
    exact absurd rfl hrun
  · rw [countings_setNav]
    exact hordered
  · rw [overheard_setNav, countings_setNav]
    exact hcounted

theorem Heeds.setNav (hs : s.Heeds) (hrun : s.mhBackoff.status ≠ .running) (us : ℕ) :
    (s.setNav us).Heeds :=
  heeds_setNav hrun (fun a ha => Or.inl (hs.nav a ha)) hs.ordered hs.counted

/-- A frame is received. -/
theorem Heeds.overhear (hs : s.Heeds) (hrun : s.mhBackoff.status ≠ .running)
    (hstop : stopOf a = s.clock) (hbefore : ∀ k ∈ s.countings, k.span.stop ≤ a.came) :
    (s.overhear a.frame).Heeds := by
  set air : AirRecord :=
    { s.air with received := ⟨s.clock - a.frame.txtime, a.frame⟩ :: s.air.received } with hair
  have hmem : ∀ b ∈ { s with air := air }.overheard,
      b = a ∧ a.frame.ra ≠ s.index ∨ b ∈ s.overheard := by
    intro b hb
    obtain ⟨hb, hother⟩ := mem_overheard.1 hb
    rw [hair, arrival_eq hstop] at hb
    rcases List.mem_cons.1 hb with rfl | hb
    · exact Or.inl ⟨rfl, hother⟩
    · exact Or.inr (mem_overheard.2 ⟨hb, hother⟩)
  have hcounted : ∀ k ∈ s.countings, ∀ b ∈ { s with air := air }.overheard,
      ¬ (reserved b).Overlaps k.span := by
    intro k hk b hb
    rcases hmem b hb with ⟨rfl, -⟩ | hb
    · exact Span.not_overlaps_comm.1 (Span.not_overlaps_of_le (hbefore k hk))
    · exact hs.counted k hk b hb
  unfold Radio.overhear
  dsimp only
  split_ifs with hother
  · refine heeds_setNav hrun (fun b hb => ?_) hs.ordered hcounted
    rcases hmem b hb with ⟨rfl, -⟩ | hb
    · refine Or.inr (le_of_eq ?_)
      exact congrArg (· + (b.frame.duration : ℚ) / 10 ^ 6) hstop
    · exact Or.inl (hs.nav b hb)
  · refine ⟨fun b hb => ?_, hs.running, hs.ordered, hcounted⟩
    rcases hmem b hb with ⟨rfl, hne⟩ | hb
    · exact absurd hne hother
    · exact hs.nav b hb

/-! ### While a frame is received -/

/-- Nothing is counted while a frame is heard. -/
structure Pauses (s s' : Radio) : Prop where
  rxState : s'.rxState = s.rxState
  stopped : s'.mhBackoff.status ≠ .running
  countings : ∀ k ∈ s'.countings, k ∈ s.countings

theorem pauses_turns (hrx : s.rxState ≠ .idle) (hrun : s.mhBackoff.status ≠ .running)
    (ht : s.Turns t r) : s.Pauses (s.withBackoff t r) := by
  cases ht with
  | same => exact ⟨rfl, hrun, fun k hk => hk⟩
  | resumed hb hidle => exact absurd hidle.1 hrx
  | paused rtime hrunning => exact absurd hrunning hrun

theorem Acts.pauses (h : s.Acts s') (hrx : s.rxState ≠ .idle)
    (hrun : s.mhBackoff.status ≠ .running) : s.Pauses s' ∨ s'.Silent := by
  cases h with
  | @turned x t r ht =>
    have hpauses := pauses_turns (s := { s with txState := x }) hrx hrun ht
    exact Or.inl ⟨hpauses.rxState, hpauses.stopped, hpauses.countings⟩
  | started rtime hslots hidle => exact absurd hidle.1 hrx
  | waiting rtime hslots => exact Or.inl ⟨rfl, nofun, fun k hk => mem_countings_of_new hk⟩
  | stopped => exact Or.inl ⟨rfl, nofun, fun k hk => hk⟩
  | window hn => exact Or.inl ⟨rfl, hrun, fun k hk => hk⟩
  | cleared => exact Or.inr ⟨rfl, rfl, rfl⟩

theorem Handles.pauses (h : s.Handles s') (hrx : s.rxState ≠ .idle)
    (hrun : s.mhBackoff.status ≠ .running) : s.Pauses s' ∨ s'.Silent := by
  induction h with
  | refl => exact Or.inl ⟨rfl, hrun, fun k hk => hk⟩
  | tail _ hacts ih =>
    rcases ih with ih | ih
    · refine (hacts.pauses (ih.rxState ▸ hrx) ih.stopped).imp_left fun h => ?_
      exact ⟨h.rxState.trans ih.rxState, h.stopped, fun k hk => ih.countings k (h.countings k hk)⟩
    · refine Or.inr ?_
      rcases hacts.ear with hsame | hsilent
      · exact ih.of_sameEar hsame
      · exact hsilent

/-- A cleared MAC receives nothing. -/
theorem Sound.idle_of_silent {h : Bool} (hs : s.Sound h) (hsilent : s.Silent) :
    s.rxState = .idle := by
  rcases hs.rx with ⟨hidle, -, -⟩ | ⟨-, hpkt, -⟩
  · exact hidle
  · exact absurd hpkt hsilent.not_hearing

theorem follows_of_ne (h : s.rxState ≠ .recv) : s.Follows := fun hrx => absurd hrx h

theorem Follows.of_eq (hs : s.Follows) (hrx : s'.rxState = s.rxState)
    (honAir : s'.air.onAir = s.air.onAir)
    (hcount : s.rxState = .recv → ∀ k ∈ s'.countings, k ∈ s.countings) : s'.Follows := by
  intro hrecv
  rw [hrx] at hrecv
  obtain ⟨a, ha, hbefore⟩ := hs hrecv
  exact ⟨a, honAir ▸ ha, fun k hk => hbefore k (hcount hrecv k hk)⟩

theorem not_running_of_recv (hs : s.Sound false) (hrx : s.rxState = .recv) :
    s.rxState ≠ .idle ∧ s.mhBackoff.status ≠ .running := by
  have hne : s.rxState ≠ .idle := by
    rw [hrx]
    decide
  exact ⟨hne, hs.toPoised.not_running hne⟩

/-- One event: the frame that is received stays, and nothing is counted meanwhile. -/
theorem Happens.follows (h : s.Happens s') (hs : s.Sound false) (hs' : s'.Sound false)
    (hquiet' : s'.Quiet) (hfollows : s.Follows) : s'.Follows := by
  cases h with
  | waited hle hdue => exact hfollows.of_eq rfl rfl fun _ k hk => hk
  | began hrx ht =>
    refine fun _ => ⟨_, rfl, fun k hk => ?_⟩
    rcases mem_countings.1 hk with hk | ⟨b, hb, hk⟩
    · exact (hquiet'.round k hk).1
    · exact (hquiet'.rounds b hb k hk).1
  | @captured p hrx =>
    have hsame : s.SameEar (s.capture p) := sameEar_setNav s _
    have honAir : (s.capture p).air.onAir = s.air.onAir := by rw [hsame.air]
    refine hfollows.of_eq hsame.rxState honAir fun _ k hk => ?_
    have hk' : k ∈ (s.capture p).countings := hk
    rwa [capture, countings_setNav] at hk'
  | collided hrx ht hc hc' => exact follows_of_ne fun hrecv => by cases hrecv
  | acted ha =>
    rcases ha.ear with hsame | hsilent
    · refine hfollows.of_eq hsame.rxState (by rw [hsame.air]) fun hrecv => ?_
      obtain ⟨hne, hrun⟩ := not_running_of_recv hs hrecv
      rcases ha.pauses hne hrun with hpauses | hsilent
      · exact hpauses.countings
      · have hidle := hs'.idle_of_silent hsilent
        rw [hsame.rxState] at hidle
        exact absurd hidle hne
    · refine follows_of_ne ?_
      rw [hs'.idle_of_silent hsilent]
      decide
  | @sent x d t r hx hd hif ht =>
    intro hrecv
    obtain ⟨hne, hrun⟩ := not_running_of_recv hs hrecv
    obtain ⟨a, ha, hbefore⟩ := hfollows hrecv
    have hpauses := pauses_turns (s := { s with txState := x }) hne hrun ht
    exact ⟨a, ha, fun k hk => hbefore k (hpauses.countings k hk)⟩
  | lost hdue hlost hs₁ ht => exact follows_of_ne fun hrecv => by cases hrecv
  | dropped hdue hlink hrx =>
    refine follows_of_ne ?_
    rcases hs'.rx with ⟨hidle, -, -⟩ | ⟨-, hpkt, -⟩
    · rw [hidle]
      decide
    · rw [hrx] at hpkt
      cases hpkt
  | accepted hdue hrx hp herror htx hlink hs₁ hcontent ht => exact follows_of_ne fun hrecv => by cases hrecv
  | navEnded hdue ht =>
    refine hfollows.of_eq rfl rfl fun hrecv => ?_
    obtain ⟨hne, hrun⟩ := not_running_of_recv hs hrecv
    exact (pauses_turns (s := { s with mhNav := none }) hne hrun ht).countings
  | ifEnded hdue => exact hfollows.of_eq rfl rfl fun _ k hk => hk
  | backoffEnded hdue =>
    refine hfollows.of_eq rfl rfl fun hrecv => ?_
    obtain ⟨-, hrun⟩ := not_running_of_recv hs hrecv
    cases hb : s.mhBackoff with
    | running st w r =>
      rw [hb] at hrun
      exact absurd rfl hrun
    | _ =>
      rw [hb] at hdue
      cases hdue

/-- One event keeps what was announced. -/
theorem Happens.heeds (h : s.Happens s') (hs : s.Sound false) (hears : s.Hears s.current)
    (hnewest : s.Newest) (hfollows : s.Follows) (hheeds : s.Heeds) : s'.Heeds := by
  cases h with
  | waited hle hdue => exact hheeds.of_eq hle rfl rfl rfl rfl rfl rfl
  | began hrx ht =>
    have hs₁ : { s with rxState := .recv }.Heeds := hheeds.of_same rfl rfl rfl rfl rfl rfl rfl
    exact (hs₁.turns ht).of_same rfl rfl rfl rfl rfl rfl rfl
  | @captured p hrx =>
    have hs₁ : (s.capture p).Heeds := hheeds.setNav (hs.toPoised.not_running hrx) _
    exact hs₁.of_same rfl rfl rfl rfl rfl rfl rfl
  | collided hrx ht hc hc' =>
    have hs₁ : { s with rxState := .coll }.Heeds := hheeds.of_same rfl rfl rfl rfl rfl rfl rfl
    exact (hs₁.turns ht).of_same rfl rfl rfl rfl rfl rfl rfl
  | acted ha => exact hheeds.acts ha
  | @sent x d t r hx hd hif ht =>
    have hs₁ : { s with txState := x }.Heeds := hheeds.of_same rfl rfl rfl rfl rfl rfl rfl
    exact (hs₁.turns ht).of_same rfl rfl rfl rfl rfl rfl rfl
  | @lost s₁ t r hdue hlost hs₁ ht =>
    obtain ⟨p, hp, -⟩ := current_of_due hs hdue
    have hrecv : { s with mhRecv := none }.Heeds := hheeds.of_same rfl rfl rfl rfl rfl rfl rfl
    have hrun : s.mhBackoff.status ≠ .running := by
      refine hs.toPoised.not_running fun hidle => ?_
      rcases hs.rx with ⟨-, hnone, -⟩ | ⟨hrx, -, -⟩
      · rw [hp] at hnone
        cases hnone
      · rw [hidle] at hrx
        rcases hrx with hrx | hrx <;> cases hrx
    have hheeds₁ : s₁.Heeds := by
      rcases hs₁ with rfl | ⟨us, rfl⟩
      · exact hrecv
      · exact hrecv.setNav hrun us
    have hrested : s₁.rested.Heeds := hheeds₁.of_same rfl rfl rfl rfl rfl rfl rfl
    exact hrested.turns ht
  | dropped hdue hlink hrx =>
    have hrecv : { s with mhRecv := none }.Heeds := hheeds.of_same rfl rfl rfl rfl rfl rfl rfl
    exact hrecv.handles hlink
  | @accepted p s₁ s₂ t r hdue hrx hp herror htx hlink hs₁ hcontent ht =>
    have hrecv : { s with mhRecv := none }.Heeds := hheeds.of_same rfl rfl rfl rfl rfl rfl rfl
    obtain ⟨hne, hrun⟩ := not_running_of_recv hs hrx
    obtain ⟨a, ha, hbefore⟩ := hfollows hrx
    obtain ⟨b, hb, rfl⟩ := hnewest hrx p hp herror
    obtain rfl : a = b := Option.some.inj (ha.symm.trans hb)
    have hsame := hlink.sameEar hs₁
    have hpauses := (hlink.pauses hne hrun).resolve_right fun hsilent => hsilent.not_hearing hs₁
    -- the frame is over now
    have hstop : stopOf a = s₁.clock := by
      obtain ⟨q, hq, hcurrent⟩ := current_of_due hs hdue
      obtain ⟨b, rest, halone⟩ := hears.alone _ hcurrent (by simp [hrx])
      have hhead : s.air.onAir.head? = some b := congrArg List.head? halone.onAir
      obtain rfl : a = b := Option.some.inj (ha.symm.trans hhead)
      rw [hsame.clock]
      exact halone.ends
    have hover := (hrecv.handles hlink).overhear hpauses.stopped hstop
      fun k hk => hbefore k (hpauses.countings k hk)
    have hrested : s₂.rested.Heeds := (hover.handles hcontent).of_same rfl rfl rfl rfl rfl rfl rfl
    exact hrested.turns ht
  | navEnded hdue ht =>
    have hnav : { s with mhNav := none }.Heeds := hheeds.of_same rfl rfl rfl rfl rfl rfl rfl
    exact hnav.turns ht
  | ifEnded hdue => exact hheeds.of_same rfl rfl rfl rfl rfl rfl rfl
  | backoffEnded hdue =>
    have hcountings : ∀ k ∈ s.backoffExpired.countings,
        k.span.start ≤ k.span.stop ∧ ∀ a ∈ s.overheard, ¬ (reserved a).Overlaps k.span := by
      intro k hk
      rcases mem_countings.1 hk with hk | ⟨b, hb, hk⟩
      · have hmem : k ∈ s.countings := mem_countings.2 (Or.inl hk)
        exact ⟨hheeds.ordered k hmem, hheeds.counted k hmem⟩
      · rcases List.mem_cons.1 hb with rfl | hb
        · exact hheeds.countedUntil hk
        · exact hheeds.countings (Or.inr ⟨b, hb, hk⟩)
    exact ⟨hheeds.nav, (fun st w r hrun => by cases hrun), fun k hk => (hcountings k hk).1,
      fun k hk => (hcountings k hk).2⟩

theorem heeds_run {phy : Phy} {index : MacAddr} {es : List RadioEvent}
    (henabled : StepsMeet Radio.step Enabled (fresh phy index) es)
    (hrun : runSteps Radio.step (fresh phy index) es = .ok s) : s.Heeds := by
  have hinv : s.Attentive ∧ s.Follows ∧ s.Heeds := by
    refine runSteps_invariant (I := fun s : Radio => s.Attentive ∧ s.Follows ∧ s.Heeds)
      (fun s₁ e s₂ ⟨hs, hfollows, hheeds⟩ he hstep => ?_)
      ⟨attentive_fresh phy index, follows_of_ne nofun, ?_⟩ henabled hrun
    · have hs₂ := hs.step he hstep
      obtain ⟨hhappens, -⟩ := hs.sound.happens he hstep
      exact ⟨hs₂, hhappens.follows hs.sound hs₂.sound hs₂.quiet hfollows,
        hhappens.heeds hs.sound hs.hears hs.newest hfollows hheeds⟩
    · exact ⟨(fun a ha => by cases ha), (fun st w r hrun => by cases hrun),
        (fun k hk => by cases hk), fun k hk => by cases hk⟩
  exact hinv.2.2

/-- The medium is sensed idle only when all that the frames for other MACs have announced is over,
and the back-off timer counts nothing of it. -/
theorem virtual_carrier_sense (phy : Phy) (index : MacAddr) {es : List RadioEvent}
    (henabled : StepsMeet Radio.step Enabled (fresh phy index) es)
    (hrun : runSteps Radio.step (fresh phy index) es = .ok s) :
    ∀ a ∈ s.air.received, a.frame.ra ≠ s.index →
      (s.IsIdle → a.came + a.frame.txtime + a.frame.duration / 10 ^ 6 ≤ s.clock) ∧
        ∀ b ∈ s.rounds, ∀ k ∈ b.counted, ¬ (reserved a).Overlaps k.span := by
  intro a ha hother
  have hs := heeds_run henabled hrun
  have hover := mem_overheard.2 ⟨ha, hother⟩
  refine ⟨fun hidle => (hs.nav a hover).trans (not_lt.1 hidle.2.2), fun b hb k hk => ?_⟩
  exact hs.counted k (mem_countings.2 (Or.inr ⟨b, hb, hk⟩)) a hover

/-- A frame for another MAC that announces as long again. -/
def forAnother : AirFrame where
  ra := 2
  duration := 1000
  txtime := 1 / 1000
  rxPr := 1
  cpThresh := 10
  error := false
  txtime_nonneg := millisecond.txtime_nonneg

/-- A back-off that is drawn meanwhile waits for what the frame announces. -/
def afterAnnouncement : List RadioEvent :=
  [.frame forAnother, .action (.startBackoff 2), .wait (1 / 1000), .recvTimer [] [],
    .wait (2 / 1000), .navTimer, .wait (2090 / 10 ^ 6), .backoffTimer]

theorem afterAnnouncement_ok :
    (runSteps Radio.step (fresh .nsDefault 1) afterAnnouncement).map (fun s =>
      (s.index, s.air.received, s.rounds.map (·.counted.length))) =
        .ok (1, [⟨0, forAnother⟩], [1]) := by
  decide +kernel

theorem virtual_carrier_sense_afterAnnouncement :
    ∃ s, runSteps Radio.step (fresh .nsDefault 1) afterAnnouncement = .ok s ∧
      (s.IsIdle → 1 / 500 ≤ s.clock) := by
  have henabled : StepsMeet Radio.step Enabled (fresh .nsDefault 1) afterAnnouncement := by
    decide +kernel
  obtain ⟨s, hrun, hs⟩ := map_ok_iff.1 afterAnnouncement_ok
  obtain ⟨hindex, hs⟩ := Prod.mk.inj hs
  obtain ⟨hreceived, -⟩ := Prod.mk.inj hs
  have hother : forAnother.ra ≠ s.index := by
    rw [hindex]
    decide
  have hsense := virtual_carrier_sense .nsDefault 1 henabled hrun ⟨0, forAnother⟩
    (by rw [hreceived]; exact List.mem_singleton_self _) hother
  refine ⟨s, hrun, fun hidle => le_trans ?_ (hsense.1 hidle)⟩
  decide +kernel

end SipNemo.Mac.Radio
