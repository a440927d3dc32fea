import SipNemo.Mac.CarrierSense

/-!
# How long a back-off takes

A back-off of `n` slots is over when the timer has counted `n` whole slots.  The timer counts again
from the next slot each time the medium has been idle for a `DIFS`, what was left of a slot being
lost, and the last count ends with its last slot.  `counted_rounds` says so of every back-off that
has run out, whatever came in between, in exact arithmetic.
-/

namespace SipNemo.Mac

open Mih (MacAddr)
open MacTimers Runs Spans

/-- The slots that were drawn are those that were counted, each count but the first one after a
`DIFS` and all of them one after the other. -/
structure BackoffRound.Kept (phy : Phy) (b : BackoffRound) : Prop where
  drawn_le : b.drawn ≤ phy.cwMax
  waits : ∀ k ∈ b.counted.dropLast, k.wait = phy.difs
  order : b.counted.Pairwise fun later earlier => earlier.span.stop ≤ later.span.start

/-- The last count ends with the last slot. -/
structure BackoffRound.Complete (phy : Phy) (b : BackoffRound) : Prop extends b.Kept phy where
  total : b.total phy.slotTime = b.drawn
  ends : ∃ k rest, b.counted = k :: rest ∧
    k.span.stop = k.span.start + k.wait + k.span.slots phy.slotTime k.wait * phy.slotTime

namespace Radio

/-- The back-off that is under way, and those that have run out. -/
structure Orderly (s : Radio) : Prop where
  window : s.cw ≤ s.phy.cwMax
  kept : s.round.Kept s.phy
  past : ∀ k ∈ s.round.counted, k.span.stop ≤ s.clock
  running : ∀ st w r, s.mhBackoff = .running st w r →
    (s.round.counted ≠ [] → w = s.phy.difs) ∧ ∀ k ∈ s.round.counted, k.span.stop ≤ st
  rounds : ∀ b ∈ s.rounds, b.Complete s.phy

variable {s s' : Radio} {h : Bool} {t : MacTimers.BackoffTimer} {r : BackoffRound}

/-- The back-off goes on. -/
theorem Orderly.of_eq (hs : s.Orderly) (hphy : s'.phy = s.phy) (hcw : s'.cw ≤ s.phy.cwMax)
    (hclock : s.clock ≤ s'.clock) (hb : s'.mhBackoff = s.mhBackoff) (hround : s'.round = s.round)
    (hrounds : s'.rounds = s.rounds) : s'.Orderly where
  window := hphy ▸ hcw
  kept := by
    rw [hphy, hround]
    exact hs.kept
  past k hk := (hs.past k (hround ▸ hk)).trans hclock
  running st w r hrun := by
    rw [hround, hphy]
    exact hs.running st w r (hb ▸ hrun)
  rounds b hb' := by
    rw [hphy]
    exact hs.rounds b (hrounds ▸ hb')

/-- The count until now is the newest. -/
theorem Orderly.countedUntil (hs : s.Orderly) :
    s.countedUntil.Kept s.phy ∧ ∀ k ∈ s.countedUntil.counted, k.span.stop ≤ s.clock := by
  unfold Radio.countedUntil
  split
  · next st w r hb =>
    obtain ⟨hwait, hstart⟩ := hs.running st w r hb
    refine ⟨⟨hs.kept.drawn_le, fun k hk => ?_, List.pairwise_cons.2 ⟨hstart, hs.kept.order⟩⟩,
      fun k hk => ?_⟩
    · cases hl : s.round.counted with
      | nil => simp [hl] at hk
      | cons k' l =>
        simp only [hl, List.dropLast_cons_cons, List.mem_cons] at hk
        rcases hk with rfl | hk
        · exact hwait (by simp [hl])
        · exact hs.kept.waits k (hl ▸ hk)
    · rcases List.mem_cons.1 hk with rfl | hk
      · exact le_rfl
      · exact hs.past k hk
  · exact ⟨hs.kept, hs.past⟩

/-- The timer is paused or resumed. -/
theorem Orderly.turns (hs : s.Orderly) (ht : s.Turns t r) : (s.withBackoff t r).Orderly := by
  cases ht with
  | same => exact hs
  | resumed hb hidle =>
    refine ⟨hs.window, hs.kept, hs.past, fun st w r' hrun => ?_, hs.rounds⟩
    cases hrun
    exact ⟨fun _ => rfl, hs.past⟩
  | paused rtime =>
    obtain ⟨hkept, hpast⟩ := hs.countedUntil
    exact ⟨hs.window, hkept, hpast, (fun st w r' hrun => by cases hrun), hs.rounds⟩

/-- A back-off starts. -/
theorem Orderly.start (hs : s.Orderly) {slots : ℕ} (hslots : slots ≤ s.cw) :
    (s.withBackoff t ⟨slots, []⟩).Orderly :=
  ⟨hs.window, ⟨hslots.trans hs.window, (fun k hk => by cases hk), List.Pairwise.nil⟩,
    (fun k hk => by cases hk),
    fun st w r hrun => ⟨fun hno => absurd rfl hno, fun k hk => by cases hk⟩,
    hs.rounds⟩

/-- What the transmitting side does. -/
theorem Orderly.acts (hs : s.Orderly) (h : s.Acts s') : s'.Orderly := by
  cases h with
  | @turned x t r ht =>
    have hs₁ : { s with txState := x }.Orderly := hs.of_eq rfl hs.window le_rfl rfl rfl rfl
    exact hs₁.turns ht
  | started rtime hslots hidle => exact hs.start hslots
  | waiting rtime hslots => exact hs.start hslots
  | stopped => exact ⟨hs.window, hs.kept, hs.past, (fun st w r hrun => by cases hrun), hs.rounds⟩
  | window hn => exact hs.of_eq rfl hn le_rfl rfl rfl rfl
  | cleared =>
    exact ⟨s.phy.cwMin_le_cwMax, hs.kept, hs.past, (fun st w r hrun => by cases hrun), hs.rounds⟩

theorem Orderly.handles (hs : s.Orderly) (h : s.Handles s') : s'.Orderly := by
  induction h with
  | refl => exact hs
  | tail _ hacts ih => exact ih.acts hacts

theorem Orderly.setNav (hs : s.Orderly) (us : ℕ) : (s.setNav us).Orderly := by
  have hsame := sameEar_setNav s us
  obtain ⟨hround, hrounds⟩ := round_setNav s us
  refine hs.of_eq ?_ ?_ hsame.clock.ge (mhBackoff_setNav s us) hround hrounds
  all_goals
    unfold Radio.setNav
    dsimp only
    split_ifs
  · rfl
  · rfl
  · exact hs.window
  · exact hs.window

theorem Orderly.overhear (hs : s.Orderly) (p : AirFrame) : (s.overhear p).Orderly := by
  unfold Radio.overhear
  dsimp only
  set air : AirRecord := { s.air with received := ⟨s.clock - p.txtime, p⟩ :: s.air.received }
  have hair : { s with air := air }.Orderly := hs.of_eq rfl hs.window le_rfl rfl rfl rfl
  split_ifs
  · exact hair.setNav p.duration
  · exact hair

theorem Orderly.rested (hs : s.Orderly) (ht : s.rested.Turns t r) :
    (s.rested.withBackoff t r).Orderly := by
  have hs' : s.rested.Orderly := hs.of_eq rfl hs.window le_rfl rfl rfl rfl
  exact hs'.turns ht

/-- When the timer expires it has counted what was left. -/
theorem complete_of_due (hs : s.Sound h) (ho : s.Orderly) (hdue : s.mhBackoff.due = some s.clock) :
    s.countedUntil.Complete s.phy := by
  have hkept := ho.countedUntil.1
  have hcounts := hs.counts
  cases hb : s.mhBackoff with
  | idle =>
    rw [hb] at hdue
    cases hdue
  | paused rtime =>
    rw [hb] at hdue
    cases hdue
  | running st w rtime =>
    rw [hb] at hdue
    rw [Counts, hb] at hcounts
    obtain ⟨-, -, k, rfl, hdrawn⟩ := hcounts
    have hclock : s.clock = st + w + k * s.phy.slotTime := by
      have := Option.some.inj hdue
      linarith
    have hslots : (⟨st, s.clock⟩ : Span ℚ).slots s.phy.slotTime w = k :=
      Span.slots_eq s.phy.slotTime_pos hclock
    refine ⟨hkept, ?_, ⟨⟨st, s.clock⟩, w⟩, s.round.counted, by simp [Radio.countedUntil, hb], ?_⟩
    · simp [Radio.countedUntil, hb, BackoffRound.total, hslots, hdrawn]
    · rw [hslots]
      exact hclock

/-- A frame is heard from now on. -/
theorem Orderly.hears {x : MacState} (hs : s.Orderly) (ht : { s with rxState := x }.Turns t r)
    (q : Option AirFrame) (c : Countdown) (p : AirFrame) :
    ((s.withBackoff t r).hears x q c p).Orderly := by
  have hs₁ : { s with rxState := x }.Orderly := hs.of_eq rfl hs.window le_rfl rfl rfl rfl
  exact (hs₁.turns ht).of_eq rfl hs.window le_rfl rfl rfl rfl

/-- One event. -/
theorem Happens.orderly (h : s.Happens s') (hs : s.Sound false) (ho : s.Orderly) : s'.Orderly := by
  have hrecv : { s with mhRecv := none }.Orderly := ho.of_eq rfl ho.window le_rfl rfl rfl rfl
  cases h with
  | waited hle hdue => exact ho.of_eq rfl ho.window hle rfl rfl rfl
  | began hrx ht => exact ho.hears ht _ _ _
  | @captured p hrx =>
    have hs₁ : (s.capture p).Orderly := ho.setNav _
    exact hs₁.of_eq rfl hs₁.window le_rfl rfl rfl rfl
  | collided hrx ht hc hc' => exact ho.hears ht _ _ _
  | acted ha => exact ho.acts ha
  | @sent x d t r hx hd hif ht =>
    have hs₁ : { s with txState := x }.Orderly := ho.of_eq rfl ho.window le_rfl rfl rfl rfl
    exact (hs₁.turns ht).of_eq rfl ho.window le_rfl rfl rfl rfl
  | lost hdue hlost hs₁ ht =>
    rcases hs₁ with rfl | ⟨us, rfl⟩
    · exact hrecv.rested ht
    · exact (hrecv.setNav us).rested ht
  | dropped hdue hlink hrx => exact hrecv.handles hlink
  | @accepted p s₁ s₂ t r hdue hrx hp herror htx hlink hs₁ hcontent ht =>
    exact (((hrecv.handles hlink).overhear p).handles hcontent).rested ht
  | navEnded hdue ht =>
    have hs₁ : { s with mhNav := none }.Orderly := ho.of_eq rfl ho.window le_rfl rfl rfl rfl
    exact hs₁.turns ht
  | ifEnded hdue => exact ho.of_eq rfl ho.window le_rfl rfl rfl rfl
  | backoffEnded hdue =>
    refine ⟨ho.window, ho.kept, ho.past, (fun st w r hrun => by cases hrun), fun b hb => ?_⟩
    rcases List.mem_cons.1 hb with rfl | hb
    · exact complete_of_due hs ho hdue
    · exact ho.rounds b hb

/-- Every back-off that has run out took the slots that were drawn. -/
theorem counted_rounds (phy : Phy) (index : MacAddr) {es : List RadioEvent}
    (henabled : StepsMeet Radio.step Enabled (fresh phy index) es)
    (hrun : runSteps Radio.step (fresh phy index) es = .ok s) :
    ∀ b ∈ s.rounds, b.Complete s.phy := by
  have hinv : s.Sound false ∧ s.Orderly := by
    refine runSteps_invariant (I := fun s : Radio => s.Sound false ∧ s.Orderly)
      (fun s₁ e s₂ ⟨hs, ho⟩ he hstep => ?_) ⟨sound_fresh phy index, ?_⟩ henabled hrun
    · obtain ⟨hhappens, hs'⟩ := hs.happens he hstep
      exact ⟨hs', hhappens.orderly hs ho⟩
    · exact ⟨phy.cwMin_le_cwMax, ⟨Nat.zero_le _, (fun k hk => by cases hk), List.Pairwise.nil⟩,
        (fun k hk => by cases hk), (fun st w r hrun => by cases hrun), fun b hb => by cases hb⟩
  exact hinv.2.rounds

/-- Two slots, one before and one after the third frame. -/
theorem counted_rounds_afterCollision :
    ∃ s, runSteps Radio.step (fresh .nsDefault 1) afterCollision = .ok s ∧
      s.rounds.map (·.drawn) = [2] ∧ ∀ b ∈ s.rounds, b.Complete s.phy := by
  have hdrawn : (runSteps Radio.step (fresh .nsDefault 1) afterCollision).map
      (fun s => s.rounds.map (·.drawn)) = .ok [2] := by
    decide +kernel
  obtain ⟨s, hrun, hs⟩ := map_ok_iff.1 hdrawn
  exact ⟨s, hrun, hs, counted_rounds .nsDefault 1 afterCollision_enabled hrun⟩

end Radio

end SipNemo.Mac
