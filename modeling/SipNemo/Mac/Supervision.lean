import SipNemo.Mac.Attachment
import SipNemo.Mac.ScanResult

/-!
# The timer of the access point

`bssTimer_` runs out when the beacons of the access point stay away; a beacon starts it again, and
so does the end of a scan.  `recvAssocResponse` attaches the station and does not start it, and a
timer that still runs is not started for another access point.  `supervised_of_covered`: where
neither matters, a connected station is supervised, and no access point is given up that has been
heard of late.
-/

namespace SipNemo.Mac

open RequestTable Runs
open Mih (MacAddr)
open TimerHandler (cancelPending cancelPending_ne_pending)

namespace Mac80211

variable {s s' : Mac80211}

/-! ### The end of a scan -/

/-- `nextScan` comes to its last branch. -/
def Finishes (s : Mac80211) : Prop := ∃ req, s.req = .live req ∧ ¬ s.Stops req ∧ s.LastChannel req

instance (s : Mac80211) : Decidable s.Finishes :=
  match h : s.req with
  | .live req =>
    decidable_of_iff (¬ s.Stops req ∧ s.LastChannel req)
      ⟨fun hend => ⟨req, h, hend⟩, fun ⟨_, hr, hend⟩ => ReqPtr.live.inj (h.symm.trans hr) ▸ hend⟩
  | .null => isFalse fun ⟨_, hr, _⟩ => ReqPtr.noConfusion (h.symm.trans hr)
  | .freed => isFalse fun ⟨_, hr, _⟩ => ReqPtr.noConfusion (h.symm.trans hr)

/-- The attachment of the station and its timer are the same. -/
structure SameBss (s s' : Mac80211) : Prop where
  bssId : s'.bssId = s.bssId
  hdvState : s'.hdvState = s.hdvState
  bssTimer : s'.bssTimer = s.bssTimer

/-- The station is connected again to the access point it had, and its timer has been started. -/
structure BackFromScan (s s' : Mac80211) : Prop where
  bssId : s'.bssId = s.oldBssId
  hdvState : s'.hdvState = .connected
  bssTimer : s'.bssTimer = .pending

theorem endScan_back (h : s.endScan [] = .ok s') : s.BackFromScan s' := by
  obtain ⟨t, ht, h⟩ := bind_ok_iff.1 h
  obtain ⟨resp, -, h⟩ := bind_ok_iff.1 h
  obtain ⟨u, hu, h⟩ := bind_ok_iff.1 h
  obtain ⟨q, -, h⟩ := bind_ok_iff.1 h
  have ht' := setFreq_eq_ok ht
  obtain rfl := Except.ok.inj hu
  obtain rfl := Except.ok.inj h
  rw [ht']
  exact ⟨rfl, rfl, rfl⟩

theorem nextScan_bss (h : s.nextScan [] = .ok s') :
    (s.Finishes ∧ s.BackFromScan s') ∨ (¬ s.Finishes ∧ s.SameBss s') := by
  obtain ⟨req, hreq, h⟩ := bind_ok_iff.1 h
  have hlive := ReqPtr.deref_eq_ok hreq
  have hiff : s.Finishes ↔ ¬ s.Stops req ∧ s.LastChannel req := by
    constructor
    · rintro ⟨r, hr, hend⟩
      obtain rfl := ReqPtr.live.inj (hlive.symm.trans hr)
      exact hend
    · exact fun hend => ⟨req, hlive, hend⟩
  rw [hiff]
  split_ifs at h with hstop hnext
  · refine .inr ⟨fun hend => hend.1 hstop, ?_⟩
    obtain ⟨resp, -, h⟩ := bind_ok_iff.1 h
    obtain ⟨t, ht, h⟩ := bind_ok_iff.1 h
    obtain ⟨q, -, h⟩ := bind_ok_iff.1 h
    obtain rfl := Except.ok.inj ht
    obtain rfl := Except.ok.inj h
    exact ⟨rfl, rfl, rfl⟩
  · refine .inr ⟨fun hend => hend.2 hnext, ?_⟩
    obtain ⟨channel, -, h⟩ := bind_ok_iff.1 h
    obtain ⟨t, ht, h⟩ := bind_ok_iff.1 h
    obtain rfl := Except.ok.inj h
    rw [setFreq_eq_ok ht]
    exact ⟨rfl, rfl, rfl⟩
  · exact .inl ⟨⟨hstop, hnext⟩, endScan_back h⟩

/-- Where the end of a scan starts the timer. -/
def EndsScan (s : Mac80211) : Input → Prop
  | .minExpire _ => s.recvdResponse = false ∧ s.Finishes
  | .maxExpire _ => s.Finishes
  | _ => False

instance (s : Mac80211) (i : Input) : Decidable (s.EndsScan i) :=
  match i with
  | .minExpire _ => inferInstanceAs (Decidable (s.recvdResponse = false ∧ s.Finishes))
  | .maxExpire _ => inferInstanceAs (Decidable s.Finishes)
  | .command _ => isFalse id
  | .probeExpire => isFalse id
  | .bssExpire => isFalse id
  | .beacon _ _ => isFalse id
  | .probeResponse _ _ => isFalse id
  | .assocResponse _ _ _ => isFalse id
  | .managementSent => isFalse id
  | .managementFailed => isFalse id

theorem minExpire_bss (h : s.minExpire [] = .ok s') :
    (s.EndsScan (.minExpire []) ∧ s.BackFromScan s') ∨
      (¬ s.EndsScan (.minExpire []) ∧ s.SameBss s') := by
  obtain ⟨-, ⟨hrecvd, frame, rfl⟩ | ⟨hrecvd, u, hu, rfl⟩⟩ := minExpire_cases h
  · refine .inr ⟨fun hend => ?_, rfl, rfl, rfl⟩
    rw [hend.1] at hrecvd
    cases hrecvd
  · rcases nextScan_bss hu with ⟨hend, hback⟩ | ⟨hno, hsame⟩
    · exact .inl ⟨⟨hrecvd, hend⟩, hback.1, hback.2, hback.3⟩
    · exact .inr ⟨fun hend => hno hend.2, hsame.1, hsame.2, hsame.3⟩

theorem maxExpire_bss (h : s.maxExpire [] = .ok s') :
    (s.EndsScan (.maxExpire []) ∧ s.BackFromScan s') ∨
      (¬ s.EndsScan (.maxExpire []) ∧ s.SameBss s') := by
  obtain ⟨-, u, hu, rfl⟩ := maxExpire_cases h
  rcases nextScan_bss hu with ⟨hend, hback⟩ | ⟨hno, hsame⟩
  · exact .inl ⟨hend, hback.1, hback.2, hback.3⟩
  · exact .inr ⟨hno, hsame.1, hsame.2, hsame.3⟩

/-- `link_scan` leaves the access point and stops its timer. -/
theorem linkScan_bss {req : ScanRequest} (h : s.linkScan req = .ok s') :
    s' = s ∨ s'.hdvState = .disconnected ∧ s'.bssTimer ≠ .pending := by
  rcases linkScan_cases h with ⟨-, hsame⟩ | ⟨-, channel, frame, log, -, -, rfl⟩
  · exact .inl hsame
  · exact .inr ⟨rfl, cancelPending_ne_pending⟩

/-- The beacon is of the access point of the station. -/
def OwnBeacon (s : Mac80211) (src : MacAddr) : Prop := s.addr ≠ s.bssId ∧ src = s.bssId

instance (s : Mac80211) (src : MacAddr) : Decidable (s.OwnBeacon src) :=
  inferInstanceAs (Decidable (_ ∧ _))

/-- A beacon starts the timer if it is of the access point; that of another one may make the station
connect. -/
theorem recvBeacon_bss {src : MacAddr} {strong : Bool} (h : s.recvBeacon src strong = .ok s') :
    (s.OwnBeacon src ∧ s' = { s with bssTimer := .pending }) ∨
      ¬ s.OwnBeacon src ∧ (s.SameBss s' ∨ src ≠ s.bssId ∧ s.hdvState = .disconnected ∧
        ∃ channels, { s with channelIDAfterScan := channels }.linkConnect src = .ok s') := by
  unfold recvBeacon at h
  dsimp only at h
  split_ifs at h with haddr hsrc _ hdisc
  · obtain rfl := Except.ok.inj h
    exact .inr ⟨fun hown => hown.1 haddr, .inl ⟨rfl, rfl, rfl⟩⟩
  · exact .inl ⟨⟨haddr, hsrc⟩, (Except.ok.inj h).symm⟩
  · obtain ⟨t, ht, rfl⟩ := map_ok_iff.1 h
    obtain ⟨resp, rfl⟩ := addDescription_ok ht
    exact .inr ⟨fun hown => hsrc hown.2, .inl ⟨rfl, rfl, rfl⟩⟩
  · obtain rfl := Except.ok.inj h
    exact .inr ⟨fun hown => hsrc hown.2, .inl ⟨rfl, rfl, rfl⟩⟩
  · obtain rfl := Except.ok.inj h
    exact .inr ⟨fun hown => hsrc hown.2, .inl ⟨rfl, rfl, rfl⟩⟩
  · exact .inr ⟨fun hown => hsrc hown.2, .inr ⟨hsrc, hdisc, _, h⟩⟩
  · obtain rfl := Except.ok.inj h
    exact .inr ⟨fun hown => hsrc hown.2, .inl ⟨rfl, rfl, rfl⟩⟩

end Mac80211

/-! ### A station and the clock -/

/-- A station in time. -/
structure Watch where
  station : Mac80211
  maxBeaconLoss : ℕ
  clock : ℚ := 0
  bssTimeout : ℚ := 1 / 2
  /-- When `bssTimer_` expires. -/
  deadline : ℚ := 0
  /-- When the last beacon of an access point was received. -/
  beaconAt : MacAddr → Option ℚ := fun _ => none

namespace Watch

inductive Event
  | wait (t : ℚ)
  | beacon (src : MacAddr) (strong : Bool) (bint : ℕ)
  | input (i : Mac80211.Input)

/-- A beacon tells the interval in milliseconds; of the access point it starts the timer. -/
def recvBeacon (w : Watch) (src : MacAddr) (strong : Bool) (bint : ℕ) : Act Watch :=
  (w.station.recvBeacon src strong).map fun s =>
    let w' := { w with station := s, beaconAt := Function.update w.beaconAt src (some w.clock) }
    if w.station.OwnBeacon src then
      let bssTimeout : ℚ := w.maxBeaconLoss * (bint / 1000)
      { w' with bssTimeout := bssTimeout, deadline := w.clock + bssTimeout }
    else w'

def step (w : Watch) : Event → Act Watch
  | .wait t => .ok { w with clock := t }
  | .beacon src strong bint => w.recvBeacon src strong bint
  | .input i => (w.station.perform i).map fun s =>
      { w with
        station := s
        deadline := if w.station.EndsScan i then w.clock + w.bssTimeout else w.deadline }

/-- Time passes until the timer expires, beacons come from other nodes, and the users of the MIH
give their commands after the scan. -/
def Possible (w : Watch) : Event → Prop
  | .wait t => w.clock ≤ t ∧ (w.station.bssTimer = .pending → t ≤ w.deadline)
  | .beacon src _ _ => src ≠ ibssId ∧ src ≠ w.station.addr
  | .input (.beacon _ _) => False
  | .input (.command (.connect macPoA)) => macPoA ≠ ibssId
  | .input .bssExpire => w.station.bssTimer = .pending ∧ w.clock = w.deadline
  | .input (.minExpire react) => react = []
  | .input (.maxExpire react) => react = []
  | .input _ => True

/-- A connected station has its timer running. -/
def Supervised (w : Watch) : Prop :=
  w.station.hdvState = .connected → w.station.bssId ≠ ibssId → w.station.bssTimer = .pending

/-- When the timer disconnects the station, the last beacon of its access point is old enough. -/
def Justified (w : Watch) : Event → Prop
  | .input .bssExpire => w.station.bssId ≠ ibssId →
      ∀ t, w.beaconAt w.station.bssId = some t → t + w.bssTimeout ≤ w.clock
  | _ => True

/-- If the timer runs, it gives the access point its time since the last beacon. -/
def Fits (w : Watch) (poA : MacAddr) : Prop :=
  w.station.bssTimer = .pending → ∀ t, w.beaconAt poA = some t → t + w.bssTimeout ≤ w.deadline

/-- The timer runs when a response attaches the station, and when it goes on for an access point it
was not started for it fits. -/
def Covered (w : Watch) : Event → Prop
  | .input (.command (.connect macPoA)) => w.station.bssId = ibssId → w.Fits macPoA
  | .input (.assocResponse src accepted busy) =>
      accepted = true → busy = false → ¬ (src = w.station.bssId ∧ w.station.hdvState = .connected) →
        w.station.bssTimer = .pending ∧ w.Fits src
  | _ => True

variable {w w' : Watch} {s : Mac80211}

/-! ### What is kept -/

/-- The timer runs when it has to, and what it runs for is a known time. -/
structure Watched (w : Watch) : Prop where
  supervised : w.Supervised
  fits : w.Fits w.station.bssId
  past : ∀ src t, w.beaconAt src = some t → t ≤ w.clock
  attached : w.station.bssTimer = .pending →
    w.station.bssId ≠ ibssId ∨ w.station.hdvState = .connected

theorem Watched.same (h : w.Watched) (hs : w.station.SameBss s) :
    Watched { w with station := s } := by
  obtain ⟨hbss, hstate, htimer⟩ := hs
  refine ⟨fun hconn hid => ?_, fun hpending => ?_, h.past, fun hpending => ?_⟩
  · exact htimer.trans (h.supervised (hstate ▸ hconn) (hbss ▸ hid))
  · have hfits := h.fits (htimer ▸ hpending)
    rw [← hbss] at hfits
    exact hfits
  · dsimp only
    rw [hbss, hstate]
    exact h.attached (htimer ▸ hpending)

/-- A station without access point and timer needs no supervision. -/
theorem Watched.down (h : w.Watched) (hstate : s.hdvState ≠ .connected)
    (htimer : s.bssTimer ≠ .pending) : Watched { w with station := s } :=
  ⟨fun hconn => absurd hconn hstate, fun hpending => absurd hpending htimer, h.past,
    fun hpending => absurd hpending htimer⟩

theorem Watched.disconnect (h : w.Watched) :
    Watched { w with station := w.station.linkDisconnect } := by
  obtain ⟨-, hstate, htimer, -⟩ := w.station.linkDisconnect_attachment
  exact h.down (by simp [hstate]) (by simp [htimer])

theorem Watched.connect {macPoA : MacAddr} (h : w.Watched)
    (hfits : w.station.bssId = ibssId → w.Fits macPoA) (hmac : macPoA ≠ ibssId)
    (hs : w.station.linkConnect macPoA = .ok s) : Watched { w with station := s } := by
  obtain ⟨hbss, hstate, htimer⟩ := Mac80211.linkConnect_attachment hs
  have hno : s.hdvState ≠ .connected := by simp [hstate]
  split_ifs at htimer with hold
  · exact h.down hno (by simp [htimer])
  · have hfit : w.Fits macPoA := by
      by_cases hid : w.station.bssId = ibssId
      · exact hfits hid
      · have heq : macPoA = w.station.bssId := not_not.1 fun hne => hold ⟨hid, hne⟩
        exact heq ▸ h.fits
    refine ⟨fun hconn => absurd hconn hno, fun hpending => ?_, h.past, fun _ => .inl ?_⟩
    · dsimp only
      rw [hbss]
      exact hfit (htimer ▸ hpending)
    · dsimp only
      rwa [hbss]

theorem Watched.respond {src : MacAddr} {accepted busy : Bool} (h : w.Watched)
    (hcovered : w.Covered (.input (.assocResponse src accepted busy))) :
    Watched { w with station := w.station.recvAssocResponse src accepted busy } := by
  rcases w.station.recvAssocResponse_cases src accepted busy with
    ⟨hsame, -⟩ | ⟨⟨hbusy, hdup⟩, ⟨haccepted, log, handover, heq, -⟩ | ⟨-, heq⟩⟩
  · rw [hsame]
    exact h
  · obtain ⟨hpending, hfits⟩ := hcovered haccepted hbusy hdup
    rw [heq]
    exact ⟨fun _ _ => hpending, fun _ => hfits hpending, h.past, fun _ => .inr rfl⟩
  · rw [heq]
    obtain ⟨-, hstate, htimer, -⟩ :=
      Mac80211.linkDisconnect_attachment { w.station with bssId := ibssId }
    exact h.down (by simp [hstate]) (by simp [htimer])

/-- The end of a scan gives the access point its whole time. -/
theorem Watched.back (h : w.Watched) (hs : w.station.BackFromScan s) :
    Watched { w with station := s, deadline := w.clock + w.bssTimeout } :=
  ⟨fun _ _ => hs.bssTimer, fun _ t ht => add_le_add_left (h.past _ t ht) _, h.past,
    fun _ => .inr hs.hdvState⟩

/-! ### One step -/

theorem Watched.recvBeacon {src : MacAddr} {strong : Bool} {bint : ℕ} (h : w.Watched)
    (hsrc : src ≠ ibssId) (haddr : src ≠ w.station.addr)
    (hstep : w.recvBeacon src strong bint = .ok w') : w'.Watched := by
  obtain ⟨s, hs, rfl⟩ := map_ok_iff.1 hstep
  have hpast : ∀ src' t, Function.update w.beaconAt src (some w.clock) src' = some t →
      t ≤ w.clock := by
    intro src' t ht
    by_cases heq : src' = src
    · subst heq
      rw [Function.update_self] at ht
      exact (Option.some.inj ht).ge
    · rw [Function.update_of_ne heq] at ht
      exact h.past src' t ht
  rcases Mac80211.recvBeacon_bss hs with ⟨hown, rfl⟩ | ⟨hown, hsame | ⟨hne, hdisc, channels, hconn⟩⟩
  · rw [if_pos hown]
    refine ⟨fun _ _ => rfl, fun _ t ht => ?_, hpast, fun _ => .inl ?_⟩
    · have hself :
          Function.update w.beaconAt src (some w.clock) w.station.bssId = some w.clock := by
        rw [← hown.2, Function.update_self]
      obtain rfl := Option.some.inj (hself.symm.trans ht)
      exact le_rfl
    · exact fun hid => hsrc (hown.2.trans hid)
  all_goals
    rw [if_neg hown]
    have hother : w.station.bssId ≠ src := by
      intro hbss
      by_cases hap : w.station.addr = w.station.bssId
      · exact haddr (hap.trans hbss).symm
      · exact hown ⟨hap, hbss.symm⟩
    have hw : Watched { w with beaconAt := Function.update w.beaconAt src (some w.clock) } := by
      refine ⟨h.supervised, fun hpending t ht => h.fits hpending t ?_, hpast, h.attached⟩
      simpa [hother] using ht
  · exact hw.same hsame
  · have hw' : Watched { w with
        station := { w.station with channelIDAfterScan := channels }
        beaconAt := Function.update w.beaconAt src (some w.clock) } := hw.same ⟨rfl, rfl, rfl⟩
    refine hw'.connect (fun hid hpending => ?_) hsrc hconn
    rcases h.attached hpending with hne | hstate
    · exact absurd hid hne
    · rw [hdisc] at hstate
      cases hstate

theorem Watched.step {e : Event} (h : w.Watched) (hpossible : w.Possible e)
    (hcovered : w.Covered e) (hstep : w.step e = .ok w') : w'.Watched := by
  cases e with
  | wait t =>
    obtain rfl := Except.ok.inj hstep
    exact ⟨h.supervised, h.fits, fun src b hb => (h.past src b hb).trans hpossible.1, h.attached⟩
  | beacon src strong bint => exact h.recvBeacon hpossible.1 hpossible.2 hstep
  | input i =>
    obtain ⟨s, hs, rfl⟩ := map_ok_iff.1 hstep
    cases i with
    | command c =>
      rw [if_neg (show ¬ w.station.EndsScan (.command c) from id)]
      cases c with
      | connect macPoA => exact h.connect hcovered hpossible hs
      | disconnect =>
        obtain rfl := Except.ok.inj hs
        exact h.disconnect
      | scan req =>
        rcases Mac80211.linkScan_bss hs with rfl | ⟨hstate, htimer⟩
        · exact h
        · exact h.down (by simp [hstate]) htimer
    | probeExpire =>
      obtain ⟨-, frame, rfl⟩ := Mac80211.probeExpire_ok hs
      exact h.same ⟨rfl, rfl, rfl⟩
    | minExpire react =>
      obtain rfl : react = [] := hpossible
      rcases Mac80211.minExpire_bss hs with ⟨hend, hback⟩ | ⟨hno, hsame⟩
      · rw [if_pos hend]
        exact h.back hback
      · rw [if_neg hno]
        exact h.same hsame
    | maxExpire react =>
      obtain rfl : react = [] := hpossible
      rcases Mac80211.maxExpire_bss hs with ⟨hend, hback⟩ | ⟨hno, hsame⟩
      · rw [if_pos hend]
        exact h.back hback
      · rw [if_neg hno]
        exact h.same hsame
    | bssExpire =>
      rcases Mac80211.bssExpire_cases hs with ⟨-, hstate, htimer, -⟩ | ⟨hbss, rfl⟩
      · exact h.down (by simp [hstate]) htimer
      · exact ⟨fun _ hid => absurd hbss hid,
          fun hpending => TimerStatus.noConfusion hpending, h.past,
          fun hpending => TimerStatus.noConfusion hpending⟩
    | beacon src strong => exact absurd hpossible id
    | probeResponse src busy =>
      obtain ⟨resp, rfl⟩ := Mac80211.recvProbeResponse_ok hs
      exact h.same ⟨rfl, rfl, rfl⟩
    | assocResponse src accepted busy =>
      obtain rfl := Except.ok.inj hs
      exact h.respond hcovered
    | managementSent =>
      obtain rfl := Except.ok.inj hs
      exact h.same ⟨rfl, rfl, rfl⟩
    | managementFailed =>
      obtain rfl := Except.ok.inj hs
      rcases w.station.managementFailed_cases with ⟨-, heq⟩ | ⟨-, heq⟩
      · rw [if_neg (show ¬ w.station.EndsScan .managementFailed from id), heq]
        obtain ⟨-, hstate, htimer, -⟩ := w.station.linkDisconnect_attachment
        exact h.down (by simp [hstate]) (by simp [htimer])
      · rw [if_neg (show ¬ w.station.EndsScan .managementFailed from id), heq]
        exact h.same ⟨rfl, rfl, rfl⟩

theorem Watched.justified {e : Event} (h : w.Watched) (hpossible : w.Possible e) :
    w.Justified e := by
  cases e with
  | input i =>
    cases i with
    | bssExpire =>
      obtain ⟨hpending, hnow⟩ := hpossible
      intro _ t ht
      rw [hnow]
      exact h.fits hpending t ht
    | _ => trivial
  | _ => trivial

/-! ### Runs -/

/-- The station has not been connected, and has heard nothing. -/
structure Fresh (w : Watch) : Prop where
  hdvState : w.station.hdvState = .disconnected
  bssTimer : w.station.bssTimer = .idle
  beaconAt : ∀ src, w.beaconAt src = none

theorem Fresh.watched (h : w.Fresh) : w.Watched := by
  refine ⟨fun hconn => ?_, fun hpending => ?_, fun src t ht => ?_, fun hpending => ?_⟩
  · rw [h.hdvState] at hconn
    cases hconn
  · rw [h.bssTimer] at hpending
    cases hpending
  · rw [h.beaconAt] at ht
    cases ht
  · rw [h.bssTimer] at hpending
    cases hpending

/-- Let the timer run whenever a response attaches the station, and fit whenever it goes on for
another access point.  Then a connected station is supervised in every state of a run, and its timer
disconnects it only when the last beacon of its access point is as old as `bss_timeout_`. -/
theorem supervised_of_covered (w : Watch) (hfresh : w.Fresh) (es : List Event)
    (hpossible : StepsMeet step Possible w es) (hcovered : StepsMeet step Covered w es) :
    Throughout step Supervised w es ∧ StepsMeet step Justified w es := by
  have hstep : ∀ u e u', Watched u → Possible u e ∧ Covered u e → step u e = .ok u' → Watched u' :=
    fun u e u' hu he hu' => hu.step he.1 he.2 hu'
  have hmeet := hpossible.and hcovered
  exact ⟨throughout_of_invariant hstep (fun _ hu => hu.supervised) hfresh.watched hmeet,
    hmeet.imp hstep (fun _ _ hu he => hu.justified he.1) hfresh.watched⟩

/-- A station that knows the channels of its access points. -/
def sampleWatch : Watch :=
  { station := { addr := 9, mih := true, channelIDAfterScan := fun _ => 1 }, maxBeaconLoss := 3 }

/-- A beacon comes between the request and the response, the station scans, and the access point
falls silent. -/
def sampleSilence : List Event :=
  [.input (.command (.connect 3)), .wait (1 / 10), .beacon 3 true 100,
    .input (.assocResponse 3 true false), .input .managementSent,
    .input (.command (.scan ⟨.scanAll, [6]⟩)), .wait (2 / 10), .input (.maxExpire []),
    .wait (3 / 10), .beacon 3 true 100, .wait (6 / 10), .input .bssExpire]

instance (w : Watch) (e : Event) : Decidable (w.Possible e) :=
  match e with
  | .wait t =>
    inferInstanceAs (Decidable (w.clock ≤ t ∧ (w.station.bssTimer = .pending → t ≤ w.deadline)))
  | .beacon src _ _ => inferInstanceAs (Decidable (src ≠ ibssId ∧ src ≠ w.station.addr))
  | .input (.command (.connect macPoA)) => inferInstanceAs (Decidable (macPoA ≠ ibssId))
  | .input (.command .disconnect) => isTrue trivial
  | .input (.command (.scan _)) => isTrue trivial
  | .input .probeExpire => isTrue trivial
  | .input (.minExpire react) => inferInstanceAs (Decidable (react = []))
  | .input (.maxExpire react) => inferInstanceAs (Decidable (react = []))
  | .input .bssExpire =>
    inferInstanceAs (Decidable (w.station.bssTimer = .pending ∧ w.clock = w.deadline))
  | .input (.beacon _ _) => isFalse id
  | .input (.probeResponse _ _) => isTrue trivial
  | .input (.assocResponse _ _ _) => isTrue trivial
  | .input .managementSent => isTrue trivial
  | .input .managementFailed => isTrue trivial

instance (w : Watch) (poA : MacAddr) : Decidable (w.Fits poA) :=
  match h : w.beaconAt poA with
  | some t =>
    decidable_of_iff (w.station.bssTimer = .pending → t + w.bssTimeout ≤ w.deadline)
      ⟨fun hfit hp _ ht => Option.some.inj (h.symm.trans ht) ▸ hfit hp, fun hfit hp => hfit hp t h⟩
  | none => isTrue fun _ _ ht => by simp [h] at ht

instance (w : Watch) (e : Event) : Decidable (w.Covered e) :=
  match e with
  | .input (.command (.connect macPoA)) =>
    inferInstanceAs (Decidable (w.station.bssId = ibssId → w.Fits macPoA))
  | .input (.assocResponse src accepted busy) =>
    inferInstanceAs (Decidable (accepted = true → busy = false →
      ¬ (src = w.station.bssId ∧ w.station.hdvState = .connected) →
        w.station.bssTimer = .pending ∧ w.Fits src))
  | .wait _ => isTrue trivial
  | .beacon _ _ _ => isTrue trivial
  | .input (.command .disconnect) => isTrue trivial
  | .input (.command (.scan _)) => isTrue trivial
  | .input .probeExpire => isTrue trivial
  | .input (.minExpire _) => isTrue trivial
  | .input (.maxExpire _) => isTrue trivial
  | .input .bssExpire => isTrue trivial
  | .input (.beacon _ _) => isTrue trivial
  | .input (.probeResponse _ _) => isTrue trivial
  | .input .managementSent => isTrue trivial
  | .input .managementFailed => isTrue trivial

theorem supervised_of_beacon :
    Throughout step Supervised sampleWatch sampleSilence ∧
      StepsMeet step Justified sampleWatch sampleSilence :=
  supervised_of_covered sampleWatch ⟨rfl, rfl, fun _ => rfl⟩ sampleSilence (by decide +kernel)
    (by decide +kernel)

/-- The response of the access point does not start the timer.  And a timer that the scan of a
disconnected station has left running disconnects it from an access point that was just heard. -/
theorem not_supervised :
    (∃ w, runSteps step sampleWatch
        [.input (.command (.connect 3)), .input (.assocResponse 3 true false)] = .ok w ∧
      w.station.hdvState = .connected ∧ w.station.bssTimer = .idle ∧ ¬ w.Supervised) ∧
    ∃ w, runSteps step sampleWatch
        [.input (.command (.scan ⟨.scanAll, [6]⟩)), .input (.maxExpire []), .wait (4 / 10),
          .beacon 7 true 100, .input (.command (.connect 7)), .wait (5 / 10)] = .ok w ∧
      w.Possible (.input .bssExpire) ∧ ¬ w.Justified (.input .bssExpire) := by
  refine ⟨⟨_, rfl, rfl, rfl, fun h => TimerStatus.noConfusion (h rfl (by decide))⟩, _, rfl, ?_, ?_⟩
  · decide +kernel
  · intro h
    exact absurd (h (by decide) (4 / 10) rfl) (by decide +kernel)

end Watch

end SipNemo.Mac
