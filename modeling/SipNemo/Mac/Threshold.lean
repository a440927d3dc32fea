import SipNemo.Mac.ClientSide

/-!
# The RTS threshold

A data packet is compared with `RTSThreshold` when its RTS is built, when `tx_resume` chooses how
long to defer, when the deferral ends, when it arrives, and when its acknowledgement arrives or does
not.  What is decided at each place is a property of the packet and the parameters; each depends on
the threshold alone, but three of the places take a packet of exactly that size for a long one and
three do not (`threshold_agrees_iff`).
-/

namespace SipNemo.Mac

open Outcome
open Mih (MacAddr)

namespace Transmitter

variable {s t u : Transmitter} {mib : Mib} {p : DataFrame} {n : ℕ}

/-- Of all there is to send only a data packet is pending, and a channel scan is not under way. -/
structure HasData (s : Transmitter) (mib : Mib) (p : DataFrame) : Prop where
  mib : s.mib = mib
  pktTx : s.pktTx = some p
  pktRTS : s.pktRTS = false
  pktCTRL : s.pktCTRL = none
  pktBeacon : s.pktBeacon = false
  pktManagement : s.pktManagement = none
  scanning : s.scanning = false

/-- No timer of the transmitting side runs, and the MAC is not kept from sending by `nav_`. -/
structure Rests (s : Transmitter) : Prop where
  mhSend : s.mhSend = false
  mhDefer : s.mhDefer = false
  mhBackoff : s.mhBackoff = .idle
  nav : s.nav = false

/-! ### The sender -/

/-- `sendRTS` builds an RTS for the packet. -/
def BuildsRTS (mib : Mib) (p : DataFrame) : Prop :=
  ∀ s : Transmitter, s.HasData mib p → ∃ t, s.sendRTS p.ra = .ok t ∧ t.pktRTS = true

/-- The RTS for the packet has been sent, and nothing else happened since. -/
structure AwaitsCTS (s : Transmitter) (mib : Mib) (p : DataFrame) : Prop where
  data : { s with pktRTS := false }.HasData mib p
  pktRTS : s.pktRTS = true
  txState : s.txState = .rts
  mhSend : s.mhSend = true
  rests : { s with mhSend := false }.Rests

/-- The CTS has come, and `tx_resume` is called. -/
def ctsReceived (s : Transmitter) : Transmitter :=
  { s with pktRTS := false, mhSend := false, ssrc := 0 }

/-- After the CTS `tx_resume` defers for a SIFS, and if the medium is idle when that ends the packet
is sent. -/
def SentAfterSIFS (mib : Mib) (p : DataFrame) : Prop :=
  ∀ (n : ℕ) (s : Transmitter), s.AwaitsCTS mib p →
    ∃ t u, s.recvCTS (n + 1) = .ok t ∧ t.mhDefer = true ∧ t.deferFor = .sifs ∧
      (t.setRxState .idle).step (n + 1) .deferExpires = .ok u ∧
      u.mhSend = true ∧ u.lastTx = some .tx

/-- A transmission that is not acknowledged is counted by `slrc_`, up to the long retry limit. -/
def CountedLong (mib : Mib) (p : DataFrame) : Prop :=
  ∀ s : Transmitter, s.HasData mib p → s.mhBackoff = .idle →
    ∃ t, s.retransmitDATA = .ok t ∧ t.ssrc = s.ssrc ∧
      (t.slrc, t.pktTx) = if mib.longRetryLimit ≤ countUp s.slrc then (0, none)
        else (countUp s.slrc, some p)

/-- The acknowledgement of the packet resets `slrc_` and not `ssrc_`. -/
def ResetsLong (mib : Mib) (p : DataFrame) : Prop :=
  ∀ (n : ℕ) (s t : Transmitter), s.HasData mib p → s.txState = .send → s.lastTx = some .tx →
    s.recvACK n = .ok t → t.slrc = 0 ∧ t.ssrc = s.ssrc

/-! ### The receiver -/

/-- The acknowledgement of a packet has been put in `pktCTRL_`. -/
def Accepts (s t : Transmitter) : Prop := s.pktCTRL ≠ some .ack ∧ t.pktCTRL = some .ack

/-- The packet is accepted in the state `MAC_CTS` only. -/
def AcceptedInCTS (mib : Mib) (p : DataFrame) : Prop :=
  ∀ (n : ℕ) (s t : Transmitter), s.mib = mib → s.recvDATA n p.size = .ok t → s.Accepts t →
    s.txState = .cts

/-- All decide alike. -/
def ThresholdAgrees (mib : Mib) (p : DataFrame) : Prop :=
  (BuildsRTS mib p ↔ SentAfterSIFS mib p) ∧ (BuildsRTS mib p ↔ AcceptedInCTS mib p) ∧
    (BuildsRTS mib p ↔ CountedLong mib p) ∧ (BuildsRTS mib p ↔ ResetsLong mib p)

/-! ### What each depends on -/

section Decisions

variable (mib : Mib) {p : DataFrame}

/-- A station with the packet in `pktTx_` and no more to do. -/
def sampleSender (p : DataFrame) : Transmitter := { ap := false, mib := mib, pktTx := some p }

theorem sampleSender_hasData (p : DataFrame) : (sampleSender mib p).HasData mib p :=
  ⟨rfl, rfl, rfl, rfl, rfl, rfl, rfl⟩

theorem sendRTS_of_data (hmib : s.mib = mib) (htx : s.pktTx = some p) (hrts : s.pktRTS = false)
    (hp : p.ra ≠ macBroadcast) :
    s.sendRTS p.ra = .ok (if p.size < mib.rtsThreshold then s else { s with pktRTS := true }) := by
  unfold sendRTS assertThat
  rw [htx, if_pos hrts, hmib]
  show (if p.size < mib.rtsThreshold ∨ p.ra = macBroadcast then _ else _) = _
  split_ifs with h1 h2 h2
  · rfl
  · exact (h1.elim h2 hp).elim
  · exact (h1 (Or.inl h2)).elim
  · rfl

theorem buildsRTS_iff (hp : p.ra ≠ macBroadcast) :
    BuildsRTS mib p ↔ mib.rtsThreshold ≤ p.size := by
  constructor
  · intro h
    obtain ⟨t, ht, hrts⟩ := h _ (sampleSender_hasData mib p)
    rw [sendRTS_of_data mib rfl rfl rfl hp] at ht
    cases ht
    by_contra hlt
    rw [if_pos (by omega)] at hrts
    cases hrts
  · intro hle s h
    refine ⟨_, sendRTS_of_data mib h.mib h.pktTx h.pktRTS hp, ?_⟩
    rw [if_neg (by omega)]

/-- Nothing is paused or resumed when the timer does not run. -/
theorem setTxState_of_idle (h : s.mhBackoff = .idle) (x : MacState) :
    s.setTxState x = { s with txState := x } := by
  simp [setTxState, checkBackoffTimer, h]

theorem setRxState_of_idle (h : s.mhBackoff = .idle) (x : MacState) :
    s.setRxState x = { s with rxState := x } := by
  simp [setRxState, checkBackoffTimer, h]

/-- The end of a deferral: a packet that is longer than the threshold is sent, another one waits
for a back-off. -/
theorem deferHandler_of_hasData (h : s.HasData mib p) (hrests : s.Rests) (hidle : s.IsIdle)
    (hp : p.ra ≠ macBroadcast) :
    s.deferHandler = if mib.rtsThreshold < p.size then ({ s with txState := .send }.transmit .tx)
      else s.startBackoff := by
  have hpending : s.pktCTRL.isSome ∨ s.pktBeacon = true ∨ s.pktManagement.isSome ∨
      s.pktRTS = true ∨ s.pktTx.isSome := by
    simp [h.pktTx]
  have hbackoff : assertThat (s.mhBackoff = .idle) = .ok () := if_pos hrests.mhBackoff
  have hctrl : s.checkPktCTRL = .ok none := by
    unfold checkPktCTRL
    rw [h.pktCTRL]
  have hbeacon : s.checkPktBeacon = .ok none := by
    unfold checkPktBeacon
    rw [hbackoff, h.pktBeacon]
    rfl
  have hsifs : s.checkAfterSIFS = if mib.rtsThreshold < p.size then
      ({ s with txState := .send }.transmit .tx).map some else .ok none := by
    unfold checkAfterSIFS checkPktTx
    rw [if_pos ⟨h.pktManagement, h.pktRTS⟩, hbackoff, h.pktTx, h.mib,
      setTxState_of_idle hrests.mhBackoff]
    show (if mib.rtsThreshold < p.size ∧ p.ra ≠ macBroadcast then
      (if s.IsIdle then _ else _) else _) = _
    simp only [hp, hidle, ne_eq, not_false_eq_true, and_true, if_true]
    rw [h.mib, h.pktTx]
  unfold deferHandler assertThat
  rw [if_pos hpending, hctrl, hbeacon, hsifs, if_pos hrests.mhBackoff]
  split_ifs
  · cases { s with txState := .send }.transmit .tx with
    | ok t => rfl
    | error e => rfl
  · rfl

/-- `tx_resume` defers for the packet. -/
theorem txResume_of_hasData (h : s.HasData mib p) (hrests : s.Rests) :
    s.txResume (n + 1) =
      .ok ({ s with mhDefer := true, deferFor := s.dataInterval }.setTxState .idle) := by
  have hstart : s.startDefer s.dataInterval =
      .ok { s with mhDefer := true, deferFor := s.dataInterval } := by
    simp [startDefer, assertThat, hrests.mhDefer]
  simp [txResume, assertThat, hrests.mhSend, hrests.mhDefer, h.pktCTRL, h.pktBeacon,
    h.pktManagement, h.scanning, h.pktRTS, h.pktTx, deferUnlessBackoff, hrests.mhBackoff, hstart]

theorem dataInterval_of_hasData (h : s.HasData mib p) (hp : p.ra ≠ macBroadcast) :
    s.dataInterval = if p.size < mib.rtsThreshold then .difs else .sifs := by
  simp [dataInterval, h.pktTx, h.mib, hp]

/-- The packet from the call of `tx_resume` to the end of the deferral. -/
theorem deferral_of_hasData (h : s.HasData mib p) (hrests : s.Rests) (hp : p.ra ≠ macBroadcast) :
    ∃ t, s.txResume (n + 1) = .ok t ∧ t.mhDefer = true ∧ t.deferFor = s.dataInterval ∧
      (t.setRxState .idle).step (n + 1) .deferExpires = if mib.rtsThreshold < p.size then
          ({ s with
            txState := .send, rxState := .idle, mhDefer := false
            deferFor := s.dataInterval }.transmit .tx)
        else ({ s with
          txState := .idle, rxState := .idle, mhDefer := false
          deferFor := s.dataInterval }.startBackoff) := by
  have hresume := txResume_of_hasData (n := n) mib h hrests
  rw [setTxState_of_idle (s := { s with mhDefer := true, deferFor := s.dataInterval })
    hrests.mhBackoff] at hresume
  refine ⟨_, hresume, rfl, rfl, ?_⟩
  rw [setRxState_of_idle
    (s := { s with mhDefer := true, deferFor := s.dataInterval, txState := .idle })
    hrests.mhBackoff]
  exact deferHandler_of_hasData mib
    (s := { s with
      txState := .idle, rxState := .idle, mhDefer := false, deferFor := s.dataInterval })
    { h with } { hrests with mhDefer := rfl } ⟨rfl, rfl, hrests.nav⟩ hp

theorem AwaitsCTS.recvCTS (h : s.AwaitsCTS mib p) :
    s.recvCTS n = s.ctsReceived.txResume n ∧ s.ctsReceived.HasData mib p ∧
      s.ctsReceived.Rests := by
  have htx : assertNonNull s.pktTx = .ok p := by
    rw [h.data.pktTx]
    rfl
  have hrts : assertThat (s.pktRTS = true) = .ok () := if_pos h.pktRTS
  have hstop : { s with pktRTS := false }.stopSend =
      .ok { s with pktRTS := false, mhSend := false } := by
    unfold stopSend assertThat
    rw [if_pos h.mhSend]
    rfl
  refine ⟨?_, { h.data with }, { h.rests with }⟩
  unfold Transmitter.recvCTS
  rw [if_neg (not_not.mpr h.txState), hrts]
  show assertNonNull s.pktTx >>= _ = _
  rw [htx]
  show { s with pktRTS := false }.stopSend >>= _ = _
  rw [hstop]
  rfl

theorem sentAfterSIFS_iff (hp : p.ra ≠ macBroadcast) :
    SentAfterSIFS mib p ↔ mib.rtsThreshold < p.size := by
  constructor
  · intro h
    let s := { sampleSender mib p with pktRTS := true, txState := .rts, mhSend := true }
    have hawaits : s.AwaitsCTS mib p :=
      ⟨{ sampleSender_hasData mib p with }, rfl, rfl, rfl, ⟨rfl, rfl, rfl, rfl⟩⟩
    obtain ⟨hcts, hdata, hrests⟩ := hawaits.recvCTS (n := 1)
    obtain ⟨t, u, ht, -, -, hu, hsend, -⟩ := h 0 _ hawaits
    obtain ⟨t', ht', -, -, hstep⟩ := deferral_of_hasData (n := 0) mib hdata hrests hp
    obtain rfl : t = t' := Except.ok.inj ((ht.symm.trans hcts).trans ht')
    by_contra hle
    rw [hstep, if_neg hle] at hu
    cases hu
    cases hsend
  · intro hlt n s hawaits
    obtain ⟨hcts, hdata, hrests⟩ := hawaits.recvCTS (n := n + 1)
    obtain ⟨t, ht, hdefer, hinterval, hstep⟩ := deferral_of_hasData (n := n) mib hdata hrests hp
    rw [dataInterval_of_hasData mib hdata hp, if_neg hlt.not_gt] at hinterval
    rw [if_pos hlt] at hstep
    unfold transmit assertThat at hstep
    dsimp only at hstep
    rw [if_pos hrests.mhSend] at hstep
    exact ⟨t, _, hcts.trans ht, hdefer, hinterval, hstep, rfl, rfl⟩

theorem startBackoff_of_idle (h : s.mhBackoff = .idle) :
    ∃ t, s.startBackoff = .ok t ∧ t.ssrc = s.ssrc ∧ t.slrc = s.slrc ∧ t.pktTx = s.pktTx := by
  unfold startBackoff assertThat
  rw [if_pos h]
  exact ⟨_, rfl, rfl, rfl, rfl⟩

/-- A packet that was not acknowledged. -/
theorem retransmitDATA_of_hasData (h : s.HasData mib p) (hidle : s.mhBackoff = .idle)
    (hp : p.ra ≠ macBroadcast) :
    ∃ t, s.retransmitDATA = .ok t ∧ (t.ssrc, t.slrc, t.pktTx) =
      if p.size ≤ mib.rtsThreshold then
        if mib.shortRetryLimit ≤ countUp s.ssrc then (0, s.slrc, none)
        else (countUp s.ssrc, s.slrc, some p)
      else if mib.longRetryLimit ≤ countUp s.slrc then (s.ssrc, 0, none)
      else (s.ssrc, countUp s.slrc, some p) := by
  obtain rfl := h.mib
  have hbackoff : assertThat (s.mhBackoff = .idle) = .ok () := if_pos hidle
  have htx : assertNonNull s.pktTx = .ok p := by rw [h.pktTx]; rfl
  have hrts : assertThat (s.pktRTS = false) = .ok () := if_pos h.pktRTS
  have hresend : ∀ t : Transmitter, t.pktTx = some p → t.pktRTS = false →
      t.mhBackoff = .idle → ∃ u, (t.sendRTS p.ra >>= fun v => v.startBackoff) = .ok u ∧
        (u.ssrc, u.slrc, u.pktTx) = (t.ssrc, t.slrc, some p) := by
    intro t htx hnone ht
    rw [sendRTS_of_data t.mib rfl htx hnone hp]
    split_ifs
    · obtain ⟨u, hu, h1, h2, h3⟩ := startBackoff_of_idle ht
      exact ⟨u, hu, by rw [h1, h2, h3, htx]⟩
    · obtain ⟨u, hu, h1, h2, h3⟩ := startBackoff_of_idle (s := { t with pktRTS := true }) ht
      exact ⟨u, hu, by rw [h1, h2, h3, htx]⟩
  unfold retransmitDATA
  rw [hbackoff, htx, hrts]
  show ∃ t, (if p.ra = macBroadcast then _ else _) = _ ∧ _
  rw [if_neg hp]
  dsimp only
  split_ifs with hsize hcount hcount
  · exact ⟨{ s with ssrc := 0, pktTx := none }, rfl, rfl⟩
  · exact hresend { s with ssrc := countUp s.ssrc } h.pktTx h.pktRTS hidle
  · exact ⟨{ s with slrc := 0, pktTx := none }, rfl, rfl⟩
  · exact hresend { s with slrc := countUp s.slrc } h.pktTx h.pktRTS hidle

theorem countedLong_iff (hp : p.ra ≠ macBroadcast) :
    CountedLong mib p ↔ mib.rtsThreshold < p.size := by
  constructor
  · intro h
    -- one missing acknowledgement before, which either counter would still show
    have hdata : { sampleSender mib p with ssrc := 1 }.HasData mib p :=
      { sampleSender_hasData mib p with }
    obtain ⟨t, ht, hssrc, -⟩ := h _ hdata rfl
    obtain ⟨t', ht', hcount⟩ := retransmitDATA_of_hasData mib hdata rfl hp
    obtain rfl : t = t' := Except.ok.inj (ht.symm.trans ht')
    by_contra hle
    rw [if_pos (by omega), hssrc] at hcount
    split_ifs at hcount
    · cases congrArg Prod.fst hcount
    · cases congrArg Prod.fst hcount
  · intro hlt s h hidle
    obtain ⟨t, ht, hcount⟩ := retransmitDATA_of_hasData mib h hidle hp
    rw [if_neg (by omega)] at hcount
    refine ⟨t, ht, ?_⟩
    split_ifs at hcount ⊢
    · exact ⟨congrArg Prod.fst hcount, congrArg Prod.snd hcount⟩
    · exact ⟨congrArg Prod.fst hcount, congrArg Prod.snd hcount⟩

/-- A packet that was acknowledged. -/
theorem recvACK_of_hasData (h : s.HasData mib p) (hstate : s.txState = .send)
    (hlast : s.lastTx = some .tx) (ht : s.recvACK n = .ok t) :
    (t.ssrc, t.slrc) = if p.size ≤ mib.rtsThreshold then (0, s.slrc) else (s.ssrc, 0) := by
  let count (u : Transmitter) := (u.ssrc, u.slrc)
  have hresume : ∀ u : Transmitter, Keeps count (u.txResume n) u := fun u =>
    (txResume_keeps n u).comp fun v hv => by
      have hssrc := congrArg ssrc hv
      have hslrc := congrArg slrc hv
      exact Prod.ext hssrc hslrc
  have hbackoff : ∀ u : Transmitter,
      Keeps count (if u.pktBeacon = false then u.startBackoff else .ok u) u := by
    intro u
    split_ifs
    · exact keeps_assertThat rfl
    · rfl
  let stopped := { s with mhSend := false }
  have hacked : stopped.dataAcknowledged = .ok (
      if p.size ≤ mib.rtsThreshold then { stopped with ssrc := 0, pktTx := none }
      else { stopped with slrc := 0, pktTx := none }) := by
    have htx : deref stopped.pktTx = .ok p := by
      rw [h.pktTx]
      rfl
    unfold dataAcknowledged
    rw [htx, ← h.mib]
    show Except.ok _ = _
    split_ifs
    · rfl
    · rfl
  have hpointer : stopped.pointer .tx = stopped.lastTx := by
    simp [stopped, pointer, h.pktTx, hlast]
  have hmeets : Keeps count (s.recvACK n)
      (if p.size ≤ mib.rtsThreshold then { stopped with ssrc := 0, pktTx := none }
        else { stopped with slrc := 0, pktTx := none }) := by
    unfold recvACK
    rw [if_neg (not_not.mpr hstate)]
    refine keeps_assertThat (Meets.bind (R := (· = stopped)) (keeps_assertThat rfl) ?_)
    rintro _ rfl
    rw [if_pos hpointer, hacked]
    exact keeps_assertThat (Keeps.bind (hbackoff _) hresume)
  have hcount := hmeets.of_ok ht
  split_ifs at hcount ⊢
  · exact hcount
  · exact hcount

theorem resetsLong_iff : ResetsLong mib p ↔ mib.rtsThreshold < p.size := by
  constructor
  · intro h
    by_contra hle
    let s := { sampleSender mib p with
      txState := .send, lastTx := some .tx, mhSend := true, slrc := 1 }
    have hdata : s.HasData mib p := { sampleSender_hasData mib p with }
    have hack : ∃ t, s.recvACK 1 = .ok t := by
      have hsize : p.size ≤ mib.rtsThreshold := by omega
      refine ⟨{ s with mhSend := false, ssrc := 0, pktTx := none, txState := .idle
                       mhBackoff := .running }, ?_⟩
      simp [s, sampleSender, recvACK, stopSend, dataAcknowledged, assertThat, deref, pointer, hsize,
        startBackoff, txResume, setTxState, checkBackoffTimer, IsIdle]
    obtain ⟨t, ht⟩ := hack
    have hcount := recvACK_of_hasData mib hdata rfl rfl ht
    rw [if_pos (by omega)] at hcount
    have hslrc : t.slrc = 1 := congrArg Prod.snd hcount
    rw [(h 1 s t hdata rfl rfl ht).1] at hslrc
    cases hslrc
  · intro hlt n s t h hstate hlast ht
    have hcount := recvACK_of_hasData mib h hstate hlast ht
    rw [if_neg (by omega)] at hcount
    exact ⟨congrArg Prod.snd hcount, congrArg Prod.fst hcount⟩

/-! ### The receiver's decision -/

theorem acceptedInCTS_iff : AcceptedInCTS mib p ↔ mib.rtsThreshold ≤ p.size := by
  constructor
  · intro h
    by_contra hlt
    let s : Transmitter := { ap := false, mib := mib }
    have hack : s.recvDATA 1 p.size =
        .ok { s with pktCTRL := some .ack, mhDefer := true, deferFor := .sifs } := by
      unfold recvDATA
      rw [if_neg hlt]
      rfl
    cases h 1 s _ rfl hack ⟨Option.some_ne_none _ |>.symm, rfl⟩
  · intro hle n s t hmib ht haccepts
    subst hmib
    by_contra hcts
    unfold recvDATA at ht
    rw [if_pos hle, if_neg hcts] at ht
    cases ht
    exact haccepts.1 haccepts.2

/-- The decisions agree on a packet to one station unless its size is the threshold. -/
theorem threshold_agrees_iff (hp : p.ra ≠ macBroadcast) :
    ThresholdAgrees mib p ↔ p.size ≠ mib.rtsThreshold := by
  unfold ThresholdAgrees
  rw [buildsRTS_iff mib hp, sentAfterSIFS_iff mib hp, acceptedInCTS_iff mib,
    countedLong_iff mib hp, resetsLong_iff mib]
  omega

end Decisions

/-- The threshold is `3000` bytes. -/
def thresholdMib : Mib := ⟨3000, 7, 4, 28, 54, 54, 52⟩

theorem threshold_agrees_of_long : ThresholdAgrees thresholdMib ⟨1, 2, 3001⟩ :=
  (threshold_agrees_iff thresholdMib (by decide)).2 (by decide)

/-- A packet of the size of the threshold is announced by an RTS and accepted after it only, but
waits for a back-off after the CTS and is counted as a short one. -/
theorem threshold_disagrees :
    BuildsRTS thresholdMib ⟨1, 2, 3000⟩ ∧ AcceptedInCTS thresholdMib ⟨1, 2, 3000⟩ ∧
      ¬ SentAfterSIFS thresholdMib ⟨1, 2, 3000⟩ ∧ ¬ CountedLong thresholdMib ⟨1, 2, 3000⟩ ∧
      ¬ ResetsLong thresholdMib ⟨1, 2, 3000⟩ ∧ ¬ ThresholdAgrees thresholdMib ⟨1, 2, 3000⟩ := by
  have hbuilds : BuildsRTS thresholdMib ⟨1, 2, 3000⟩ :=
    (buildsRTS_iff thresholdMib (by decide)).2 (by decide)
  have hsent : ¬ SentAfterSIFS thresholdMib ⟨1, 2, 3000⟩ :=
    mt (sentAfterSIFS_iff thresholdMib (by decide)).1 (by decide)
  refine ⟨hbuilds, (acceptedInCTS_iff thresholdMib).2 (by decide), hsent, ?_, ?_, ?_⟩
  · exact mt (countedLong_iff thresholdMib (by decide)).1 (by decide)
  · exact mt (resetsLong_iff thresholdMib).1 (by decide)
  · exact fun hagrees => hsent (hagrees.1.1 hbuilds)

end Transmitter

end SipNemo.Mac
