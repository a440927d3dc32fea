import SipNemo.Mac.Packets

/-!
# The discipline of the transmit timers

At most one of `mhSend_`, `mhDefer_` and `mhBackoff_` runs, but for a back-off beside the deferral
of a control frame or the sending of one (`Disciplined`).  `tx_resume` restores the discipline
wherever it may be called, and the handlers of `mhDefer_` and `mhBackoff_` and the interface queue
keep it.
-/

namespace SipNemo.Mac

open Outcome Runs
open Mih (MacAddr)

namespace Transmitter

variable {s t : Transmitter} {n : ℕ} {E : Abort → Prop}

/-! ### The frames and the pointers to them -/

/-- A frame waits to be sent. -/
def HasFrame (s : Transmitter) : Prop :=
  s.pktCTRL.isSome ∨ s.pktBeacon = true ∨ s.pktManagement.isSome ∨ s.pktRTS = true ∨ s.pktTx.isSome

/-- What `pktRetransmit_` points to while a beacon is pending. -/
def Postponed (s : Transmitter) (f : FramePtr) : Prop :=
  s.pktBeacon = true ∧
    (f = .management ∧ s.pktManagement.isSome ∨ f = .tx ∧ s.pktTx.isSome ∧ s.pktRTS = false)

/-- The pointers go together. -/
structure Slots (s : Transmitter) : Prop where
  rts : s.pktRTS = true → s.pktTx.isSome
  tx : s.pktTx.isSome → s.tmpPacket = none ∧ s.callback = true
  tmp : s.tmpPacket.isSome → s.callback = true
  callback : s.callback = true → s.blocked = true
  station : s.ap = false → s.pktBeacon = false
  queue : s.pktManagement = none → s.managementQueue = []
  requests : s.ap = false → s.managementQueue = [] ∧ ∀ m, s.pktManagement = some m →
    m.subtype ≠ .assocRes
  retransmit : ∀ f, s.pktRetransmit = some f → s.Postponed f
  packets : s.At s.packetPhase

theorem Slots.retransmit_eq_none (h : s.Slots) (hbeacon : s.pktBeacon = false) :
    s.pktRetransmit = none := by
  refine Option.eq_none_iff_forall_ne_some.2 fun f hf => ?_
  rw [(h.retransmit f hf).1] at hbeacon
  cases hbeacon

/-- The frame `last_tx_` points to in `MAC_SEND`. -/
def Sent (s : Transmitter) : Prop :=
  s.lastTx = some .beacon ∧ s.pktBeacon = true ∨
    s.pktRetransmit = none ∧
      (s.lastTx = some .management ∧ s.pktManagement.isSome ∨
        s.lastTx = some .tx ∧ s.pktTx.isSome ∧ s.pktRTS = false)

/-- What is on the air while `mhSend_` runs. -/
def OnAir (s : Transmitter) : Prop :=
  match s.txState with
  | .rts => s.pktRTS = true ∧ s.mhBackoff = .idle
  | .cts => s.pktCTRL.isSome
  | .ack => s.pktCTRL.isSome
  | .send => s.Sent ∧ s.mhBackoff = .idle
  | _ => False

theorem OnAir.imp (h : s.OnAir) (htx : t.txState = s.txState)
    (hctrl : s.pktCTRL.isSome → t.pktCTRL.isSome)
    (hrts : s.txState = .rts → s.pktRTS = true ∧ s.mhBackoff = .idle →
      t.pktRTS = true ∧ t.mhBackoff = .idle)
    (hsent : s.txState = .send → s.Sent ∧ s.mhBackoff = .idle → t.Sent ∧ t.mhBackoff = .idle) :
    t.OnAir := by
  unfold OnAir at h ⊢
  rw [htx]
  split at h
  · rename_i hx
    exact hrts hx h
  · exact hctrl h
  · exact hctrl h
  · rename_i hx
    exact hsent hx h
  · exact h.elim

/-- `mhDefer_` runs for a frame, beside `mhBackoff_` only for a control frame, which never waits
without it. -/
structure Waiting (s : Transmitter) : Prop where
  slots : s.Slots
  send : s.mhSend = false
  frame : s.mhDefer = true → s.HasFrame ∧ (s.mhBackoff = .idle ∨ s.pktCTRL.isSome)
  ctrl : s.pktCTRL.isSome → s.mhDefer = true

/-- A frame is on the air. -/
structure Sending (s : Transmitter) : Prop where
  slots : s.Slots
  send : s.mhSend = true
  defer : s.mhDefer = false
  onAir : s.OnAir

/-- Nothing is on the air, or a frame is. -/
def Phase (s : Transmitter) : Prop := s.Waiting ∧ s.txState = .idle ∨ s.Sending

/-- The timers keep to their discipline. -/
structure Disciplined (s : Transmitter) : Prop where
  phase : s.Phase
  running : s.mhBackoff = .running → s.IsIdle

/-- The state without what no phase depends on. -/
def core (s : Transmitter) : Transmitter :=
  { s with
    rxState := .idle, nav := false, txActive := false, rxError := false, scanning := false
    ssrc := 0, slrc := 0, clients := [], tmpPacket := none, callback := false, ifq := []
    blocked := false, log := [] }

theorem Phase.frame (h : s.Phase) (hcore : t.core = s.core) (hslots : t.Slots) : t.Phase := by
  have hair : s.core.OnAir = t.core.OnAir := by rw [hcore]
  have hframe : s.core.HasFrame = t.core.HasFrame := by rw [hcore]
  have hsend : t.mhSend = s.mhSend := (by rw [hcore] : t.core.mhSend = s.core.mhSend)
  have hdefer : t.mhDefer = s.mhDefer := (by rw [hcore] : t.core.mhDefer = s.core.mhDefer)
  have hback : t.mhBackoff = s.mhBackoff := (by rw [hcore] : t.core.mhBackoff = s.core.mhBackoff)
  have hctrl : t.pktCTRL = s.pktCTRL := (by rw [hcore] : t.core.pktCTRL = s.core.pktCTRL)
  have htx : t.txState = s.txState := (by rw [hcore] : t.core.txState = s.core.txState)
  rcases h with ⟨hwait, hidle⟩ | hsending
  · refine Or.inl ⟨⟨hslots, hsend.trans hwait.send, ?_, ?_⟩, htx.trans hidle⟩
    · rw [hdefer, hback, hctrl]
      exact fun hd => ⟨hframe ▸ (hwait.frame hd).1, (hwait.frame hd).2⟩
    · rw [hdefer, hctrl]
      exact hwait.ctrl
  · exact Or.inr ⟨hslots, hsend.trans hsending.send, hdefer.trans hsending.defer,
      hair ▸ hsending.onAir⟩

/-- Whether `mhBackoff_` is paused does not matter. -/
theorem Phase.backoff (h : s.Phase) {b : BackoffTimer} (hb : b = .idle ↔ s.mhBackoff = .idle) :
    { s with mhBackoff := b }.Phase := by
  rcases h with ⟨hwait, hidle⟩ | hsending
  · refine Or.inl ⟨{ hwait with slots := { hwait.slots with }, frame := ?_ }, hidle⟩
    simpa [HasFrame, hb] using hwait.frame
  · refine Or.inr { hsending with slots := { hsending.slots with }, onAir := ?_ }
    simpa [OnAir, Sent, hb] using hsending.onAir

theorem Phase.slots (h : s.Phase) : s.Slots := h.elim (fun hw => hw.1.slots) Sending.slots

theorem Phase.setRxState (h : s.Phase) (x : MacState) : (s.setRxState x).Disciplined := by
  obtain ⟨b, hb, hiff⟩ := s.setRxState_eq x
  refine ⟨?_, checkBackoffTimer_running⟩
  rw [hb]
  exact (h.backoff hiff).frame rfl { h.slots with }

/-- At the end of `tx_resume` nothing is on the air. -/
theorem Waiting.setTxState (h : s.Waiting) :
    (s.setTxState .idle).Disciplined ∧ (s.setTxState .idle).mhSend = false := by
  obtain ⟨b, hb, hiff⟩ := s.setTxState_eq .idle
  refine ⟨⟨?_, checkBackoffTimer_running⟩, ?_⟩
  · rw [hb]
    have hphase : { s with txState := .idle }.Phase :=
      Or.inl ⟨{ h with slots := { h.slots with } }, rfl⟩
    exact hphase.backoff hiff
  · rw [hb]
    exact h.send

theorem Disciplined.waiting (h : s.Disciplined) (hsend : s.mhSend = false) :
    s.Waiting ∧ s.txState = .idle := by
  refine h.phase.resolve_right fun hsending => ?_
  rw [hsending.send] at hsend
  cases hsend

theorem Disciplined.sending (h : s.Disciplined) (hsend : s.mhSend = true) : s.Sending := by
  refine h.phase.resolve_left fun hwait => ?_
  rw [hwait.1.send] at hsend
  cases hsend

/-! ### Packets of the interface queue -/

/-- The state after `sendDATA` and `sendRTS`. -/
def taken (s : Transmitter) (p : DataFrame) (rts : Bool) : Transmitter :=
  { s.emit (.sendDATA p) with
    callback := true
    pktTx := some { p with size := p.size + s.mib.hdrLen11 }
    pktRTS := rts }

theorem sendRTS_ok {q : DataFrame} (htx : s.pktTx = some q) (hrts : s.pktRTS = false)
    (dst : MacAddr) : ∃ b, s.sendRTS dst = .ok { s with pktRTS := b } := by
  unfold sendRTS assertThat
  by_cases hsize : q.size < s.mib.rtsThreshold ∨ dst = macBroadcast
  · refine ⟨false, ?_⟩
    have hsame : { s with pktRTS := false } = s := by rw [← hrts]
    rw [hsame]
    simp [htx, hrts, hsize]
  · exact ⟨true, by simp [htx, hrts, hsize]⟩

theorem takePacket_ok (htx : s.pktTx = none) (hrts : s.pktRTS = false) (p : DataFrame) :
    ∃ b, s.takePacket p = (s.taken p b).awaitMedium := by
  obtain ⟨b, hb⟩ := sendRTS_ok (s := s.taken p false) rfl rfl p.ra
  refine ⟨b, ?_⟩
  have hdata : ({ s with callback := true }.sendDATA p) = .ok (s.taken p false) := by
    simp [sendDATA, assertThat, htx, taken, emit, hrts]
  simp only [takePacket, hdata, ok_bind, hb]
  rfl

/-- Only an access point may abort. -/
def ApOnly (s : Transmitter) : Abort → Prop := fun _ => s.ap = true

/-- What `tx_resume` does at an access point where neither `mhSend_` nor `mhDefer_` runs. -/
def Resumes (resume : Transmitter → Act Transmitter) : Prop :=
  ∀ s : Transmitter, s.ap = true → s.Slots → s.mhSend = false → s.mhDefer = false →
    Meets (resume s) s.ApOnly Waiting

/-- No frame waits, and the queue waits for its packet. -/
structure Free (s : Transmitter) : Prop where
  blocked : s.blocked = true
  send : s.mhSend = false
  defer : s.mhDefer = false
  ctrl : s.pktCTRL = none
  beacon : s.pktBeacon = false
  management : s.pktManagement = none
  rts : s.pktRTS = false
  tx : s.pktTx = none
  queue : s.managementQueue = []
  retransmit : s.pktRetransmit = none

theorem Free.slots (h : s.Free) (htmp : s.tmpPacket = none) (hat : s.At s.packetPhase) :
    s.Slots where
  rts := by simp [h.rts]
  tx := by simp [h.tx]
  tmp := by simp [htmp]
  callback := fun _ => h.blocked
  station := fun _ => h.beacon
  queue := fun _ => h.queue
  requests := fun _ => ⟨h.queue, by simp [h.management]⟩
  retransmit := by simp [h.retransmit]
  packets := hat

theorem Free.waiting (h : s.Free) (hslots : s.Slots) : s.Waiting :=
  ⟨hslots, h.send, by simp [h.defer], by simp [h.ctrl]⟩

/-- The packet waits for the medium. -/
theorem Free.takePacket_waiting (h : s.Free) {p : DataFrame} {clients : List Client}
    (hat : s.At (.asked p clients)) (hp : ¬ Refuses s.ap clients p) :
    Meets (s.takePacket p) s.ApOnly fun t =>
      t.tmpPacket = s.tmpPacket ∧ { t with tmpPacket := none }.Waiting := by
  obtain ⟨b, hb⟩ := takePacket_ok h.tx h.rts p
  rw [hb]
  have hslots : { s.taken p b with tmpPacket := none }.Slots :=
    { rts := fun _ => rfl
      tx := fun _ => ⟨rfl, rfl⟩
      tmp := by simp
      callback := fun _ => h.blocked
      station := fun _ => h.beacon
      queue := fun _ => h.queue
      requests := fun _ => ⟨h.queue, by simp [taken, emit, h.management]⟩
      retransmit := by simp [taken, emit, h.retransmit]
      packets := hat.sendDATA hp }
  rcases (s.taken p b).awaitMedium_cases with ⟨hok, -⟩ | ⟨hok, hidle, -⟩ | ⟨hok, -⟩
  · rw [hok]
    exact ⟨rfl, hslots, h.send, by simp [taken, emit, h.defer], by simp [taken, emit, h.ctrl]⟩
  · rw [hok]
    refine ⟨rfl, { hslots with }, h.send, fun _ => ?_, fun _ => rfl⟩
    exact ⟨by simp [HasFrame, taken], Or.inl hidle⟩
  · rw [hok]
    exact ⟨rfl, { hslots with }, h.send, by simp [taken, emit, h.defer],
      by simp [taken, emit, h.ctrl]⟩

/-- A packet that the queue hands down is discarded or waits for the medium. -/
theorem Free.send_waiting (h : s.Free) (htmp : s.tmpPacket = none) {p : DataFrame}
    (hat : s.At (.held p)) {resume : Transmitter → Act Transmitter} (hresume : Resumes resume) :
    Meets (s.send resume p) s.ApOnly Waiting := by
  have hpassed : (s.emit (.passed p s.clients)).Free := { h with }
  unfold Transmitter.send
  dsimp only
  split_ifs with hdrop hidle hkeep
  · have hdropped : ((s.emit (.passed p s.clients)).discardPacket p).Free := { h with }
    refine hresume _ hdrop.1 (hdropped.slots htmp ?_) h.send h.defer
    have hphase : ((s.emit (.passed p s.clients)).discardPacket p).packetPhase = .consumed := by
      simp [packetPhase, discardPacket, emit, htmp]
    rw [hphase]
    exact hat.passed.discardPacket hdrop
  · have hdropped : ((s.emit (.passed p s.clients)).discardPacket p).Free := { h with }
    refine hdropped.waiting (hdropped.slots htmp ?_)
    have hphase : ((s.emit (.passed p s.clients)).discardPacket p).packetPhase = .consumed := by
      simp [packetPhase, discardPacket, emit, htmp]
    rw [hphase]
    exact hat.passed.discardPacket hdrop
  · simp [emit, h.management, h.beacon] at hkeep
  · refine (hpassed.takePacket_waiting hat.passed hdrop).mono (fun _ he => he) fun t ht => ?_
    have hnone : t.tmpPacket = none := ht.1.trans htmp
    have hsame : { t with tmpPacket := none } = t := by rw [← hnone]
    exact hsame ▸ ht.2

/-- `tx_resume` passes the packet that was kept to `send`, which discards it and calls `tx_resume`
again. -/
structure Stuck (s : Transmitter) (p : DataFrame) : Prop where
  send : s.mhSend = false
  defer : s.mhDefer = false
  backoff : s.mhBackoff = .idle
  ctrl : s.pktCTRL = none
  beacon : s.pktBeacon = false
  management : s.pktManagement = none
  scanning : s.scanning = false
  rts : s.pktRTS = false
  tx : s.pktTx = none
  callback : s.callback = true
  tmp : s.tmpPacket = some p
  refuses : Refuses s.ap s.clients p

theorem Stuck.send_eq {p : DataFrame} (h : s.Stuck p) {resume : Transmitter → Act Transmitter}
    (hresume : ∀ t : Transmitter, t.Stuck p → resume t = .error .recursion) :
    s.send resume p = .error .recursion := by
  have hdrop : Refuses (s.emit (.passed p s.clients)).ap (s.emit (.passed p s.clients)).clients p :=
    h.refuses
  have hidle : ((s.emit (.passed p s.clients)).discardPacket p).TimersIdle :=
    ⟨h.backoff, h.defer, h.send⟩
  unfold Transmitter.send
  dsimp only
  rw [if_pos hdrop, if_pos hidle]
  exact hresume _ { h with callback := rfl }

/-- Then the calls nest without end. -/
theorem Stuck.txResume {p : DataFrame} (h : s.Stuck p) (n : ℕ) :
    s.txResume n = .error .recursion := by
  induction n generalizing s with
  | zero => rfl
  | succ n ih =>
    have hsend := h.send_eq fun t ht => ih (s := t) ht
    simp [Transmitter.txResume, assertThat, h.send, h.defer, h.ctrl, h.beacon, h.management,
      h.scanning, h.rts, h.tx, h.callback, h.tmp, hsend]
    rfl

/-- A packet that was kept is discarded or waits for the medium, unless `tx_resume` is called again
for it. -/
theorem Free.sendKept_waiting (h : s.Free) {p : DataFrame} (hat : s.At (.held p))
    (hback : Refuses s.ap s.clients p → s.mhBackoff ≠ .idle)
    (resume : Transmitter → Act Transmitter) :
    Meets (s.send resume p) s.ApOnly fun t => { t with tmpPacket := none }.Waiting := by
  have hpassed : (s.emit (.passed p s.clients)).Free := { h with }
  unfold Transmitter.send
  dsimp only
  split_ifs with hdrop hidle hkeep
  · exact (hback hdrop hidle.1).elim
  · have hdropped :
        { (s.emit (.passed p s.clients)).discardPacket p with tmpPacket := none }.Free :=
      { h with }
    exact hdropped.waiting (hdropped.slots rfl (hat.passed.discardPacket hdrop))
  · simp [emit, h.management, h.beacon] at hkeep
  · exact (hpassed.takePacket_waiting hat.passed hdrop).mono (fun _ he => he) fun t ht => ht.2

theorem Free.resumeQueue_waiting (h : s.Free) (htmp : s.tmpPacket = none)
    (hcallback : s.callback = false) (hat : s.At .ready)
    {resume : Transmitter → Act Transmitter} (hresume : Resumes resume) :
    Meets (s.resumeQueue resume) s.ApOnly Waiting := by
  have hphase : s.packetPhase = .ready := by simp [packetPhase, hcallback]
  unfold resumeQueue
  split
  · refine ⟨?_, h.send, by simp [h.defer], by simp [h.ctrl]⟩
    exact { h.slots htmp (hphase ▸ hat) with callback := by simp [hcallback] }
  · rename_i p q hq
    have hfree : ({ s with ifq := q }.emit (.handed p)).Free := { h with }
    exact hfree.send_waiting htmp (At.handed (s := { s with ifq := q }) hat p) hresume

/-- Waiting for a frame other than a control frame. -/
theorem Slots.deferUnlessBackoff_waiting (h : s.Slots) (hsend : s.mhSend = false)
    (hdefer : s.mhDefer = false) (hctrl : s.pktCTRL = none) (hframe : s.HasFrame) (ifs : Ifs) :
    Meets (s.deferUnlessBackoff ifs) s.ApOnly Waiting := by
  unfold deferUnlessBackoff startDefer assertThat
  split_ifs with hidle
  · exact ⟨{ h with }, hsend, fun _ => ⟨hframe, Or.inl hidle⟩, fun _ => rfl⟩
  · exact ⟨h, hsend, by simp [hdefer], by simp [hctrl]⟩

/-- The frames `tx_resume` finds, when `mhSend_` and `mhDefer_` do not run. -/
theorem txResume_waiting (hslots : s.Slots) (hsend : s.mhSend = false) (hdefer : s.mhDefer = false)
    (hresume : Resumes (txResume n)) :
    Meets (s.txResume (n + 1)) s.ApOnly fun t => t.Disciplined ∧ t.mhSend = false := by
  unfold txResume
  refine meets_assertThat hsend (meets_assertThat hdefer ?_)
  refine Meets.bind (R := Waiting) ?_ fun t ht => ht.setTxState
  split_ifs with hctrl hbeacon hmgmt hscan hrts htx hcallback
  · unfold startDefer
    refine meets_assertThat hdefer ?_
    exact ⟨{ hslots with }, hsend, fun _ => ⟨Or.inl hctrl, Or.inr hctrl⟩, fun _ => rfl⟩
  · exact hslots.deferUnlessBackoff_waiting hsend hdefer (by simpa using hctrl)
      (by simp [HasFrame, hbeacon]) _
  · exact hslots.deferUnlessBackoff_waiting hsend hdefer (by simpa using hctrl)
      (by simp [HasFrame, hmgmt]) _
  · exact ⟨hslots, hsend, by simp [hdefer], fun h => (hctrl h).elim⟩
  · exact hslots.deferUnlessBackoff_waiting hsend hdefer (by simpa using hctrl)
      (by simp [HasFrame, hrts]) _
  · exact hslots.deferUnlessBackoff_waiting hsend hdefer (by simpa using hctrl)
      (by simp [HasFrame, htx]) _
  · have hfree : s.Free :=
      { blocked := hslots.callback hcallback
        send := hsend
        defer := hdefer
        ctrl := by simpa using hctrl
        beacon := by simpa using hbeacon
        management := by simpa using hmgmt
        rts := by simpa using hrts
        tx := by simpa using htx
        queue := hslots.queue (by simpa using hmgmt)
        retransmit := hslots.retransmit_eq_none (by simpa using hbeacon) }
    have hat := hslots.packets
    split
    · rename_i p hp
      rw [packetPhase, hcallback, hp] at hat
      by_cases hstuck : Refuses s.ap s.clients p ∧ s.mhBackoff = .idle
      · have hall : s.Stuck p :=
          ⟨hsend, hdefer, hstuck.2, hfree.ctrl, hfree.beacon, hfree.management,
            by simpa using hscan,
            hfree.rts, hfree.tx, hcallback, hp, hstuck.1⟩
        rw [hall.send_eq fun t ht => ht.txResume n]
        exact hstuck.1.1
      · refine (hfree.sendKept_waiting hat (fun hdrop hback => hstuck ⟨hdrop, hback⟩) _).bind ?_
        exact fun t ht => ht
    · rename_i htmp
      rw [packetPhase, hcallback, htmp] at hat
      rw [htmp, Option.not_isSome_iff_eq_none.1 htx]
      have hcalled : ({ s.emit (.callback none none) with callback := false }).Free :=
        { hfree with }
      exact hcalled.resumeQueue_waiting htmp rfl hat.callback hresume
  · exact ⟨hslots, hsend, by simp [hdefer], fun h => (hctrl h).elim⟩

/-- `tx_resume` leaves the timers as they should be. -/
theorem txResume_disciplined (n : ℕ) : ∀ {s : Transmitter}, s.Slots → s.mhSend = false →
    s.mhDefer = false →
      Meets (s.txResume (n + 1)) s.ApOnly fun t => t.Disciplined ∧ t.mhSend = false := by
  induction n with
  | zero =>
    intro s hslots hsend hdefer
    exact txResume_waiting hslots hsend hdefer fun _ hap _ _ _ => hap
  | succ n ih =>
    intro s hslots hsend hdefer
    refine txResume_waiting hslots hsend hdefer fun t _ hslots hsend hdefer => ?_
    exact (ih hslots hsend hdefer).mono (fun e he => he) fun u hu => (hu.1.waiting hu.2).1

/-- A frame that waits for the medium disturbs nothing unless it starts a back-off in the middle of
an exchange. -/
theorem Disciplined.awaitMedium (h : s.Disciplined) (hframe : s.HasFrame)
    (hpause : s.mhBackoff = .idle → ¬ s.IsIdle →
      (s.mhDefer = true → s.pktCTRL.isSome) ∧ s.txState ≠ .send ∧ s.txState ≠ .rts) :
    Meets s.awaitMedium E Disciplined := by
  rcases s.awaitMedium_cases with ⟨hok, -⟩ | ⟨hok, hback, hidle⟩ | ⟨hok, hback, hidle⟩
  · rw [hok]
    exact h
  · rw [hok]
    have hsend : s.mhSend = false := by
      by_contra hsend
      have honair := (h.sending (by simpa using hsend)).onAir
      simp [OnAir, hidle.2.1] at honair
    have hwait := (h.waiting hsend).1
    refine ⟨Or.inl ⟨⟨{ hwait.slots with }, hsend, fun _ => ⟨hframe, Or.inl hback⟩, fun _ => rfl⟩,
      hidle.2.1⟩, fun hrun => ?_⟩
    rw [hback] at hrun
    cases hrun
  · rw [hok]
    obtain ⟨hctrl, hnosend, hnorts⟩ := hpause hback hidle
    refine ⟨?_, by simp⟩
    rcases h.phase with ⟨hwait, htx⟩ | hsending
    · refine Or.inl ⟨{ hwait with slots := { hwait.slots with }, frame := fun hdefer => ?_ }, htx⟩
      exact ⟨(hwait.frame hdefer).1, Or.inr (hctrl hdefer)⟩
    · refine Or.inr { hsending with slots := { hsending.slots with }, onAir := ?_ }
      exact hsending.onAir.imp rfl id (fun hx => (hnorts hx).elim) fun hx => (hnosend hx).elim

/-- The queue may hand down a packet. -/
structure Unblocked (s : Transmitter) : Prop where
  disciplined : s.Disciplined
  blocked : s.blocked = false

theorem Unblocked.callback (h : s.Unblocked) : s.callback = false := by
  by_contra hno
  cases (h.disciplined.phase.slots.callback (by simpa using hno)).symm.trans h.blocked

theorem Unblocked.at_ready (h : s.Unblocked) : s.At .ready := by
  have hat := h.disciplined.phase.slots.packets
  rwa [packetPhase, h.callback] at hat

theorem Unblocked.empty (h : s.Unblocked) :
    s.tmpPacket = none ∧ s.pktTx = none ∧ s.pktRTS = false := by
  have hslots := h.disciplined.phase.slots
  have htx : s.pktTx = none := by
    by_contra hno
    cases h.callback.symm.trans (hslots.tx (Option.isSome_iff_ne_none.2 hno)).2
  refine ⟨?_, htx, ?_⟩
  · by_contra hno
    cases h.callback.symm.trans (hslots.tmp (Option.isSome_iff_ne_none.2 hno))
  · by_contra hno
    have hrts := hslots.rts (by simpa using hno)
    rw [htx] at hrts
    cases hrts

/-- While the queue may hand down a packet, only a control frame or a beacon is on the air. -/
theorem Unblocked.txState (h : s.Unblocked) (hmgmt : s.pktManagement = none)
    (hbeacon : s.pktBeacon = false) : s.txState ≠ .send ∧ s.txState ≠ .rts := by
  obtain ⟨-, htx, hrts⟩ := h.empty
  rcases h.disciplined.phase with ⟨-, hidle⟩ | hsending
  · simp [hidle]
  · have honair := hsending.onAir
    constructor
    · intro hsend
      simp [OnAir, Sent, hsend, hbeacon, hmgmt, htx] at honair
    · intro hx
      simp [OnAir, hx, hrts] at honair

/-- The packet is handed down and passed to `send`. -/
def handedDown (s : Transmitter) (p : DataFrame) (q : List DataFrame) : Transmitter :=
  { s with
    ifq := q
    blocked := true
    log := s.log ++ [.handed p] ++ [.passed p s.clients] }

theorem Unblocked.at_asked (h : s.Unblocked) (p : DataFrame) (q : List DataFrame) :
    (s.handedDown p q).At (.asked p s.clients) := by
  have hready : { s with ifq := q, blocked := true }.At .ready := h.at_ready
  exact (hready.handed p).passed

/-- A packet that is taken starts no back-off in the middle of an exchange. -/
theorem Unblocked.takePacket (h : s.Unblocked) (hmgmt : s.pktManagement = none)
    (hbeacon : s.pktBeacon = false) {p : DataFrame} {q : List DataFrame}
    (hp : ¬ Refuses s.ap s.clients p) :
    Meets ((s.handedDown p q).takePacket p) s.ApOnly Disciplined := by
  obtain ⟨htmp, htx, hrts⟩ := h.empty
  obtain ⟨hnosend, hnorts⟩ := h.txState hmgmt hbeacon
  obtain ⟨b, hb⟩ := takePacket_ok (s := s.handedDown p q) htx hrts p
  have hslots := h.disciplined.phase.slots
  have hret := hslots.retransmit_eq_none hbeacon
  have hphase : ((s.handedDown p q).taken p b).packetPhase = .consumed := by
    simp [packetPhase, taken, handedDown, emit, htmp]
  have htaken : ((s.handedDown p q).taken p b).Slots :=
    { rts := fun _ => rfl
      tx := fun _ => ⟨htmp, rfl⟩
      tmp := fun _ => rfl
      callback := fun _ => rfl
      station := fun _ => hbeacon
      queue := hslots.queue
      requests := hslots.requests
      retransmit := by simp [taken, handedDown, emit, hret]
      packets := hphase ▸ (h.at_asked p q).sendDATA hp }
  have hdisc : ((s.handedDown p q).taken p b).Phase := by
    rcases h.disciplined.phase with ⟨hwait, hidle⟩ | hsending
    · refine Or.inl ⟨{ hwait with slots := htaken, frame := fun hdefer => ?_ }, hidle⟩
      exact ⟨by simp [HasFrame, taken], (hwait.frame hdefer).2⟩
    · refine Or.inr { hsending with slots := htaken, onAir := ?_ }
      exact hsending.onAir.imp rfl id (fun hx => (hnorts hx).elim) fun hx => (hnosend hx).elim
  rw [hb]
  refine Disciplined.awaitMedium (s := (s.handedDown p q).taken p b)
    ⟨hdisc, h.disciplined.running⟩ (by simp [HasFrame, taken])
    fun hback hidle => ⟨fun hdefer => ?_, hnosend, hnorts⟩
  rcases h.disciplined.phase with ⟨hwait, -⟩ | hsending
  · have hctrl : s.pktCTRL.isSome := by
      simpa [HasFrame, hbeacon, hmgmt, hrts, htx] using (hwait.frame hdefer).1
    exact hctrl
  · cases hsending.defer.symm.trans hdefer

theorem send_handedDown (s : Transmitter) (p : DataFrame) (q : List DataFrame)
    (resume : Transmitter → Act Transmitter) :
    ({ s with ifq := q, blocked := true }.emit (.handed p)).send resume p =
      if Refuses s.ap s.clients p then
        if ((s.handedDown p q).discardPacket p).TimersIdle then
          resume ((s.handedDown p q).discardPacket p)
        else .ok ((s.handedDown p q).discardPacket p)
      else if s.pktManagement.isSome ∨ s.pktBeacon = true then .ok ((s.handedDown p q).keepPacket p)
      else (s.handedDown p q).takePacket p := rfl

theorem Unblocked.discardPacket_slots (h : s.Unblocked) {p : DataFrame} (q : List DataFrame)
    (hp : Refuses s.ap s.clients p) : ((s.handedDown p q).discardPacket p).Slots := by
  obtain ⟨htmp, htx, -⟩ := h.empty
  have hslots := h.disciplined.phase.slots
  have hphase : ((s.handedDown p q).discardPacket p).packetPhase = .consumed := by
    simp [packetPhase, handedDown, discardPacket, emit, htmp]
  have hat := (h.at_asked p q).discardPacket hp
  rw [← hphase] at hat
  exact { hslots with
    tx := by simp [handedDown, discardPacket, emit, htx]
    tmp := fun _ => rfl
    callback := fun _ => rfl
    packets := hat }

theorem Unblocked.keepPacket_slots (h : s.Unblocked) {p : DataFrame} (q : List DataFrame)
    (hp : ¬ Refuses s.ap s.clients p) : ((s.handedDown p q).keepPacket p).Slots := by
  obtain ⟨-, htx, -⟩ := h.empty
  have hslots := h.disciplined.phase.slots
  exact { hslots with
    tx := by simp [handedDown, keepPacket, emit, htx]
    tmp := fun _ => rfl
    callback := fun _ => rfl
    packets := (h.at_asked p q).keepPacket hp }

/-- The packet that the queue hands down is discarded, kept or taken. -/
theorem Unblocked.send (h : s.Unblocked) (p : DataFrame) (q : List DataFrame) :
    Meets (({ s with ifq := q, blocked := true }.emit (.handed p)).send (txResume (n + 1)) p)
      s.ApOnly Disciplined := by
  rw [send_handedDown]
  split_ifs with hdrop hidle hkeep
  · have hresumed := txResume_disciplined n (h.discardPacket_slots q hdrop) hidle.2.2 hidle.2.1
    exact hresumed.mono (fun _ he => he) fun t ht => ht.1
  · exact ⟨h.disciplined.phase.frame rfl (h.discardPacket_slots q hdrop), h.disciplined.running⟩
  · exact ⟨h.disciplined.phase.frame rfl (h.keepPacket_slots q hdrop), h.disciplined.running⟩
  · obtain ⟨hmgmt, hbeacon⟩ := not_or.1 hkeep
    exact h.takePacket (by simpa using hmgmt) (by simpa using hbeacon) hdrop

/-- `Queue::recv`. -/
theorem arrive_disciplined (h : s.Disciplined) (p : DataFrame) :
    Meets (s.arrive (n + 1) p) s.ApOnly Disciplined := by
  unfold arrive
  dsimp only
  split_ifs with hblocked
  · exact ⟨h.phase.frame rfl { h.phase.slots with }, h.running⟩
  split
  · exact ⟨h.phase.frame rfl { h.phase.slots with }, h.running⟩
  · have hunblocked : s.Unblocked := ⟨h, by simpa using hblocked⟩
    exact hunblocked.send _ _

/-! ### The frames that wait -/

/-- A frame may be sent: the timers are idle. -/
structure Ready (s : Transmitter) : Prop where
  slots : s.Slots
  txState : s.txState = .idle
  send : s.mhSend = false
  defer : s.mhDefer = false
  backoff : s.mhBackoff = .idle

/-- A check does nothing, because of `why`, or leaves the timers as they should be. -/
def Checked (why : Prop) : Option Transmitter → Prop
  | none => why
  | some t => t.Disciplined

theorem meets_unlessDone {check : Act (Option Transmitter)} {rest : Act Transmitter} {why : Prop}
    (hcheck : Meets check E (Checked why))
    (hrest : why → Meets rest E Disciplined) : Meets (unlessDone check rest) E Disciplined := by
  unfold unlessDone
  refine hcheck.bind fun r hr => ?_
  cases r with
  | none => exact hrest hr
  | some t => exact hr

theorem meets_map_some {x : Act Transmitter} {why : Prop}
    (h : Meets x E Disciplined) : Meets (x.map some) E (Checked why) := by
  cases x with
  | ok t => exact h
  | error e => exact h

/-- A frame is put on the air. -/
theorem Slots.transmit (h : s.Slots) (hsend : s.mhSend = false) (hdefer : s.mhDefer = false)
    {x : MacState} {f : FramePtr} (hx : x ≠ .idle)
    (hair : { s with txState := x, lastTx := some f }.OnAir) :
    Meets ((s.setTxState x).transmit f) E Disciplined := by
  obtain ⟨b, e, ht, hiff, hrun⟩ := transmit_ok hsend x f
  rw [ht]
  refine ⟨Or.inr ⟨{ h with }, rfl, hdefer, ?_⟩, fun hrunning => (hx (hrun hrunning)).elim⟩
  simpa [OnAir, Sent, hiff] using hair

theorem Ready.startBackoff (h : s.Ready) (hctrl : s.pktCTRL = none) :
    Meets s.startBackoff E Disciplined := by
  unfold Transmitter.startBackoff
  refine meets_assertThat h.backoff ?_
  refine ⟨Or.inl ⟨⟨{ h.slots with }, h.send, by simp [h.defer], by simp [hctrl]⟩, h.txState⟩, ?_⟩
  dsimp only
  split_ifs with hidle
  · exact fun _ => hidle
  · exact fun hrunning => by cases hrunning

theorem Ready.disciplined (h : s.Ready) (hctrl : s.pktCTRL = none) : s.Disciplined := by
  refine ⟨Or.inl ⟨⟨h.slots, h.send, by simp [h.defer], by simp [hctrl]⟩, h.txState⟩, ?_⟩
  rw [h.backoff]
  exact fun hrunning => by cases hrunning

theorem Ready.checkPktBeacon (h : s.Ready) :
    Meets s.checkPktBeacon E (Checked (s.pktBeacon = false)) := by
  unfold Transmitter.checkPktBeacon
  refine meets_assertThat h.backoff ?_
  split_ifs with hbeacon hidle
  · exact hbeacon
  · refine meets_map_some (h.slots.transmit h.send h.defer (by simp) ?_)
    exact ⟨Or.inl ⟨rfl, by simpa using hbeacon⟩, h.backoff⟩
  · refine meets_map_some ?_
    unfold startDefer
    refine meets_assertThat h.defer ?_
    refine ⟨Or.inl ⟨⟨{ h.slots with }, h.send, fun _ => ⟨?_, Or.inl h.backoff⟩, fun _ => rfl⟩,
      h.txState⟩, by simp [h.backoff]⟩
    exact Or.inr (Or.inl (by simpa using hbeacon))

theorem Ready.checkPktManagement (h : s.Ready) (hctrl : s.pktCTRL = none)
    (hbeacon : s.pktBeacon = false) :
    Meets s.checkPktManagement E (Checked (s.pktManagement = none)) := by
  unfold Transmitter.checkPktManagement
  refine meets_assertThat h.backoff ?_
  split_ifs with hmgmt hidle
  · exact hmgmt
  · refine meets_map_some (h.slots.transmit h.send h.defer (by simp) ?_)
    exact ⟨Or.inr ⟨h.slots.retransmit_eq_none hbeacon,
      Or.inl ⟨rfl, Option.isSome_iff_ne_none.2 hmgmt⟩⟩, h.backoff⟩
  · exact meets_map_some (h.startBackoff hctrl)

theorem Ready.checkPktRTS (h : s.Ready) (hctrl : s.pktCTRL = none) :
    Meets s.checkPktRTS E (Checked (s.pktRTS = false)) := by
  unfold Transmitter.checkPktRTS
  refine meets_assertThat h.backoff ?_
  split_ifs with hrts hidle
  · exact hrts
  · refine meets_map_some (h.slots.transmit h.send h.defer (by simp) ?_)
    exact ⟨by simpa using hrts, h.backoff⟩
  · exact meets_map_some (h.startBackoff hctrl)

theorem Ready.checkPktTx (h : s.Ready) (hctrl : s.pktCTRL = none) (hbeacon : s.pktBeacon = false)
    (hrts : s.pktRTS = false) :
    Meets s.checkPktTx E (Checked (s.pktTx = none)) := by
  have hret := h.slots.retransmit_eq_none hbeacon
  unfold Transmitter.checkPktTx
  refine meets_assertThat h.backoff ?_
  split
  · rename_i htx
    exact htx
  rename_i p htx
  split_ifs with hidle
  · refine meets_map_some (h.slots.transmit h.send h.defer (by simp) ?_)
    exact ⟨Or.inr ⟨hret, Or.inr ⟨rfl, by simp [htx], hrts⟩⟩, h.backoff⟩
  · obtain ⟨b, hb⟩ := sendRTS_ok htx hrts p.ra
    rw [hb]
    have hready : { s with pktRTS := b }.Ready :=
      { h with slots := { h.slots with rts := by simp [htx], retransmit := by simp [hret] } }
    exact meets_map_some (hready.startBackoff hctrl)

/-- `backoffHandler`. -/
theorem backoffHandler_disciplined (h : s.Disciplined) (hrun : s.mhBackoff = .running) :
    Meets ({ s with mhBackoff := .idle }.backoffHandler) E Disciplined := by
  have hidle := h.running hrun
  have hsend : s.mhSend = false := by
    by_contra hsend
    have honair := (h.sending (by simpa using hsend)).onAir
    simp [OnAir, hidle.2.1] at honair
  obtain ⟨hwait, htx⟩ := h.waiting hsend
  unfold backoffHandler
  dsimp only
  split_ifs with hctrl
  · refine meets_assertThat (Or.inr (hwait.ctrl hctrl)) ?_
    refine ⟨Or.inl ⟨{ hwait with slots := { hwait.slots with }, frame := fun _ => ?_ }, htx⟩,
      by simp⟩
    exact ⟨Or.inl hctrl, Or.inl rfl⟩
  · have hctrl' : s.pktCTRL = none := by simpa using hctrl
    have hdefer : s.mhDefer = false := by
      by_contra hdefer
      have hboth := (hwait.frame (by simpa using hdefer)).2
      simp [hrun, hctrl'] at hboth
    have hready : { s with mhBackoff := .idle }.Ready :=
      ⟨{ hwait.slots with }, htx, hsend, hdefer, rfl⟩
    refine meets_unlessDone hready.checkPktBeacon fun hbeacon => ?_
    refine meets_unlessDone (hready.checkPktManagement hctrl' hbeacon) fun _ => ?_
    refine meets_unlessDone (hready.checkPktRTS hctrl') fun hrts => ?_
    refine meets_unlessDone (hready.checkPktTx hctrl' hbeacon hrts) fun _ => ?_
    exact hready.disciplined hctrl'

theorem Ready.checkAfterSIFS (h : s.Ready) (hctrl : s.pktCTRL = none)
    (hbeacon : s.pktBeacon = false) (hframe : s.HasFrame) :
    Meets s.checkAfterSIFS E (Checked True) := by
  unfold Transmitter.checkAfterSIFS
  split_ifs with hnone
  · obtain ⟨hmgmt, hrts⟩ := hnone
    have htx : s.pktTx.isSome := by simpa [HasFrame, hctrl, hbeacon, hmgmt, hrts] using hframe
    obtain ⟨p, hp⟩ := Option.isSome_iff_exists.1 htx
    refine meets_deref hp ?_
    split_ifs
    · refine (h.checkPktTx hctrl hbeacon hrts).mono (fun e he => he) fun r hr => ?_
      cases r with
      | none => trivial
      | some t => exact hr
    · trivial
  · trivial

/-- The control frame goes first; a CTS is given up on a busy medium. -/
theorem Waiting.checkPktCTRL (h : s.Waiting) (htx : s.txState = .idle)
    (hidle : s.mhBackoff = .running → s.IsIdle) :
    Meets ({ s with mhDefer := false }.checkPktCTRL) E (Checked (s.pktCTRL = none)) := by
  unfold Transmitter.checkPktCTRL
  dsimp only
  have hslots : { s with mhDefer := false }.Slots := { h.slots with }
  split
  · rename_i hctrl
    exact hctrl
  rename_i subtype hctrl
  rw [if_neg (by simp [htx])]
  have hair : ∀ x, x = .cts ∨ x = .ack →
      { s with mhDefer := false, txState := x, lastTx := some .ctrl }.OnAir := by
    rintro x (rfl | rfl)
    · simp [OnAir, hctrl]
    · simp [OnAir, hctrl]
  cases subtype with
  | cts =>
    dsimp only
    split_ifs with hmedium
    · exact meets_map_some (hslots.transmit h.send rfl (by simp) (hair .cts (Or.inl rfl)))
    · exact ⟨Or.inl ⟨⟨{ h.slots with }, h.send, by simp, by simp⟩, htx⟩, hidle⟩
  | ack => exact meets_map_some (hslots.transmit h.send rfl (by simp) (hair .ack (Or.inr rfl)))

/-- `deferHandler`. -/
theorem deferHandler_disciplined (h : s.Disciplined) (hdefer : s.mhDefer = true) :
    Meets ({ s with mhDefer := false }.deferHandler) E Disciplined := by
  have hsend : s.mhSend = false := by
    by_contra hsend
    cases (h.sending (by simpa using hsend)).defer.symm.trans hdefer
  obtain ⟨hwait, htx⟩ := h.waiting hsend
  obtain ⟨hframe, hboth⟩ := hwait.frame hdefer
  unfold deferHandler
  refine meets_assertThat hframe ?_
  refine meets_unlessDone (hwait.checkPktCTRL htx h.running) fun hctrl => ?_
  have hready : { s with mhDefer := false }.Ready :=
    ⟨{ hwait.slots with }, htx, hsend, rfl, by simpa [hctrl] using hboth⟩
  refine meets_unlessDone hready.checkPktBeacon fun hbeacon => ?_
  refine meets_assertThat hready.backoff ?_
  refine meets_unlessDone (hready.checkAfterSIFS hctrl hbeacon hframe) fun _ => ?_
  exact hready.startBackoff hctrl

end Transmitter

end SipNemo.Mac
