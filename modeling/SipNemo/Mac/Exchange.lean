import SipNemo.Mac.ClientSide
import SipNemo.Mac.Discipline

/-!
# Exchanges of frames

What `send_timer` and the frames that arrive leave behind before they call `tx_resume`, and with it
the discipline of the timers in every step.  Three functions of a station call `tx_resume` or start
`mhBackoff_` without a look at the timers; elsewhere nothing fails (`timers_disciplined`).
-/

namespace SipNemo.Mac

open Outcome Runs
open Mih (MacAddr)

namespace Transmitter

variable {s t : Transmitter} {n : ℕ} {E : Abort → Prop}

/-- `tx_resume` may be called in `t`, which comes from `s`. -/
structure Resumable (s t : Transmitter) : Prop where
  ap : t.ap = s.ap
  slots : t.Slots
  send : t.mhSend = false
  defer : t.mhDefer = false

theorem Resumable.txResume (h : s.Resumable t) :
    Meets (t.txResume (n + 1)) s.ApOnly Disciplined :=
  (txResume_disciplined n h.slots h.send h.defer).mono (fun _ he => h.ap.symm.trans he)
    fun _ hu => hu.1

/-- A back-off before `tx_resume`. -/
theorem Resumable.startBackoff (h : s.Resumable t) (hback : t.mhBackoff = .idle) :
    Meets t.startBackoff E s.Resumable := by
  unfold Transmitter.startBackoff
  refine meets_assertThat hback ?_
  exact { h with slots := { h.slots with } }

/-- Whether or not the frame is sent with an RTS. -/
theorem Resumable.sendRTS_startBackoff (h : s.Resumable t) (hback : t.mhBackoff = .idle)
    {p : DataFrame} (htx : t.pktTx = some p) (hrts : t.pktRTS = false)
    (hbeacon : t.pktBeacon = false) (dst : MacAddr) :
    Meets (t.sendRTS dst >>= Transmitter.startBackoff) E s.Resumable := by
  obtain ⟨b, hb⟩ := sendRTS_ok htx hrts dst
  have hret := h.slots.retransmit_eq_none hbeacon
  have hresumable : s.Resumable { t with pktRTS := b } :=
    { h with slots := { h.slots with rts := by simp [htx], retransmit := by simp [hret] } }
  rw [hb]
  exact hresumable.startBackoff hback

/-! ### Frames that were not answered -/

theorem retransmitRTS_resumable (h : s.Resumable t) (hrts : t.pktRTS = true)
    (hback : t.mhBackoff = .idle) : Meets t.retransmitRTS E s.Resumable := by
  obtain ⟨p, hp⟩ := Option.isSome_iff_exists.1 (h.slots.rts hrts)
  unfold retransmitRTS
  refine meets_assertNonNull hp (meets_assertThat hrts (meets_assertThat hback ?_))
  dsimp only
  split_ifs
  · refine { h with slots := { h.slots with rts := by simp, tx := by simp, retransmit := ?_ } }
    intro f hf
    obtain ⟨hbeacon, hmgmt | ⟨-, -, hno⟩⟩ := h.slots.retransmit f hf
    · exact ⟨hbeacon, Or.inl hmgmt⟩
    · cases hno.symm.trans hrts
  · have hcounted : s.Resumable { t with ssrc := countUp t.ssrc } :=
      { h with slots := { h.slots with } }
    exact hcounted.startBackoff hback

theorem retransmitDATA_resumable (h : s.Resumable t) (htx : t.pktTx.isSome)
    (hrts : t.pktRTS = false) (hbeacon : t.pktBeacon = false) (hback : t.mhBackoff = .idle) :
    Meets t.retransmitDATA E s.Resumable := by
  have hret := h.slots.retransmit_eq_none hbeacon
  obtain ⟨p, hp⟩ := Option.isSome_iff_exists.1 htx
  have hdone : s.Resumable { t with pktTx := none } :=
    { h with
      slots :=
        { h.slots with rts := by simp [hrts], tx := by simp, retransmit := by simp [hret] } }
  unfold retransmitDATA
  refine meets_assertThat hback ?_
  refine meets_assertNonNull hp (meets_assertThat hrts ?_)
  split_ifs with hcast hsize
  · exact hdone.startBackoff hback
  · dsimp only
    split_ifs
    · exact { hdone with slots := { hdone.slots with } }
    · have hcounted : s.Resumable { t with ssrc := countUp t.ssrc } :=
        { h with slots := { h.slots with } }
      exact hcounted.sendRTS_startBackoff hback hp hrts hbeacon p.ra
  · dsimp only
    split_ifs
    · exact { hdone with slots := { hdone.slots with } }
    · have hcounted : s.Resumable { t with slrc := countUp t.slrc } :=
        { h with slots := { h.slots with } }
      exact hcounted.sendRTS_startBackoff hback hp hrts hbeacon p.ra

theorem Slots.deque (h : t.Slots) (hret : t.pktRetransmit = none) : t.deque.Slots :=
  { h with
    queue := fun hnone => by
      have hnil : t.managementQueue = [] := List.head?_eq_none_iff.1 hnone
      simp [Transmitter.deque, hnil]
    requests := fun hap => by simp [Transmitter.deque, (h.requests hap).1]
    retransmit := by simp [Transmitter.deque, hret] }

theorem Slots.clearTxRx (h : t.Slots) (hret : t.pktRetransmit = none) : t.clearTxRx.Slots :=
  { h with
    rts := by simp [Transmitter.clearTxRx]
    tx := by simp [Transmitter.clearTxRx]
    queue := fun _ => rfl
    requests := by simp [Transmitter.clearTxRx]
    retransmit := by simp [Transmitter.clearTxRx, hret] }

theorem retransmitManagement_resumable (h : s.Resumable t) (hmgmt : t.pktManagement.isSome)
    (hbeacon : t.pktBeacon = false) (hback : t.mhBackoff = .idle) :
    Meets t.retransmitManagement E s.Resumable := by
  obtain ⟨m, hm⟩ := Option.isSome_iff_exists.1 hmgmt
  have hret := h.slots.retransmit_eq_none hbeacon
  unfold retransmitManagement
  refine meets_assertThat hback (meets_assertNonNull hm ?_)
  dsimp only
  split_ifs with hcast hlimit
  · have hdequed : s.Resumable t.deque := { h with slots := h.slots.deque hret }
    exact hdequed.startBackoff hback
  · unfold giveUp
    dsimp only
    split_ifs
    · have hslots := (h.slots.clearTxRx hret).deque hret
      exact ⟨h.ap, { hslots with }, rfl, rfl⟩
    · have hslots := h.slots.deque hret
      exact ⟨h.ap, { hslots with }, h.send, h.defer⟩
  · have hcounted : s.Resumable { t with ssrc := countUp t.ssrc } :=
      { h with slots := { h.slots with } }
    exact hcounted.startBackoff hback

/-- The management frame or the data packet that was sent. -/
def SentFrame (t : Transmitter) : Prop :=
  t.lastTx = some .management ∧ t.pktManagement.isSome ∨
    t.lastTx = some .tx ∧ t.pktTx.isSome ∧ t.pktRTS = false

/-- A frame that is postponed for a beacon can be sent again after it. -/
theorem Resumable.postpone (h : s.Resumable t) {f : FramePtr} (hf : t.Postponed f) :
    s.Resumable { t with pktRetransmit := some f } :=
  { h with slots := { h.slots with retransmit := fun _ hg => Option.some.inj hg ▸ hf } }

theorem retransmit_resumable (h : s.Resumable t) (hsent : t.SentFrame)
    (hback : t.mhBackoff = .idle) : Meets t.retransmit E s.Resumable := by
  unfold retransmit
  rcases hsent with ⟨hlast, hmgmt⟩ | ⟨hlast, htx, hrts⟩
  · have hpointer : t.pointer .management = some .management := by simp [pointer, hmgmt]
    rw [if_pos (hpointer.trans hlast.symm)]
    split_ifs with hbeacon
    · rw [hpointer]
      exact h.postpone ⟨hbeacon, Or.inl ⟨rfl, hmgmt⟩⟩
    · exact retransmitManagement_resumable h hmgmt (by simpa using hbeacon) hback
  · have hpointer : t.pointer .tx = some .tx := by simp [pointer, htx]
    have hother : t.pointer .management ≠ t.lastTx := by
      rw [hlast]
      unfold pointer
      split_ifs <;> simp
    rw [if_neg hother, if_pos (hpointer.trans hlast.symm)]
    split_ifs with hbeacon
    · rw [hpointer]
      exact h.postpone ⟨hbeacon, Or.inr ⟨rfl, htx, hrts⟩⟩
    · exact retransmitDATA_resumable h htx hrts (by simpa using hbeacon) hback

/-- The case `MAC_SEND` of `send_timer`. -/
theorem sendExpired_resumable (h : s.Resumable t) (hsent : t.Sent) (hback : t.mhBackoff = .idle) :
    Meets t.sendExpired E s.Resumable := by
  unfold sendExpired
  rcases hsent with ⟨hlast, hbeacon⟩ | ⟨hret, hframe⟩
  · rw [if_pos (by simp [pointer, hbeacon, hlast]), if_neg (by simp [hbeacon])]
    dsimp only
    split
    · rename_i f hf
      obtain ⟨-, hpostponed⟩ := h.slots.retransmit f hf
      have hagain :
          s.Resumable { t with pktBeacon := false, lastTx := some f, pktRetransmit := none } :=
        { h with slots := { h.slots with station := fun _ => rfl, retransmit := by simp } }
      refine retransmit_resumable hagain ?_ hback
      rcases hpostponed with ⟨rfl, hmgmt⟩ | ⟨rfl, htx⟩
      · exact Or.inl ⟨rfl, hmgmt⟩
      · exact Or.inr ⟨rfl, htx⟩
    · rename_i hret
      exact { h with
        slots := { h.slots with station := fun _ => rfl, retransmit := by simp [hret] } }
  · have hother : t.pointer .beacon ≠ t.lastTx := by
      unfold pointer
      rcases hframe with ⟨hlast, -⟩ | ⟨hlast, -⟩
      · rw [hlast]
        split_ifs <;> simp
      · rw [hlast]
        split_ifs <;> simp
    rw [if_neg hother]
    exact retransmit_resumable h hframe hback

theorem freeCTRL_resumable (h : s.Resumable t) (hctrl : t.pktCTRL.isSome) :
    Meets t.freeCTRL E s.Resumable := by
  obtain ⟨c, hc⟩ := Option.isSome_iff_exists.1 hctrl
  exact meets_assertNonNull hc { h with slots := { h.slots with } }

theorem Sending.resumable (h : s.Sending) : s.Resumable { s with mhSend := false } :=
  ⟨rfl, { h.slots with }, rfl, h.defer⟩

/-- The switch of `send_timer` never fails. -/
theorem unansweredFrame_resumable (h : s.Sending) :
    Meets ({ s with mhSend := false }.unansweredFrame) E s.Resumable := by
  have honair := h.onAir
  unfold OnAir at honair
  unfold unansweredFrame
  dsimp only
  split
  · rename_i htx
    rw [htx] at honair
    exact retransmitRTS_resumable h.resumable honair.1 honair.2
  · rename_i htx
    rw [htx] at honair
    exact freeCTRL_resumable h.resumable honair
  · rename_i htx
    rw [htx] at honair
    exact sendExpired_resumable h.resumable honair.1 honair.2
  · rename_i htx
    rw [htx] at honair
    exact freeCTRL_resumable h.resumable honair
  · exact h.resumable
  · rename_i htx
    rw [htx] at honair
    exact honair.elim
  · rename_i htx
    rw [htx] at honair
    exact honair.elim

/-- `send_timer`. -/
theorem sendTimer_disciplined (h : s.Disciplined) (hsend : s.mhSend = true) :
    Meets ({ s with mhSend := false }.sendTimer (n + 1)) s.ApOnly Disciplined :=
  (unansweredFrame_resumable (h.sending hsend)).bind fun _ ht => ht.txResume

/-! ### Frames that arrive -/

/-- `tx_resume` with a new control frame, the deferral stopped. -/
theorem Disciplined.answer (h : s.Disciplined) (hsend : s.mhSend = false) (c : CtrlSubtype) :
    Meets ({ s with pktCTRL := some c, mhDefer := false }.txResume (n + 1)) s.ApOnly Disciplined :=
  have hres : s.Resumable { s with pktCTRL := some c, mhDefer := false } :=
    ⟨rfl, { h.phase.slots with }, hsend, rfl⟩
  hres.txResume

/-- A new control frame while another frame is on the air. -/
theorem Disciplined.addCTRL (h : s.Disciplined) (hsend : s.mhSend = true) (c : CtrlSubtype) :
    { s with pktCTRL := some c }.Disciplined := by
  have hsending := h.sending hsend
  refine ⟨Or.inr { hsending with slots := { hsending.slots with }, onAir := ?_ }, h.running⟩
  exact hsending.onAir.imp rfl (fun _ => rfl) (fun _ => id) fun _ => id

theorem meets_sendACK {E : Abort → Prop} {Q : Transmitter → Prop}
    {f : Transmitter → Act Transmitter}
    (hctrl : s.pktCTRL = none) (hf : Meets (f { s with pktCTRL := some .ack }) E Q) :
    Meets (s.sendACK >>= f) E Q := by
  simpa [sendACK, assertThat, hctrl] using hf

/-- `recvRTS`. -/
theorem recvRTS_disciplined (h : s.Disciplined) :
    Meets (s.recvRTS (n + 1)) s.ApOnly Disciplined := by
  unfold recvRTS
  split_ifs with htx hctrl
  · exact h
  · exact h
  · have hsend : s.mhSend = false := by
      by_contra hsend
      have honair := (h.sending (by simpa using hsend)).onAir
      simp [OnAir, not_not.1 htx] at honair
    have hok : s.sendCTS = .ok { s with pktCTRL := some .cts } := by
      simp [sendCTS, assertThat, Option.not_isSome_iff_eq_none.1 hctrl]
    rw [hok]
    exact h.answer hsend .cts

/-- What is on the air in each state. -/
theorem Disciplined.onAir (h : s.Disciplined) (htx : s.txState ≠ .idle) : s.Sending :=
  h.phase.resolve_left fun hwait => htx hwait.2

/-- `recvCTS`. -/
theorem recvCTS_disciplined (h : s.Disciplined) :
    Meets (s.recvCTS (n + 1)) s.ApOnly Disciplined := by
  unfold recvCTS
  split_ifs with htx
  · exact h
  have htx' := not_not.1 htx
  have hsending := h.onAir (by simp [htx'])
  have hrts : s.pktRTS = true := by
    have honair := hsending.onAir
    rw [OnAir, htx'] at honair
    exact honair.1
  obtain ⟨p, hp⟩ := Option.isSome_iff_exists.1 (hsending.slots.rts hrts)
  refine meets_assertThat hrts (meets_assertNonNull hp ?_)
  have hstop : { s with pktRTS := false }.stopSend =
      .ok { s with pktRTS := false, mhSend := false } := by
    simp [stopSend, assertThat, hsending.send]
  rw [hstop]
  have hres : s.Resumable { s with pktRTS := false, mhSend := false, ssrc := 0 } := by
    refine ⟨rfl, { hsending.slots with rts := by simp, retransmit := fun f hf => ?_ }, rfl,
      hsending.defer⟩
    obtain ⟨hbeacon, hmgmt | htx⟩ := hsending.slots.retransmit f hf
    · exact ⟨hbeacon, Or.inl hmgmt⟩
    · exact ⟨hbeacon, Or.inr ⟨htx.1, htx.2.1, rfl⟩⟩
  exact hres.txResume

/-- `recvDATA`. -/
theorem recvDATA_disciplined (h : s.Disciplined) (size : ℕ) :
    Meets (s.recvDATA (n + 1) size) s.ApOnly Disciplined := by
  unfold recvDATA
  split_ifs with hsize htx hctrl
  · have hsending := h.onAir (by simp [htx])
    have hctrl : s.pktCTRL.isSome := by
      have honair := hsending.onAir
      rw [OnAir, htx] at honair
      exact honair
    obtain ⟨c, hc⟩ := Option.isSome_iff_exists.1 hctrl
    have hfree : s.freeCTRL = .ok { s with pktCTRL := none } := by simp [freeCTRL, hc]
    have hstop : { s with pktCTRL := none }.stopSend =
        .ok { s with pktCTRL := none, mhSend := false } := by
      simp [stopSend, assertThat, hsending.send]
    rw [hfree, ok_bind, hstop, ok_bind]
    refine meets_sendACK rfl ?_
    have hres : s.Resumable { s with pktCTRL := some .ack, mhSend := false } :=
      ⟨rfl, { hsending.slots with }, rfl, hsending.defer⟩
    exact hres.txResume
  · exact h
  · exact h
  · refine meets_sendACK (Option.not_isSome_iff_eq_none.1 hctrl) ?_
    dsimp only
    split_ifs with hsend
    · exact h.answer hsend .ack
    · exact h.addCTRL (by simpa using hsend) .ack

/-- The timers after an acknowledgement. -/
structure Acknowledged (s t : Transmitter) : Prop extends Resumable s t where
  backoff : t.mhBackoff = .idle

theorem Acknowledged.data (h : s.Acknowledged t) (htx : t.pktTx.isSome) (hrts : t.pktRTS = false)
    (hret : t.pktRetransmit = none) : Meets t.dataAcknowledged E s.Acknowledged := by
  obtain ⟨p, hp⟩ := Option.isSome_iff_exists.1 htx
  refine meets_deref hp ?_
  have hslots : { t with pktTx := none }.Slots :=
    { h.slots with rts := by simp [hrts], tx := by simp, retransmit := by simp [hret] }
  dsimp only
  split_ifs
  · exact { h with slots := { hslots with } }
  · exact { h with slots := { hslots with } }

theorem Acknowledged.deque (h : s.Acknowledged t) (hret : t.pktRetransmit = none) :
    s.Acknowledged t.deque :=
  { h with slots := h.slots.deque hret }

theorem Acknowledged.management (h : s.Acknowledged t) (hmgmt : t.pktManagement.isSome)
    (hlast : t.lastTx = some .management) (hret : t.pktRetransmit = none) :
    Meets t.managementAcknowledged s.ApOnly s.Acknowledged := by
  obtain ⟨m, hm⟩ := Option.isSome_iff_exists.1 hmgmt
  unfold managementAcknowledged
  refine meets_deref hm (meets_assertThat (by simp [pointer, hmgmt, hlast]) ?_)
  refine Meets.bind (R := fun u => s.Acknowledged u ∧ u.pktRetransmit = none) ?_ fun u hu => ?_
  · split_ifs with hres
    · unfold responseAcknowledged
      cases t.clients.find? (·.pkt = m.ptr) with
      | none =>
        -- a station sends no association response
        have hap : s.ap = true := by
          by_contra hno
          exact (h.slots.requests (h.ap.trans (by simpa using hno))).2 m hm hres
        exact hap
      | some c =>
        rw [assertNonNull_some, ok_bind]
        have hat := h.slots.packets.emitLink (o := .linkUp m.ra) rfl
        unfold associate
        dsimp only
        split_ifs
        · exact ⟨{ h with slots := { h.slots with packets := hat } }, hret⟩
        · exact ⟨{ h with slots := { h.slots with } }, hret⟩
    · exact ⟨h, hret⟩
  · dsimp only
    split_ifs
    · have hu' : s.Acknowledged { u with ssrc := 0 } := { hu.1 with slots := { hu.1.slots with } }
      exact hu'.deque hu.2
    · have hu' : s.Acknowledged { u with slrc := 0 } := { hu.1 with slots := { hu.1.slots with } }
      exact hu'.deque hu.2

/-- The acknowledgement of a beacon fails. -/
theorem managementAcknowledged_of_beacon (hlast : t.lastTx = some .beacon) (hap : t.ap = true) :
    Meets t.managementAcknowledged t.ApOnly fun _ => False := by
  unfold managementAcknowledged deref assertThat
  have hother : t.pointer .management ≠ t.lastTx := by
    rw [hlast]
    unfold pointer
    split_ifs <;> simp
  cases t.pktManagement with
  | none => exact hap
  | some m =>
    simp only [ok_bind, if_neg hother]
    exact hap

/-- `recvACK`: at an access point it fails when the frame on the air is a beacon. -/
theorem recvACK_disciplined (h : s.Disciplined) :
    Meets (s.recvACK (n + 1)) s.ApOnly Disciplined := by
  unfold recvACK
  split_ifs with htx
  · exact h
  have htx' := not_not.1 htx
  have hsending := h.onAir (by simp [htx'])
  obtain ⟨hsent, hback⟩ : s.Sent ∧ s.mhBackoff = .idle := by
    have honair := hsending.onAir
    rwa [OnAir, htx'] at honair
  have hack : s.Acknowledged { s with mhSend := false } :=
    ⟨⟨rfl, { hsending.slots with }, rfl, hsending.defer⟩, hback⟩
  have hstop : s.stopSend = .ok { s with mhSend := false } := by
    simp [stopSend, assertThat, hsending.send]
  rcases hsent with ⟨hlast, hbeacon⟩ | ⟨hret, hframe⟩
  · have hap : s.ap = true := by
      by_contra hno
      cases hbeacon.symm.trans (hsending.slots.station (by simpa using hno))
    refine meets_assertThat_of (fun _ => hap) fun _ => ?_
    rw [hstop, ok_bind, if_neg (by simp [pointer, hlast])]
    have hfails := managementAcknowledged_of_beacon (t := { s with mhSend := false }) hlast hap
    exact Meets.bind hfails fun _ hno => hno.elim
  · have hpending : s.pktTx.isSome ∨ s.pktManagement.isSome :=
      hframe.elim (fun hmgmt => Or.inr hmgmt.2) fun htx => Or.inl htx.2.1
    refine meets_assertThat hpending ?_
    rw [hstop, ok_bind]
    refine Meets.bind (R := s.Acknowledged) ?_ fun u hu => ?_
    · rcases hframe with ⟨hlast, hmgmt⟩ | ⟨hlast, htx, hrts⟩
      · rw [if_neg (by simp [pointer, hlast])]
        exact hack.management hmgmt hlast hret
      · rw [if_pos (by simp [pointer, hlast, htx])]
        exact hack.data htx hrts hret
    · refine meets_assertThat hu.backoff ?_
      refine Meets.bind (R := s.Resumable) ?_ fun v hv => hv.txResume
      split_ifs
      · exact hu.toResumable.startBackoff hu.backoff
      · exact hu.toResumable

/-- `tx_resume` after a new control frame when nothing waits for the medium. -/
theorem Disciplined.resumeUnlessSending (h : s.Disciplined) (hdefer : s.mhDefer = false)
    (c : CtrlSubtype) :
    Meets ({ s with pktCTRL := some c }.resumeUnlessSending (n + 1)) s.ApOnly fun t =>
      t.Disciplined ∧ t.kept = { s with pktCTRL := some c }.kept := by
  unfold Transmitter.resumeUnlessSending
  dsimp only
  split_ifs with hsend
  · have hres : s.Resumable { s with pktCTRL := some c } :=
      ⟨rfl, { h.phase.slots with }, hsend, hdefer⟩
    exact hres.txResume.and (txResume_keeps _ _)
  · exact ⟨h.addCTRL (by simpa using hsend) c, rfl⟩

/-- The deferral is stopped and `tx_resume` called unless a frame is on the air. -/
theorem Slots.stopDefer (h : s.Slots) (hdisc : s.mhSend = true → s.Disciplined) :
    Meets ({ s with mhDefer := false }.resumeUnlessSending (n + 1)) s.ApOnly fun t =>
      t.Disciplined ∧ t.kept = s.kept := by
  unfold Transmitter.resumeUnlessSending
  dsimp only
  split_ifs with hsend
  · have hres : s.Resumable { s with mhDefer := false } := ⟨rfl, { h with }, hsend, rfl⟩
    exact hres.txResume.and (txResume_keeps _ _)
  · have hsend' : s.mhSend = true := by simpa using hsend
    have hsame : { s with mhDefer := false } = s := by
      rw [← ((hdisc hsend').sending hsend').defer]
    exact ⟨hsame.symm ▸ hdisc hsend', rfl⟩

theorem Slots.enque (h : s.Slots) (hap : s.ap = true) (m : MgmtFrame) : (s.enque m).Slots := by
  unfold Transmitter.enque
  split_ifs with hmgmt
  · refine { h with queue := by simp, requests := by simp [hap], retransmit := fun f hf => ?_ }
    obtain ⟨hbeacon, hboth⟩ := h.retransmit f hf
    exact ⟨hbeacon, hboth.imp (fun hm => ⟨hm.1, rfl⟩) id⟩
  · exact { h with queue := fun hnone => (hmgmt hnone).elim, requests := by simp [hap] }

/-- Another management frame of an access point changes nothing about the timers. -/
theorem Disciplined.enque (h : s.Disciplined) (hap : s.ap = true) (m : MgmtFrame) :
    (s.enque m).Disciplined := by
  have hslots := h.phase.slots.enque hap m
  refine ⟨?_, ?_⟩
  · unfold Transmitter.enque at hslots ⊢
    split_ifs at hslots ⊢ with hmgmt
    · rcases h.phase with ⟨hwait, htx⟩ | hsending
      · refine Or.inl ⟨{ hwait with slots := hslots, frame := fun hdefer => ?_ }, htx⟩
        exact ⟨by simp [HasFrame], (hwait.frame hdefer).2⟩
      · refine Or.inr { hsending with slots := hslots, onAir := ?_ }
        refine hsending.onAir.imp rfl id (fun _ => id) fun _ hsent => ⟨?_, hsent.2⟩
        refine hsent.1.imp id fun hframe => ⟨hframe.1, ?_⟩
        exact hframe.2.imp (fun hlast => ⟨hlast.1, rfl⟩) id
    · rcases h.phase with ⟨hwait, htx⟩ | hsending
      · exact Or.inl ⟨{ hwait with slots := hslots }, htx⟩
      · exact Or.inr { hsending with slots := hslots }
  · unfold Transmitter.enque
    split_ifs
    · exact h.running
    · exact h.running

/-- The list of clients is not looked at. -/
theorem Disciplined.setClients (h : s.Disciplined) (clients : List Client) :
    { s with clients := clients }.Disciplined :=
  ⟨h.phase.frame rfl { h.phase.slots with }, h.running⟩

/-- `recvAssocRequest`. -/
theorem recvAssocRequest_disciplined (h : s.Disciplined) (hap : s.ap = true) (src : MacAddr)
    (ptr : ℕ) : Meets (s.recvAssocRequest (n + 1) src ptr) s.ApOnly Disciplined := by
  unfold recvAssocRequest
  refine meets_assertThat hap ?_
  split_ifs with hctrl
  · exact h
  refine meets_sendACK (Option.not_isSome_iff_eq_none.1 hctrl) ?_
  have hslots : { s with pktCTRL := some .ack }.Slots := { h.phase.slots with }
  refine (hslots.stopDefer fun hsend => h.addCTRL hsend .ack).bind fun t ht => ?_
  have hap' : t.ap = true := (congrArg Transmitter.ap ht.2).trans hap
  unfold admitClient
  split
  · exact (ht.1.enque hap' _).setClients _
  · split_ifs
    · exact (ht.1.enque hap' _).setClients _
    · exact ht.1

/-- `recvProbeRequest`. -/
theorem recvProbeRequest_disciplined (h : s.Disciplined) (src : MacAddr) (ptr : ℕ) :
    Meets (s.recvProbeRequest (n + 1) src ptr) s.ApOnly Disciplined := by
  unfold recvProbeRequest
  split_ifs with hap
  · exact h
  have henque := h.enque (by simpa using hap)
    { ptr := ptr, subtype := .probeRes, ra := src, size := s.mib.probeReqlen }
  have hap' : s.ap = true := by simpa using hap
  exact (henque.phase.slots.stopDefer fun _ => henque).mono (fun _ _ => hap') fun _ ht => ht.1

/-- A response that arrives: `tx_resume` is called although `mhDefer_` may run. -/
theorem recvProbeResponse_disciplined (h : s.Disciplined)
    (hdefer : s.pktCTRL = none → s.mhDefer = false) :
    Meets (s.recvProbeResponse (n + 1)) s.ApOnly Disciplined := by
  unfold recvProbeResponse
  split_ifs with hctrl
  · exact h
  have hctrl' := Option.not_isSome_iff_eq_none.1 hctrl
  refine meets_sendACK hctrl' ?_
  exact (h.resumeUnlessSending (hdefer hctrl') .ack).mono (fun _ he => he) fun _ ht => ht.1

/-- `clear_tx_rx` at a station. -/
theorem Disciplined.clearTxRx (h : s.Disciplined) (hap : s.ap = false) :
    s.clearTxRx.Disciplined := by
  have hslots := h.phase.slots
  have hret := hslots.retransmit_eq_none (hslots.station hap)
  refine ⟨Or.inl ⟨⟨hslots.clearTxRx hret, rfl, ?_, ?_⟩, rfl⟩, ?_⟩
  · simp [Transmitter.clearTxRx]
  · simp [Transmitter.clearTxRx]
  · simp [Transmitter.clearTxRx]

theorem recvAssocResponse_disciplined (h : s.Disciplined) (hap : s.ap = false) (refused : Bool)
    (hdefer : s.pktCTRL = none → s.mhDefer = false) :
    Meets (s.recvAssocResponse (n + 1) refused) s.ApOnly Disciplined := by
  unfold recvAssocResponse
  by_cases hctrl : s.pktCTRL.isSome
  · rw [if_pos hctrl]
    exact h
  have hctrl' := Option.not_isSome_iff_eq_none.1 hctrl
  rw [if_neg hctrl]
  refine meets_sendACK hctrl' ?_
  refine (h.resumeUnlessSending (hdefer hctrl') .ack).bind fun t ht => ?_
  have hap' : t.ap = false := (congrArg Transmitter.ap ht.2).trans hap
  cases refused with
  | true => exact ht.1.clearTxRx hap'
  | false => exact ht.1

/-! ### Commands and timers -/

/-- The new frame of a station waits for the medium. -/
theorem Disciplined.request (h : s.Disciplined) (hap : s.ap = false)
    {m : MgmtFrame} (hm : m.subtype ≠ .assocRes)
    (hpause : s.mhBackoff = .idle → ¬ s.IsIdle →
      (s.mhDefer = true → s.pktCTRL.isSome) ∧ s.txState ≠ .send ∧ s.txState ≠ .rts) :
    Meets ({ s with pktManagement := some m }.awaitMedium) E Disciplined := by
  have hslots := h.phase.slots
  have hbeacon := hslots.station hap
  have hnew : { s with pktManagement := some m }.Slots :=
    { hslots with
      queue := by simp
      requests := fun _ => ⟨(hslots.requests hap).1, fun _ hsome => Option.some.inj hsome ▸ hm⟩
      retransmit := by simp [hslots.retransmit_eq_none hbeacon] }
  have hdisc : { s with pktManagement := some m }.Disciplined := by
    refine ⟨?_, h.running⟩
    rcases h.phase with ⟨hwait, htx⟩ | hsending
    · refine Or.inl ⟨{ hwait with slots := hnew, frame := fun hdefer => ?_ }, htx⟩
      exact ⟨by simp [HasFrame], (hwait.frame hdefer).2⟩
    · refine Or.inr { hsending with slots := hnew, onAir := ?_ }
      refine hsending.onAir.imp rfl id (fun _ => id) fun _ hsent => ⟨?_, hsent.2⟩
      refine hsent.1.imp id fun hframe => ⟨hframe.1, ?_⟩
      exact hframe.2.imp (fun hlast => ⟨hlast.1, rfl⟩) id
  exact hdisc.awaitMedium (by simp [HasFrame]) hpause

/-- `link_connect`. -/
theorem linkConnect_disciplined (h : s.Disciplined) (hap : s.ap = false) (macPoA : MacAddr)
    (ptr : ℕ) : Meets (s.linkConnect macPoA ptr) E Disciplined := by
  unfold linkConnect sendAssocRequest
  have hclear := h.clearTxRx hap
  have hcleared : { s.clearTxRx with scanning := false }.Disciplined :=
    ⟨hclear.phase.frame rfl { hclear.phase.slots with }, hclear.running⟩
  refine meets_assertThat rfl ?_
  exact hcleared.request hap (by simp) fun _ hbusy => (hbusy ⟨rfl, rfl, rfl⟩).elim

/-- `sendProbeRequest`, unless it starts `mhBackoff_` in the middle of an exchange. -/
theorem sendProbeRequest_disciplined (h : s.Disciplined) (hap : s.ap = false) (dst : MacAddr)
    (ptr : ℕ) (hpause : s.pktManagement = none → s.mhBackoff = .idle → ¬ s.IsIdle →
      (s.mhDefer = true → s.pktCTRL.isSome) ∧ s.txState ≠ .send ∧ s.txState ≠ .rts) :
    Meets (s.sendProbeRequest dst ptr) E Disciplined := by
  unfold sendProbeRequest
  split_ifs with hmgmt
  · exact h
  · have hmgmt' := Option.not_isSome_iff_eq_none.1 hmgmt
    exact h.request hap (by simp) (hpause hmgmt')

theorem linkScan_disciplined (h : s.Disciplined) (hap : s.ap = false) (clears : Bool) :
    (s.linkScan clears).Disciplined := by
  have hscan : { s with scanning := true }.Disciplined :=
    ⟨h.phase.frame rfl { h.phase.slots with }, h.running⟩
  unfold linkScan
  dsimp only
  split_ifs
  · exact h
  · exact hscan.clearTxRx hap
  · exact hscan

theorem nextScan_disciplined (h : s.Disciplined) (hap : s.ap = false) (branch : NextScan) :
    (s.nextScan branch).Disciplined := by
  have hclear := h.clearTxRx hap
  cases branch with
  | stop => exact h
  | channel => exact hclear
  | finish => exact ⟨hclear.phase.frame rfl { hclear.phase.slots with }, hclear.running⟩

/-- `sendBeacon`: `mhBackoff_` and `mhDefer_` are stopped. -/
theorem sendBeacon_disciplined (h : s.Disciplined) (hap : s.ap = true) :
    Meets (s.sendBeacon (n + 1)) s.ApOnly Disciplined := by
  unfold sendBeacon
  refine meets_assertThat_of (fun _ => hap) fun hbeacon => ?_
  have hslots := h.phase.slots
  have hnew : { s with pktBeacon := true, mhBackoff := .idle }.Slots :=
    { hslots with
      station := by simp [hap]
      retransmit := by simp [hslots.retransmit_eq_none hbeacon] }
  dsimp only
  split_ifs with hctrl hdefer hsend
  · refine ⟨?_, by simp⟩
    rcases h.phase with ⟨hwait, htx⟩ | hsending
    · refine Or.inl ⟨{ hwait with slots := hnew, frame := fun hdefer => ?_ }, htx⟩
      exact ⟨Or.inl hctrl, Or.inl rfl⟩
    · refine Or.inr { hsending with slots := hnew, onAir := ?_ }
      refine hsending.onAir.imp rfl id (fun _ hrts => ⟨hrts.1, rfl⟩) fun _ hsent => ⟨?_, rfl⟩
      exact hsent.1.imp (fun hlast => ⟨hlast.1, rfl⟩) id
  · have hsend : s.mhSend = false := by
      by_contra hsend
      cases (h.sending (by simpa using hsend)).defer.symm.trans hdefer
    have hres : s.Resumable { s with pktBeacon := true, mhBackoff := .idle, mhDefer := false } :=
      ⟨rfl, { hnew with }, hsend, rfl⟩
    exact hres.txResume
  · have hres : s.Resumable { s with pktBeacon := true, mhBackoff := .idle } :=
      ⟨rfl, hnew, hsend, by simpa using hdefer⟩
    exact hres.txResume
  · have hsending := h.sending (by simpa using hsend)
    refine ⟨Or.inr { hsending with slots := hnew, onAir := ?_ }, by simp⟩
    refine hsending.onAir.imp rfl id (fun _ hrts => ⟨hrts.1, rfl⟩) fun _ hsent => ⟨?_, rfl⟩
    exact hsent.1.imp (fun hlast => ⟨hlast.1, rfl⟩) id

/-- The medium is busy while a frame is received. -/
theorem Disciplined.setNav (h : s.Disciplined) (hrx : s.Receiving) (nav : Bool) :
    { s with nav := nav }.Disciplined := by
  refine ⟨h.phase.frame rfl { h.phase.slots with }, fun hrun => ?_⟩
  have hidle := (h.running hrun).1
  rcases hrx with hrecv | hcoll
  · cases hidle.symm.trans hrecv
  · cases hidle.symm.trans hcoll

/-- Without `nav_` the medium is no busier. -/
theorem Disciplined.clearNav (h : s.Disciplined) : { s with nav := false }.Disciplined := by
  refine ⟨h.phase.frame rfl { h.phase.slots with }, fun hrun => ?_⟩
  obtain ⟨hrx, htx, -⟩ := h.running hrun
  exact ⟨hrx, htx, rfl⟩

theorem navHandler_disciplined (h : s.Disciplined) : s.navHandler.Disciplined := by
  unfold navHandler
  split_ifs with hpaused
  · exact ⟨h.phase.backoff (by simp [hpaused.2]), fun _ => hpaused.1⟩
  · exact h

theorem recv_disciplined (h : s.Disciplined) {b : FirstBit} (he : s.Occurs (.recvStart b)) :
    (s.recv b).Disciplined := by
  cases b with
  | received error =>
    have hphase : { s with rxError := error || s.txActive }.Phase :=
      h.phase.frame rfl { h.phase.slots with }
    exact hphase.setRxState .recv
  | captured sets => exact h.setNav he _
  | collided => exact h.phase.setRxState .coll

theorem processClientTimeout_disciplined (h : s.Disciplined) (d : MacAddr) :
    (s.processClientTimeout d).Disciplined := by
  unfold processClientTimeout
  split
  · exact h
  · have hat := h.phase.slots.packets.emitLink (o := .linkDown d) rfl
    exact ⟨h.phase.frame rfl { h.phase.slots with packets := hat }, h.running⟩

/-! ### Every step -/

/-- The three places where a station uses the timers without a look at them: the response to an
association or a probe request is acknowledged by `tx_resume` while `mhDefer_` runs, or a probe
request starts `mhBackoff_` while a data packet or its RTS is on the air or waits. -/
def Harmless (s : Transmitter) : Event → Prop
  | .recvEnd (.assocResponse _) _ => s.Handles → s.pktCTRL = none → s.mhDefer = false
  | .recvEnd .probeResponse _ => s.Handles → s.pktCTRL = none → s.mhDefer = false
  | .probeExpires _ _ => s.pktManagement = none → s.mhBackoff = .idle → ¬ s.IsIdle →
      (s.mhDefer = true → s.pktCTRL.isSome) ∧ s.txState ≠ .send ∧ s.txState ≠ .rts
  | _ => True

theorem recvBeacon_disciplined (h : s.Disciplined) (connects : Option (MacAddr × ℕ)) :
    Meets (s.recvBeacon connects) E Disciplined := by
  unfold recvBeacon
  split
  · split_ifs with hap
    · exact linkConnect_disciplined h hap.1 _ _
    · exact h
  · exact h

/-- The switch of `recv_timer`. -/
theorem handle_disciplined (h : s.Disciplined) {f : RxFrame} {sets : Bool}
    (he : s.Occurs (.recvEnd f sets)) (hhandles : s.Handles)
    (hok : s.Harmless (.recvEnd f sets)) : Meets (s.handle (n + 1) f) s.ApOnly Disciplined := by
  cases f with
  | rts => exact recvRTS_disciplined h
  | cts => exact recvCTS_disciplined h
  | ack => exact recvACK_disciplined h
  | data size => exact recvDATA_disciplined h size
  | broadcast => exact h
  | assocRequest src ptr => exact recvAssocRequest_disciplined h he.2 src ptr
  | assocResponse refused => exact recvAssocResponse_disciplined h he.2 refused (hok hhandles)
  | probeRequest src ptr => exact recvProbeRequest_disciplined h src ptr
  | probeResponse => exact recvProbeResponse_disciplined h (hok hhandles)
  | beacon connects => exact recvBeacon_disciplined h connects
  | dropped => exact h

theorem Occurs.receiving {f : RxFrame} {sets : Bool} (he : s.Occurs (.recvEnd f sets)) :
    s.Receiving := by
  cases f with
  | assocRequest src ptr => exact he.1
  | assocResponse refused => exact he.1
  | probeResponse => exact he.1
  | _ => exact he

/-- Whether a frame may end does not depend on `nav_`. -/
theorem Occurs.setNav {f : RxFrame} {sets : Bool} (he : s.Occurs (.recvEnd f sets)) (nav : Bool) :
    { s with nav := nav }.Occurs (.recvEnd f sets) := by
  cases f <;> exact he

/-- `recv_timer`. -/
theorem recvTimer_disciplined (h : s.Disciplined) {f : RxFrame} {sets : Bool}
    (he : s.Occurs (.recvEnd f sets)) (hok : s.Harmless (.recvEnd f sets)) :
    Meets (s.recvTimer (n + 1) f sets) s.ApOnly Disciplined := by
  have hset : { s with nav := s.nav || sets }.Disciplined := h.setNav he.receiving _
  refine meets_assertThat he.receiving ?_
  refine Meets.bind (R := Disciplined) ?_ fun t ht => ht.phase.setRxState .idle
  split_ifs with hactive hcoll herror
  · exact h
  · exact hset
  · exact hset
  · have hhandles : s.Handles := ⟨by simpa using hactive, hcoll, by simpa using herror⟩
    refine handle_disciplined hset (he.setNav _) hhandles ?_
    cases f <;> exact hok

/-- Every step that meets the condition keeps the discipline, and fails at an access point only. -/
theorem step_disciplined (h : s.Disciplined) {e : Event} (he : s.Occurs e) (hok : s.Harmless e) :
    Meets (s.step (n + 1) e) s.ApOnly Disciplined := by
  cases e with
  | arrive p => exact arrive_disciplined h p
  | deferExpires => exact deferHandler_disciplined h he
  | backoffExpires => exact backoffHandler_disciplined h he
  | sendExpires => exact sendTimer_disciplined h he
  | ifExpires => exact ⟨h.phase.frame rfl { h.phase.slots with }, h.running⟩
  | navExpires => exact navHandler_disciplined h.clearNav
  | navLapses => exact h.clearNav
  | recvStart b => exact recv_disciplined h he
  | recvEnd f sets => exact recvTimer_disciplined h he hok
  | linkConnect macPoA ptr => exact linkConnect_disciplined h he macPoA ptr
  | linkDisconnect => exact h.clearTxRx he
  | linkScan clears => exact linkScan_disciplined h he clears
  | nextScan branch => exact nextScan_disciplined h he.1 branch
  | probeExpires dst ptr => exact sendProbeRequest_disciplined h he dst ptr hok
  | beaconExpires => exact sendBeacon_disciplined h he
  | clientExpires d => exact processClientTimeout_disciplined h d

theorem disciplined_of_new (ap : Bool) (mib : Mib) :
    { ap := ap, mib := mib : Transmitter }.Disciplined := by
  refine ⟨Or.inl ⟨⟨⟨?_, ?_, ?_, ?_, ?_, ?_, ?_, ?_, rfl⟩, rfl, ?_, ?_⟩, rfl⟩, ?_⟩
  all_goals simp

/-- Each step of a station returns when it meets the condition. -/
theorem station_step {e : Event} (h : s.ap = false ∧ s.Disciplined)
    (hok : s.Occurs e ∧ s.Harmless e) :
    ∃ t, s.step (n + 1) e = .ok t ∧ t.ap = false ∧ t.Disciplined := by
  have hstep := (step_disciplined h.2 hok.1 hok.2 (n := n)).and (s.step_ap e)
  have hnever : ∀ a, ¬ s.ApOnly a := fun _ hap => by cases h.1.symm.trans hap
  obtain ⟨t, ht, hdisc, hap⟩ := (hstep.mono hnever fun _ => id).exists_ok
  exact ⟨t, ht, hap.trans h.1, hdisc⟩

/-- No assertion fails in a run of a station whose steps all meet the condition, and the timers are
idle where they have to be. -/
theorem timers_disciplined (mib : Mib) (n : ℕ) {es : List Event}
    (hoccurs : StepsMeet (step · (n + 1)) Occurs { ap := false, mib := mib } es)
    (hok : StepsMeet (step · (n + 1)) Harmless { ap := false, mib := mib } es) :
    ∃ s, runSteps (step · (n + 1)) { ap := false, mib := mib } es = .ok s ∧ s.Disciplined := by
  obtain ⟨s, hrun, -, hdisc⟩ := runSteps_returns (I := fun s => s.ap = false ∧ s.Disciplined)
    (fun _ _ h hok => station_step h hok) ⟨rfl, disciplined_of_new false mib⟩ (hoccurs.and hok)
  exact ⟨s, hrun, hdisc⟩

def sampleMib : Mib := ⟨3000, 7, 4, 28, 54, 54, 52⟩

/-- A frame arrives without an error and is handled. -/
def receives (f : RxFrame) : List Event := [.recvStart (.received false), .recvEnd f false]

/-- A station asks for an association, and a packet is handed down before the response comes. -/
def sampleJoin : List Event :=
  [.linkConnect 3 10, .deferExpires, .backoffExpires, .ifExpires] ++ receives .ack ++
    [.backoffExpires, .arrive ⟨0, 3, 100⟩]

/-- A probe request while a broadcast packet is on the air. -/
def sampleProbe : List Event :=
  [.arrive ⟨0, macBroadcast, 100⟩, .linkScan false, .deferExpires, .backoffExpires,
    .probeExpires macBroadcast 10, .ifExpires, .sendExpires]

instance (s : Transmitter) : ∀ e, Decidable (s.Harmless e)
  | .recvEnd (.assocResponse _) _ =>
    inferInstanceAs (Decidable (s.Handles → s.pktCTRL = none → s.mhDefer = false))
  | .recvEnd .probeResponse _ =>
    inferInstanceAs (Decidable (s.Handles → s.pktCTRL = none → s.mhDefer = false))
  | .probeExpires _ _ =>
    inferInstanceAs (Decidable (s.pktManagement = none → s.mhBackoff = .idle → ¬ s.IsIdle →
      (s.mhDefer = true → s.pktCTRL.isSome) ∧ s.txState ≠ .send ∧ s.txState ≠ .rts))
  | .recvEnd .rts _ => isTrue trivial
  | .recvEnd .cts _ => isTrue trivial
  | .recvEnd .ack _ => isTrue trivial
  | .recvEnd (.data _) _ => isTrue trivial
  | .recvEnd .broadcast _ => isTrue trivial
  | .recvEnd (.assocRequest _ _) _ => isTrue trivial
  | .recvEnd (.probeRequest _ _) _ => isTrue trivial
  | .recvEnd (.beacon _) _ => isTrue trivial
  | .recvEnd .dropped _ => isTrue trivial
  | .arrive _ => isTrue trivial
  | .deferExpires => isTrue trivial
  | .backoffExpires => isTrue trivial
  | .sendExpires => isTrue trivial
  | .ifExpires => isTrue trivial
  | .navExpires => isTrue trivial
  | .navLapses => isTrue trivial
  | .recvStart _ => isTrue trivial
  | .linkConnect _ _ => isTrue trivial
  | .linkDisconnect => isTrue trivial
  | .linkScan _ => isTrue trivial
  | .nextScan _ => isTrue trivial
  | .beaconExpires => isTrue trivial
  | .clientExpires _ => isTrue trivial

theorem timers_disciplined_of_join :
    ∃ s, runSteps (step · 1) { ap := false, mib := sampleMib } sampleJoin = .ok s ∧
      s.Disciplined :=
  timers_disciplined sampleMib 0 (by decide +kernel) (by decide +kernel)

/-- The response makes `tx_resume` fail while `mhDefer_` runs for the packet.  And the probe request
starts `mhBackoff_`, which `RetransmitDATA` expects to be idle. -/
theorem timers_undisciplined :
    (StepsMeet (step · 1) Occurs { ap := false, mib := sampleMib }
        (sampleJoin ++ receives (.assocResponse false)) ∧
      runSteps (step · 1) { ap := false, mib := sampleMib }
        (sampleJoin ++ receives (.assocResponse false)) = .error .assertion) ∧
    StepsMeet (step · 1) Occurs { ap := false, mib := sampleMib } sampleProbe ∧
      runSteps (step · 1) { ap := false, mib := sampleMib } sampleProbe = .error .assertion := by
  refine ⟨⟨?_, rfl⟩, ?_, rfl⟩
  · decide +kernel
  · decide +kernel

end Transmitter

end SipNemo.Mac
