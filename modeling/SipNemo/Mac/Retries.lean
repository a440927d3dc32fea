import SipNemo.Mac.Consumption

/-!
# The retry budget

A frame is transmitted until it is acknowledged or `ssrc_`, which counts the transmissions that
failed, reaches the short retry limit.  `RetransmitDATA` resets the counter when it drops a packet
and `RetransmitManagement` does not; `recvACK` resets the other counter for a management frame that
is larger than the RTS threshold.  The next frame begins with what is left in `ssrc_`, and has its
full budget if and only if that is nothing (`full_iff`).
-/

namespace SipNemo.Mac

open Outcome Runs
open Mih (MacAddr)

namespace Transmitter

variable {s t : Transmitter} {e : Event} {n : ℕ} {p : DataFrame} {m : MgmtFrame}

/-- The data packet and the management frame that are transmitted. -/
def frame (s : Transmitter) : Option DataFrame × Option MgmtFrame := (s.pktTx, s.pktManagement)

/-- A frame other than a beacon or a control frame is pending. -/
def Pending (s : Transmitter) : Prop := s.pktTx.isSome ∨ s.pktManagement.isSome

/-- The frame that is pending is a unicast packet sent without an RTS or a unicast management frame,
and no other frame is pending meanwhile. -/
structure OneFrame (s : Transmitter) : Prop where
  rts : s.pktRTS = false
  data : ∀ p ∈ s.pktTx, p.ra ≠ macBroadcast ∧ p.size ≤ s.mib.rtsThreshold ∧ s.pktManagement = none
  management : ∀ m ∈ s.pktManagement, m.ra ≠ macBroadcast
  alone : s.Pending → s.pktBeacon = false ∧ s.managementQueue = [] ∧ s.tmpPacket = none ∧ s.ifq = []

/-- A transmission of the frame fails. -/
def Fails (s : Transmitter) (e : Event) : Prop :=
  e = .sendExpires ∧ s.txState = .send ∧ s.SentFrame

/-- What a transmission that fails comes to: the frame is dropped, or `ssrc_` counts it. -/
def Counted (s t : Transmitter) : Prop :=
  if s.mib.shortRetryLimit ≤ countUp s.ssrc then t.frame ≠ s.frame ∧ t.ssrc < 2 ^ 32
  else t.frame = s.frame ∧ t.ssrc = countUp s.ssrc

/-- What any other step comes to: `ssrc_` is left alone, or the frame is acknowledged. -/
def Uncounted (s t : Transmitter) : Prop :=
  t.ssrc = s.ssrc ∨ t.frame ≠ s.frame ∧ t.ssrc = 0

/-! ### The frame stays the same -/

/-- The frame, with what may follow it. -/
def outgoing (s : Transmitter) :=
  (s.frame, s.ssrc, s.tmpPacket, s.ifq)

theorem startBackoff_outgoing (s : Transmitter) : Keeps outgoing s.startBackoff s :=
  keeps_assertThat rfl

theorem sendRTS_outgoing (s : Transmitter) (dst : MacAddr) :
    Keeps outgoing (s.sendRTS dst) s := by
  refine keeps_assertNonNull fun _ _ => keeps_assertThat ?_
  split_ifs
  · exact rfl
  · exact rfl

theorem deferUnlessBackoff_outgoing (s : Transmitter) (ifs : Ifs) :
    Keeps outgoing (s.deferUnlessBackoff ifs) s := by
  unfold deferUnlessBackoff
  split_ifs
  · exact keeps_assertThat rfl
  · exact rfl

theorem setTxState_outgoing (s : Transmitter) (x : MacState) :
    (s.setTxState x).outgoing = s.outgoing := by
  obtain ⟨b, hb, -⟩ := s.setTxState_eq x
  rw [hb]
  rfl

/-- No packet follows when none is kept and the queue is empty. -/
theorem txResume_outgoing (n : ℕ) (htmp : s.tmpPacket = none) (hifq : s.ifq = []) :
    Keeps outgoing (s.txResume n) s := by
  cases n with
  | zero => trivial
  | succ n =>
    unfold txResume
    refine keeps_assertThat (keeps_assertThat ?_)
    refine Keeps.bind ?_ fun t => t.setTxState_outgoing .idle
    split_ifs
    · exact keeps_assertThat rfl
    · exact s.deferUnlessBackoff_outgoing _
    · exact s.deferUnlessBackoff_outgoing _
    · exact rfl
    · exact s.deferUnlessBackoff_outgoing _
    · exact s.deferUnlessBackoff_outgoing _
    · rw [htmp]
      unfold resumeQueue
      dsimp only [emit]
      rw [hifq]
      exact congrArg (fun q => (s.frame, s.ssrc, s.tmpPacket, q)) hifq.symm
    · exact rfl

/-! ### Transmissions that fail -/

theorem outgoing_eq (h : t.outgoing = s.outgoing) :
    t.frame = s.frame ∧ t.ssrc = s.ssrc ∧ t.tmpPacket = s.tmpPacket ∧ t.ifq = s.ifq := by
  simpa [outgoing] using h

theorem counted_of_outgoing {u : Transmitter} (h : s.Counted t) (hu : u.outgoing = t.outgoing) :
    s.Counted u := by
  obtain ⟨hframe, hssrc, -⟩ := outgoing_eq hu
  unfold Counted
  rw [hframe, hssrc]
  exact h

/-- The transmission failed, and no packet follows. -/
def Failed (s t : Transmitter) : Prop := s.Counted t ∧ t.tmpPacket = none ∧ t.ifq = []

theorem failed_of_outgoing {u : Transmitter} (h : s.Failed t) (hu : u.outgoing = t.outgoing) :
    s.Failed u := by
  obtain ⟨-, -, htmp, hifq⟩ := outgoing_eq hu
  exact ⟨counted_of_outgoing h.1 hu, htmp.trans h.2.1, hifq.trans h.2.2⟩

theorem countUp_lt (k : ℕ) : countUp k < 2 ^ 32 := Nat.mod_lt _ (by norm_num)

/-- The frame stays, and its failure is counted. -/
theorem failed_of_again (hlimit : ¬ s.mib.shortRetryLimit ≤ countUp s.ssrc)
    (htmp : s.tmpPacket = none) (hifq : s.ifq = []) :
    s.Failed { s with ssrc := countUp s.ssrc } := by
  refine ⟨?_, htmp, hifq⟩
  unfold Counted
  rw [if_neg hlimit]
  exact ⟨rfl, rfl⟩

theorem giveUp_failed (hlimit : s.mib.shortRetryLimit ≤ countUp s.ssrc)
    (hm : s.pktManagement = some m) (hqueue : s.managementQueue = []) (htmp : s.tmpPacket = none)
    (hifq : s.ifq = []) : s.Failed ({ s with ssrc := countUp s.ssrc }.giveUp m) := by
  have hgone : ∀ t : Transmitter, t.pktManagement = none → t.frame ≠ s.frame := by
    intro t hnone hframe
    cases hnone.symm.trans ((congrArg Prod.snd hframe).trans hm)
  unfold Failed Counted giveUp
  rw [if_pos hlimit]
  dsimp only
  split_ifs
  · exact ⟨⟨hgone _ rfl, by norm_num [deque, clearTxRx]⟩, htmp, hifq⟩
  · refine ⟨⟨hgone _ ?_, countUp_lt _⟩, htmp, hifq⟩
    simp [deque, hqueue]

theorem retransmitManagement_failed (h : s.OneFrame) (hm : s.pktManagement = some m) :
    Meets s.retransmitManagement (fun _ => True) s.Failed := by
  obtain ⟨-, hqueue, htmp, hifq⟩ := h.alone (Or.inr (by simp [hm]))
  unfold retransmitManagement
  refine meets_assertThat_of (fun _ => trivial) fun _ => meets_assertNonNull hm ?_
  rw [if_neg (h.management m hm)]
  dsimp only
  split_ifs with hlimit
  · exact giveUp_failed hlimit hm hqueue htmp hifq
  · refine (startBackoff_outgoing _).mono (fun _ _ => trivial) fun t ht => ?_
    exact failed_of_outgoing (failed_of_again hlimit htmp hifq) ht

theorem retransmitDATA_failed (h : s.OneFrame) (hp : s.pktTx = some p) :
    Meets s.retransmitDATA (fun _ => True) s.Failed := by
  obtain ⟨-, -, htmp, hifq⟩ := h.alone (Or.inl (by simp [hp]))
  obtain ⟨hra, hsize, -⟩ := h.data p hp
  unfold retransmitDATA
  refine meets_assertThat_of (fun _ => trivial) fun _ => meets_assertNonNull hp ?_
  refine meets_assertThat_of (fun _ => trivial) fun _ => ?_
  rw [if_neg hra, if_pos hsize]
  dsimp only
  split_ifs with hlimit
  · refine ⟨?_, htmp, hifq⟩
    unfold Counted
    rw [if_pos hlimit]
    refine ⟨fun hframe => ?_, by norm_num⟩
    cases (congrArg Prod.fst hframe).trans hp
  · have hrts := sendRTS_outgoing { s with ssrc := countUp s.ssrc } p.ra
    refine (hrts.bind startBackoff_outgoing).mono (fun _ _ => trivial) fun t ht => ?_
    exact failed_of_outgoing (failed_of_again hlimit htmp hifq) ht

/-- `send_timer` for a frame that was not acknowledged. -/
theorem unansweredFrame_failed (h : s.OneFrame) (htx : s.txState = .send) (hsent : s.SentFrame) :
    Meets s.unansweredFrame (fun _ => True) s.Failed := by
  unfold unansweredFrame
  rw [htx]
  dsimp only [sendExpired]
  rcases hsent with ⟨hlast, hmgmt⟩ | ⟨hlast, htx, -⟩
  · obtain ⟨m, hm⟩ := Option.isSome_iff_exists.1 hmgmt
    have hbeacon := (h.alone (Or.inr hmgmt)).1
    rw [if_neg (by simp [pointer, hbeacon, hlast])]
    unfold retransmit
    rw [if_pos (by simp [pointer, hmgmt, hlast]), if_neg (by simp [hbeacon])]
    exact retransmitManagement_failed h hm
  · obtain ⟨p, hp⟩ := Option.isSome_iff_exists.1 htx
    have hbeacon := (h.alone (Or.inl htx)).1
    have hmgmt := (h.data p hp).2.2
    rw [if_neg (by simp [pointer, hbeacon, hlast])]
    unfold retransmit
    rw [if_neg (by simp [pointer, hmgmt, hlast]), if_pos (by simp [pointer, htx, hlast]),
      if_neg (by simp [hbeacon])]
    exact retransmitDATA_failed h hp

theorem sendTimer_counted (h : s.OneFrame) (htx : s.txState = .send) (hsent : s.SentFrame) :
    Meets (s.sendTimer n) (fun _ => True) s.Counted :=
  (unansweredFrame_failed h htx hsent).bind fun _ ht =>
    (txResume_outgoing n ht.2.1 ht.2.2).mono (fun _ _ => trivial) fun _ hu =>
      counted_of_outgoing ht.1 hu

/-! ### The other steps -/

theorem ssrc_of_lasting (h : t.lasting = s.lasting) : t.ssrc = s.ssrc := by
  have hssrc := congrArg ssrc h
  exact hssrc

theorem uncounted_of_lasting {x : Act Transmitter} (h : Keeps lasting x s) :
    Meets x (fun _ => True) s.Uncounted :=
  h.mono (fun _ _ => trivial) fun _ ht => Or.inl (ssrc_of_lasting ht)

/-- A control frame or a beacon has been sent. -/
theorem unansweredFrame_uncounted (h : s.Sending) (hone : s.OneFrame)
    (hno : ¬ s.Fails .sendExpires) :
    Meets ({ s with mhSend := false }.unansweredFrame) (fun _ => True) fun t =>
      t.ssrc = s.ssrc := by
  have honair := h.onAir
  unfold OnAir at honair
  unfold unansweredFrame
  dsimp only
  split at honair
  · cases hone.rts.symm.trans honair.1
  · rename_i htx
    rw [htx]
    exact meets_assertNonNull_of (fun _ => trivial) fun _ _ => rfl
  · rename_i htx
    rw [htx]
    exact meets_assertNonNull_of (fun _ => trivial) fun _ _ => rfl
  · rename_i htx
    rcases honair.1 with ⟨hlast, hbeacon⟩ | ⟨-, hsent⟩
    · have hidle : s.pktRetransmit = none := by
        refine Option.eq_none_iff_forall_ne_some.2 fun f hf => ?_
        have hpending : s.Pending :=
          (h.slots.retransmit f hf).2.elim (fun hm => Or.inr hm.2) fun hp => Or.inl hp.2.1
        cases hbeacon.symm.trans (hone.alone hpending).1
      rw [htx]
      dsimp only [sendExpired]
      rw [if_pos (by simp [pointer, hbeacon, hlast]), if_neg (by simp [hbeacon]), hidle]
      exact rfl
    · exact (hno ⟨rfl, htx, hsent⟩).elim
  · exact honair.elim

theorem sendTimer_uncounted (h : s.Sending) (hone : s.OneFrame) (hno : ¬ s.Fails .sendExpires) :
    Meets ({ s with mhSend := false }.sendTimer n) (fun _ => True) s.Uncounted :=
  (unansweredFrame_uncounted h hone hno).bind fun t ht =>
    (txResume_lasting n t).mono (fun _ _ => trivial) fun _ hu =>
      Or.inl ((ssrc_of_lasting hu).trans ht)

/-- The frame is acknowledged, and no packet follows. -/
def Acked (s t : Transmitter) : Prop :=
  (t.frame ≠ s.frame ∧ (t.ssrc = s.ssrc ∨ t.ssrc = 0)) ∧ t.tmpPacket = none ∧ t.ifq = []

theorem acked_of_outgoing {u : Transmitter} (h : s.Acked t) (hu : u.outgoing = t.outgoing) :
    s.Acked u := by
  obtain ⟨hframe, hssrc, htmp, hifq⟩ := outgoing_eq hu
  unfold Acked
  rw [hframe, hssrc, htmp, hifq]
  exact h

theorem dataAcknowledged_acked (h : s.OneFrame) :
    Meets s.dataAcknowledged (fun _ => True) s.Acked := by
  refine meets_deref_of (fun _ => trivial) fun p hp => ?_
  obtain ⟨-, -, htmp, hifq⟩ := h.alone (Or.inl (by simp [hp]))
  have hgone : (none, s.pktManagement) ≠ s.frame := fun hframe => by
    cases (congrArg Prod.fst hframe).trans hp
  dsimp only
  split_ifs
  · exact ⟨⟨hgone, Or.inr rfl⟩, htmp, hifq⟩
  · exact ⟨⟨hgone, Or.inl rfl⟩, htmp, hifq⟩

theorem managementAcknowledged_acked (h : s.OneFrame) :
    Meets s.managementAcknowledged (fun _ => True) s.Acked := by
  refine meets_deref_of (fun _ => trivial) fun m hm => ?_
  refine meets_assertThat_of (fun _ => trivial) fun _ => ?_
  obtain ⟨-, hqueue, htmp, hifq⟩ := h.alone (Or.inr (by simp [hm]))
  refine Meets.bind (R := fun t => t.outgoing = s.outgoing ∧ t.managementQueue = []) ?_
    fun t ht => ?_
  · split_ifs
    · refine meets_assertNonNull_of (fun _ => trivial) fun c _ => ?_
      unfold associate
      dsimp only
      split_ifs
      · exact ⟨rfl, hqueue⟩
      · exact ⟨rfl, hqueue⟩
    · exact ⟨rfl, hqueue⟩
  · obtain ⟨-, hssrc, htmp', hifq'⟩ := outgoing_eq ht.1
    have hgone : (t.pktTx, t.managementQueue.head?) ≠ s.frame := fun hframe => by
      rw [ht.2] at hframe
      cases (congrArg Prod.snd hframe).trans hm
    dsimp only
    split_ifs
    · exact ⟨⟨hgone, Or.inr rfl⟩, htmp'.trans htmp, hifq'.trans hifq⟩
    · exact ⟨⟨hgone, Or.inl hssrc⟩, htmp'.trans htmp, hifq'.trans hifq⟩

theorem recvACK_uncounted (h : s.OneFrame) :
    Meets (s.recvACK n) (fun _ => True) s.Uncounted := by
  have hone : { s with mhSend := false }.OneFrame := { h with }
  have hstop : Meets s.stopSend (fun _ => True) fun t => t = { s with mhSend := false } :=
    meets_assertThat_of (fun _ => trivial) fun _ => rfl
  unfold recvACK
  split_ifs
  · exact Or.inl rfl
  refine meets_assertThat_of (fun _ => trivial) fun _ => hstop.bind ?_
  rintro _ rfl
  refine Meets.bind (R := s.Acked) ?_ fun t ht => ?_
  · split_ifs
    · exact dataAcknowledged_acked hone
    · exact managementAcknowledged_acked hone
  refine meets_assertThat_of (fun _ => trivial) fun _ => ?_
  refine Meets.bind (R := s.Acked) ?_ fun u hu => ?_
  · split_ifs
    · exact t.startBackoff_outgoing.mono (fun _ _ => trivial) fun u hu => acked_of_outgoing ht hu
    · exact ht
  · refine (txResume_outgoing n hu.2.1 hu.2.2).mono (fun _ _ => trivial) fun v hv => ?_
    obtain ⟨⟨hframe, hssrc⟩, -⟩ := acked_of_outgoing hu hv
    exact hssrc.imp id fun hzero => ⟨hframe, hzero⟩

theorem enque_ssrc (s : Transmitter) (m : MgmtFrame) : (s.enque m).ssrc = s.ssrc := by
  unfold enque
  split_ifs
  · rfl
  · rfl

theorem admitClient_ssrc (s : Transmitter) (src : MacAddr) (ptr : ℕ) :
    (s.admitClient src ptr).ssrc = s.ssrc := by
  unfold admitClient
  split
  · exact s.enque_ssrc _
  · split_ifs
    · exact s.enque_ssrc _
    · rfl

theorem recvAssocRequest_uncounted (s : Transmitter) (src : MacAddr) (ptr : ℕ) :
    Meets (s.recvAssocRequest n src ptr) (fun _ => True) s.Uncounted := by
  refine meets_assertThat_of (fun _ => trivial) fun _ => ?_
  split_ifs
  · exact Or.inl rfl
  · refine Meets.bind s.sendACK_lasting fun t ht => ?_
    refine Meets.bind (resumeUnlessSending_lasting _) fun u hu => ?_
    have hssrc := (ssrc_of_lasting hu).trans (ssrc_of_lasting ht)
    exact Or.inl ((u.admitClient_ssrc src ptr).trans hssrc)

theorem recvProbeRequest_uncounted (s : Transmitter) (src : MacAddr) (ptr : ℕ) :
    Meets (s.recvProbeRequest n src ptr) (fun _ => True) s.Uncounted := by
  unfold recvProbeRequest
  split_ifs
  · exact Or.inl rfl
  · refine (resumeUnlessSending_lasting _).mono (fun _ _ => trivial) fun t ht => ?_
    exact Or.inl ((ssrc_of_lasting ht).trans (s.enque_ssrc _))

theorem recvCTS_uncounted (h : s.OneFrame) :
    Meets (s.recvCTS n) (fun _ => True) s.Uncounted := by
  unfold recvCTS
  split_ifs
  · exact Or.inl rfl
  · refine meets_assertThat_of (fun _ => trivial) fun hrts => ?_
    cases h.rts.symm.trans hrts

theorem handle_uncounted (h : s.OneFrame) (hap : s.ap = true) {f : RxFrame} {sets : Bool}
    (he : s.Occurs (.recvEnd f sets)) : Meets (s.handle n f) (fun _ => True) s.Uncounted := by
  cases f with
  | rts => exact uncounted_of_lasting s.recvRTS_lasting
  | cts => exact recvCTS_uncounted h
  | ack => exact recvACK_uncounted h
  | data size => exact uncounted_of_lasting (s.recvDATA_lasting size)
  | broadcast => exact Or.inl rfl
  | assocRequest src ptr => exact s.recvAssocRequest_uncounted src ptr
  | assocResponse refused => cases hap.symm.trans he.2
  | probeRequest src ptr => exact s.recvProbeRequest_uncounted src ptr
  | probeResponse => cases hap.symm.trans he.2
  | beacon connects =>
    unfold handle recvBeacon
    dsimp only
    split
    · rw [if_neg (by simp [hap])]
      exact Or.inl rfl
    · exact Or.inl rfl
  | dropped => exact Or.inl rfl

theorem recvTimer_uncounted (h : s.OneFrame) (hap : s.ap = true) {f : RxFrame} {sets : Bool}
    (he : s.Occurs (.recvEnd f sets)) :
    Meets (s.recvTimer n f sets) (fun _ => True) s.Uncounted := by
  refine meets_assertThat_of (fun _ => trivial) fun _ => ?_
  refine Meets.bind (R := s.Uncounted) ?_ fun t ht => ?_
  · split_ifs
    · exact Or.inl rfl
    · exact Or.inl rfl
    · exact Or.inl rfl
    · have hone : { s with nav := s.nav || sets }.OneFrame := { h with }
      exact handle_uncounted hone hap (he.setNav _)
  · obtain ⟨b, hb, -⟩ := t.setRxState_eq .idle
    rw [hb]
    exact ht

/-- No other step counts. -/
theorem step_uncounted (h : s.DisciplinedAp) (hone : s.OneFrame) (he : s.Occurs e)
    (hno : ¬ s.Fails e) : Meets (s.step n e) (fun _ => True) s.Uncounted := by
  cases e with
  | arrive p => exact uncounted_of_lasting (s.arrive_lasting p)
  | deferExpires => exact uncounted_of_lasting ((deferHandler_lasting _).of_eq rfl)
  | backoffExpires => exact uncounted_of_lasting ((backoffHandler_lasting _).of_eq rfl)
  | sendExpires => exact sendTimer_uncounted (h.2.sending he) hone hno
  | ifExpires => exact Or.inl rfl
  | navExpires => exact Or.inl (ssrc_of_lasting (navHandler_lasting { s with nav := false }))
  | navLapses => exact Or.inl rfl
  | recvStart b => exact Or.inl (ssrc_of_lasting (s.recv_lasting b))
  | recvEnd f sets => exact recvTimer_uncounted hone h.1 he
  | linkConnect macPoA ptr => cases h.1.symm.trans he
  | linkDisconnect => cases h.1.symm.trans he
  | linkScan clears => cases h.1.symm.trans he
  | nextScan branch => cases h.1.symm.trans he.1
  | probeExpires dst ptr => cases h.1.symm.trans he
  | beaconExpires => exact uncounted_of_lasting s.sendBeacon_lasting
  | clientExpires d =>
    unfold step processClientTimeout
    dsimp only
    split
    · exact Or.inl rfl
    · exact Or.inl rfl

theorem step_counted (hone : s.OneFrame) (hfails : s.Fails e) :
    Meets (s.step n e) (fun _ => True) s.Counted := by
  obtain ⟨rfl, htx, hsent⟩ := hfails
  exact sendTimer_counted (s := { s with mhSend := false }) { hone with } htx hsent

instance (s : Transmitter) : Decidable s.SentFrame := inferInstanceAs (Decidable (_ ∨ _))

instance (s : Transmitter) (e : Event) : Decidable (s.Fails e) :=
  inferInstanceAs (Decidable (_ ∧ _ ∧ _))

instance (s : Transmitter) : Decidable s.Pending := inferInstanceAs (Decidable (_ ∨ _))

instance (s : Transmitter) : Decidable s.OneFrame :=
  decidable_of_iff
    (s.pktRTS = false ∧
      (∀ p ∈ s.pktTx, p.ra ≠ macBroadcast ∧ p.size ≤ s.mib.rtsThreshold ∧ s.pktManagement = none) ∧
      (∀ m ∈ s.pktManagement, m.ra ≠ macBroadcast) ∧
      (s.Pending →
        s.pktBeacon = false ∧ s.managementQueue = [] ∧ s.tmpPacket = none ∧ s.ifq = []))
    ⟨fun ⟨h1, h2, h3, h4⟩ => ⟨h1, h2, h3, h4⟩,
      fun h => ⟨h.rts, h.data, h.management, h.alone⟩⟩

end Transmitter

/-! ### The transmissions of a frame -/

/-- A frame that was dropped: the transmissions of it that failed, and what was in `ssrc_` when it
was begun. -/
structure Drop where
  failed : ℕ
  start : ℕ
  deriving DecidableEq, Repr

/-- The frame was dropped as soon as `ssrc_` reached the limit, and not before. -/
structure Drop.AtLimit (k : ℕ) (d : Drop) : Prop where
  start : d.start < 2 ^ 32
  pos : 1 ≤ d.failed
  below : ∀ i, 1 ≤ i → i < d.failed → (d.start + i) % 2 ^ 32 < k
  limit : k ≤ (d.start + d.failed) % 2 ^ 32

/-- The frame was begun with nothing in `ssrc_`.  With a limit of one it may be anything but the
number that is counted up to zero. -/
def Drop.Fresh (k : ℕ) (d : Drop) : Prop := d.start = 0 ∨ k = 1 ∧ d.start ≠ 2 ^ 32 - 1

theorem Drop.AtLimit.failed_eq_iff {k : ℕ} {d : Drop} (h : d.AtLimit k) (hk : 1 ≤ k) :
    d.failed = k ↔ d.Fresh k := by
  obtain ⟨hstart, hpos, hbelow, hlimit⟩ := h
  unfold Drop.Fresh
  constructor
  · intro hfull
    -- the counter reaches `k` after `k - start` failures, or after the first one
    have hfirst := hbelow 1 le_rfl
    have hreach := hbelow (k - d.start)
    omega
  · rintro (hzero | ⟨rfl, hmax⟩)
    · have hreach := hbelow k hk
      omega
    · have hfirst := hbelow 1 le_rfl
      omega

/-- An access point with a record of the frames it dropped: how often the transmission of the frame
has failed, and what was in `ssrc_` when it was begun. -/
structure Budget where
  mac : Transmitter
  failed : ℕ := 0
  start : ℕ := 0
  drops : List Drop := []

namespace Budget

variable {b b' : Budget} {e : Transmitter.Event} {t : Transmitter} {n k : ℕ}

/-- The failures are counted as long as the frame stays the same. -/
def advance (b : Budget) (e : Transmitter.Event) (t : Transmitter) : Budget :=
  let failed := if b.mac.Fails e then b.failed + 1 else b.failed
  if t.frame = b.mac.frame then { b with mac := t, failed := failed }
  else
    { mac := t
      failed := 0
      start := t.ssrc
      drops := if b.mac.Fails e then b.drops ++ [⟨failed, b.start⟩] else b.drops }

def step (n : ℕ) (b : Budget) (e : Transmitter.Event) : Act Budget :=
  (b.mac.step n e).map (b.advance e)

/-- `ssrc_` counts the failures from what was in it. -/
structure Tallied (k : ℕ) (b : Budget) : Prop where
  limit : b.mac.mib.shortRetryLimit = k
  start : b.start < 2 ^ 32
  ssrc : b.mac.ssrc = (b.start + b.failed) % 2 ^ 32
  below : ∀ i, 1 ≤ i → i ≤ b.failed → (b.start + i) % 2 ^ 32 < k
  drops : ∀ d ∈ b.drops, d.AtLimit k

theorem Tallied.countUp (h : b.Tallied k) :
    countUp b.mac.ssrc = (b.start + (b.failed + 1)) % 2 ^ 32 := by
  rw [Mac.countUp, h.ssrc, Nat.mod_add_mod, Nat.add_assoc]

/-- Another frame, or none. -/
theorem Tallied.renew (h : b.Tallied k) (hmib : t.mib = b.mac.mib) (hssrc : t.ssrc < 2 ^ 32)
    {drops : List Drop} (hdrops : ∀ d ∈ drops, d.AtLimit k) :
    (⟨t, 0, t.ssrc, drops⟩ : Budget).Tallied k where
  limit := (congrArg Mib.shortRetryLimit hmib).trans h.limit
  start := hssrc
  ssrc := (Nat.mod_eq_of_lt hssrc).symm
  below := fun _ hi hzero => (Nat.not_succ_le_zero 0 (hi.trans hzero)).elim
  drops := hdrops

theorem Tallied.ssrc_lt (h : b.Tallied k) : b.mac.ssrc < 2 ^ 32 := by
  rw [h.ssrc]
  exact Nat.mod_lt _ (by norm_num)

/-- A transmission that fails. -/
theorem Tallied.counted (h : b.Tallied k) (hmib : t.mib = b.mac.mib) (hfails : b.mac.Fails e)
    (ht : b.mac.Counted t) : (b.advance e t).Tallied k := by
  have hcount := h.countUp
  unfold Transmitter.Counted at ht
  unfold advance
  dsimp only
  rw [if_pos hfails, if_pos hfails]
  split_ifs at ht with hlimit
  · rw [if_neg ht.1]
    refine h.renew hmib ht.2 fun d hd => ?_
    rcases List.mem_append.1 hd with hold | hnew
    · exact h.drops d hold
    · obtain rfl := List.mem_singleton.1 hnew
      refine ⟨h.start, Nat.succ_pos _, fun i hi hlt => h.below i hi (Nat.lt_succ_iff.1 hlt), ?_⟩
      rw [← hcount, ← h.limit]
      exact hlimit
  · rw [if_pos ht.1]
    refine ⟨(congrArg Mib.shortRetryLimit hmib).trans h.limit, h.start, ht.2.trans hcount, ?_,
      h.drops⟩
    intro i hi hle
    rcases Nat.le_succ_iff.1 hle with hold | rfl
    · exact h.below i hi hold
    · exact lt_of_eq_of_lt hcount.symm (lt_of_lt_of_eq (not_le.1 hlimit) h.limit)

/-- Any other step. -/
theorem Tallied.uncounted (h : b.Tallied k) (hmib : t.mib = b.mac.mib) (hno : ¬ b.mac.Fails e)
    (ht : b.mac.Uncounted t) : (b.advance e t).Tallied k := by
  unfold advance
  dsimp only
  rw [if_neg hno, if_neg hno]
  split_ifs with hframe
  · have hssrc : t.ssrc = b.mac.ssrc := ht.resolve_right fun hgone => hgone.1 hframe
    exact { h with
      limit := (congrArg Mib.shortRetryLimit hmib).trans h.limit
      ssrc := hssrc.trans h.ssrc }
  · refine h.renew hmib ?_ h.drops
    rcases ht with hsame | ⟨-, hzero⟩
    · rw [hsame]
      exact h.ssrc_lt
    · rw [hzero]
      norm_num

theorem Tallied.step (h : b.Tallied k) (hmac : b.mac.DisciplinedAp) (he : b.mac.Occurs e)
    (hone : b.mac.OneFrame) (hb : b.step n e = .ok b') : b'.Tallied k := by
  obtain ⟨t, ht, rfl⟩ := map_ok_iff.1 hb
  have hmib : t.mib = b.mac.mib := (b.mac.step_mib e).of_ok ht
  by_cases hfails : b.mac.Fails e
  · exact h.counted hmib hfails ((Transmitter.step_counted hone hfails).of_ok ht)
  · exact h.uncounted hmib hfails ((Transmitter.step_uncounted hmac hone he hfails).of_ok ht)

theorem mac_advance (b : Budget) (e : Transmitter.Event) (t : Transmitter) :
    (b.advance e t).mac = t := by
  unfold advance
  dsimp only
  split_ifs <;> rfl

theorem step_mac (hb : b.step n e = .ok b') : b.mac.step n e = .ok b'.mac := by
  obtain ⟨t, ht, rfl⟩ := map_ok_iff.1 hb
  rw [ht, b.mac_advance e t]

/-- Every frame that was dropped was transmitted as often as the limit says. -/
def AllFull (b : Budget) : Prop := ∀ d ∈ b.drops, d.failed = b.mac.mib.shortRetryLimit

/-- Every frame that was dropped was begun with nothing in `ssrc_`. -/
def AllFresh (b : Budget) : Prop := ∀ d ∈ b.drops, d.Fresh b.mac.mib.shortRetryLimit

/-- What happens, one frame at a time. -/
def Occurs (b : Budget) (e : Transmitter.Event) : Prop := b.mac.Occurs e ∧ b.mac.OneFrame

instance (b : Budget) (e : Transmitter.Event) : Decidable (b.Occurs e) :=
  inferInstanceAs (Decidable (_ ∧ _))

/-- In every run of an access point with one frame at a time the frames that are dropped have failed
as often as the limit says if and only if they were begun with nothing in `ssrc_`. -/
theorem full_iff (mib : Mib) (n : ℕ) (hlimit : 1 ≤ mib.shortRetryLimit)
    {es : List Transmitter.Event}
    (hoccurs : StepsMeet (step (n + 1)) Occurs { mac := { ap := true, mib := mib } } es)
    (hrun : runSteps (step (n + 1)) { mac := { ap := true, mib := mib } } es = .ok b) :
    b.AllFull ↔ b.AllFresh := by
  have hnew : (⟨{ ap := true, mib := mib }, 0, 0, []⟩ : Budget).Tallied mib.shortRetryLimit :=
    ⟨rfl, by norm_num, rfl, fun _ hi hzero => (Nat.not_succ_le_zero 0 (hi.trans hzero)).elim,
      by simp⟩
  have hend : b.mac.DisciplinedAp ∧ b.Tallied mib.shortRetryLimit := by
    refine runSteps_invariant (I := fun b => b.mac.DisciplinedAp ∧ b.Tallied mib.shortRetryLimit)
      (fun _ _ _ h he hb => ?_) ⟨⟨rfl, Transmitter.disciplined_of_new true mib⟩, hnew⟩ hoccurs hrun
    exact ⟨h.1.step he.1 (step_mac hb), h.2.step h.1 he.1 he.2 hb⟩
  unfold AllFull AllFresh
  rw [hend.2.limit]
  exact forall₂_congr fun d hd => (hend.2.drops d hd).failed_eq_iff hlimit

instance (b : Budget) : Decidable b.AllFull := inferInstanceAs (Decidable (∀ _ ∈ _, _))

instance (k : ℕ) (d : Drop) : Decidable (d.Fresh k) := inferInstanceAs (Decidable (_ ∨ _))

instance (b : Budget) : Decidable b.AllFresh := inferInstanceAs (Decidable (∀ _ ∈ _, _))

/-- An access point that gives up after two transmissions. -/
def twoTries : Budget :=
  { mac := { ap := true, mib := { Transmitter.sampleMib with shortRetryLimit := 2 } } }

/-- One for which an association response is larger than the RTS threshold. -/
def smallThreshold : Budget :=
  { mac :=
      { ap := true
        mib := { Transmitter.sampleMib with shortRetryLimit := 2, rtsThreshold := 50 } } }

/-- The frame on the air is not acknowledged and sent again. -/
def sampleRetry : List Transmitter.Event := [.sendExpires, .backoffExpires, .ifExpires]

/-- A station asks for an association and does not acknowledge the response. -/
def sampleLoss : List Transmitter.Event :=
  Transmitter.requests 1 10 ++ sampleRetry ++ [.sendExpires]

/-- The response is acknowledged the second time, and a packet is sent to the station. -/
def sampleLate : List Transmitter.Event :=
  Transmitter.requests 1 10 ++ sampleRetry ++ Transmitter.receives .ack ++
    [.backoffExpires, .arrive ⟨0, 1, 10⟩, .deferExpires, .backoffExpires, .ifExpires, .sendExpires]

theorem full_of_fresh :
    ∃ b, runSteps (step 1) twoTries sampleLoss = .ok b ∧ b.drops = [⟨2, 0⟩] ∧ b.AllFull :=
  have hoccurs : StepsMeet (step 1) Occurs twoTries sampleLoss := by decide +kernel
  ⟨_, rfl, rfl, (full_iff twoTries.mac.mib 0 (by decide) hoccurs rfl).2 (by decide +kernel)⟩

/-- The response that is sent after a response was dropped is dropped after one transmission, and so
is the packet after a response that was acknowledged late. -/
theorem not_full :
    (∃ b, runSteps (step 1) twoTries (sampleLoss ++ Transmitter.requests 1 11 ++ [.sendExpires]) =
        .ok b ∧
      StepsMeet (step 1) Occurs twoTries
        (sampleLoss ++ Transmitter.requests 1 11 ++ [.sendExpires]) ∧
      b.drops = [⟨2, 0⟩, ⟨1, 2⟩] ∧ ¬ b.AllFull) ∧
    ∃ b, runSteps (step 1) smallThreshold sampleLate = .ok b ∧
      StepsMeet (step 1) Occurs smallThreshold sampleLate ∧ b.drops = [⟨1, 1⟩] ∧ ¬ b.AllFull := by
  refine ⟨⟨_, rfl, ?_, rfl, ?_⟩, ⟨_, rfl, ?_, rfl, ?_⟩⟩
  · decide +kernel
  · decide +kernel
  · decide +kernel
  · decide +kernel

end Budget

end SipNemo.Mac
