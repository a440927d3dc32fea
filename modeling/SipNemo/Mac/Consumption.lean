import SipNemo.Mac.ClientList

/-!
# Packets are consumed

The discipline of the timers accounts for the packets of the interface queue in every state.  The
calls of `tx_resume` nest without end exactly when it finds a packet that was kept and is to be
discarded (`Stuck`), and only `send_timer` can call it so (`settled_iff`).  What `send` does with a
packet is decided by the clients it finds, and not by the one the packet is for
(`Accounted.outcome`).
-/

namespace SipNemo.Mac

open Monitor Outcome Runs
open Mih (MacAddr)

namespace Transmitter

variable {s t : Transmitter} {e : Event} {n : ℕ} {p : DataFrame}

/-! ### The calls of `tx_resume` that nest -/

/-- The computation is not cut off. -/
def Ends (x : Act Transmitter) : Prop := Meets x (· ≠ .recursion) fun _ => True

theorem startDefer_ends (s : Transmitter) (ifs : Ifs) : Ends (s.startDefer ifs) :=
  meets_assertThat_of (fun _ => by simp) fun _ => trivial

theorem deferUnlessBackoff_ends (s : Transmitter) (ifs : Ifs) :
    Ends (s.deferUnlessBackoff ifs) := by
  unfold deferUnlessBackoff
  split_ifs
  · exact s.startDefer_ends _
  · trivial

theorem awaitMedium_ends (s : Transmitter) : Ends s.awaitMedium := by
  rcases s.awaitMedium_cases with ⟨hok, -⟩ | ⟨hok, -⟩ | ⟨hok, -⟩ <;> rw [hok] <;> trivial

theorem takePacket_ends (s : Transmitter) (p : DataFrame) : Ends (s.takePacket p) := by
  unfold takePacket sendDATA
  refine Meets.bind (R := fun _ => True) (meets_assertThat_of (fun _ => by simp) fun _ => trivial)
    fun t _ => Meets.bind (R := fun _ => True) ?_ fun u _ => u.awaitMedium_ends
  refine meets_assertNonNull_of (fun _ => by simp) fun _ _ => ?_
  refine meets_assertThat_of (fun _ => by simp) fun _ => ?_
  split_ifs <;> trivial

/-- `send` calls `tx_resume` for a packet that it discards only. -/
theorem send_ends {resume : Transmitter → Act Transmitter}
    (hresume : Refuses s.ap s.clients p → s.TimersIdle →
      Ends (resume ((s.emit (.passed p s.clients)).discardPacket p))) : Ends (s.send resume p) := by
  unfold Transmitter.send
  dsimp only
  split_ifs with hdrop hidle
  · exact hresume hdrop hidle
  · trivial
  · trivial
  · exact takePacket_ends _ p

/-- The queue hands down its next packet, if it has one. -/
theorem resumeQueue_ends (htmp : s.tmpPacket = none)
    {resume : Transmitter → Act Transmitter}
    (hresume : ∀ t : Transmitter, t.tmpPacket = none → t.ifq.length < s.ifq.length →
      Ends (resume t)) : Ends (s.resumeQueue resume) := by
  unfold resumeQueue
  split
  · trivial
  · rename_i p q hq
    refine send_ends fun _ _ => hresume _ htmp ?_
    rw [hq]
    exact Nat.lt_succ_self _

/-- One call of `tx_resume`, which takes a packet off the queue before the next one nests. -/
theorem txResume_ends_of (hstuck : ∀ p, ¬ s.Stuck p)
    (hresume : ∀ t : Transmitter, t.tmpPacket = none → t.ifq.length < s.ifq.length →
      Ends (t.txResume n)) : Ends (s.txResume (n + 1)) := by
  unfold Transmitter.txResume
  refine meets_assertThat_of (fun _ => by simp) fun hsend => ?_
  refine meets_assertThat_of (fun _ => by simp) fun hdefer => ?_
  refine Meets.bind (R := fun _ => True) ?_ fun _ _ => trivial
  split_ifs with hctrl hbeacon hmgmt hscan hrts htx hcallback
  · exact s.startDefer_ends _
  · exact s.deferUnlessBackoff_ends _
  · exact s.deferUnlessBackoff_ends _
  · trivial
  · exact s.deferUnlessBackoff_ends _
  · exact s.deferUnlessBackoff_ends _
  · split
    · rename_i p hp
      refine Meets.bind (R := fun _ => True) (send_ends fun hdrop hidle => ?_) fun _ _ => trivial
      exact (hstuck p ⟨hsend, hdefer, hidle.1, by simpa using hctrl, by simpa using hbeacon,
        by simpa using hmgmt, by simpa using hscan, by simpa using hrts, by simpa using htx,
        hcallback, hp, hdrop⟩).elim
    · rename_i htmp
      have hcalled : ({ s.emit (.callback s.tmpPacket s.pktTx) with callback := false }).tmpPacket =
          none := htmp
      exact resumeQueue_ends hcalled hresume
  · trivial

theorem txResume_ends (m : ℕ) : ∀ {s : Transmitter}, (∀ p, ¬ s.Stuck p) → s.ifq.length ≤ m →
    ∀ k, m < k → Ends (s.txResume k) := by
  induction m with
  | zero =>
    intro s hstuck hlen k hk
    obtain ⟨k, rfl⟩ := Nat.exists_eq_succ_of_ne_zero (Nat.ne_zero_of_lt hk)
    exact txResume_ends_of hstuck fun t _ hlt => by omega
  | succ m ih =>
    intro s hstuck hlen k hk
    obtain ⟨k, rfl⟩ := Nat.exists_eq_succ_of_ne_zero (Nat.ne_zero_of_lt hk)
    refine txResume_ends_of hstuck fun t htmp hlt => ih (fun p hp => ?_) (by omega) k (by omega)
    cases htmp.symm.trans hp.tmp

/-- `tx_resume` settles unless it is stuck, and then it does not. -/
theorem txResume_settles_iff (s : Transmitter) :
    Settles .recursion (fun k => s.txResume k) ↔ ∀ p, ¬ s.Stuck p := by
  constructor
  · rintro ⟨m, hm⟩ p hstuck
    exact hm m le_rfl (hstuck.txResume m)
  · intro hstuck
    refine ⟨s.ifq.length + 1, fun k hk => ?_⟩
    exact (txResume_ends s.ifq.length hstuck le_rfl k hk).ne_error fun hne => hne rfl

/-! ### Who may be stuck -/

/-- There is something else to do than to pass a packet that was kept to `send` again. -/
def Occupied (s : Transmitter) : Prop :=
  s.pktCTRL.isSome ∨ s.pktBeacon = true ∨ s.pktManagement.isSome ∨ s.pktTx.isSome ∨
    s.mhBackoff ≠ .idle ∨ s.tmpPacket = none

theorem Occupied.settles (h : s.Occupied) : Settles .recursion fun k => s.txResume k := by
  refine s.txResume_settles_iff.2 fun p hstuck => ?_
  simp [Occupied, hstuck.ctrl, hstuck.beacon, hstuck.management, hstuck.tx, hstuck.backoff,
    hstuck.tmp] at h

theorem Occupied.resumeUnlessSending (h : s.Occupied) :
    Settles .recursion fun k => s.resumeUnlessSending k := by
  unfold Transmitter.resumeUnlessSending
  by_cases hsend : s.mhSend = false
  · simpa [hsend] using h.settles
  · simpa [hsend] using settles_of_meets (x := .ok s) (Q := fun _ => True) trivial

theorem settles_ok (s : Transmitter) : Settles Abort.recursion fun _ => (.ok s : Act Transmitter) :=
  settles_of_meets (Q := fun _ => True) trivial

theorem settles_assertThat {p : Prop} [Decidable p] {f : ℕ → Unit → Act Transmitter}
    (hf : p → Settles .recursion fun k => f k ()) :
    Settles .recursion fun k => assertThat p >>= f k := by
  have hp : Meets (assertThat p) (· ≠ .recursion) fun _ => p := by
    unfold assertThat
    split_ifs with h
    · exact h
    · exact fun hno => by cases hno
  exact hp.bind_settles fun _ h => hf h

theorem settles_assertNonNull {α : Type} {o : Option α} {f : ℕ → α → Act Transmitter}
    (hf : ∀ a, o = some a → Settles .recursion fun k => f k a) :
    Settles .recursion fun k => assertNonNull o >>= f k := by
  have ho : Meets (assertNonNull o) (· ≠ .recursion) fun a => o = some a := by
    cases o with
    | none => exact fun hno => by cases hno
    | some a => rfl
  exact ho.bind_settles hf

/-- A frame was sent for which the answer has arrived. -/
theorem stopSend_keeps {α : Type} (π : Transmitter → α)
    (hπ : ∀ s, π { s with mhSend := false } = π s)
    (s : Transmitter) : Meets s.stopSend (· ≠ .recursion) fun t => π t = π s :=
  meets_assertThat_of (fun _ => by simp) fun _ => hπ s

theorem sendACK_ctrl (s : Transmitter) :
    Meets s.sendACK (· ≠ .recursion) fun t => t.pktCTRL.isSome :=
  meets_assertThat_of (fun _ => by simp) fun _ => rfl

theorem recvRTS_settles (s : Transmitter) : Settles .recursion fun k => s.recvRTS k := by
  unfold recvRTS
  split_ifs
  · exact s.settles_ok
  · exact s.settles_ok
  · have hctrl : Meets s.sendCTS (· ≠ .recursion) fun t => t.pktCTRL.isSome :=
      meets_assertThat_of (fun _ => by simp) fun _ => rfl
    refine hctrl.bind_settles fun t ht => ?_
    have hocc : { t with mhDefer := false }.Occupied := Or.inl ht
    exact hocc.settles

theorem recvCTS_settles (s : Transmitter) : Settles .recursion fun k => s.recvCTS k := by
  unfold recvCTS
  split_ifs
  · exact s.settles_ok
  · refine settles_assertThat fun _ => settles_assertNonNull fun p hp => ?_
    refine (stopSend_keeps pktTx (fun _ => rfl) _).bind_settles fun t ht => ?_
    have htx : t.pktTx.isSome := Option.isSome_iff_exists.2 ⟨p, ht.trans hp⟩
    have hocc : { t with ssrc := 0 }.Occupied := Or.inr (Or.inr (Or.inr (Or.inl htx)))
    exact hocc.settles

theorem recvDATA_settles (s : Transmitter) (size : ℕ) :
    Settles .recursion fun k => s.recvDATA k size := by
  unfold recvDATA
  split_ifs
  · refine Meets.bind_settles (R := fun _ => True) ?_ fun t _ => ?_
    · exact meets_assertNonNull_of (fun _ => by simp) fun _ _ => trivial
    · refine (stopSend_keeps (fun _ => ()) (fun _ => rfl) t).bind_settles fun u _ => ?_
      exact u.sendACK_ctrl.bind_settles fun v hv => Occupied.settles (Or.inl hv)
  · exact s.settles_ok
  · exact s.settles_ok
  · refine s.sendACK_ctrl.bind_settles fun t ht => ?_
    have hocc : { t with mhDefer := false }.Occupied := Or.inl ht
    split_ifs
    · exact hocc.settles
    · exact t.settles_ok

theorem dataAcknowledged_ends (s : Transmitter) : Ends s.dataAcknowledged := by
  refine meets_deref_of (fun _ => by simp) fun p _ => ?_
  dsimp only
  split_ifs <;> trivial

theorem managementAcknowledged_ends (s : Transmitter) : Ends s.managementAcknowledged := by
  refine meets_deref_of (fun _ => by simp) fun m _ => ?_
  refine meets_assertThat_of (fun _ => by simp) fun _ => ?_
  refine Meets.bind (R := fun _ => True) ?_ fun t _ => ?_
  · split_ifs
    · exact meets_assertNonNull_of (fun _ => by simp) fun _ _ => trivial
    · trivial
  · dsimp only
    split_ifs <;> trivial

/-- After an acknowledgement the MAC backs off or a beacon waits. -/
theorem recvACK_settles (s : Transmitter) : Settles .recursion fun k => s.recvACK k := by
  unfold recvACK
  split_ifs
  · exact s.settles_ok
  · refine settles_assertThat fun _ => ?_
    refine (stopSend_keeps (fun _ => ()) (fun _ => rfl) s).bind_settles fun t _ => ?_
    refine Meets.bind_settles (R := fun _ => True) ?_ fun u _ => settles_assertThat fun _ => ?_
    · split_ifs
      · exact t.dataAcknowledged_ends
      · exact t.managementAcknowledged_ends
    · refine Meets.bind_settles (R := Occupied) ?_ fun v hv => hv.settles
      split_ifs with hbeacon
      · refine meets_assertThat_of (fun _ => by simp) fun _ => ?_
        refine Or.inr (Or.inr (Or.inr (Or.inr (Or.inl ?_))))
        dsimp only
        split_ifs <;> simp
      · exact Or.inr (Or.inl (by simpa using hbeacon))

theorem recvAssocRequest_settles (s : Transmitter) (src : MacAddr) (ptr : ℕ) :
    Settles .recursion fun k => s.recvAssocRequest k src ptr := by
  unfold recvAssocRequest
  refine settles_assertThat fun _ => ?_
  split_ifs
  · exact s.settles_ok
  · refine s.sendACK_ctrl.bind_settles fun t ht => ?_
    have hocc : { t with mhDefer := false }.Occupied := Or.inl ht
    exact hocc.resumeUnlessSending.map fun _ hno => by cases hno

theorem recvProbeRequest_settles (s : Transmitter) (src : MacAddr) (ptr : ℕ) :
    Settles .recursion fun k => s.recvProbeRequest k src ptr := by
  unfold recvProbeRequest
  split_ifs
  · exact s.settles_ok
  · refine Occupied.resumeUnlessSending (Or.inr (Or.inr (Or.inl ?_)))
    unfold enque
    split_ifs with hmgmt
    · rfl
    · exact Option.isSome_iff_ne_none.2 hmgmt

theorem recvBeacon_settles (hap : s.ap = true) (connects : Option (MacAddr × ℕ)) :
    Settles .recursion fun _ => s.recvBeacon connects := by
  unfold recvBeacon
  split
  · rw [if_neg (by simp [hap])]
    exact s.settles_ok
  · exact s.settles_ok

theorem handle_settles (hap : s.ap = true) {f : RxFrame} {sets : Bool}
    (he : s.Occurs (.recvEnd f sets)) : Settles .recursion fun k => s.handle k f := by
  cases f with
  | rts => exact s.recvRTS_settles
  | cts => exact s.recvCTS_settles
  | ack => exact s.recvACK_settles
  | data size => exact s.recvDATA_settles size
  | broadcast => exact s.settles_ok
  | assocRequest src ptr => exact s.recvAssocRequest_settles src ptr
  | assocResponse refused => cases hap.symm.trans he.2
  | probeRequest src ptr => exact s.recvProbeRequest_settles src ptr
  | probeResponse => cases hap.symm.trans he.2
  | beacon connects => exact recvBeacon_settles hap connects
  | dropped => exact s.settles_ok

theorem recvTimer_settles (hap : s.ap = true) {f : RxFrame} {sets : Bool}
    (he : s.Occurs (.recvEnd f sets)) : Settles .recursion fun k => s.recvTimer k f sets := by
  unfold recvTimer
  refine settles_assertThat fun _ => Settles.map ?_ fun _ hno => by cases hno
  split_ifs
  · exact s.settles_ok
  · exact settles_ok _
  · exact settles_ok _
  · exact handle_settles (s := { s with nav := s.nav || sets }) hap (he.setNav _)

theorem sendBeacon_settles (s : Transmitter) : Settles .recursion fun k => s.sendBeacon k := by
  unfold sendBeacon
  refine settles_assertThat fun _ => ?_
  dsimp only
  split_ifs
  · exact settles_ok _
  · exact Occupied.settles (Or.inr (Or.inl rfl))
  · exact Occupied.settles (Or.inr (Or.inl rfl))
  · exact settles_ok _

/-- A packet that the queue hands down is not one that was kept. -/
theorem arrive_settles (h : s.Disciplined) (p : DataFrame) :
    Settles .recursion fun k => s.arrive k p := by
  unfold arrive
  dsimp only
  split_ifs with hblocked
  · exact settles_ok _
  split
  · exact settles_ok _
  · rename_i q ps hps
    have hunblocked : s.Unblocked := ⟨h, by simpa using hblocked⟩
    have hdropped : ((s.handedDown q ps).discardPacket q).Occupied :=
      Or.inr (Or.inr (Or.inr (Or.inr (Or.inr hunblocked.empty.1))))
    have hsettles : Settles .recursion fun k =>
        ({ s with ifq := ps, blocked := true }.emit (.handed q)).send
          (fun u => u.txResume k) q := by
      simp only [send_handedDown]
      split_ifs
      · exact hdropped.settles
      · exact settles_ok _
      · exact settles_ok _
      · exact settles_of_meets (takePacket_ends _ q)
    exact hsettles

/-! ### Every step of an access point -/

/-- The calls of `tx_resume` in the step do not nest without end. -/
def Settled (s : Transmitter) (e : Event) : Prop := Settles .recursion fun k => s.step k e

/-- `send_timer` does not call `tx_resume` where it is stuck: while nothing else is to be sent and
`mhBackoff_` is idle, no unicast packet is in `tmpPacket_` unless some client is associated. -/
def Unstuck (s : Transmitter) (e : Event) : Prop :=
  e = .sendExpires →
    ∀ t, { s with mhSend := false }.unansweredFrame = .ok t → ∀ p, ¬ t.Stuck p

theorem harmless_of_ap (hap : s.ap = true) (he : s.Occurs e) : s.Harmless e := by
  cases e with
  | recvEnd f sets =>
    cases f with
    | assocResponse refused => cases hap.symm.trans he.2
    | probeResponse => cases hap.symm.trans he.2
    | _ => trivial
  | probeExpires dst ptr => cases hap.symm.trans he
  | _ => trivial

/-- What never fails is not cut off. -/
theorem settled_of_returns {x : Act Transmitter} {Q : Transmitter → Prop}
    (h : Meets x (fun _ => False) Q) : Settles .recursion fun _ => x :=
  settles_of_meets (h.mono (fun _ hno => hno.elim) fun _ hq => hq)

/-- Only `send_timer` may lead to calls that nest without end. -/
theorem settled_iff (hap : s.ap = true) (h : s.Disciplined) (he : s.Occurs e) :
    s.Settled e ↔ s.Unstuck e := by
  have hother : e ≠ .sendExpires → s.Settled e → (s.Settled e ↔ s.Unstuck e) :=
    fun hne hsettled => iff_of_true hsettled fun heq => (hne heq).elim
  cases e with
  | sendExpires =>
    obtain ⟨t, ht, -⟩ := (unansweredFrame_resumable (h.sending he)).exists_ok
    have hiff : s.Settled .sendExpires ↔ ∀ p, ¬ t.Stuck p := by
      rw [← t.txResume_settles_iff]
      unfold Settled step sendTimer
      simp only [ht, ok_bind]
    rw [hiff]
    constructor
    · intro hstuck _ u hu
      rwa [← Except.ok.inj (ht.symm.trans hu)]
    · exact fun hunstuck => hunstuck rfl t ht
  | arrive p => exact hother (by simp) (arrive_settles h p)
  | deferExpires => exact hother (by simp) (settled_of_returns (deferHandler_disciplined h he))
  | backoffExpires => exact hother (by simp) (settled_of_returns (backoffHandler_disciplined h he))
  | ifExpires => exact hother (by simp) (settles_ok _)
  | navExpires => exact hother (by simp) (settles_ok _)
  | navLapses => exact hother (by simp) (settles_ok _)
  | recvStart b => exact hother (by simp) (settles_ok _)
  | recvEnd f sets => exact hother (by simp) (recvTimer_settles hap he)
  | linkConnect macPoA ptr => cases hap.symm.trans he
  | linkDisconnect => cases hap.symm.trans he
  | linkScan clears => cases hap.symm.trans he
  | nextScan branch => cases hap.symm.trans he.1
  | probeExpires dst ptr => cases hap.symm.trans he
  | beaconExpires => exact hother (by simp) s.sendBeacon_settles
  | clientExpires d => exact hother (by simp) (settles_ok _)

/-- The outputs so far are in order, and `callback_` and `tmpPacket_` agree with them. -/
def Accounted (s : Transmitter) : Prop := s.At s.packetPhase

/-- An access point that keeps the discipline. -/
def DisciplinedAp (s : Transmitter) : Prop := s.ap = true ∧ s.Disciplined

theorem DisciplinedAp.step (h : s.DisciplinedAp) (he : s.Occurs e)
    (ht : s.step (n + 1) e = .ok t) : t.DisciplinedAp :=
  ⟨((s.step_ap e).of_ok ht).trans h.1,
    (step_disciplined h.2 he (harmless_of_ap h.1 he)).of_ok ht⟩

/-- In every run of an access point each packet that is handed down is consumed once and called back
for once.  The calls of `tx_resume` in its steps end if and only if `send_timer` never calls it
where it is stuck. -/
theorem consumed_iff (mib : Mib) (n : ℕ) {es : List Event}
    (hoccurs : StepsMeet (step · (n + 1)) Occurs { ap := true, mib := mib } es) :
    Throughout (step · (n + 1)) Accounted { ap := true, mib := mib } es ∧
        StepsMeet (step · (n + 1)) Settled { ap := true, mib := mib } es ↔
      StepsMeet (step · (n + 1)) Unstuck { ap := true, mib := mib } es := by
  have hnew : DisciplinedAp { ap := true, mib := mib } := ⟨rfl, disciplined_of_new true mib⟩
  have haccounted : Throughout (step · (n + 1)) Accounted { ap := true, mib := mib } es :=
    throughout_of_invariant (fun _ _ _ h he ht => h.step he ht)
      (fun _ h => h.2.phase.slots.packets) hnew hoccurs
  constructor
  · rintro ⟨-, hsettled⟩
    exact (hoccurs.and hsettled).imp (fun _ _ _ h he ht => h.step he.1 ht)
      (fun _ _ h he => (settled_iff h.1 h.2 he.1).1 he.2) hnew
  · intro hunstuck
    exact ⟨haccounted, (hoccurs.and hunstuck).imp (fun _ _ _ h he ht => h.step he.1 ht)
      (fun _ _ h he => (settled_iff h.1 h.2 he.1).2 he.2) hnew⟩

instance (s : Transmitter) (p : DataFrame) : Decidable (s.Stuck p) :=
  decidable_of_iff
    ((s.mhSend = false ∧ s.mhDefer = false ∧ s.mhBackoff = .idle ∧ s.pktCTRL = none ∧
        s.pktBeacon = false ∧ s.pktManagement = none) ∧
      (s.scanning = false ∧ s.pktRTS = false ∧ s.pktTx = none ∧ s.callback = true ∧
        s.tmpPacket = some p ∧ Refuses s.ap s.clients p))
    ⟨fun ⟨⟨h1, h2, h3, h4, h5, h6⟩, h7, h8, h9, h10, h11, h12⟩ =>
        ⟨h1, h2, h3, h4, h5, h6, h7, h8, h9, h10, h11, h12⟩,
      fun h => ⟨⟨h.send, h.defer, h.backoff, h.ctrl, h.beacon, h.management⟩, h.scanning, h.rts,
        h.tx, h.callback, h.tmp, h.refuses⟩⟩

instance (s : Transmitter) (e : Event) : Decidable (s.Unstuck e) :=
  match h : { s with mhSend := false }.unansweredFrame with
  | .error _ => isTrue fun _ _ ht => by rw [h] at ht; cases ht
  | .ok t => decidable_of_iff (e = .sendExpires → ∀ p ∈ t.tmpPacket, ¬ t.Stuck p)
      ⟨fun hu he u hu' p hp => by
        rw [h] at hu'
        cases hu'
        exact hu he p hp.tmp hp,
      fun hu he p _ => hu he t h p⟩

/-- A beacon is on the air when a packet for the only client is handed down. -/
def sampleBeacon : List Event :=
  associates 1 10 ++ [.beaconExpires, .deferExpires, .arrive ⟨0, 1, 100⟩]

theorem consumed_of_beacon :
    Throughout (step · 3) Accounted { ap := true, mib := sampleMib }
        (sampleBeacon ++ [.ifExpires, .sendExpires]) ∧
      StepsMeet (step · 3) Settled { ap := true, mib := sampleMib }
        (sampleBeacon ++ [.ifExpires, .sendExpires]) :=
  (consumed_iff sampleMib 2 (by decide +kernel)).2 (by decide +kernel)

/-- The timer of the client expires before the beacon has been sent: `tx_resume` and `send` call
each other without end. -/
theorem not_consumed :
    ∃ s, runSteps (step · 3) { ap := true, mib := sampleMib }
        (sampleBeacon ++ [.clientExpires 1, .ifExpires]) = .ok s ∧
      StepsMeet (step · 3) Occurs { ap := true, mib := sampleMib }
        (sampleBeacon ++ [.clientExpires 1, .ifExpires, .sendExpires]) ∧
      (∀ n, s.step n .sendExpires = .error .recursion) ∧ ¬ s.Settled .sendExpires := by
  obtain ⟨s, hs, hloops⟩ : ∃ s, runSteps (step · 3) { ap := true, mib := sampleMib }
      (sampleBeacon ++ [.clientExpires 1, .ifExpires]) = .ok s ∧
        ∀ n, s.step n .sendExpires = .error .recursion := by
    refine ⟨_, rfl, fun n => ?_⟩
    exact Stuck.txResume (p := ⟨0, 1, 100⟩)
      ⟨rfl, rfl, rfl, rfl, rfl, rfl, rfl, rfl, rfl, rfl, rfl, by decide⟩ n
  refine ⟨s, hs, by decide +kernel, hloops, ?_⟩
  rintro ⟨m, hm⟩
  exact hm m le_rfl (hloops m)

/-! ### Who is sent a packet -/

/-- The station has an entry that is associated. -/
def IsAssociated (clients : List Client) (d : MacAddr) : Prop :=
  ∃ c ∈ clients, c.id = d ∧ c.status = .associated

instance (clients : List Client) (d : MacAddr) : Decidable (IsAssociated clients d) :=
  inferInstanceAs (Decidable (∃ _ ∈ _, _))

/-- A packet is given to `sendDATA` only if its station is associated, and is discarded with the
callback kept otherwise. -/
def Right (p : DataFrame) (clients : List Client) (outcome : Option TxOutput) : Prop :=
  (outcome = some (.sendDATA p) → IsAssociated clients p.ra) ∧
    (¬ IsAssociated clients p.ra → outcome = some (.discard p true))

/-- So it is for every unicast packet that has been passed to `send`, with the clients it found and
what it did next. -/
def AllRight (s : Transmitter) : Prop :=
  ∀ l l' p clients, s.log = l ++ .passed p clients :: l' → p.ra ≠ macBroadcast →
    Right p clients l'.head?

/-- Whenever a unicast packet was passed to `send`, its station was associated or none was. -/
def FoundRight (s : Transmitter) : Prop :=
  ∀ p clients, TxOutput.passed p clients ∈ s.log → p.ra ≠ macBroadcast →
    IsAssociated clients p.ra ∨ hasAssociated clients = false

/-- What follows a call of `send` with a unicast packet. -/
theorem Accounted.outcome (h : s.Accounted) (hap : s.ap = true) {l l' : List TxOutput}
    {clients : List Client} (hlog : s.log = l ++ .passed p clients :: l')
    (hp : p.ra ≠ macBroadcast) :
    hasAssociated clients = true ∧ (l'.head? = some (.sendDATA p) ∨ l'.head? = some (.keep p)) ∨
      hasAssociated clients = false ∧ l'.head? = some (.discard p true) := by
  have hphase : phase (advance s.ap) .ready (l ++ .passed p clients :: l') = some s.packetPhase :=
    hlog ▸ h
  obtain ⟨q₁, q₂, -, hpassed, hrest⟩ := phase_split hphase
  obtain rfl := advance_passed hpassed
  have hnever := s.packetPhase_ne_asked p clients
  have hrefuses : Refuses s.ap clients p ↔ hasAssociated clients = false := by
    simp [Refuses, hap, hp]
  cases l' with
  | nil => exact (hnever (Option.some.inj hrest).symm).elim
  | cons o l' =>
    obtain ⟨q₃, ho, -⟩ := Option.bind_eq_some_iff.1 hrest
    cases o with
    | sendDATA q =>
      obtain ⟨rfl, hno⟩ := (Option.ite_some_none_eq_some.1 ho).1
      exact Or.inl ⟨by simpa [hrefuses] using hno, Or.inl rfl⟩
    | keep q =>
      obtain ⟨rfl, hno⟩ := (Option.ite_some_none_eq_some.1 ho).1
      exact Or.inl ⟨by simpa [hrefuses] using hno, Or.inr rfl⟩
    | discard q callback =>
      obtain ⟨rfl, hdrop, rfl⟩ := (Option.ite_some_none_eq_some.1 ho).1
      exact Or.inr ⟨hrefuses.1 hdrop, rfl⟩
    | _ => cases ho

theorem right_iff {clients : List Client} {outcome : Option TxOutput}
    (h : hasAssociated clients = true ∧
        (outcome = some (.sendDATA p) ∨ outcome = some (.keep p)) ∨
      hasAssociated clients = false ∧ outcome = some (.discard p true)) :
    Right p clients outcome ↔ IsAssociated clients p.ra ∨ hasAssociated clients = false := by
  unfold Right
  rcases h with ⟨hsome, rfl | rfl⟩ | ⟨hnone, rfl⟩
  · simp [hsome]
  · simp [hsome]
  · simp [hnone]

/-- In every run of an access point the unicast packets are sent to associated stations only, and
the others discarded, if and only if whenever one was passed to `send` its station was associated or
none was. -/
theorem allRight_iff (mib : Mib) (n : ℕ) {es : List Event}
    (hoccurs : StepsMeet (step · (n + 1)) Occurs { ap := true, mib := mib } es)
    (hrun : runSteps (step · (n + 1)) { ap := true, mib := mib } es = .ok s) :
    s.AllRight ↔ s.FoundRight := by
  have hend : s.DisciplinedAp :=
    runSteps_invariant (fun _ _ _ h he ht => h.step he ht) ⟨rfl, disciplined_of_new true mib⟩
      hoccurs hrun
  have haccounted : s.Accounted := hend.2.phase.slots.packets
  constructor
  · intro hright p clients hmem hp
    obtain ⟨l, l', hlog⟩ := List.mem_iff_append.1 hmem
    exact (right_iff (haccounted.outcome hend.1 hlog hp)).1 (hright l l' p clients hlog hp)
  · intro hfound l l' p clients hlog hp
    refine (right_iff (haccounted.outcome hend.1 hlog hp)).2 (hfound p clients ?_ hp)
    rw [hlog]
    exact List.mem_append_right l List.mem_cons_self

/-- What `FoundRight` says of one output. -/
def foundRight : TxOutput → Bool
  | .passed p clients =>
    p.ra = macBroadcast ∨ IsAssociated clients p.ra ∨ hasAssociated clients = false
  | _ => true

instance (s : Transmitter) : Decidable s.FoundRight :=
  decidable_of_iff (s.log.all foundRight = true)
    ⟨fun h p clients hmem hp => by
        have hfound := List.all_eq_true.1 h _ hmem
        exact (of_decide_eq_true hfound).resolve_left hp,
      fun h => List.all_eq_true.2 fun o ho => by
        cases o with
        | passed p clients => exact decide_eq_true (or_iff_not_imp_left.2 (h p clients ho))
        | _ => rfl⟩

/-- Two stations associate, one is not heard of any more, and a packet for the other comes. -/
def packetForOther : List Event :=
  associates 1 10 ++ associates 2 20 ++ [.clientExpires 1, .arrive ⟨0, 2, 100⟩]

theorem allRight_of_associated :
    ∃ s, runSteps (step · 1) { ap := true, mib := sampleMib } packetForOther = .ok s ∧
      s.clients.map (fun cl => (cl.id, cl.status)) = [(2, .associated)] ∧
      s.log.getLast? = some (.sendDATA ⟨0, 2, 100⟩) ∧ s.AllRight :=
  have hoccurs : StepsMeet (step · 1) Occurs { ap := true, mib := sampleMib } packetForOther := by
    decide +kernel
  ⟨_, rfl, by decide +kernel, by decide +kernel,
    (allRight_iff sampleMib 0 hoccurs rfl).2 (by decide +kernel)⟩

/-- While station 1 is associated a packet for station 2, which never was, is given to
`sendDATA`. -/
theorem not_allRight :
    ∃ s, runSteps (step · 1) { ap := true, mib := sampleMib }
        (associates 1 10 ++ [.arrive ⟨0, 2, 100⟩]) = .ok s ∧
      StepsMeet (step · 1) Occurs { ap := true, mib := sampleMib }
        (associates 1 10 ++ [.arrive ⟨0, 2, 100⟩]) ∧
      s.log.getLast? = some (.sendDATA ⟨0, 2, 100⟩) ∧ ¬ IsAssociated s.clients 2 ∧
        ¬ s.AllRight := by
  refine ⟨_, rfl, by decide +kernel, rfl, by decide +kernel, fun hright => ?_⟩
  have hcall := hright [.linkUp 1, .handed ⟨0, 2, 100⟩] [.sendDATA ⟨0, 2, 100⟩] ⟨0, 2, 100⟩ _ rfl
    (by decide)
  exact absurd (hcall.1 rfl) (by decide +kernel)

end Transmitter

end SipNemo.Mac
