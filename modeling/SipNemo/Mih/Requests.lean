import SipNemo.Mih.Dispatch

/-!
# Pending requests

What a step of an agent can do to `pending_req_` (`perform_requests`), and what follows.
-/

namespace SipNemo.Mih

open RequestTable

namespace MIHAgent

variable (s : MIHAgent)

/-! ### How a step changes the table -/

/-- The peer is registered and has a transport for the service. -/
def hasTransport (mihfId : BitVec 32) (service : ServiceId) : Bool :=
  match (s.getMihfInfo mihfId).bind fun m => (s.mihf m).session with
  | none => false
  | some r =>
    match s.route r with
    | none => false
    | some (peer, _) => transports peer.transport service ≠ (false, false)

/-- The steps that create a pending request, under the current transaction id. -/
def opensRequest : Step → Bool
  | .capDiscReq _ _ | .regRequest _ _ => true
  | .deregRequest _ id => s.hasTransport id .command
  | .getStatus _ id _ | .scan _ id _ => id ≠ s.mihfId ∧ s.hasTransport id .command
  | .eventSubscribe _ id _ _ | .eventUnsubscribe _ id _ _ =>
    id ≠ s.mihfId ∧ s.hasTransport id .event
  | _ => false

/-- The changes of the table of pending requests. -/
inductive RequestChange (i : Step) : Table (BitVec 16) PendingReq → Prop
  | same : RequestChange i s.requests
  | create (req : PendingReq) (hnew : req.retx = 0) (hopen : s.opensRequest i = true) :
      RequestChange i (s.requests.create { key := s.tid, data := req })
  | clear (tid : BitVec 16) (r : ℕ) (hr : s.requests.index tid = some r) :
      RequestChange i ((s.requests.modify r cancelTimer).release r)
  | ack (p : MihPacket) (junk : BitVec 32) (l : List ScanRspEntry) (r : ℕ)
      (hi : i = .recv p junk) (hscan : p.mihh.payload = .scanRsp l) (hack : p.mihh.ackRsp = true)
      (hr : s.requests.index p.mihh.transactionId = some r) :
      RequestChange i (s.requests.modify r ackRequest)
  | expire (r : ℕ) (s' : MIHAgent) (out : List Output) (hi : i = .expire r)
      (h : s.handleTimer r = .ok (s', out)) : RequestChange i s'.requests

variable {s} {s' : MIHAgent} {i : Step} {out : List Output}

/-- The effect of a step on the requests and on what governs them. -/
def Requests (s : MIHAgent) (i : Step) (s' : MIHAgent) : Prop :=
  s'.mib = s.mib ∧ s.RequestChange i s'.requests

theorem Requests.of_same (hmib : s'.mib = s.mib) (h : s'.requests = s.requests) :
    Requests s i s' := by
  refine ⟨hmib, ?_⟩
  rw [h]
  exact .same

@[simp] theorem deleteSession_requests (id : BitVec 32) :
    (s.deleteSession id).requests = s.requests := by
  unfold deleteSession
  split <;> rfl

@[simp] theorem deleteSession_mib (id : BitVec 32) : (s.deleteSession id).mib = s.mib := by
  unfold deleteSession
  split <;> rfl

@[simp] theorem recordPeer_requests (p : MihPacket) (m : CapDisc) :
    (s.recordPeer p m).requests = s.requests := by
  unfold recordPeer
  dsimp only
  split <;> rfl

@[simp] theorem recordPeer_mib (p : MihPacket) (m : CapDisc) :
    (s.recordPeer p m).mib = s.mib := by
  unfold recordPeer
  dsimp only
  split <;> rfl

theorem Requests.of_clear {t : MIHAgent} {tid : BitVec 16}
    (h : ∃ r, t.requests.index tid = some r ∧ s' = t.clearRequest r) (hmib : t.mib = s.mib)
    (hreq : t.requests = s.requests) : Requests s i s' := by
  obtain ⟨r, hr, rfl⟩ := h
  refine ⟨hmib, ?_⟩
  rw [hreq] at hr
  show s.RequestChange i ((t.requests.modify r cancelTimer).release r)
  rw [hreq]
  exact .clear tid r hr

/-- A request to a registered peer. -/
theorem Requests.of_send {id : BitVec 32} {m : MihfRef} {r : SessionRef} {user : Option UserId}
    {p q : MihPacket} (hm : s.getMihfInfo id = some m) (hr : (s.mihf m).session = some r)
    (htid : p.mihh.transactionId = s.tid)
    (hopen : s.hasTransport id p.mihh.payload.serviceId = true → s.opensRequest i = true)
    (h : s.nextTid.sendMihMessage user p (some r) = .ok (s', q, out)) : Requests s i s' := by
  obtain ⟨r', peer, mac, hsome, hroute, h⟩ := sendMihMessage_ok h
  obtain rfl : r = r' := Option.some.inj hsome
  rcases transmit_ok h with rfl | ⟨htrans, req, hretx, -, rfl⟩
  · exact Requests.of_same rfl rfl
  · refine ⟨rfl, ?_⟩
    have hhas : s.hasTransport id p.mihh.payload.serviceId = true := by
      have hroute' : s.route r = some (peer, mac) := hroute
      simp [hasTransport, hm, hr, hroute', htrans]
    show s.RequestChange i (s.requests.create { key := p.mihh.transactionId, data := req })
    rw [htid]
    exact .create req hretx (hopen hhas)

theorem recvEvent_requests (e : LinkEvent) (junk : BitVec 32)
    (h : s.recvEvent e junk = .ok (s', out)) : Requests s i s' := by
  obtain ⟨ifaces, t, rfl, -⟩ := (recvEvent_ok h).frame
  exact Requests.of_same rfl rfl

theorem recvRegRsp_requests {p : MihPacket} {m : RegRsp}
    (h : s.recvRegRsp p m = .ok (s', out)) : Requests s i s' := by
  unfold recvRegRsp at h
  split_ifs at h
  · obtain ⟨t, ht, h⟩ := Runs.bind_ok_iff.1 h
    obtain ⟨id, mac, peer, -, -, rfl⟩ := openSession_ok ht
    exact Requests.of_clear (confirm_ok h) rfl rfl
  · exact Requests.of_clear (confirm_ok h) rfl rfl

theorem Requests.of_subscriptions {id : BitVec 32} (h : ChangesSubscriptions s s' id) :
    Requests s i s' := by
  rcases h with rfl | ⟨r, mac, f, -, rfl, -⟩
  · exact Requests.of_same rfl rfl
  · exact Requests.of_same rfl rfl

theorem recvMihSwitchReq_ok {p : MihPacket} {m : SwitchReq}
    (h : s.recvMihSwitchReq p m = .ok (s', out)) : s' = s := by
  unfold recvMihSwitchReq at h
  split at h
  · exact (Prod.mk.inj (Except.ok.inj h)).1.symm
  · obtain ⟨_, -, h⟩ := Runs.bind_ok_iff.1 h
    obtain ⟨_, -, h⟩ := Runs.bind_ok_iff.1 h
    obtain ⟨_, -, h⟩ := Runs.bind_ok_iff.1 h
    split_ifs at h
    all_goals exact (Prod.mk.inj (Except.ok.inj h)).1.symm

theorem recvMihScanRes_requests {p : MihPacket} {junk : BitVec 32} {l : List ScanRspEntry}
    (hp : p.mihh.payload = .scanRsp l) (h : s.recvMihScanRes p l = .ok (s', out)) :
    Requests s (.recv p junk) s' := by
  unfold recvMihScanRes at h
  split_ifs at h with hack
  · obtain ⟨r, hr, h⟩ := Runs.bind_ok_iff.1 h
    obtain rfl := (Prod.mk.inj (Except.ok.inj h)).1
    exact ⟨rfl, .ack p junk l r rfl hp hack (findRequest_ok hr)⟩
  · exact Requests.of_clear (confirm_ok h) rfl rfl

/-- What a packet does to the requests. -/
theorem recv_requests {p : MihPacket} {junk : BitVec 32} (h : s.recv p junk = .ok (s', out)) :
    Requests s (.recv p junk) s' := by
  unfold recv at h
  split at h
  · obtain rfl := (Prod.mk.inj (Except.ok.inj h)).1
    exact Requests.of_same rfl rfl
  · obtain ⟨_, -, h⟩ := Runs.bind_ok_iff.1 h
    exact Requests.of_clear (confirm_ok h) (recordPeer_mib _ _) (recordPeer_requests _ _)
  · obtain ⟨id, mac, -, rfl⟩ := recvRegReq_ok h
    exact Requests.of_same rfl rfl
  · exact recvRegRsp_requests h
  · obtain rfl := (Prod.mk.inj (Except.ok.inj h)).1
    exact Requests.of_same rfl rfl
  · refine Requests.of_clear (confirm_ok h) ?_ ?_
    · split_ifs <;> simp
    · split_ifs <;> simp
  · exact Requests.of_subscriptions (recvEventSubReq_ok h)
  · exact Requests.of_clear (confirmOn_ok h) rfl rfl
  · exact Requests.of_subscriptions (recvEventUnsubReq_ok h)
  · exact Requests.of_clear (confirmOn_ok h) rfl rfl
  · exact recvEvent_requests (.up _) junk h
  · exact recvEvent_requests (.down _) junk h
  · exact recvEvent_requests (.goingDown _) junk h
  · exact recvEvent_requests (.rollback _) junk h
  · obtain rfl := recvMihGetStatusReq_ok h
    exact Requests.of_same rfl rfl
  · exact Requests.of_clear (confirmOn_ok h) rfl rfl
  · obtain ⟨session, scans, rfl⟩ := recvMihScanReq_ok h
    exact Requests.of_same rfl rfl
  · next hp => exact recvMihScanRes_requests hp h
  · obtain rfl := recvMihSwitchReq_ok h
    exact Requests.of_same rfl rfl
  all_goals
    cases h <;> exact Requests.of_same rfl rfl

/-- What the expiry of the timer of `r` does to the entry `q` under its id: one more try, in which
over layer 2 nothing is sent; or the entry is dropped. -/
theorem handleTimer_cases {r : ℕ} (h : s.handleTimer r = .ok (s', out)) :
    s'.mib = s.mib ∧ ∃ q, s.requests.index (s.requests.obj r).key = some q ∧
      let req := (s.requests.obj q).data
      let t := s.requests.modify r timerHandling
      ((req.retx < s.mib.retryLimit ∧ req.l2transport = true ∧
          s'.requests = (t.modify q incRetx).modify r timerDone) ∨
        (req.retx < s.mib.retryLimit ∧ req.l2transport = false ∧
          out = [.packet req.session req.pkt] ∧
          s'.requests = (t.modify q resend).modify r timerDone) ∨
        (¬ req.retx < s.mib.retryLimit ∧ out = [] ∧
          s'.requests = (t.release q).modify r timerDone)) := by
  unfold handleTimer at h
  split_ifs at h with hpending
  obtain ⟨⟨t, o⟩, ht, h⟩ := Runs.bind_ok_iff.1 h
  simp only [Runs.pure_eq_ok, Except.ok.injEq, Prod.mk.injEq] at h
  obtain ⟨rfl, rfl⟩ := h
  obtain ⟨q, hq, ht⟩ := Runs.bind_ok_iff.1 ht
  have hdata : ((s.requests.modify r timerHandling).obj q).data = (s.requests.obj q).data := by
    rw [Table.modify_obj]
    split_ifs with hqr
    · rw [hqr]
      rfl
    · rfl
  simp only [hdata] at ht
  split_ifs at ht with hretx hl2
  · simp only [Runs.pure_eq_ok, Except.ok.injEq, Prod.mk.injEq] at ht
    obtain ⟨rfl, rfl⟩ := ht
    exact ⟨rfl, q, findRequest_ok hq, Or.inl ⟨hretx, hl2, rfl⟩⟩
  · simp only [Runs.pure_eq_ok, Except.ok.injEq, Prod.mk.injEq] at ht
    obtain ⟨rfl, rfl⟩ := ht
    exact ⟨rfl, q, findRequest_ok hq, Or.inr (Or.inl ⟨hretx, by simpa using hl2, rfl, rfl⟩)⟩
  · simp only [Runs.pure_eq_ok, Except.ok.injEq, Prod.mk.injEq] at ht
    obtain ⟨rfl, rfl⟩ := ht
    exact ⟨rfl, q, findRequest_ok hq, Or.inr (Or.inr ⟨hretx, rfl, rfl⟩)⟩

theorem sendSubscription_requests {u : UserId} {id : BitVec 32} {payload : Payload}
    (hopen : s.hasTransport id payload.serviceId = true → s.opensRequest i = true)
    (h : s.sendSubscription u id payload = .ok (s', out)) : Requests s i s' := by
  obtain ⟨m, hm, h⟩ := Runs.bind_ok_iff.1 h
  obtain ⟨r, hr, h⟩ := Runs.bind_ok_iff.1 h
  obtain ⟨⟨t, q, o⟩, hsend, h⟩ := Runs.bind_ok_iff.1 h
  obtain rfl : t = s' := (Prod.mk.inj (Except.ok.inj h)).1
  exact Requests.of_send (deref_eq_ok.1 hm) (assertNonNull_eq_ok.1 hr) rfl hopen hsend

variable {user : Option UserId} {mihfId : BitVec 32}

theorem mihEventSubscribe_requests {link : LinkIdentifier} {events : BitVec 32}
    (h : s.mihEventSubscribe user mihfId link events = .ok (s', out)) :
    Requests s (.eventSubscribe user mihfId link events) s' := by
  obtain ⟨u, -, h⟩ := Runs.bind_ok_iff.1 h
  split_ifs at h with hid
  · obtain ⟨info, -, h⟩ := Runs.bind_ok_iff.1 h
    obtain ⟨dev, -, h⟩ := Runs.bind_ok_iff.1 h
    obtain rfl := (Prod.mk.inj (Except.ok.inj h)).1
    exact Requests.of_same rfl rfl
  · refine sendSubscription_requests ?_ h
    intro htrans
    exact decide_eq_true ⟨Ne.symm hid, htrans⟩

theorem mihEventUnsubscribe_requests {link : LinkIdentifier} {events : BitVec 32}
    (h : s.mihEventUnsubscribe user mihfId link events = .ok (s', out)) :
    Requests s (.eventUnsubscribe user mihfId link events) s' := by
  obtain ⟨u, -, h⟩ := Runs.bind_ok_iff.1 h
  split_ifs at h with hid
  · obtain ⟨info, -, h⟩ := Runs.bind_ok_iff.1 h
    obtain rfl := (Prod.mk.inj (Except.ok.inj h)).1
    exact Requests.of_same rfl rfl
  · refine sendSubscription_requests ?_ h
    intro htrans
    exact decide_eq_true ⟨Ne.symm hid, htrans⟩

theorem mihGetStatus_requests {request : BitVec 32}
    (h : s.mihGetStatus user mihfId request = .ok (s', out)) :
    Requests s (.getStatus user mihfId request) s' := by
  unfold mihGetStatus at h
  split_ifs at h with hid
  · obtain rfl := (Prod.mk.inj (Except.ok.inj h)).1
    exact Requests.of_same rfl rfl
  · obtain ⟨m, hm, h⟩ := Runs.bind_ok_iff.1 h
    obtain ⟨r, hr, h⟩ := Runs.bind_ok_iff.1 h
    obtain ⟨⟨t, q, o⟩, hsend, h⟩ := Runs.bind_ok_iff.1 h
    obtain rfl : t = s' := (Prod.mk.inj (Except.ok.inj h)).1
    refine Requests.of_send (deref_eq_ok.1 hm) (deref_eq_ok.1 hr) rfl ?_ hsend
    intro htrans
    exact decide_eq_true ⟨hid, htrans⟩

theorem mihScan_requests {req : List LinkIdentifier}
    (h : s.mihScan user mihfId req = .ok (s', out)) :
    Requests s (.scan user mihfId req) s' := by
  unfold mihScan at h
  split at h
  · obtain ⟨u, -, h⟩ := Runs.bind_ok_iff.1 h
    obtain ⟨scans, -, h⟩ := Runs.bind_ok_iff.1 h
    obtain rfl := (Prod.mk.inj (Except.ok.inj h)).1
    exact Requests.of_same rfl rfl
  · next hid =>
    obtain ⟨m, hm, h⟩ := Runs.bind_ok_iff.1 h
    obtain ⟨r, hr, h⟩ := Runs.bind_ok_iff.1 h
    split_ifs at h
    obtain ⟨⟨t, q, o⟩, hsend, h⟩ := Runs.bind_ok_iff.1 h
    obtain rfl : t = s' := (Prod.mk.inj (Except.ok.inj h)).1
    refine Requests.of_send (deref_eq_ok.1 hm) (deref_eq_ok.1 hr) rfl ?_ hsend
    intro htrans
    exact decide_eq_true ⟨hid, htrans⟩

/-- What any step does to the requests. -/
theorem perform_requests (h : s.perform i = .ok (s', out)) : Requests s i s' := by
  cases i with
  | addMac mac =>
    obtain rfl := (Prod.mk.inj (Except.ok.inj h)).1
    exact Requests.of_same rfl rfl
  | registerManagementUser u =>
    obtain rfl := (Prod.mk.inj (Except.ok.inj h)).1
    exact Requests.of_same rfl rfl
  | recv p junk => exact recv_requests h
  | event e junk => exact recvEvent_requests e junk h
  | expire r => exact ⟨(handleTimer_cases h).1, .expire r s' out rfl h⟩
  | scanResponse mac rsp =>
    obtain ⟨kept, rfl⟩ := processScanResponse_ok h
    exact Requests.of_same rfl rfl
  | capDiscReq u mac =>
    obtain ⟨dev, -, h⟩ := Runs.bind_ok_iff.1 h
    obtain rfl := (Prod.mk.inj (Except.ok.inj h)).1
    exact ⟨rfl, .create _ rfl rfl⟩
  | regRequest u id =>
    obtain ⟨m, -, h⟩ := Runs.bind_ok_iff.1 h
    obtain ⟨dev, -, h⟩ := Runs.bind_ok_iff.1 h
    obtain rfl := (Prod.mk.inj (Except.ok.inj h)).1
    exact ⟨rfl, .create _ rfl rfl⟩
  | regResponse id result failure validity tid =>
    obtain ⟨m, sid, -, -, rfl, -⟩ := sendRegResponse_ok h
    refine Requests.of_same ?_ ?_
    · split_ifs <;> simp [modifyMihf]
    · split_ifs <;> simp [modifyMihf]
  | deregRequest u id =>
    obtain ⟨m, hm, h⟩ := Runs.bind_ok_iff.1 h
    obtain ⟨r, hr, h⟩ := Runs.bind_ok_iff.1 h
    obtain ⟨⟨t, q, o⟩, hsend, h⟩ := Runs.bind_ok_iff.1 h
    obtain rfl : t = s' := (Prod.mk.inj (Except.ok.inj h)).1
    refine Requests.of_send (deref_eq_ok.1 hm) (deref_eq_ok.1 hr) rfl ?_ hsend
    intro htrans
    exact htrans
  | deregResponse u id result failure tid =>
    obtain ⟨m, r, -, -, rfl⟩ := sendDeregResponse_ok h
    refine Requests.of_same ?_ ?_
    · split_ifs <;> simp
    · split_ifs <;> simp
  | eventSubscribe u id link events => exact mihEventSubscribe_requests h
  | eventUnsubscribe u id link events => exact mihEventUnsubscribe_requests h
  | getStatus u id request => exact mihGetStatus_requests h
  | scan u id req => exact mihScan_requests h

/-! ### What the changes of a request leave alone -/

theorem inner_timerHandling : Inner timerHandling := fun _ => ⟨rfl, rfl⟩

theorem inner_incRetx : Inner incRetx := fun _ => ⟨rfl, rfl⟩

theorem inner_resend : Inner resend := fun _ => ⟨rfl, rfl⟩

theorem inner_timerDone : Inner timerDone := by
  intro o
  unfold timerDone
  split_ifs <;> exact ⟨rfl, rfl⟩

theorem inner_cancelTimer : Inner cancelTimer := by
  intro o
  unfold cancelTimer
  split_ifs <;> exact ⟨rfl, rfl⟩

theorem inner_ackRequest : Inner ackRequest := fun o =>
  inner_cancelTimer { o with data.waitAck := false }

theorem cancelTimer_data (o : Obj (BitVec 16) PendingReq) : (cancelTimer o).data = o.data := by
  unfold cancelTimer
  split_ifs <;> rfl

theorem timerDone_data (o : Obj (BitVec 16) PendingReq) : (timerDone o).data = o.data := by
  unfold timerDone
  split_ifs <;> rfl

theorem handleTimer_wellFormed (hw : s.requests.WellFormed)
    (h : s.handleTimer r = .ok (s', out)) : s'.requests.WellFormed := by
  obtain ⟨-, q, hq, ⟨-, -, ht⟩ | ⟨-, -, -, ht⟩ | ⟨-, -, ht⟩⟩ := handleTimer_cases h
  all_goals rw [ht]
  · exact ((hw.modify inner_timerHandling r).modify inner_incRetx q).modify inner_timerDone r
  · exact ((hw.modify inner_timerHandling r).modify inner_resend q).modify inner_timerDone r
  · exact ((hw.modify inner_timerHandling r).release q).modify inner_timerDone r

theorem perform_wellFormed (hw : s.requests.WellFormed) (h : s.perform i = .ok (s', out)) :
    s'.requests.WellFormed := by
  obtain ⟨-, hchange⟩ := perform_requests h
  generalize s'.requests = t at hchange ⊢
  cases hchange with
  | same => exact hw
  | create req hnew hopen => exact hw.create rfl
  | clear k r hr => exact (hw.modify inner_cancelTimer r).release r
  | ack p junk l r hi hscan hack hr => exact hw.modify inner_ackRequest r
  | expire r s₁ out₁ hi hexp => exact handleTimer_wellFormed hw hexp

theorem step_ok {t : MIHAgent} (h : s.step i = .ok t) : ∃ out, s.perform i = .ok (t, out) := by
  obtain ⟨⟨t', out⟩, ht, rfl⟩ := Runs.map_ok_iff.1 h
  exact ⟨out, ht⟩

/-- The acknowledgement of the scan request with the transaction id 0. -/
def sampleScanAck : MihPacket :=
  ⟨{}, { ackRsp := true, sessionId := 1 <<< 18, payload := .scanRsp [] }⟩

end MIHAgent

end SipNemo.Mih
