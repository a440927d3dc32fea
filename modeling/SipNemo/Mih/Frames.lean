import SipNemo.Mih.Requests

/-!
# What most steps leave alone

Peer records, scans and the agent's own subscriptions are each changed by a few steps only.
`Frame` says that a step has left all of them as they are, but for the sessions of the peer
records; `perform_frame` says that every step does which is not one of the few (`Ordinary`), and
`perform_effect` what the others can do.
-/

namespace SipNemo.Mih

open RequestTable FirstMatch

/-- What a peer has announced about itself. -/
def MihfInfo.announced (i : MihfInfo) : BitVec 32 × Addr × CapDisc :=
  (i.id, i.address, ⟨i.supportedEvents, i.supportedCommands, i.transport, i.queryType⟩)

/-- What of an interface only a subscription of a local user changes. -/
def MIHInterfaceInfo.own (i : MIHInterfaceInfo) :
    Option Mac × MacAddr × (MihEvent → Subscribers UserId) :=
  (i.mac, i.macAddr, i.localSub)

/-- The messages that change peer records or scans. -/
def Payload.IsSpecial : Payload → Prop
  | .capDiscReq _ | .capDiscRsp _ | .scanReq _ => True
  | _ => False

namespace MIHAgent

/-- Peers, interfaces, local subscriptions and scans are the same, and so are the high-water marks
of the sessions. -/
structure Frame (s s' : MIHAgent) : Prop where
  mihfId : s'.mihfId = s.mihfId
  peerMihfs : s'.peerMihfs = s.peerMihfs
  nextMihf : s'.nextMihf = s.nextMihf
  announced : ∀ m, (s'.mihf m).announced = (s.mihf m).announced
  ifaces : s'.ifaces.map MIHInterfaceInfo.own = s.ifaces.map MIHInterfaceInfo.own
  scanReq : s'.scanReq = s.scanReq
  nextSession : s.nextSession ≤ s'.nextSession
  lastTID : ∀ r < s.nextSession, (s'.session r).lastTID = (s.session r).lastTID

variable {s t s' : MIHAgent} {out : List Output} {i : Step}

theorem Frame.refl (s : MIHAgent) : Frame s s :=
  ⟨rfl, rfl, rfl, fun _ => rfl, rfl, rfl, le_rfl, fun _ _ => rfl⟩

theorem Frame.trans (h : Frame s t) (h' : Frame t s') : Frame s s' where
  mihfId := h'.mihfId.trans h.mihfId
  peerMihfs := h'.peerMihfs.trans h.peerMihfs
  nextMihf := h'.nextMihf.trans h.nextMihf
  announced m := (h'.announced m).trans (h.announced m)
  ifaces := h'.ifaces.trans h.ifaces
  scanReq := h'.scanReq.trans h.scanReq
  nextSession := h.nextSession.trans h'.nextSession
  lastTID r hr := (h'.lastTID r (hr.trans_le h.nextSession)).trans (h.lastTID r hr)

/-! ### The operations -/

theorem frame_modifyInterface (s : MIHAgent) (mac : MacAddr)
    {f : MIHInterfaceInfo → MIHInterfaceInfo} (hf : ∀ i, (f i).own = i.own) :
    Frame s (s.modifyInterface mac f) :=
  { Frame.refl s with ifaces := map_updateFirst hf s.ifaces }

theorem frame_setSession (s : MIHAgent) (m : MihfRef) (r : Option SessionRef) :
    Frame s (s.modifyMihf m fun i => { i with session := r }) := by
  refine { Frame.refl s with announced := fun x => ?_ }
  by_cases hx : x = m
  · subst hx
    simp [modifyMihf, MihfInfo.announced]
  · simp [modifyMihf, hx]

theorem frame_pushSession (s : MIHAgent) (info : SessionInfo) : Frame s (s.pushSession info) := by
  refine { Frame.refl s with nextSession := Nat.le_succ _, lastTID := fun r hr => ?_ }
  rw [pushSession]
  simp only [Function.update_of_ne hr.ne]

theorem frame_deleteSession (s : MIHAgent) (id : BitVec 32) : Frame s (s.deleteSession id) := by
  unfold deleteSession
  split
  · exact .refl s
  · refine { Frame.refl s with ifaces := ?_ }
    simp only [List.map_map]
    rfl

theorem frame_setRequests (s : MIHAgent) (table : Table (BitVec 16) PendingReq) :
    Frame s { s with requests := table } :=
  ⟨rfl, rfl, rfl, fun _ => rfl, rfl, rfl, le_rfl, fun _ _ => rfl⟩

theorem frame_transmit {user : Option UserId} {p q : MihPacket} {r : SessionRef} {peer : MihfInfo}
    {mac : Mac} (h : s.transmit user p r peer mac = .ok (s', q, out)) : Frame s s' := by
  rcases transmit_ok h with rfl | ⟨-, req, -, -, rfl⟩
  · exact .refl s'
  · exact s.frame_setRequests _

theorem frame_send {user : Option UserId} {p q : MihPacket} {session : Option SessionRef}
    (h : s.sendMihMessage user p session = .ok (s', q, out)) : Frame s s' := by
  obtain ⟨r, peer, mac, -, -, h⟩ := sendMihMessage_ok h
  exact frame_transmit h

theorem frame_confirm {tid : BitVec 16} {call : UserCall}
    (h : s.confirm tid call = .ok (s', out)) : Frame s s' := by
  obtain ⟨r, -, rfl⟩ := confirm_ok h
  exact s.frame_setRequests _

theorem frame_confirmOn {tid : BitVec 16} {id : BitVec 32} {call : UserCall}
    (h : s.confirmOn tid id call = .ok (s', out)) : Frame s s' := by
  obtain ⟨r, -, rfl⟩ := confirmOn_ok h
  exact s.frame_setRequests _

theorem frame_setTid (s : MIHAgent) (tid : BitVec 32) : Frame s (s.setTid tid) :=
  ⟨rfl, rfl, rfl, fun _ => rfl, rfl, rfl, le_rfl, fun _ _ => rfl⟩

theorem frame_nextTid (s : MIHAgent) : Frame s s.nextTid := s.frame_setTid _

theorem frame_addRequest (s : MIHAgent) (tid : BitVec 16) (req : PendingReq) :
    Frame s (s.nextTid.newRequest tid req) :=
  s.frame_nextTid.trans (frame_setRequests _ _)

/-- A request for a peer, under a new transaction id. -/
theorem frame_sendNext {user : Option UserId} {p q : MihPacket} {session : Option SessionRef}
    (h : s.nextTid.sendMihMessage user p session = .ok (s', q, out)) : Frame s s' :=
  s.frame_nextTid.trans (frame_send h)

/-! ### The handlers -/

theorem frame_processLink {linkId : LinkIdentifier} {status : InterfaceStatus} {e : LinkEvent}
    {remote : MIHAgent → SessionRef → Act (MIHAgent × List Output)}
    (hf : IsTurn (indication e) remote)
    (h : s.processLink linkId status e remote = .ok (s', out)) : Frame s s' := by
  obtain ⟨info, -, h⟩ := Runs.bind_ok_iff.1 h
  obtain ⟨⟨t, sent⟩, hloop, h⟩ := Runs.bind_ok_iff.1 h
  obtain rfl : t = s' := (Prod.mk.inj (Except.ok.inj h)).1
  obtain ⟨⟨n, rfl⟩, -⟩ := forEach_turn hf hloop
  refine (s.frame_modifyInterface _ ?_).trans (frame_setTid _ n)
  exact fun _ => rfl

theorem frame_recvEvent {e : LinkEvent} {junk : BitVec 32}
    (h : s.recvEvent e junk = .ok (s', out)) : Frame s s' := by
  cases e with
  | up e => exact frame_processLink (e := .up e) (isTurn_indicate rfl) h
  | down e => exact frame_processLink (e := .down e) (isTurn_indicate rfl) h
  | goingDown e => exact frame_processLink (e := .goingDown e) (isTurn_indicate rfl) h
  | detected e => exact frame_processLink (e := .detected e) (isTurn_indicate rfl) h
  | parametersReport e =>
    obtain ⟨info, -, h⟩ := Runs.bind_ok_iff.1 h
    obtain ⟨⟨t, sent⟩, hloop, h⟩ := Runs.bind_ok_iff.1 h
    obtain rfl : t = s' := (Prod.mk.inj (Except.ok.inj h)).1
    obtain ⟨⟨n, rfl⟩, -⟩ := forEach_turn (isTurn_indicatePlain rfl) hloop
    exact s.frame_setTid n
  | rollback e => exact frame_processLink (e := .rollback e) (isTurn_indicate rfl) h
  | handoverImminent e =>
    exact frame_processLink (e := .handoverImminent e) (isTurn_indicateTwice rfl) h
  | handoverComplete e =>
    exact frame_processLink (e := .handoverComplete e) (isTurn_indicateTwice rfl) h

theorem frame_recvRegRsp {p : MihPacket} {m : RegRsp} (h : s.recvRegRsp p m = .ok (s', out)) :
    Frame s s' := by
  unfold recvRegRsp at h
  split_ifs at h
  · obtain ⟨t, ht, h⟩ := Runs.bind_ok_iff.1 h
    obtain ⟨id, mac, peer, -, -, rfl⟩ := openSession_ok ht
    exact ((s.frame_pushSession _).trans (frame_setSession _ peer _)).trans (frame_confirm h)
  · exact frame_confirm h

theorem frame_recvDeregRsp {p : MihPacket} {m : DeregRsp}
    (h : s.recvDeregRsp p m = .ok (s', out)) : Frame s s' := by
  refine Frame.trans ?_ (frame_confirm h)
  split_ifs
  · exact s.frame_deleteSession _
  · exact .refl s

theorem frame_recvEventSubReq {p : MihPacket} {m : EventSub}
    (h : s.recvEventSubReq p m = .ok (s', out)) : Frame s s' := by
  unfold recvEventSubReq at h
  split at h
  next =>
    obtain rfl := (Prod.mk.inj (Except.ok.inj h)).1
    exact .refl s
  next r hr =>
    obtain ⟨info, -, h⟩ := Runs.bind_ok_iff.1 h
    obtain ⟨dev, -, h⟩ := Runs.bind_ok_iff.1 h
    obtain ⟨⟨t, q, o⟩, hsend, h⟩ := Runs.bind_ok_iff.1 h
    obtain rfl := (Prod.mk.inj (Except.ok.inj h)).1
    refine (s.frame_modifyInterface _ ?_).trans (frame_send hsend)
    exact fun _ => rfl

theorem frame_recvEventUnsubReq {p : MihPacket} {m : EventSub}
    (h : s.recvEventUnsubReq p m = .ok (s', out)) : Frame s s' := by
  unfold recvEventUnsubReq at h
  split at h
  next =>
    obtain rfl := (Prod.mk.inj (Except.ok.inj h)).1
    exact .refl s
  next r hr =>
    obtain ⟨info, -, h⟩ := Runs.bind_ok_iff.1 h
    obtain ⟨⟨t, q, o⟩, hsend, h⟩ := Runs.bind_ok_iff.1 h
    obtain rfl := (Prod.mk.inj (Except.ok.inj h)).1
    refine (s.frame_modifyInterface _ ?_).trans (frame_send hsend)
    exact fun _ => rfl

theorem frame_recvMihScanRes {p : MihPacket} {l : List ScanRspEntry}
    (h : s.recvMihScanRes p l = .ok (s', out)) : Frame s s' := by
  unfold recvMihScanRes at h
  split_ifs at h
  · obtain ⟨r, -, h⟩ := Runs.bind_ok_iff.1 h
    obtain rfl := (Prod.mk.inj (Except.ok.inj h)).1
    exact s.frame_setRequests _
  · exact frame_confirm h

theorem frame_recv {p : MihPacket} {junk : BitVec 32} (hp : ¬ p.mihh.payload.IsSpecial)
    (h : s.recv p junk = .ok (s', out)) : Frame s s' := by
  unfold recv at h
  cases hpayload : p.mihh.payload <;> rw [hpayload] at h hp
  case capDiscReq | capDiscRsp | scanReq => exact absurd trivial hp
  case regReq m =>
    obtain ⟨id, mac, -, rfl⟩ := recvRegReq_ok h
    exact s.frame_pushSession _
  case regRsp m => exact frame_recvRegRsp h
  case deregRsp m => exact frame_recvDeregRsp h
  case eventSubReq m => exact frame_recvEventSubReq h
  case eventSubRsp m => exact frame_confirmOn h
  case eventUnsubReq m => exact frame_recvEventUnsubReq h
  case eventUnsubRsp m => exact frame_confirmOn h
  case linkUpInd m => exact frame_recvEvent (show s.recvEvent (.up _) junk = _ from h)
  case linkDownInd m => exact frame_recvEvent (show s.recvEvent (.down _) junk = _ from h)
  case linkGoingDownInd m => exact frame_recvEvent (show s.recvEvent (.goingDown _) junk = _ from h)
  case linkRollbackInd m => exact frame_recvEvent (show s.recvEvent (.rollback _) junk = _ from h)
  case getStatusReq t =>
    obtain rfl := recvMihGetStatusReq_ok h
    exact .refl _
  case getStatusRsp m => exact frame_confirmOn h
  case scanRsp l => exact frame_recvMihScanRes h
  case switchReq m =>
    obtain rfl := recvMihSwitchReq_ok h
    exact .refl _
  all_goals
    cases h <;> exact .refl _

theorem frame_sendSubscription {u : UserId} {id : BitVec 32} {payload : Payload}
    (h : s.sendSubscription u id payload = .ok (s', out)) : Frame s s' := by
  obtain ⟨m, -, h⟩ := Runs.bind_ok_iff.1 h
  obtain ⟨r, -, h⟩ := Runs.bind_ok_iff.1 h
  obtain ⟨⟨t, q, o⟩, hsend, h⟩ := Runs.bind_ok_iff.1 h
  obtain rfl := (Prod.mk.inj (Except.ok.inj h)).1
  exact frame_sendNext hsend

theorem frame_processRequestTimer {tid : BitVec 16}
    (h : s.processRequestTimer tid = .ok (s', out)) : Frame s s' := by
  obtain ⟨r, -, h⟩ := Runs.bind_ok_iff.1 h
  dsimp only at h
  split_ifs at h
  all_goals
    obtain rfl := (Prod.mk.inj (Except.ok.inj h)).1
    exact s.frame_setRequests _

theorem frame_handleTimer {r : ℕ} (h : s.handleTimer r = .ok (s', out)) : Frame s s' := by
  unfold handleTimer at h
  split_ifs at h
  obtain ⟨⟨t, o⟩, ht, h⟩ := Runs.bind_ok_iff.1 h
  obtain rfl := (Prod.mk.inj (Except.ok.inj h)).1
  exact ((s.frame_setRequests _).trans (frame_processRequestTimer ht)).trans (frame_setRequests _ _)

/-! ### The steps -/

/-- Not a step that brings an interface, a peer record or a scan, takes the result of a scan, or
changes the subscriptions of a local user. -/
def Ordinary (s : MIHAgent) : Step → Prop
  | .addMac _ | .scanResponse _ _ => False
  | .recv p _ => ¬ p.mihh.payload.IsSpecial
  | .eventSubscribe _ id _ _ | .eventUnsubscribe _ id _ _ | .scan _ id _ => id ≠ s.mihfId
  | _ => True

theorem perform_frame (hi : s.Ordinary i) (h : s.perform i = .ok (s', out)) : Frame s s' := by
  cases i with
  | addMac mac => exact absurd hi id
  | registerManagementUser u =>
    obtain rfl := (Prod.mk.inj (Except.ok.inj h)).1
    exact ⟨rfl, rfl, rfl, fun _ => rfl, rfl, rfl, le_rfl, fun _ _ => rfl⟩
  | recv p junk => exact frame_recv hi h
  | event e junk => exact frame_recvEvent h
  | expire r => exact frame_handleTimer h
  | scanResponse mac rsp => exact absurd hi id
  | capDiscReq u mac =>
    obtain ⟨dev, -, h⟩ := Runs.bind_ok_iff.1 h
    obtain rfl := (Prod.mk.inj (Except.ok.inj h)).1
    exact s.frame_addRequest _ _
  | regRequest u id =>
    obtain ⟨m, -, h⟩ := Runs.bind_ok_iff.1 h
    obtain ⟨dev, -, h⟩ := Runs.bind_ok_iff.1 h
    obtain rfl := (Prod.mk.inj (Except.ok.inj h)).1
    exact s.frame_addRequest _ _
  | regResponse id result failure validity tid =>
    obtain ⟨m, sid, -, -, rfl, -⟩ := sendRegResponse_ok h
    split_ifs
    · exact s.frame_deleteSession _
    · exact s.frame_setSession m _
  | deregRequest u id =>
    obtain ⟨m, -, h⟩ := Runs.bind_ok_iff.1 h
    obtain ⟨r, -, h⟩ := Runs.bind_ok_iff.1 h
    obtain ⟨⟨t, q, o⟩, hsend, h⟩ := Runs.bind_ok_iff.1 h
    obtain rfl : t = s' := (Prod.mk.inj (Except.ok.inj h)).1
    exact frame_sendNext hsend
  | deregResponse u id result failure tid =>
    obtain ⟨m, r, -, -, rfl⟩ := sendDeregResponse_ok h
    split_ifs
    · exact s.frame_deleteSession _
    · exact .refl s
  | eventSubscribe u id link events =>
    obtain ⟨v, -, h⟩ := Runs.bind_ok_iff.1 h
    rw [if_neg (Ne.symm hi)] at h
    exact frame_sendSubscription h
  | eventUnsubscribe u id link events =>
    obtain ⟨v, -, h⟩ := Runs.bind_ok_iff.1 h
    rw [if_neg (Ne.symm hi)] at h
    exact frame_sendSubscription h
  | getStatus u id request =>
    simp only [perform, mihGetStatus] at h
    split_ifs at h
    · obtain rfl := (Prod.mk.inj (Except.ok.inj h)).1
      exact .refl s
    · obtain ⟨m, -, h⟩ := Runs.bind_ok_iff.1 h
      obtain ⟨r, -, h⟩ := Runs.bind_ok_iff.1 h
      obtain ⟨⟨t, q, o⟩, hsend, h⟩ := Runs.bind_ok_iff.1 h
      obtain rfl : t = s' := (Prod.mk.inj (Except.ok.inj h)).1
      exact frame_sendNext hsend
  | scan u id req =>
    simp only [perform, mihScan, if_neg hi] at h
    obtain ⟨m, -, h⟩ := Runs.bind_ok_iff.1 h
    obtain ⟨r, -, h⟩ := Runs.bind_ok_iff.1 h
    split_ifs at h
    obtain ⟨⟨t, q, o⟩, hsend, h⟩ := Runs.bind_ok_iff.1 h
    obtain rfl : t = s' := (Prod.mk.inj (Except.ok.inj h)).1
    exact frame_sendNext hsend

/-- What a step can do: it leaves the frame, or it is one of the few. -/
inductive Effect (s : MIHAgent) : Step → MIHAgent → Prop
  | frame {i : Step} {s' : MIHAgent} (h : Frame s s') : Effect s i s'
  | addMac (mac : Mac) : Effect s (.addMac mac) { s with ifaces := s.ifaces ++ [.ofMac mac] }
  | localSubscribe (u : Option UserId) (v : UserId) (link : LinkIdentifier) (events : BitVec 32)
      (dev : Mac) :
      Effect s (.eventSubscribe u s.mihfId link events) (s.modifyInterface (s.localMac link)
        fun i => ((i.eventSubscribe v events).linkEventSubscribe dev events).1)
  | localUnsubscribe (u : Option UserId) (v : UserId) (link : LinkIdentifier)
      (events : BitVec 32) :
      Effect s (.eventUnsubscribe u s.mihfId link events)
        (s.modifyInterface (s.localMac link) fun i => i.eventUnsubscribe v events)
  | localScan (u : UserId) (req : List LinkIdentifier) :
      Effect s (.scan (some u) s.mihfId req)
        { s with scanReq := s.scanReq ++ [{ origin := .localUser u req }] }
  | scanResponse (mac : MacAddr) (rsp : List (BitVec 8)) (kept : List MIHScan) :
      Effect s (.scanResponse mac rsp) { s with scanReq := kept }
  | peers {p : MihPacket} {junk : BitVec 32} {s' : MIHAgent} {m : CapDisc}
      (mihf : MihfRef → MihfInfo) (nextMihf : MihfRef) (peerMihfs : List MihfRef)
      (hp : p.mihh.payload = .capDiscReq m ∨ p.mihh.payload = .capDiscRsp m)
      (h : Frame { s with mihf := mihf, nextMihf := nextMihf, peerMihfs := peerMihfs } s') :
      Effect s (.recv p junk) s'
  | remoteScan {p : MihPacket} {junk : BitVec 32} {s' : MIHAgent} {l : List ScanReqEntry}
      {out : List Output} (hp : p.mihh.payload = .scanReq l)
      (h : s.recvMihScanReq p l = .ok (s', out)) : Effect s (.recv p junk) s'

/-- The messages that change peer records or scans. -/
theorem effect_special {p : MihPacket} {junk : BitVec 32} (hp : p.mihh.payload.IsSpecial)
    (h : s.perform (.recv p junk) = .ok (s', out)) : Effect s (.recv p junk) s' := by
  simp only [perform, recv] at h
  cases hpayload : p.mihh.payload <;> rw [hpayload] at hp h
  case capDiscReq m =>
    obtain rfl := (Prod.mk.inj (Except.ok.inj h)).1
    exact .peers _ _ _ (Or.inl hpayload) (.refl _)
  case capDiscRsp m =>
    obtain ⟨mac, -, h⟩ := Runs.bind_ok_iff.1 h
    obtain ⟨f, n, l, hrecord⟩ : ∃ f n l,
        s.recordPeer p m = { s with mihf := f, nextMihf := n, peerMihfs := l } := by
      simp only [recordPeer]
      split
      · exact ⟨_, s.nextMihf, s.peerMihfs, rfl⟩
      · exact ⟨_, _, _, rfl⟩
    rw [hrecord] at h
    exact .peers f n l (Or.inr hpayload) (frame_confirm h)
  case scanReq l => exact .remoteScan hpayload h
  all_goals exact absurd hp not_false

theorem perform_effect (h : s.perform i = .ok (s', out)) : Effect s i s' := by
  by_cases hi : s.Ordinary i
  · exact .frame (perform_frame hi h)
  · cases i with
    | addMac mac =>
      obtain rfl := (Prod.mk.inj (Except.ok.inj h)).1
      exact .addMac mac
    | scanResponse mac rsp =>
      obtain ⟨kept, rfl⟩ := processScanResponse_ok h
      exact .scanResponse mac rsp kept
    | eventSubscribe u id link events =>
      obtain rfl : id = s.mihfId := not_not.1 hi
      obtain ⟨v, -, h⟩ := Runs.bind_ok_iff.1 h
      rw [if_pos rfl] at h
      obtain ⟨info, -, h⟩ := Runs.bind_ok_iff.1 h
      obtain ⟨dev, -, h⟩ := Runs.bind_ok_iff.1 h
      obtain rfl := (Prod.mk.inj (Except.ok.inj h)).1
      exact .localSubscribe u v link events dev
    | eventUnsubscribe u id link events =>
      obtain rfl : id = s.mihfId := not_not.1 hi
      obtain ⟨v, -, h⟩ := Runs.bind_ok_iff.1 h
      rw [if_pos rfl] at h
      obtain ⟨info, -, h⟩ := Runs.bind_ok_iff.1 h
      obtain rfl := (Prod.mk.inj (Except.ok.inj h)).1
      exact .localUnsubscribe u v link events
    | scan user id req =>
      obtain rfl : id = s.mihfId := not_not.1 hi
      simp only [perform, mihScan, if_true] at h
      obtain ⟨u, hu, h⟩ := Runs.bind_ok_iff.1 h
      obtain ⟨scans, -, h⟩ := Runs.bind_ok_iff.1 h
      obtain rfl := (Prod.mk.inj (Except.ok.inj h)).1
      rw [assertNonNull_eq_ok.1 hu]
      exact .localScan u req
    | recv p junk => exact effect_special (not_not.1 hi) h
    | _ => exact absurd trivial hi

end MIHAgent

end SipNemo.Mih
