import SipNemo.Mih.LinkEvents

/-!
# Messages and commands

The handlers of `MIHAgent::recv` and the commands the MIH users call.  A handler returns the new
state and what the agent did; a call of a user is one of these outputs, and what the user then asks
of the agent is a step of its own.  The lemmas at the end say what the handlers of registrations,
subscriptions and status requests can do.

The id of a session is written `a << 16 + b` in four places, which is `a << (16 + b)`.  `junk`
is what uninitialised memory holds.
-/

namespace SipNemo.Mih

open RequestTable

/-- `a << 16 + b`, defined for shift counts below the width only. -/
def shiftedId (a b : BitVec 32) : Act (BitVec 32) :=
  if (16 + b).toNat < 32 then .ok (a <<< (16 + b).toNat) else .error .shiftCount

namespace MIHAgent

variable (s : MIHAgent)

/-! ### Capability discovery -/

/-- The capabilities the agent announces. -/
def capabilities : CapDisc where
  supportedEventList := s.mib.supportedEvents
  supportedCommandList := s.mib.supportedCommands
  supportedTransportList := s.mib.supportedTransport
  supportedQueryTypeList := s.mib.supportedQueryType.setWidth 8

/-- `send_cap_disc_req`. -/
def sendCapDiscReq (user : Option UserId) (mac : Option Mac) :
    Act (MIHAgent × List Output) := do
  let mac ← deref mac
  let p := s.allocpkt
    { transactionId := s.tid, mihfId := s.mihfId, payload := .capDiscReq s.capabilities }
  let p : MihPacket :=
    { p with
      iph := { p.iph with saddr := mac.nodeAddr, daddr := 0xFFFFFFFF, dport := s.port } }
  let s := s.nextTid.newRequest s.tid { user := user, pkt := p, waitRsp := true, mac := mac }
  pure (s, [.packet none p])

/-- `recv_cap_disc_req`: the sender is appended to the peers, with no session yet. -/
def recvCapDiscReq (p : MihPacket) (m : CapDisc) : Act (MIHAgent × List Output) :=
  let res := s.allocpkt
    { transactionId := p.mihh.transactionId, mihfId := s.mihfId
      payload := .capDiscRsp s.capabilities }
  let s := s.pushMihf
    { id := p.mihh.mihfId, address := p.iph.saddr, supportedEvents := m.supportedEventList
      supportedCommands := m.supportedCommandList, transport := m.supportedTransportList
      queryType := m.supportedQueryTypeList, session := none
      localMac := s.getMacForNode res.iph.saddr }
  .ok (s, [.packet none
    { res with iph := { res.iph with daddr := p.iph.saddr, dport := p.iph.sport } }])

/-- The peer record of `recv_cap_disc_rsp`: the first one with the id, or a new one. -/
def recordPeer (p : MihPacket) (m : CapDisc) : MIHAgent :=
  let info (session : Option SessionRef) : MihfInfo :=
    { id := p.mihh.mihfId, address := p.iph.saddr, supportedEvents := m.supportedEventList
      supportedCommands := m.supportedCommandList, transport := m.supportedTransportList
      queryType := m.supportedQueryTypeList, session := session
      localMac := s.getMacForNode p.iph.daddr }
  match s.getMihfInfo p.mihh.mihfId with
  | some r => s.modifyMihf r fun old => info old.session
  | none => s.pushMihf (info none)

/-- The request a response is for gets its confirmation and is cleared. -/
def confirm (tid : BitVec 16) (call : UserCall) : Act (MIHAgent × List Output) := do
  let r ← s.findRequest tid
  let u ← deref (s.requests.obj r).data.user
  pure (s.clearRequest r, [.user u call])

/-- The same for the responses of a session, which the user gets only if the session is known. -/
def confirmOn (tid : BitVec 16) (sessionid : BitVec 32) (call : UserCall) :
    Act (MIHAgent × List Output) := do
  let r ← s.findRequest tid
  match s.getSession sessionid with
  | none => pure (s.clearRequest r, [])
  | some _ => do
    let u ← deref (s.requests.obj r).data.user
    pure (s.clearRequest r, [.user u call])

/-- `recv_cap_disc_rsp`. -/
def recvCapDiscRsp (p : MihPacket) (m : CapDisc) : Act (MIHAgent × List Output) := do
  let _ ← assertNonNull (s.getMacForNode p.iph.daddr)
  (s.recordPeer p m).confirm p.mihh.transactionId (.conf p.mihh)

/-! ### Registration -/

/-- `send_reg_request`. -/
def sendRegRequest (user : Option UserId) (mihfId : BitVec 32) :
    Act (MIHAgent × List Output) := do
  let m ← deref (s.getMihfInfo mihfId)
  let mac ← deref (s.mihf m).localMac
  let p := s.allocpkt
    { transactionId := s.tid, mihfId := s.mihfId
      payload := .regReq
        { destID := (s.mihf m).id, reqCode := 0, msbSession := s.mihfId.setWidth 16 } }
  let p := s.fillL3 mac (s.mihf m) p
  let s := s.nextTid.newRequest s.tid { user := user, pkt := p, waitRsp := true, mac := mac }
  pure (s, [.packet none p])

/-- `send_reg_response`. -/
def sendRegResponse (mihfId : BitVec 32) (regResult failureCode : BitVec 8)
    (validity : BitVec 32) (tid : BitVec 16) : Act (MIHAgent × List Output) := do
  let m ← deref (s.getMihfInfo mihfId)
  let mac ← deref (s.mihf m).localMac
  let id ← shiftedId mihfId s.mihfId
  let s :=
    if regResult = 0 then s.deleteSession id
    else s.modifyMihf m fun i => { i with session := s.getSession id }
  let p := s.allocpkt
    { transactionId := tid, mihfId := s.mihfId
      payload := .regRsp
        { destID := mihfId, validity := validity, regResult := regResult
          failureCode := failureCode, lsbSession := s.mihfId.setWidth 16 } }
  pure (s, [.packet none (s.fillL3 mac (s.mihf m) p)])

/-- `recv_reg_req`: a session is created, whether there is one already or not. -/
def recvRegReq (p : MihPacket) (m : RegReq) : Act (MIHAgent × List Output) := do
  let id ← shiftedId (m.msbSession.setWidth 32) s.mihfId
  let mac ← deref (s.getMacForNode p.iph.daddr)
  let s := s.pushSession
    { id := id, macAddr := mac.addr, mihf := s.getMihfInfo p.mihh.mihfId }
  pure (s, s.managementUsers.map fun u => .user u (.ind p.mihh))

/-- The session a successful registration creates at the initiator. -/
def openSession (p : MihPacket) (m : RegRsp) : Act MIHAgent := do
  let id ← shiftedId s.mihfId (m.lsbSession.setWidth 32)
  let mac ← deref (s.getMacForNode p.iph.daddr)
  let peer ← deref (s.getMihfInfo p.mihh.mihfId)
  let new := s.nextSession
  pure ((s.pushSession { id := id, macAddr := mac.addr, mihf := some peer }).modifyMihf peer
    fun i => { i with session := some new })

/-- `recv_reg_rsp`. -/
def recvRegRsp (p : MihPacket) (m : RegRsp) : Act (MIHAgent × List Output) :=
  if m.regResult = 1 then do
    let s ← s.openSession p m
    s.confirm p.mihh.transactionId (.confOf (.regRsp m))
  else s.confirm p.mihh.transactionId (.confOf (.regRsp m))

/-! ### Deregistration -/

/-- `send_dereg_request`. -/
def sendDeregRequest (user : Option UserId) (mihfId : BitVec 32) :
    Act (MIHAgent × List Output) := do
  let m ← deref (s.getMihfInfo mihfId)
  let r ← deref (s.mihf m).session
  let p := s.allocpkt
    { transactionId := s.tid, mihfId := s.mihfId, sessionId := (s.session r).id
      payload := .deregReq (s.mihf m).id }
  let (s, _, out) ← s.nextTid.sendMihMessage user p (some r)
  pure (s, out)

/-- `send_dereg_response`. -/
def sendDeregResponse (user : Option UserId) (mihfId : BitVec 32)
    (deregResult failureCode : BitVec 8) (tid : BitVec 16) : Act (MIHAgent × List Output) := do
  let m ← deref (s.getMihfInfo mihfId)
  let r ← deref (s.mihf m).session
  let s := if deregResult = 1 then s.deleteSession (s.session r).id else s
  let p := s.allocpkt
    { transactionId := tid, mihfId := s.mihfId, sessionId := (s.session r).id
      payload := .deregRsp
        { destID := mihfId, resultCode := deregResult, failureCode := failureCode } }
  let (s, _, out) ← s.sendMihMessage user p (some r)
  pure (s, out)

/-- `recv_dereg_req`. -/
def recvDeregReq (p : MihPacket) : Act (MIHAgent × List Output) :=
  .ok (s, s.managementUsers.map fun u => .user u (.ind p.mihh))

/-- `recv_dereg_rsp`. -/
def recvDeregRsp (p : MihPacket) (m : DeregRsp) : Act (MIHAgent × List Output) :=
  let s := if m.resultCode = 1 then s.deleteSession p.mihh.sessionId else s
  s.confirm p.mihh.transactionId (.confOf (.deregRsp m))

/-! ### Subscriptions -/

/-- The link identifier of a subscription message. -/
def subLink (m : EventSub) : LinkIdentifier :=
  ⟨m.linkType, ethToInt m.macMobileTerminal, ethToInt m.macPoA⟩

/-- A subscription message. -/
def eventSub (linkId : LinkIdentifier) (events : BitVec 32) : EventSub :=
  ⟨linkId.type, intToEth linkId.macMobileTerminal, intToEth linkId.macPoA, events⟩

/-- `recv_event_sub_req`. -/
def recvEventSubReq (p : MihPacket) (m : EventSub) : Act (MIHAgent × List Output) :=
  match s.getSession p.mihh.sessionId with
  | none => .ok (s, [])
  | some r => do
    let mac := s.localMac (subLink m)
    let info ← deref (s.getInterface mac)
    let dev ← deref info.mac
    let status := (info.linkEventSubscribe dev m.eventList).2
    let s := s.modifyInterface mac fun i =>
      ((i.remoteEventSubscribe r m.eventList).linkEventSubscribe dev m.eventList).1
    let res := s.allocpkt
      { transactionId := p.mihh.transactionId, sessionId := p.mihh.sessionId
        payload := .eventSubRsp (eventSub (subLink m) status) }
    let (s, _, out) ← s.sendMihMessage none res (some r)
    pure (s, out)

/-- `recv_event_sub_rsp`. -/
def recvEventSubRsp (p : MihPacket) (m : EventSub) : Act (MIHAgent × List Output) :=
  s.confirmOn p.mihh.transactionId p.mihh.sessionId (.confOf (.eventSubRsp m))

/-- `recv_event_unsub_req`. -/
def recvEventUnsubReq (p : MihPacket) (m : EventSub) : Act (MIHAgent × List Output) :=
  match s.getSession p.mihh.sessionId with
  | none => .ok (s, [])
  | some r => do
    let mac := s.localMac (subLink m)
    let _ ← deref (s.getInterface mac)
    let s := s.modifyInterface mac fun i => i.remoteEventUnsubscribe r m.eventList
    let res := s.allocpkt
      { transactionId := p.mihh.transactionId, sessionId := p.mihh.sessionId
        payload := .eventUnsubRsp (eventSub (subLink m) m.eventList) }
    let (s, _, out) ← s.sendMihMessage none res (some r)
    pure (s, out)

/-- `recv_event_unsub_rsp`. -/
def recvEventUnsubRsp (p : MihPacket) (m : EventSub) : Act (MIHAgent × List Output) :=
  s.confirmOn p.mihh.transactionId p.mihh.sessionId (.confOf (.eventUnsubRsp m))

/-- A request to a remote MIHF on its session: `setMIHSession` asserts that there is one. -/
def sendSubscription (user : UserId) (mihfId : BitVec 32) (payload : Payload) :
    Act (MIHAgent × List Output) := do
  let m ← deref (s.getMihfInfo mihfId)
  let r ← assertNonNull (s.mihf m).session
  let p := s.allocpkt
    { transactionId := s.tid, sessionId := (s.session r).id, payload := payload }
  let (s, _, out) ← s.nextTid.sendMihMessage (some user) p (some r)
  pure (s, out)

/-- `mih_event_subscribe`. -/
def mihEventSubscribe (user : Option UserId) (mihfId : BitVec 32) (linkId : LinkIdentifier)
    (events : BitVec 32) : Act (MIHAgent × List Output) := do
  let u ← assertNonNull user
  if s.mihfId = mihfId then do
    let mac := s.localMac linkId
    let info ← deref (s.getInterface mac)
    let dev ← deref info.mac
    pure (s.modifyInterface mac fun i =>
        ((i.eventSubscribe u events).linkEventSubscribe dev events).1,
      [.returned (.eventStatus (info.linkEventSubscribe dev events).2)])
  else s.sendSubscription u mihfId (.eventSubReq (eventSub linkId events))

/-- `mih_event_unsubscribe`. -/
def mihEventUnsubscribe (user : Option UserId) (mihfId : BitVec 32) (linkId : LinkIdentifier)
    (events : BitVec 32) : Act (MIHAgent × List Output) := do
  let u ← assertNonNull user
  if s.mihfId = mihfId then do
    let mac := s.localMac linkId
    let _ ← deref (s.getInterface mac)
    pure (s.modifyInterface mac fun i => i.eventUnsubscribe u events,
      [.returned (.eventStatus events)])
  else s.sendSubscription u mihfId (.eventUnsubReq (eventSub linkId events))

/-! ### Status requests -/

/-- The links of the local interfaces. -/
def localLinks : List LinkIdentifier :=
  (s.ifaces.filter fun i => i.isLocal).map fun i => ⟨i.type, i.macAddr, i.macPoA⟩

/-- `mih_get_status`. -/
def mihGetStatus (user : Option UserId) (mihfId statusRequest : BitVec 32) :
    Act (MIHAgent × List Output) :=
  if mihfId = s.mihfId then
    if s.localLinks.length ≤ maxInterfacePerNode then
      .ok (s, [.returned (.linkStatus (statusRequest &&& 0x6) s.localLinks)])
    else .error .outOfRange
  else do
    let m ← deref (s.getMihfInfo mihfId)
    let r ← deref (s.mihf m).session
    let p := s.allocpkt
      { transactionId := s.tid, sessionId := (s.session r).id
        payload := .getStatusReq statusRequest }
    let (s, _, out) ← s.nextTid.sendMihMessage user p (some r)
    pure (s, out)

/-- `recv_mih_get_status_req`; the operation mode of every MAC is `NORMAL_MODE`, 0. -/
def recvMihGetStatusReq (p : MihPacket) (parameterType : BitVec 32) :
    Act (MIHAgent × List Output) :=
  match s.getSession p.mihh.sessionId with
  | none => .ok (s, [])
  | some r => do
    let _ ← assertNonNull (s.session r).mihf
    if s.localLinks.length ≤ maxInterfacePerNode then do
      let status := s.localLinks.map fun l : LinkIdentifier =>
        ⟨0, l.type, intToEth l.macMobileTerminal, intToEth l.macPoA⟩
      let res := s.allocpkt
        { transactionId := p.mihh.transactionId, sessionId := p.mihh.sessionId
          payload := .getStatusRsp ⟨parameterType &&& 0x6, status⟩ }
      let (s, _, out) ← s.sendMihMessage none res (some r)
      pure (s, out)
    else .error .outOfRange

/-- `recv_mih_get_status_res`. -/
def recvMihGetStatusRes (p : MihPacket) : Act (MIHAgent × List Output) :=
  s.confirmOn p.mihh.transactionId p.mihh.sessionId (.conf p.mihh)

/-! ### What the handlers do -/

section Handlers

variable {s} {s' : MIHAgent} {out : List Output} {p : MihPacket}

theorem findRequest_ok {tid : BitVec 16} {r : ℕ} (h : s.findRequest tid = .ok r) :
    s.requests.index tid = some r := by
  unfold findRequest at h
  split at h
  · next hr => rw [hr, Except.ok.inj h]
  · cases h

/-- A confirmation clears the request it finds. -/
theorem confirm_ok {tid : BitVec 16} {call : UserCall} (h : s.confirm tid call = .ok (s', out)) :
    ∃ r, s.requests.index tid = some r ∧ s' = s.clearRequest r := by
  obtain ⟨r, hr, h⟩ := Runs.bind_ok_iff.1 h
  obtain ⟨u, hu, h⟩ := Runs.bind_ok_iff.1 h
  exact ⟨r, findRequest_ok hr, (Prod.mk.inj (Except.ok.inj h)).1.symm⟩

theorem confirmOn_ok {tid : BitVec 16} {id : BitVec 32} {call : UserCall}
    (h : s.confirmOn tid id call = .ok (s', out)) :
    ∃ r, s.requests.index tid = some r ∧ s' = s.clearRequest r := by
  obtain ⟨r, hr, h⟩ := Runs.bind_ok_iff.1 h
  refine ⟨r, findRequest_ok hr, ?_⟩
  split at h
  · exact (Prod.mk.inj (Except.ok.inj h)).1.symm
  · obtain ⟨u, hu, h⟩ := Runs.bind_ok_iff.1 h
    exact (Prod.mk.inj (Except.ok.inj h)).1.symm

/-- A registration request opens a session with the peer of its header. -/
theorem recvRegReq_ok {m : RegReq} (h : s.recvRegReq p m = .ok (s', out)) :
    ∃ id mac, shiftedId (m.msbSession.setWidth 32) s.mihfId = .ok id ∧
      s' = s.pushSession { id := id, macAddr := mac, mihf := s.getMihfInfo p.mihh.mihfId } := by
  obtain ⟨id, hid, h⟩ := Runs.bind_ok_iff.1 h
  obtain ⟨mac, -, h⟩ := Runs.bind_ok_iff.1 h
  obtain ⟨rfl, -⟩ := Prod.mk.inj (Except.ok.inj h)
  exact ⟨id, mac.addr, hid, rfl⟩

/-- A successful registration response opens a session with the peer of its header, and the peer's
record gets it. -/
theorem openSession_ok {m : RegRsp} (h : s.openSession p m = .ok s') :
    ∃ id mac peer, shiftedId s.mihfId (m.lsbSession.setWidth 32) = .ok id ∧
      s.getMihfInfo p.mihh.mihfId = some peer ∧
      s' = (s.pushSession { id := id, macAddr := mac, mihf := some peer }).modifyMihf peer
        fun i => { i with session := some s.nextSession } := by
  obtain ⟨id, hid, h⟩ := Runs.bind_ok_iff.1 h
  obtain ⟨mac, -, h⟩ := Runs.bind_ok_iff.1 h
  obtain ⟨peer, hpeer, h⟩ := Runs.bind_ok_iff.1 h
  exact ⟨id, mac.addr, peer, hid, deref_eq_ok.1 hpeer, (Except.ok.inj h).symm⟩

/-- A registration response records the session of the peer, or deletes it, and carries the low
half of the sender's identifier. -/
theorem sendRegResponse_ok {mihfId : BitVec 32} {regResult failureCode : BitVec 8}
    {validity : BitVec 32} {tid : BitVec 16}
    (h : s.sendRegResponse mihfId regResult failureCode validity tid = .ok (s', out)) :
    ∃ m id, s.getMihfInfo mihfId = some m ∧ shiftedId mihfId s.mihfId = .ok id ∧
      s' = (if regResult = 0 then s.deleteSession id
        else s.modifyMihf m fun i => { i with session := s.getSession id }) ∧
      ∃ q r, out = [.packet none q] ∧ q.mihh.mihfId = s.mihfId ∧ q.mihh.payload = .regRsp r ∧
        r.regResult = regResult ∧ r.lsbSession = s.mihfId.setWidth 16 := by
  obtain ⟨m, hm, h⟩ := Runs.bind_ok_iff.1 h
  obtain ⟨mac, -, h⟩ := Runs.bind_ok_iff.1 h
  obtain ⟨id, hid, h⟩ := Runs.bind_ok_iff.1 h
  obtain ⟨hs', hout⟩ := Prod.mk.inj (Except.ok.inj h)
  -- the packet is made after the change of the sessions, which leaves the identifier
  have hown : s'.mihfId = s.mihfId := by
    rw [← hs']
    split
    · unfold deleteSession
      split <;> rfl
    · rfl
  refine ⟨m, id, deref_eq_ok.1 hm, hid, hs'.symm, _, _, hout.symm, ?_, rfl, rfl, ?_⟩
  · rw [hs']
    exact hown
  · simp only [hs', hown]

/-- A deregistration response deletes the session, or changes nothing. -/
theorem sendDeregResponse_ok {user : Option UserId} {mihfId : BitVec 32}
    {deregResult failureCode : BitVec 8} {tid : BitVec 16}
    (h : s.sendDeregResponse user mihfId deregResult failureCode tid = .ok (s', out)) :
    ∃ m r, s.getMihfInfo mihfId = some m ∧ (s.mihf m).session = some r ∧
      s' = if deregResult = 1 then s.deleteSession (s.session r).id else s := by
  obtain ⟨m, hm, h⟩ := Runs.bind_ok_iff.1 h
  obtain ⟨r, hr, h⟩ := Runs.bind_ok_iff.1 h
  obtain ⟨⟨t, q, o⟩, hsend, h⟩ := Runs.bind_ok_iff.1 h
  obtain rfl := (Prod.mk.inj (Except.ok.inj h)).1
  exact ⟨m, r, deref_eq_ok.1 hm, deref_eq_ok.1 hr, sendMihMessage_quiet_ok ⟨rfl, rfl⟩ hsend⟩

/-- A session's subscriptions on one interface have changed, or nothing has. -/
def ChangesSubscriptions (s s' : MIHAgent) (sessionid : BitVec 32) : Prop :=
  s' = s ∨ ∃ r mac f, s.getSession sessionid = some r ∧ s' = s.modifyInterface mac f ∧
    ∀ i e, ∀ x ∈ (f i).remoteSub e, x ∈ i.remoteSub e ∨ x = r

theorem recvEventSubReq_ok {m : EventSub} (h : s.recvEventSubReq p m = .ok (s', out)) :
    ChangesSubscriptions s s' p.mihh.sessionId := by
  unfold recvEventSubReq at h
  split at h
  next => exact Or.inl (Prod.mk.inj (Except.ok.inj h)).1.symm
  next r hr =>
    obtain ⟨info, -, h⟩ := Runs.bind_ok_iff.1 h
    obtain ⟨dev, -, h⟩ := Runs.bind_ok_iff.1 h
    obtain ⟨⟨t, q, o⟩, hsend, h⟩ := Runs.bind_ok_iff.1 h
    obtain rfl := (Prod.mk.inj (Except.ok.inj h)).1
    exact Or.inr ⟨r, _, _, hr, sendMihMessage_quiet_ok ⟨rfl, rfl⟩ hsend, fun i e x hx =>
      MIHInterfaceInfo.mem_remoteEventSubscribe hx⟩

theorem recvEventUnsubReq_ok {m : EventSub} (h : s.recvEventUnsubReq p m = .ok (s', out)) :
    ChangesSubscriptions s s' p.mihh.sessionId := by
  unfold recvEventUnsubReq at h
  split at h
  next => exact Or.inl (Prod.mk.inj (Except.ok.inj h)).1.symm
  next r hr =>
    obtain ⟨info, -, h⟩ := Runs.bind_ok_iff.1 h
    obtain ⟨⟨t, q, o⟩, hsend, h⟩ := Runs.bind_ok_iff.1 h
    obtain rfl := (Prod.mk.inj (Except.ok.inj h)).1
    exact Or.inr ⟨r, _, _, hr, sendMihMessage_quiet_ok ⟨rfl, rfl⟩ hsend, fun i e x hx =>
      Or.inl (MIHInterfaceInfo.mem_remoteEventUnsubscribe hx)⟩

theorem recvMihGetStatusReq_ok {t : BitVec 32} (h : s.recvMihGetStatusReq p t = .ok (s', out)) :
    s' = s := by
  unfold recvMihGetStatusReq at h
  split at h
  next => exact (Prod.mk.inj (Except.ok.inj h)).1.symm
  next r hr =>
    obtain ⟨m, -, h⟩ := Runs.bind_ok_iff.1 h
    split at h
    next =>
      obtain ⟨⟨t, q, o⟩, hsend, h⟩ := Runs.bind_ok_iff.1 h
      obtain rfl := (Prod.mk.inj (Except.ok.inj h)).1
      exact sendMihMessage_quiet_ok ⟨rfl, rfl⟩ hsend
    next => cases h

end Handlers

end MIHAgent

end SipNemo.Mih
