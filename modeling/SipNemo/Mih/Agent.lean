import SipNemo.Lib.FirstMatch
import SipNemo.Lib.RequestTable
import SipNemo.Lib.Runs
import SipNemo.Mih.Interface

/-!
# The state of an MIH agent

`MIHAgent` of `mih.cc` with the records it keeps: interfaces, peers (`mihf_info`), sessions,
pending requests and scans.  Peers and sessions are reached through pointers from several places,
so they live in two stores and the lists hold references; records that come from `malloc` are
never freed.  A field that `malloc` leaves unset is `none`.

The lookups, `send_mih_message`, and the life of a pending request (creation, timer, clearing)
are here, each with the lemma that says what it can do.  Output for debugging is left out; where
such a line reads the peer record of a session, `send_mih_message` asserts that record in the same
turn.
-/

namespace SipNemo.Mih

open RequestTable FirstMatch

/-- `mihf_info`. -/
structure MihfInfo where
  id : BitVec 32
  address : Addr
  supportedEvents : BitVec 32
  supportedCommands : BitVec 32
  transport : BitVec 32
  queryType : BitVec 8
  session : Option SessionRef
  localMac : Option Mac
  deriving DecidableEq, Repr

/-- `session_info`. -/
structure SessionInfo where
  id : BitVec 32
  macAddr : MacAddr
  mihf : Option MihfRef
  lastTID : ℤ := -1
  deriving DecidableEq, Repr

/-- `mih_pending_req`, less its transaction id and timer, which the table of requests keeps. -/
structure PendingReq where
  user : Option UserId
  pkt : MihPacket
  waitAck : Bool := false
  waitRsp : Bool := false
  retx : ℤ := 0
  session : Option SessionRef := none
  l2transport : Bool := false
  mac : Mac
  deriving DecidableEq

/-- Who asked for a scan, and of which links. -/
inductive ScanOrigin
  | localUser (user : UserId) (lreq : List LinkIdentifier)
  | remote (sessionid : BitVec 32) (transactionid : BitVec 16) (rreq : List ScanReqEntry)
  deriving DecidableEq

/-- `MIHScan`. -/
structure MIHScan where
  origin : ScanOrigin
  rsp : List ScanRspEntry := []
  deriving DecidableEq

/-- `MIH_MIB`. -/
structure MihMib where
  supportedEvents : BitVec 32
  supportedCommands : BitVec 32
  supportedTransport : BitVec 32
  supportedQueryType : BitVec 32
  retryLimit : ℤ
  deriving DecidableEq, Repr

/-- `MIHAgent`. -/
structure MIHAgent where
  addr : Addr
  port : ℤ
  mihfId : BitVec 32
  mib : MihMib
  ifaces : List MIHInterfaceInfo
  mihf : MihfRef → MihfInfo
  nextMihf : MihfRef
  peerMihfs : List MihfRef
  session : SessionRef → SessionInfo
  nextSession : SessionRef
  sessions : List SessionRef
  requests : Table (BitVec 16) PendingReq
  managementUsers : List UserId
  scanReq : List MIHScan
  transactionId : BitVec 32

namespace MIHAgent

variable (s : MIHAgent)

/-! ### Lookups -/

/-- `get_interface`. -/
def getInterface (macAddr : MacAddr) : Option MIHInterfaceInfo :=
  s.ifaces.find? fun i => i.macAddr = macAddr

/-- A write through the pointer `get_interface` returns. -/
def modifyInterface (macAddr : MacAddr) (f : MIHInterfaceInfo → MIHInterfaceInfo) : MIHAgent :=
  { s with ifaces := updateFirst (fun i => i.macAddr = macAddr) f s.ifaces }

/-- A write that leaves the remote subscriptions alone. -/
theorem map_remoteSub_modifyInterface (macAddr : MacAddr)
    {f : MIHInterfaceInfo → MIHInterfaceInfo} (hf : ∀ i, (f i).remoteSub = i.remoteSub) :
    (s.modifyInterface macAddr f).ifaces.map MIHInterfaceInfo.remoteSub =
      s.ifaces.map MIHInterfaceInfo.remoteSub :=
  map_updateFirst hf s.ifaces

/-- `is_local_mac`. -/
def isLocalMac (macAddr : MacAddr) : Bool :=
  match s.getInterface macAddr with
  | none => false
  | some info => info.isLocal

/-- `get_mac`. -/
def getMac (macAddr : MacAddr) : Act (Option Mac) := do
  let info ← deref (s.getInterface macAddr)
  pure info.mac

/-- The MAC of an interface, if it is local and its node has the address. -/
def macOnNode (addr : Addr) (info : MIHInterfaceInfo) : Option Mac :=
  info.mac.filter fun mac => mac.nodeAddr = addr

/-- `get_mac_for_node`. -/
def getMacForNode (addr : Addr) : Option Mac := s.ifaces.findSome? (macOnNode addr)

/-- `get_mihf_info`. -/
def getMihfInfo (mihfid : BitVec 32) : Option MihfRef :=
  s.peerMihfs.find? fun m => (s.mihf m).id = mihfid

/-- `get_session`. -/
def getSession (sessionid : BitVec 32) : Option SessionRef :=
  s.sessions.find? fun r => (s.session r).id = sessionid

/-- `delete_session`: the first session with the id goes, with its subscriptions. -/
def deleteSession (sessionid : BitVec 32) : MIHAgent :=
  match s.getSession sessionid with
  | none => s
  | some r =>
    { s with
      ifaces := s.ifaces.map fun i => i.remoteEventUnsubscribe r 0xFFFFFFFF
      sessions := s.sessions.erase r }

/-- The end of a link that is local: the mobile terminal, or else the point of attachment. -/
def localMac (linkId : LinkIdentifier) : MacAddr :=
  if s.isLocalMac linkId.macMobileTerminal then linkId.macMobileTerminal else linkId.macPoA

/-- `allocpkt`, with the MIH header filled in. -/
def allocpkt (mihh : HdrMih) : MihPacket := ⟨(SipNemo.allocpkt s.addr s.port).iph, mihh⟩

/-- A new `mihf_info` at the end of `peer_mihfs_`. -/
def pushMihf (info : MihfInfo) : MIHAgent :=
  { s with
    mihf := Function.update s.mihf s.nextMihf info
    nextMihf := s.nextMihf + 1
    peerMihfs := s.peerMihfs ++ [s.nextMihf] }

/-- A write through an `mihf_info` pointer. -/
def modifyMihf (m : MihfRef) (f : MihfInfo → MihfInfo) : MIHAgent :=
  { s with mihf := Function.update s.mihf m (f (s.mihf m)) }

/-- A new `session_info` at the end of `sessions_`. -/
def pushSession (info : SessionInfo) : MIHAgent :=
  { s with
    session := Function.update s.session s.nextSession info
    nextSession := s.nextSession + 1
    sessions := s.sessions ++ [s.nextSession] }

/-- A write through a `session_info` pointer. -/
def modifySession (r : SessionRef) (f : SessionInfo → SessionInfo) : MIHAgent :=
  { s with session := Function.update s.session r (f (s.session r)) }

/-- `transactionId_`, as the 16 bits of the header take it. -/
def tid : BitVec 16 := s.transactionId.setWidth 16

/-- `transactionId_++`. -/
def nextTid : MIHAgent := { s with transactionId := s.transactionId + 1 }

/-! ### Pending requests -/

/-- A new `mih_pending_req` with its timer started, inserted under the transaction id. -/
def newRequest (tid : BitVec 16) (req : PendingReq) : MIHAgent :=
  { s with requests := s.requests.create { key := tid, data := req } }

/-- `(*pending_req_.find(tid)).second`. -/
def findRequest (tid : BitVec 16) : Act ℕ :=
  match s.requests.index tid with
  | some r => .ok r
  | none => .error .endOfMap

/-- `if (timer->status() == TIMER_PENDING) timer->cancel()`. -/
def cancelTimer (o : Obj (BitVec 16) PendingReq) : Obj (BitVec 16) PendingReq :=
  if o.timer = .pending then o.setTimer .idle else o

/-- `clear_request`. -/
def clearRequest (r : ℕ) : MIHAgent :=
  { s with requests := (s.requests.modify r cancelTimer).release r }

/-- `req->retx++`. -/
def incRetx (o : Obj (BitVec 16) PendingReq) : Obj (BitVec 16) PendingReq :=
  { o with data.retx := o.data.retx + 1 }

/-- The timer is started again and `req->retx++`. -/
def resend (o : Obj (BitVec 16) PendingReq) : Obj (BitVec 16) PendingReq :=
  incRetx (o.setTimer .pending)

/-- `process_request_timer`.  Over layer 2 nothing is sent and the timer is not started again. -/
def processRequestTimer (tid : BitVec 16) : Act (MIHAgent × List Output) := do
  let r ← s.findRequest tid
  let req := (s.requests.obj r).data
  if req.retx < s.mib.retryLimit then
    if req.l2transport then
      pure ({ s with requests := s.requests.modify r incRetx }, [])
    else
      pure ({ s with requests := s.requests.modify r resend }, [.packet req.session req.pkt])
  else
    pure ({ s with requests := s.requests.release r }, [])

/-- The end of `TimerHandler::handle`: a timer that was not started again is idle. -/
def timerDone (o : Obj (BitVec 16) PendingReq) : Obj (BitVec 16) PendingReq :=
  if o.timer = .handling then o.setTimer .idle else o

/-- `status_ = TIMER_HANDLING`. -/
def timerHandling (o : Obj (BitVec 16) PendingReq) : Obj (BitVec 16) PendingReq :=
  o.setTimer .handling

/-- `TimerHandler::handle` of the timer of the request object `r`, whose `expire` calls
`process_request_timer`. -/
def handleTimer (r : ℕ) : Act (MIHAgent × List Output) :=
  if (s.requests.obj r).timer = .pending then do
    let tid := (s.requests.obj r).key
    let s := { s with requests := s.requests.modify r timerHandling }
    let (s, out) ← s.processRequestTimer tid
    pure ({ s with requests := s.requests.modify r timerDone }, out)
  else .error .exit

/-! ### `send_mih_message` -/

/-- The transports a peer supports for a service: layer 2, layer 3. -/
def transports (transport : BitVec 32) : ServiceId → Bool × Bool
  | .system => (false, false)
  | .event => (transport.getLsbD 0, transport.getLsbD 1)
  | .command => (transport.getLsbD 8, transport.getLsbD 9)
  | .information => (transport.getLsbD 16, transport.getLsbD 17)

/-- The layer 3 addresses of a message to a peer. -/
def fillL3 (mac : Mac) (mihf : MihfInfo) (p : MihPacket) : MihPacket :=
  { p with
    iph := { p.iph with saddr := mac.nodeAddr, daddr := mihf.address, dport := s.port } }

/-- The pending request of a message that asks for an acknowledgement or a response. -/
def addPending (user : Option UserId) (p : MihPacket) (session : SessionRef) (l2 : Bool)
    (mac : Mac) : Act MIHAgent :=
  if p.mihh.ackReq || p.mihh.payload.isRequest then do
    let u ← assertNonNull user
    pure (s.newRequest p.mihh.transactionId
      { user := some u, pkt := p, waitAck := p.mihh.ackReq, waitRsp := p.mihh.payload.isRequest
        session := some session, l2transport := l2, mac := mac })
  else .ok s

/-- `send_mih_message` once peer and MAC are known.  The packet is returned as it is left behind:
over layer 3 its addresses have been filled in. -/
def transmit (user : Option UserId) (p : MihPacket) (r : SessionRef) (peer : MihfInfo)
    (mac : Mac) : Act (MIHAgent × MihPacket × List Output) :=
  match transports peer.transport p.mihh.payload.serviceId with
  | (false, false) => .ok (s, p, [])
  | (true, _) => do
    let s ← s.addPending user p r true mac
    pure (s, p, [])
  | (false, true) => do
    let p := s.fillL3 mac peer p
    let s ← s.addPending user p r false mac
    pure (s, p, [.packet (some r) p])

/-- `send_mih_message`. -/
def sendMihMessage (user : Option UserId) (p : MihPacket) (session : Option SessionRef) :
    Act (MIHAgent × MihPacket × List Output) := do
  let r ← assertNonNull session
  let m ← assertNonNull (s.session r).mihf
  let mac ← s.getMac (s.session r).macAddr
  let mac ← assertNonNull mac
  s.transmit user p r (s.mihf m) mac

/-! ### What `send_mih_message` does -/

/-- Peer and MAC of a session, if it has both. -/
def route (r : SessionRef) : Option (MihfInfo × Mac) := do
  let m ← (s.session r).mihf
  let info ← s.getInterface (s.session r).macAddr
  let mac ← info.mac
  pure (s.mihf m, mac)

/-- Layer 3 is what a peer's messages of a service are sent over. -/
def usesL3 (peer : MihfInfo) (service : ServiceId) : Bool :=
  transports peer.transport service = (false, true)

variable {s} {s' : MIHAgent} {user : Option UserId} {p q : MihPacket} {r : SessionRef}
  {session : Option SessionRef} {peer : MihfInfo} {mac : Mac} {l2 : Bool} {out : List Output}

theorem route_eq_some :
    s.route r = some (peer, mac) ↔
      ∃ m info, (s.session r).mihf = some m ∧ s.mihf m = peer ∧
        s.getInterface (s.session r).macAddr = some info ∧ info.mac = some mac := by
  unfold route
  constructor
  · intro h
    obtain ⟨m, hm, h⟩ := Option.bind_eq_some_iff.1 h
    obtain ⟨info, hinfo, h⟩ := Option.bind_eq_some_iff.1 h
    obtain ⟨dev, hdev, h⟩ := Option.bind_eq_some_iff.1 h
    obtain ⟨rfl, rfl⟩ : s.mihf m = peer ∧ dev = mac := by simpa using h
    exact ⟨m, info, hm, rfl, hinfo, hdev⟩
  · rintro ⟨m, info, hm, rfl, hinfo, hmac⟩
    simp [hm, hinfo, hmac]

/-- A session with a route: the message is transmitted. -/
theorem sendMihMessage_of_route (h : s.route r = some (peer, mac)) :
    s.sendMihMessage user p (some r) = s.transmit user p r peer mac := by
  obtain ⟨m, info, hm, rfl, hinfo, hmac⟩ := route_eq_some.1 h
  simp [sendMihMessage, getMac, hm, hinfo, hmac]

/-- A message is sent only on a session with a route. -/
theorem sendMihMessage_ok {res : MIHAgent × MihPacket × List Output}
    (h : s.sendMihMessage user p session = .ok res) :
    ∃ r peer mac, session = some r ∧ s.route r = some (peer, mac) ∧
      s.transmit user p r peer mac = .ok res := by
  unfold sendMihMessage at h
  obtain ⟨r, hr, h⟩ := Runs.bind_ok_iff.1 h
  obtain ⟨m, hm, h⟩ := Runs.bind_ok_iff.1 h
  obtain ⟨dev, hdev, h⟩ := Runs.bind_ok_iff.1 h
  obtain ⟨mac, hmac, h⟩ := Runs.bind_ok_iff.1 h
  obtain ⟨info, hinfo, hpure⟩ := Runs.bind_ok_iff.1 hdev
  rw [assertNonNull_eq_ok] at hr hm hmac
  have hinfo_mac : info.mac = some mac := by
    rw [← hmac]
    simpa using hpure
  exact ⟨r, s.mihf m, mac, hr,
    route_eq_some.2 ⟨m, info, hm, rfl, deref_eq_ok.1 hinfo, hinfo_mac⟩, h⟩

/-- A message that asks neither for an acknowledgement nor for a response. -/
def Quiet (p : MihPacket) : Prop := p.mihh.ackReq = false ∧ p.mihh.payload.isRequest = false

theorem addPending_of_quiet (h : Quiet p) : s.addPending user p r l2 mac = .ok s := by
  simp [addPending, h.1, h.2]

/-- A quiet message changes nothing and goes out once, if the peer is reached over layer 3. -/
theorem transmit_of_quiet (h : Quiet p) :
    s.transmit user p r peer mac =
      .ok (if usesL3 peer p.mihh.payload.serviceId then
        (s, s.fillL3 mac peer p, [.packet (some r) (s.fillL3 mac peer p)]) else (s, p, [])) := by
  have hfill : Quiet (s.fillL3 mac peer p) := h
  unfold transmit usesL3
  rcases transports peer.transport p.mihh.payload.serviceId with ⟨_ | _, _ | _⟩
  · simp
  · simp [addPending_of_quiet hfill]
  · simp [addPending_of_quiet h]
  · simp [addPending_of_quiet h]

theorem sendMihMessage_quiet_ok {res : MIHAgent × MihPacket × List Output} (hq : Quiet p)
    (h : s.sendMihMessage user p session = .ok res) : res.1 = s := by
  obtain ⟨r, peer, mac, -, -, h⟩ := sendMihMessage_ok h
  rw [transmit_of_quiet hq] at h
  obtain rfl := Except.ok.inj h
  split <;> rfl

/-- A request that a message leaves behind: new, from the message's user, under its transaction
id. -/
theorem addPending_ok (h : s.addPending user p r l2 mac = .ok s') :
    s' = s ∨ ∃ req : PendingReq, req.retx = 0 ∧ req.user = user ∧
      s' = s.newRequest p.mihh.transactionId req := by
  unfold addPending at h
  split_ifs at h with hreq
  · obtain ⟨u, hu, h⟩ := Runs.bind_ok_iff.1 h
    obtain rfl := Except.ok.inj h
    exact Or.inr ⟨_, rfl, (assertNonNull_eq_ok.1 hu).symm, rfl⟩
  · exact Or.inl (Except.ok.inj h).symm

/-- Without a transport nothing happens; otherwise there may be a new request. -/
theorem transmit_ok (h : s.transmit user p r peer mac = .ok (s', q, out)) :
    s' = s ∨ (transports peer.transport p.mihh.payload.serviceId ≠ (false, false) ∧
      ∃ req : PendingReq, req.retx = 0 ∧ req.user = user ∧
        s' = s.newRequest p.mihh.transactionId req) := by
  unfold transmit at h
  split at h
  · next hnone => exact Or.inl (Prod.mk.inj (Except.ok.inj h)).1.symm
  · next hl2 =>
    obtain ⟨t, ht, h⟩ := Runs.bind_ok_iff.1 h
    obtain rfl : t = s' := (Prod.mk.inj (Except.ok.inj h)).1
    exact (addPending_ok ht).imp_right fun hreq => ⟨by simp [hl2], hreq⟩
  · next hl3 =>
    obtain ⟨t, ht, h⟩ := Runs.bind_ok_iff.1 h
    obtain rfl : t = s' := (Prod.mk.inj (Except.ok.inj h)).1
    exact (addPending_ok ht).imp_right fun hreq => ⟨by simp [hl3], hreq⟩

end MIHAgent

end SipNemo.Mih
