import SipNemo.Mih.Scan

/-!
# The agent as a transition system

`MIHAgent::recv` with the four handlers of indications it knows, and the steps of an agent: a
packet or a link event arrives, a request timer expires, a scan of a MAC is complete, or a user
calls a command.
-/

namespace SipNemo.Mih

namespace MIHAgent

variable (s : MIHAgent)

/-- `recv_link_up_ind`. -/
def recvLinkUpInd (m : LinkUpInd) : Act (MIHAgent × List Output) :=
  s.processLinkUp
    { linkIdentifier := ⟨m.linkType, ethToInt m.macMobileTerminal, ethToInt m.macNewPoA⟩
      macOldAccessRouter := ethToInt m.macOldAccessRouter
      macNewAccessRouter := ethToInt m.macNewAccessRouter
      ipRenewal := m.ipRenewalFlag ≠ 0
      mobilityManagement := m.ipConfigurationMethod.setWidth 32 }

/-- `recv_link_down_ind`. -/
def recvLinkDownInd (m : LinkDownInd) : Act (MIHAgent × List Output) :=
  s.processLinkDown
    { linkIdentifier := ⟨m.linkType, ethToInt m.macMobileTerminal, ethToInt m.macPoA⟩
      macOldAccessRouter := ethToInt m.macOldAccessRouter
      reason := m.reasonCode.setWidth 32 }

/-- `recv_link_going_down_ind`, which does not set `reasonCode`. -/
def recvLinkGoingDownInd (m : LinkGoingDownInd) (junk : BitVec 32) :
    Act (MIHAgent × List Output) :=
  s.processLinkGoingDown
    { linkIdentifier := ⟨m.linkType, ethToInt m.macMobileTerminal, ethToInt m.macCurrentPoA⟩
      timeInterval := m.timeInterval.setWidth 32
      confidenceLevel := m.confidenceLevel.setWidth 16
      reasonCode := junk
      uniqueEventIdentifier := m.uniqueEventIdentifier.setWidth 32 }

/-- `recv_link_rollback_ind`. -/
def recvLinkRollbackInd (m : LinkRollbackInd) : Act (MIHAgent × List Output) :=
  s.processLinkRollback
    { linkIdentifier := ⟨m.linkType, ethToInt m.macMobileTerminal, ethToInt m.macCurrentPoA⟩
      uniqueEventIdentifier := m.uniqueEventIdentifier.setWidth 32 }

/-- `recv`.  There is no case for the other four indications, so they end in `exit(1)`. -/
def recv (p : MihPacket) (junk : BitVec 32) : Act (MIHAgent × List Output) :=
  match p.mihh.payload with
  | .capDiscReq m => s.recvCapDiscReq p m
  | .capDiscRsp m => s.recvCapDiscRsp p m
  | .regReq m => s.recvRegReq p m
  | .regRsp m => s.recvRegRsp p m
  | .deregReq _ => s.recvDeregReq p
  | .deregRsp m => s.recvDeregRsp p m
  | .eventSubReq m => s.recvEventSubReq p m
  | .eventSubRsp m => s.recvEventSubRsp p m
  | .eventUnsubReq m => s.recvEventUnsubReq p m
  | .eventUnsubRsp m => s.recvEventUnsubRsp p m
  | .linkUpInd m => s.recvLinkUpInd m
  | .linkDownInd m => s.recvLinkDownInd m
  | .linkGoingDownInd m => s.recvLinkGoingDownInd m junk
  | .linkRollbackInd m => s.recvLinkRollbackInd m
  | .getStatusReq t => s.recvMihGetStatusReq p t
  | .getStatusRsp _ => s.recvMihGetStatusRes p
  | .scanReq l => s.recvMihScanReq p l
  | .scanRsp l => s.recvMihScanRes p l
  | .switchReq m => s.recvMihSwitchReq p m
  | .switchRsp | .handoverInitiateReq | .handoverInitiateRes => .ok (s, [])
  | .networkAddressInfoReq | .networkAddressInfoRes => .ok (s, [])
  | .linkDetectedInd _ | .linkParametersReportInd _ => .error .exit
  | .linkHandoverImminentInd _ | .linkHandoverCompleteInd _ | .unknown => .error .exit

/-- What can happen to an agent. -/
inductive Step
  | addMac (mac : Mac)
  | registerManagementUser (user : UserId)
  | recv (p : MihPacket) (junk : BitVec 32)
  | event (e : LinkEvent) (junk : BitVec 32)
  | expire (r : ℕ)
  | scanResponse (mac : MacAddr) (rsp : List (BitVec 8))
  | capDiscReq (user : Option UserId) (mac : Option Mac)
  | regRequest (user : Option UserId) (mihfId : BitVec 32)
  | regResponse (mihfId : BitVec 32) (regResult failureCode : BitVec 8) (validity : BitVec 32)
      (tid : BitVec 16)
  | deregRequest (user : Option UserId) (mihfId : BitVec 32)
  | deregResponse (user : Option UserId) (mihfId : BitVec 32) (deregResult failureCode : BitVec 8)
      (tid : BitVec 16)
  | eventSubscribe (user : Option UserId) (mihfId : BitVec 32) (linkId : LinkIdentifier)
      (events : BitVec 32)
  | eventUnsubscribe (user : Option UserId) (mihfId : BitVec 32) (linkId : LinkIdentifier)
      (events : BitVec 32)
  | getStatus (user : Option UserId) (mihfId statusRequest : BitVec 32)
  | scan (user : Option UserId) (mihfId : BitVec 32) (req : List LinkIdentifier)

/-- One step, with its outputs. -/
def perform : Step → Act (MIHAgent × List Output)
  | .addMac mac => .ok ({ s with ifaces := s.ifaces ++ [.ofMac mac] }, [])
  | .registerManagementUser u =>
    .ok ({ s with managementUsers := s.managementUsers ++ [u] }, [])
  | .recv p junk => s.recv p junk
  | .event e junk => s.recvEvent e junk
  | .expire r => s.handleTimer r
  | .scanResponse mac rsp => s.processScanResponse mac rsp
  | .capDiscReq u mac => s.sendCapDiscReq u mac
  | .regRequest u id => s.sendRegRequest u id
  | .regResponse id result failure validity tid => s.sendRegResponse id result failure validity tid
  | .deregRequest u id => s.sendDeregRequest u id
  | .deregResponse u id result failure tid => s.sendDeregResponse u id result failure tid
  | .eventSubscribe u id link events => s.mihEventSubscribe u id link events
  | .eventUnsubscribe u id link events => s.mihEventUnsubscribe u id link events
  | .getStatus u id request => s.mihGetStatus u id request
  | .scan u id req => s.mihScan u id req

/-- The state after a step. -/
def step (i : Step) : Act MIHAgent := (s.perform i).map Prod.fst

end MIHAgent

/-! ### A configuration

One interface and one registered peer; the examples of the results that follow run on it. -/

/-- A MAC of type 802.11. -/
def sampleMac : Mac where
  addr := 1
  nodeAddr := 10
  type := link80211
  eventList := 0x1FF

/-- A peer that can be reached over the given transports. -/
def samplePeer (transport : BitVec 32) : MihfInfo where
  id := 2
  address := 20
  supportedEvents := 0x1FF
  supportedCommands := 0
  transport := transport
  queryType := 0
  session := some 0
  localMac := some sampleMac

/-- A packet to fill unused places with. -/
def blankPacket : MihPacket := ⟨{}, { payload := .unknown }⟩

/-- No pending requests. -/
def noRequests : RequestTable.Table (BitVec 16) PendingReq :=
  .empty { key := 0, data := { user := none, pkt := blankPacket, mac := sampleMac } }

/-- An agent with the id 1 that has registered with the peer. -/
def sampleAgent (transport : BitVec 32) : MIHAgent where
  addr := 10
  port := 5
  mihfId := 1
  mib := ⟨0x1FF, 0, 0x202, 0, 1⟩
  ifaces := [.ofMac sampleMac]
  mihf := fun _ => samplePeer transport
  nextMihf := 1
  peerMihfs := [0]
  session := fun _ => { id := 1 <<< 18, macAddr := 1, mihf := some 0 }
  nextSession := 1
  sessions := [0]
  requests := noRequests
  managementUsers := [0]
  scanReq := []
  transactionId := 0

end SipNemo.Mih
