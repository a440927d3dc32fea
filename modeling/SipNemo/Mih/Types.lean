import Mathlib.Data.BitVec
import SipNemo.Net.Packet

/-!
# The data of the Media Independent Handover function

The event structures of `mih-types.h` and the messages of `mih.h`.  Enumerations that cross the
network (link types, reason codes) are kept as the words that carry them.

The identifier, the opcode and the service of a message are fixed by its payload, as every sender
of the repository sets them; `Payload.unknown` stands for a message whose identifier or opcode
`MIHAgent::recv` does not know.  `Packet::alloc` zeroes every header, so a field that a sender does
not write is 0: the defaults below.  Packet sizes, the protocol version and the timeout values,
which nothing here depends on, are left out.
-/

namespace SipNemo.Mih

/-- A MAC address (`int`). -/
abbrev MacAddr := BitVec 32

/-- `mih_event_t`. -/
inductive MihEvent
  | linkUp | linkDown | linkGoingDown | linkDetected | linkParametersReport | linkEventRollback
  | linkSduTransmitStatus | linkHandoverImminent | linkHandoverComplete
  deriving DecidableEq, Repr

/-- The value of the enumeration, which is the bit of the event in a `link_event_list`. -/
def MihEvent.index : MihEvent → ℕ
  | .linkUp => 0
  | .linkDown => 1
  | .linkGoingDown => 2
  | .linkDetected => 3
  | .linkParametersReport => 4
  | .linkEventRollback => 5
  | .linkSduTransmitStatus => 6
  | .linkHandoverImminent => 7
  | .linkHandoverComplete => 8

/-- `(events >> i) & 0x1`. -/
def inEventList (events : BitVec 32) (e : MihEvent) : Bool := events.getLsbD e.index

/-- `interface_status_t`. -/
inductive InterfaceStatus
  | up | down | goingDown | handoverImminent | handoverComplete | unknown
  deriving DecidableEq, Repr

/-- `LINK_802_11`. -/
def link80211 : BitVec 32 := 19

/-- `LINK_802_16`. -/
def link80216 : BitVec 32 := 27

/-- `link_identifier_t`. -/
structure LinkIdentifier where
  type : BitVec 32
  macMobileTerminal : MacAddr
  macPoA : MacAddr
  deriving DecidableEq, Repr

/-! ### Link events -/

/-- `link_up_t`. -/
structure LinkUp where
  linkIdentifier : LinkIdentifier
  macOldAccessRouter : MacAddr
  macNewAccessRouter : MacAddr
  ipRenewal : Bool
  mobilityManagement : BitVec 32
  deriving DecidableEq, Repr

/-- `link_down_t`. -/
structure LinkDown where
  linkIdentifier : LinkIdentifier
  macOldAccessRouter : MacAddr
  reason : BitVec 32
  deriving DecidableEq, Repr

/-- `link_going_down_t`. -/
structure LinkGoingDown where
  linkIdentifier : LinkIdentifier
  timeInterval : BitVec 32
  confidenceLevel : BitVec 16
  reasonCode : BitVec 32
  uniqueEventIdentifier : BitVec 32
  deriving DecidableEq, Repr

/-- `link_rollback_t`. -/
structure LinkRollback where
  linkIdentifier : LinkIdentifier
  uniqueEventIdentifier : BitVec 32
  deriving DecidableEq, Repr

/-- `link_detected_t`. -/
structure LinkDetected where
  linkIdentifier : LinkIdentifier
  mihCapability : Bool
  deriving DecidableEq, Repr

/-- `link_parameter_s`; the union `param_value` has eight bytes. -/
structure LinkParameter where
  linkType : BitVec 32
  parameterType : BitVec 32
  oldValue : BitVec 64
  newValue : BitVec 64
  deriving DecidableEq, Repr

/-- `MAX_NB_PARAM`. -/
def maxNbParam : ℕ := 20

/-- `link_parameters_report_t`: the array has `MAX_NB_PARAM` places. -/
structure LinkParametersReport where
  linkIdentifier : LinkIdentifier
  linkParameterList : List LinkParameter
  numLinkParameters_le : linkParameterList.length ≤ maxNbParam
  deriving DecidableEq

/-- `link_handover_imminent_t`. -/
structure LinkHandoverImminent where
  linkIdentifier : LinkIdentifier
  newLinkIdentifier : LinkIdentifier
  macOldAccessRouter : MacAddr
  macNewAccessRouter : MacAddr
  deriving DecidableEq, Repr

/-- `link_handover_complete_t`. -/
structure LinkHandoverComplete where
  linkIdentifier : LinkIdentifier
  macOldAccessRouter : MacAddr
  macNewAccessRouter : MacAddr
  deriving DecidableEq, Repr

/-- The events `MIHAgent::recv_event` handles, with their data. -/
inductive LinkEvent
  | up (e : LinkUp)
  | down (e : LinkDown)
  | goingDown (e : LinkGoingDown)
  | detected (e : LinkDetected)
  | parametersReport (e : LinkParametersReport)
  | rollback (e : LinkRollback)
  | handoverImminent (e : LinkHandoverImminent)
  | handoverComplete (e : LinkHandoverComplete)
  deriving DecidableEq

/-- The `link_event_t` under which an event arrives. -/
def LinkEvent.type : LinkEvent → MihEvent
  | .up _ => .linkUp
  | .down _ => .linkDown
  | .goingDown _ => .linkGoingDown
  | .detected _ => .linkDetected
  | .parametersReport _ => .linkParametersReport
  | .rollback _ => .linkEventRollback
  | .handoverImminent _ => .linkHandoverImminent
  | .handoverComplete _ => .linkHandoverComplete

/-- The link an event is about. -/
def LinkEvent.linkIdentifier : LinkEvent → LinkIdentifier
  | .up e => e.linkIdentifier
  | .down e => e.linkIdentifier
  | .goingDown e => e.linkIdentifier
  | .detected e => e.linkIdentifier
  | .parametersReport e => e.linkIdentifier
  | .rollback e => e.linkIdentifier
  | .handoverImminent e => e.linkIdentifier
  | .handoverComplete e => e.linkIdentifier

/-! ### Messages -/

/-- `u_char mac[ETHER_ADDR_LEN]`. -/
abbrev Eth := Fin 6 → BitVec 8

/-- `int_to_eth`: the four bytes of the address, the lowest first, and two zeros. -/
def intToEth (macInt : MacAddr) : Eth := fun i =>
  if i.val < 4 then (macInt >>> (8 * i.val)).setWidth 8 else 0

/-- `eth_to_int`. -/
def ethToInt (mac : Eth) : MacAddr :=
  (mac 0).setWidth 32 ||| (mac 1).setWidth 32 <<< 8 ||| (mac 2).setWidth 32 <<< 16 |||
    (mac 3).setWidth 32 <<< 24

/-- The conversion loses nothing. -/
@[simp] theorem ethToInt_intToEth (m : MacAddr) : ethToInt (intToEth m) = m := by
  apply BitVec.eq_of_getLsbD_eq
  intro i hi
  have hbyte : i < 8 ∨ (8 ≤ i ∧ i < 16) ∨ (16 ≤ i ∧ i < 24) ∨ (24 ≤ i ∧ i < 32) := by omega
  rcases hbyte with h | h | h | h <;> simp [ethToInt, intToEth] <;> grind

/-- `mih_cap_disc_req` and `mih_cap_disc_res`. -/
structure CapDisc where
  supportedEventList : BitVec 32
  supportedCommandList : BitVec 32
  supportedTransportList : BitVec 32
  supportedQueryTypeList : BitVec 8
  deriving DecidableEq, Repr

/-- `mih_reg_req`. -/
structure RegReq where
  destID : BitVec 32
  reqCode : BitVec 8
  msbSession : BitVec 16
  deriving DecidableEq, Repr

/-- `mih_reg_rsp`. -/
structure RegRsp where
  destID : BitVec 32
  validity : BitVec 32
  regResult : BitVec 8
  failureCode : BitVec 8
  lsbSession : BitVec 16
  deriving DecidableEq, Repr

/-- `mih_dereg_rsp`. -/
structure DeregRsp where
  destID : BitVec 32
  resultCode : BitVec 8
  failureCode : BitVec 8
  deriving DecidableEq, Repr

/-- `mih_event_sub_req`, `mih_event_sub_rsp` and their counterparts for unsubscription. -/
structure EventSub where
  linkType : BitVec 32
  macMobileTerminal : Eth
  macPoA : Eth
  eventList : BitVec 32
  deriving DecidableEq

/-- `mih_link_up_ind`. -/
structure LinkUpInd where
  linkType : BitVec 32
  macMobileTerminal : Eth
  macNewPoA : Eth
  macOldAccessRouter : Eth := 0
  macNewAccessRouter : Eth := 0
  ipRenewalFlag : BitVec 8 := 0
  ipConfigurationMethod : BitVec 16 := 0
  deriving DecidableEq

/-- `mih_link_down_ind`. -/
structure LinkDownInd where
  linkType : BitVec 32
  macMobileTerminal : Eth
  macPoA : Eth
  macOldAccessRouter : Eth
  reasonCode : BitVec 8
  deriving DecidableEq

/-- `mih_link_going_down_ind`. -/
structure LinkGoingDownInd where
  linkType : BitVec 32
  macMobileTerminal : Eth
  macCurrentPoA : Eth
  macOldAccessRouter : Eth := 0
  macNewAccessRouter : Eth := 0
  timeInterval : BitVec 16
  confidenceLevel : BitVec 8
  uniqueEventIdentifier : BitVec 16
  deriving DecidableEq

/-- `mih_link_rollback_ind`. -/
structure LinkRollbackInd where
  linkType : BitVec 32
  macMobileTerminal : Eth
  macCurrentPoA : Eth
  uniqueEventIdentifier : BitVec 16
  deriving DecidableEq

/-- `mih_link_detected_ind`. -/
structure LinkDetectedInd where
  linkType : BitVec 32
  macMobileTerminal : Eth
  macPoA : Eth
  capability : BitVec 8
  deriving DecidableEq

/-- `mih_link_parameters_report_ind`. -/
structure LinkParametersReportInd where
  linkType : BitVec 32 := 0
  macMobileTerminal : Eth
  macAccessRouter : Eth := 0
  linkParameterList : List LinkParameter
  deriving DecidableEq

/-- `mih_link_handover_imminent_ind`. -/
structure LinkHandoverImminentInd where
  linkType : BitVec 32
  macMobileTerminal : Eth
  macPoA : Eth
  newLinkType : BitVec 32
  newMacMobileTerminal : Eth
  newMacPoA : Eth
  macOldAccessRouter : Eth
  macNewAccessRouter : Eth
  deriving DecidableEq

/-- `mih_link_handover_complete_ind`. -/
structure LinkHandoverCompleteInd where
  newLinkType : BitVec 32
  newMacMobileTerminal : Eth
  newMacPoA : Eth
  macOldAccessRouter : Eth
  macNewAccessRouter : Eth
  deriving DecidableEq

/-- `mih_get_status_rsp_entry`, less the fields that are never written. -/
structure GetStatusRspEntry where
  operationMode : BitVec 8
  linkType : BitVec 32
  macMobileTerminal : Eth
  macPoA : Eth
  deriving DecidableEq

/-- `mih_get_status_rsp`; `nbInterface` is the length of the list. -/
structure GetStatusRsp where
  linkStatusParameterType : BitVec 32
  status : List GetStatusRspEntry
  deriving DecidableEq

/-- `MAX_INTERFACE_PER_NODE`. -/
def maxInterfacePerNode : ℕ := 4

/-- `mih_scan_req_entry`. -/
structure ScanReqEntry where
  linkType : BitVec 32
  macMobileTerminal : Eth
  macPoA : Eth
  deriving DecidableEq

/-- `mih_scan_rsp_entry`; `responseSize` is the length of the response. -/
structure ScanRspEntry where
  linkType : BitVec 32
  macMobileTerminal : Eth
  macPoA : Eth
  scanResponse : List (BitVec 8)
  deriving DecidableEq

/-- The places of `requestSet` and `resultSet` in the scan messages. -/
def maxScanElements : ℕ := 8

/-- The bytes of `scanResponse`. -/
def maxScanResponse : ℕ := 255

/-- `mih_switch_req`, less the fields `recv_mih_switch_req` does not read. -/
structure SwitchReq where
  handoverMode : BitVec 8
  newMacPoA : Eth
  macMobileTerminal : Eth
  deriving DecidableEq

/-- The messages `MIHAgent::recv` tells apart. -/
inductive Payload
  | capDiscReq (m : CapDisc)
  | capDiscRsp (m : CapDisc)
  | regReq (m : RegReq)
  | regRsp (m : RegRsp)
  | deregReq (destID : BitVec 32)
  | deregRsp (m : DeregRsp)
  | eventSubReq (m : EventSub)
  | eventSubRsp (m : EventSub)
  | eventUnsubReq (m : EventSub)
  | eventUnsubRsp (m : EventSub)
  | linkUpInd (m : LinkUpInd)
  | linkDownInd (m : LinkDownInd)
  | linkGoingDownInd (m : LinkGoingDownInd)
  | linkDetectedInd (m : LinkDetectedInd)
  | linkParametersReportInd (m : LinkParametersReportInd)
  | linkRollbackInd (m : LinkRollbackInd)
  | linkHandoverImminentInd (m : LinkHandoverImminentInd)
  | linkHandoverCompleteInd (m : LinkHandoverCompleteInd)
  | getStatusReq (linkStatusParameterType : BitVec 32)
  | getStatusRsp (m : GetStatusRsp)
  | scanReq (requestSet : List ScanReqEntry)
  | scanRsp (resultSet : List ScanRspEntry)
  | switchReq (m : SwitchReq)
  | switchRsp
  | handoverInitiateReq
  | handoverInitiateRes
  | networkAddressInfoReq
  | networkAddressInfoRes
  | unknown
  deriving DecidableEq

/-- `mih_service_id_t`. -/
inductive ServiceId
  | system | event | command | information
  deriving DecidableEq, Repr

/-- `mih_service_id` of a message. -/
def Payload.serviceId : Payload → ServiceId
  | .eventSubReq _ | .eventSubRsp _ | .eventUnsubReq _ | .eventUnsubRsp _ => .event
  | .linkUpInd _ | .linkDownInd _ | .linkGoingDownInd _ | .linkDetectedInd _ => .event
  | .linkParametersReportInd _ | .linkRollbackInd _ => .event
  | .linkHandoverImminentInd _ | .linkHandoverCompleteInd _ => .event
  | _ => .command

/-- `mih_opcode == MIH_REQUEST`. -/
def Payload.isRequest : Payload → Bool
  | .capDiscReq _ | .regReq _ | .deregReq _ | .eventSubReq _ | .eventUnsubReq _ => true
  | .getStatusReq _ | .scanReq _ | .switchReq _ => true
  | .handoverInitiateReq | .networkAddressInfoReq => true
  | _ => false

/-- `hdr_mih`: the common header and the payload. -/
structure HdrMih where
  ackReq : Bool := false
  ackRsp : Bool := false
  transactionId : BitVec 16 := 0
  mihfId : BitVec 32 := 0
  sessionId : BitVec 32 := 0
  payload : Payload
  deriving DecidableEq

/-- A packet of type `PT_MIH`. -/
structure MihPacket where
  iph : HdrIp
  mihh : HdrMih
  deriving DecidableEq

/-- An MIH user, as a pointer. -/
abbrev UserId := ℕ

/-- A `session_info`, as a pointer. -/
abbrev SessionRef := ℕ

/-- An `mihf_info`, as a pointer. -/
abbrev MihfRef := ℕ

/-- What the agent reads of a MAC: its address, the address of its node, its type and the events
it can report. -/
structure Mac where
  addr : MacAddr
  nodeAddr : Addr
  type : BitVec 32
  eventList : BitVec 32
  deriving DecidableEq, Repr

/-- The calls an MIH user gets: `process_mih_event`, the indications and confirmations that come
with the whole header, and the confirmations that come with the payload. -/
inductive UserCall
  | event (e : LinkEvent)
  | ind (mihh : HdrMih)
  | conf (mihh : HdrMih)
  | confOf (m : Payload)
  deriving DecidableEq

/-- What a command for the agent's own node returns to its caller. -/
inductive Returned
  | eventStatus (events : BitVec 32)
  | linkStatus (information : BitVec 32) (links : List LinkIdentifier)
  deriving DecidableEq, Repr

/-- What the agent does to its surroundings.  A packet is listed with the session for which it is
sent, if there is one. -/
inductive Output
  | user (u : UserId) (call : UserCall)
  | packet (session : Option SessionRef) (p : MihPacket)
  | linkScan (mac : MacAddr)
  | linkConnect (mac poa : MacAddr)
  | linkDisconnect (mac : MacAddr)
  | returned (r : Returned)
  deriving DecidableEq

end SipNemo.Mih
