import SipNemo.Mih.LinkStatus

/-!
# A handover module

`Handover2` of `handover-2.cc`, an MIH user with a list of flows, each on the node of one
interface, and the parts of `Handover1` that are the same code.  A call of the MIH agent, of the
neighbor discovery or of the interpreter is an output; the events such a call causes come after it.
-/

namespace SipNemo.Handover

open Mih FirstMatch

/-- `LINK_ETHERNET`. -/
def linkEthernet : BitVec 32 := 15

/-- `LINK_UMTS`. -/
def linkUmts : BitVec 32 := 23

/-- A pointer to a `Node`. -/
abbrev NodeRef := ℕ

/-- A pointer to an `Agent`. -/
abbrev AgentRef := ℕ

/-- What the interpreter answers: `get-node` of a MAC and `set mac_(0)` of a node. -/
structure Tcl where
  getNode : Mac → NodeRef
  mac0 : NodeRef → Mac

/-! ### The interfaces -/

/-- An interface of the node itself. -/
abbrev LocalInterface := { info : MIHInterfaceInfo // info.isLocal = true }

/-- `getMac`. -/
def LocalInterface.mac (i : LocalInterface) : Mac := i.val.mac.get i.property

/-- The MIH agent of a node.  Only `add-mac` adds to `ifaces_`, and what it adds has its MAC. -/
structure LocalAgent extends MIHAgent where
  ifaces_local : ∀ i ∈ ifaces, i.isLocal = true

namespace LocalAgent

variable (a : LocalAgent)

/-- `get_interfaces`. -/
def getInterfaces : List LocalInterface := a.ifaces.attachWith _ a.ifaces_local

/-- A link event leaves the interfaces local. -/
theorem isLocal_of_processLink {s s' : MIHAgent} {linkId : LinkIdentifier}
    {status : InterfaceStatus} {e : LinkEvent} {payload : Payload} {out : List Output}
    (hp : payload.isRequest = false) (hs : ∀ i ∈ s.ifaces, i.isLocal = true)
    (h : s.processLink linkId status e (fun s => s.indicate payload) = .ok (s', out)) :
    ∀ i ∈ s'.ifaces, i.isLocal = true := by
  obtain ⟨t, rfl⟩ := MIHAgent.processLink_state hp h
  have hmap : (updateFirst (fun i => i.macAddr = s.localEnd linkId.ends)
      (fun i => i.setStatus status) s.ifaces).map MIHInterfaceInfo.isLocal =
      s.ifaces.map MIHInterfaceInfo.isLocal :=
    map_updateFirst (by intro i; rfl) s.ifaces
  intro i hi
  have hmem : i.isLocal ∈ s.ifaces.map MIHInterfaceInfo.isLocal := by
    rw [← hmap]
    exact List.mem_map_of_mem hi
  obtain ⟨j, hj, hij⟩ := List.mem_map.1 hmem
  rw [← hij]
  exact hs j hj

/-- The agent after a link event. -/
def after : (r : Act (MIHAgent × List Output)) →
    (∀ s out, r = .ok (s, out) → ∀ i ∈ s.ifaces, i.isLocal = true) → Act LocalAgent
  | .ok (s, out), h => .ok { toMIHAgent := s, ifaces_local := h s out rfl }
  | .error x, _ => .error x

/-- `MIHAgent::process_link_detected`. -/
def processLinkDetected (e : LinkDetected) : Act LocalAgent :=
  after (a.toMIHAgent.processLinkDetected e) fun _ _ h =>
    isLocal_of_processLink rfl a.ifaces_local h

/-- `MIHAgent::process_link_up`. -/
def processLinkUp (e : LinkUp) : Act LocalAgent :=
  after (a.toMIHAgent.processLinkUp e) fun _ _ h =>
    isLocal_of_processLink rfl a.ifaces_local h

/-- `MIHAgent::process_link_down`. -/
def processLinkDown (e : LinkDown) : Act LocalAgent :=
  after (a.toMIHAgent.processLinkDown e) fun _ _ h =>
    isLocal_of_processLink rfl a.ifaces_local h

end LocalAgent

/-! ### The flows -/

/-- `FlowEntry`, less the priority, the bandwidth and the variables of pending requests. -/
structure FlowEntry where
  localAgent : AgentRef
  remote : AgentRef
  interface : NodeRef
  deriving DecidableEq, Repr

/-- `update_interface`. -/
def FlowEntry.updateInterface (f : FlowEntry) (iface : NodeRef) : FlowEntry :=
  { f with interface := iface }

/-- The two ends of a flow. -/
def FlowEntry.ends (f : FlowEntry) : AgentRef × AgentRef := (f.localAgent, f.remote)

/-- What a handover module asks of the others. -/
inductive HandoverOutput
  | configureLinkId (linkIdentifier : LinkIdentifier)
  | configureNormalMode (type : BitVec 32) (macMobileTerminal : MacAddr)
  | scan (linkIdentifier : LinkIdentifier)
  | capDiscReq (mac : Mac)
  | sendRs (mac : Option Mac)
  | computeNewAddress (data : Addr) (interface : NodeRef)
  | target (localAgent : AgentRef) (iface : NodeRef)
  | updateMsg (dagent : List AgentRef) (iface : NodeRef)
  | schedScanTimer (delay : ℕ)
  | reschedScanTimer (delay : ℕ)
  deriving DecidableEq

/-- The update messages: the agents that redirect their packets, and the node they redirect to. -/
def updateMsgs (out : List HandoverOutput) : List (List AgentRef × NodeRef) :=
  out.filterMap fun
    | .updateMsg dagent iface => some (dagent, iface)
    | _ => none

theorem updateMsgs_append (out out' : List HandoverOutput) :
    updateMsgs (out ++ out') = updateMsgs out ++ updateMsgs out' := List.filterMap_append

/-! ### The module -/

/-- The fields of a handover module.  `Handover1` has no `redirectMac_`; `scanTimer` has the type
and the MAC of the link identifier, whose point of attachment is never set. -/
structure HandoverAgent where
  flows : List FlowEntry
  scenarioCase : ℤ := 3
  connectingMac : MacAddr := -1
  redirectMac : MacAddr := -1
  pendingScan : List MacAddr := []
  scanTimer : Option (BitVec 32 × MacAddr) := none
  deriving DecidableEq, Repr

namespace HandoverAgent

variable (h : HandoverAgent)

/-- `get_flow`. -/
def getFlow (localAgent remote : AgentRef) : Option FlowEntry :=
  h.flows.find? fun f => f.localAgent = localAgent ∧ f.remote = remote

/-- `add_flow`: the new entry is the head of the list. -/
def addFlow (localAgent remote : AgentRef) (iface : NodeRef) : HandoverAgent :=
  match h.getFlow localAgent remote with
  | none => { h with flows := ⟨localAgent, remote, iface⟩ :: h.flows }
  | some _ => h

/-- `delete_flow`. -/
def deleteFlow (localAgent remote : AgentRef) : HandoverAgent :=
  { h with flows := h.flows.eraseP fun f => f.localAgent = localAgent ∧ f.remote = remote }

end HandoverAgent

/-! ### A node -/

/-- An interpreter where each MAC has its own node, with the same number. -/
def numberedTcl : Tcl where
  getNode mac := mac.addr.toNat
  mac0 node := ⟨BitVec.ofNat 32 node, 0, link80211, 0⟩

/-- A local interface. -/
def nodeInterface (addr : MacAddr) (type : BitVec 32) (status : InterfaceStatus) :
    LocalInterface :=
  ⟨{ MIHInterfaceInfo.ofMac ⟨addr, 0, type, 0⟩ with status := status }, rfl⟩

/-- The MIH agent of a node with the interfaces. -/
def nodeAgent (ifaces : List LocalInterface) : LocalAgent where
  toMIHAgent := { sampleAgent 0x202 with ifaces := ifaces.map Subtype.val }
  ifaces_local := by
    intro i hi
    obtain ⟨j, -, rfl⟩ := List.mem_map.1 hi
    exact j.property

end SipNemo.Handover
