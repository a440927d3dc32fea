import SipNemo.Handover.NewPrefix
import SipNemo.Lib.LastWrite

/-!
# Where the remote agents send

A mobile node with a handover module, and the remote agents of its flows.  `add_flow` sets the
destination of a remote agent to the address of the interface; when the flow goes to another
interface, or the address changes, a redirect message does.  Messages take their time, overtake one
another and get lost, and nothing is sent again.  An acknowledgement resets `redirectMac_`; where
it also turns the 802.16 interface off, the link down is an event of its own.

`dstAddr_of_flow`: a remote agent about which no message is under way sends to the address that the
interface of its flow has now, as long as no message overtakes an older one about the same agent, or
is lost before a newer one is sent, and prefixes are heard by interfaces that the MIH agent knows.
-/

namespace SipNemo.Handover

open Mih FirstMatch Runs Sweep LastWrite

/-- `hdr_rtred` of a redirect message: `agent()` and `destination()`. -/
abbrev Redirect := Write AgentRef Addr

/-- `Handover::compute_new_address`: the node part of the old address under the new prefix. -/
def computeNewAddress (old pre : Addr) : Addr := (old &&& 0x7FF#32) ||| prefixOf pre

/-- A mobile node with the addresses of its interfaces, the destinations `dst_addr_` of the remote
agents, and the messages under way, the oldest first. -/
structure Redirection where
  node : HandoverNode
  address : NodeRef → Addr
  dstAddr : AgentRef → Addr
  redirects : List Redirect := []
  acks : ℕ := 0

/-- What happens: an event at the handover module, flows come and go, and a message or an
acknowledgement arrives or is lost. -/
inductive RedirectEvent
  | node (i : Event)
  | addFlow (localAgent remote : AgentRef) (iface : NodeRef)
  | deleteFlow (localAgent remote : AgentRef)
  | arrive (k : ℕ)
  | lose (k : ℕ)
  | ack
  | loseAck

namespace Redirection

variable (tcl : Tcl) (s : Redirection)

/-- `compute_new_address` and `send_update_msg`; the other calls change nothing here. -/
def emit (s : Redirection) : HandoverOutput → Redirection
  | .computeNewAddress pre iface =>
    { s with address := Function.update s.address iface (computeNewAddress (s.address iface) pre) }
  | .updateMsg dagent iface => { s with redirects := s.redirects ++ [⟨dagent, s.address iface⟩] }
  | _ => s

/-- The flows of the node. -/
def flows : List FlowEntry := s.node.handover.flows

/-- The node with another handover module. -/
def withHandover (h : HandoverAgent) : Redirection :=
  { s with node := { s.node with handover := h } }

/-- `add_flow`, which sets `dst_addr_` of the remote agent of a new flow. -/
def addFlow (localAgent remote : AgentRef) (iface : NodeRef) : Redirection :=
  let s' := s.withHandover (s.node.handover.addFlow localAgent remote iface)
  match s.node.handover.getFlow localAgent remote with
  | none => { s' with dstAddr := Function.update s.dstAddr remote (s.address iface) }
  | some _ => s'

/-- `recv_redirect` of the message at a place, and the acknowledgement. -/
def recvRedirect (k : ℕ) : Redirection :=
  match s.redirects[k]? with
  | none => s
  | some m =>
    { s with
      dstAddr := arrive s.dstAddr m, redirects := s.redirects.eraseIdx k, acks := s.acks + 1 }

/-- `recv_redirect_ack`. -/
def recvRedirectAck : Redirection :=
  if s.acks = 0 then s
  else { s.withHandover { s.node.handover with redirectMac := -1 } with acks := s.acks - 1 }

/-- One event. -/
def step : RedirectEvent → Act Redirection
  | .node i => do
    let (node, out) ← s.node.react tcl i
    pure (out.foldl emit { s with node := node })
  | .addFlow localAgent remote iface => .ok (s.addFlow localAgent remote iface)
  | .deleteFlow localAgent remote =>
    .ok (s.withHandover (s.node.handover.deleteFlow localAgent remote))
  | .arrive k => .ok (s.recvRedirect k)
  | .lose k => .ok { s with redirects := s.redirects.eraseIdx k }
  | .ack => .ok s.recvRedirectAck
  | .loseAck => .ok { s with acks := s.acks - 1 }

/-- The MIH agent has an interface with the MAC of the node. -/
def Knows (tcl : Tcl) (mih : LocalAgent) (node : NodeRef) : Prop :=
  ∃ i ∈ mih.getInterfaces, i.mac = tcl.mac0 node ∧ i.val.macAddr = i.mac.addr ∧
    tcl.getNode i.mac = node

/-- The remote agent of a new flow is not that of another, and nothing about it is under way.  A
prefix is heard by the node of an interface that the MIH agent knows.  A message does not overtake
an older one about the same agent, and is not lost before a newer one is sent. -/
def Admits : RedirectEvent → Prop
  | .node (.newPrefix data) =>
    Knows tcl s.node.mih data.interface
  | .addFlow localAgent remote _ =>
    s.node.handover.getFlow localAgent remote = none →
      (∀ f ∈ s.flows, f.remote ≠ remote) ∧ ∀ m ∈ s.redirects, remote ∉ m.places
  | .arrive k => ∀ m ∈ s.redirects[k]?, ∀ v ∈ s.redirects.take k, ∀ a ∈ m.places, a ∉ v.places
  | .lose k =>
    ∀ m ∈ s.redirects[k]?, ∀ a ∈ m.places, ∃ v ∈ s.redirects.drop (k + 1), a ∈ v.places
  | _ => True

instance (mih : LocalAgent) (node : NodeRef) : Decidable (Knows tcl mih node) :=
  inferInstanceAs (Decidable (∃ i ∈ mih.getInterfaces, _))

instance : (e : RedirectEvent) → Decidable (Admits tcl s e)
  | .node (.newPrefix data) => inferInstanceAs (Decidable (Knows tcl s.node.mih data.interface))
  | .addFlow localAgent remote _ =>
    inferInstanceAs (Decidable (s.node.handover.getFlow localAgent remote = none → _ ∧ _))
  | .arrive k =>
    inferInstanceAs
      (Decidable (∀ m ∈ s.redirects[k]?, ∀ v ∈ s.redirects.take k, ∀ a ∈ m.places, a ∉ v.places))
  | .lose k =>
    inferInstanceAs
      (Decidable
        (∀ m ∈ s.redirects[k]?, ∀ a ∈ m.places, ∃ v ∈ s.redirects.drop (k + 1), a ∈ v.places))
  | .node (.detected _) | .node (.up _) | .node (.down _) | .node (.scanConf _)
  | .deleteFlow _ _ | .ack | .loseAck => isTrue trivial

/-- What the destination of a remote agent comes to. -/
def settled : AgentRef → Addr := settle s.dstAddr s.redirects

/-- The remote agents are different, and each comes to send to the interface of its flow. -/
structure Follows : Prop where
  remotes : (s.flows.map FlowEntry.remote).Nodup
  settled : ∀ f ∈ s.flows, s.settled f.remote = s.address f.interface

end Redirection

/-! ### What the module announces -/

/-- What the update messages announce. -/
def announced (out : List HandoverOutput) : List (Write AgentRef NodeRef) :=
  (updateMsgs out).map fun m => ⟨m.1, m.2⟩

theorem announced_append (out out' : List HandoverOutput) :
    announced (out ++ out') = announced out ++ announced out' := by
  rw [announced, updateMsgs_append, List.map_append]
  rfl

/-- Outputs that leave the addresses alone, after which a flow is on the interface that was
announced last for its remote agent, or is one of those before. -/
structure Announces (out : List HandoverOutput) (flows flows' : List FlowEntry) : Prop where
  addresses : ∀ pre iface, .computeNewAddress pre iface ∉ out
  ends : flows'.map FlowEntry.ends = flows.map FlowEntry.ends
  last : ∀ f ∈ flows',
    (lastFor f.remote (announced out)).elim (f ∈ flows) fun w => f.interface = w.value

section Announces

variable {out out' : List HandoverOutput} {flows flows' flows'' : List FlowEntry}

/-- Outputs without a message. -/
theorem announces_same (haddresses : ∀ pre iface, .computeNewAddress pre iface ∉ out)
    (hmsgs : updateMsgs out = []) (flows : List FlowEntry) : Announces out flows flows := by
  refine ⟨haddresses, rfl, fun f hf => ?_⟩
  rw [announced, hmsgs]
  exact hf

theorem announces_nil (flows : List FlowEntry) : Announces [] flows flows :=
  announces_same (fun _ _ => List.not_mem_nil) rfl flows

/-- An output that is neither a message nor an address. -/
theorem announces_singleton {o : HandoverOutput}
    (haddress : ∀ pre iface, o ≠ .computeNewAddress pre iface) (hmsg : updateMsgs [o] = [])
    (flows : List FlowEntry) : Announces [o] flows flows :=
  announces_same (fun pre iface hmem => haddress pre iface (List.mem_singleton.1 hmem).symm) hmsg
    flows

theorem Announces.trans (h : Announces out flows flows') (h' : Announces out' flows' flows'') :
    Announces (out ++ out') flows flows'' := by
  refine ⟨fun pre iface hmem => ?_, h'.ends.trans h.ends, fun f hf => ?_⟩
  · rcases List.mem_append.1 hmem with hmem | hmem
    · exact h.addresses pre iface hmem
    · exact h'.addresses pre iface hmem
  · have hlast := h'.last f hf
    rw [announced_append, lastFor_append]
    cases hv : lastFor f.remote (announced out') with
    | some w =>
      rw [hv] at hlast
      exact hlast
    | none =>
      rw [hv] at hlast
      exact h.last f hlast

theorem remotes_of_ends (h : flows'.map FlowEntry.ends = flows.map FlowEntry.ends) :
    flows'.map FlowEntry.remote = flows.map FlowEntry.remote := by
  have hmap := congrArg (List.map Prod.snd) h
  rwa [List.map_map, List.map_map] at hmap

/-- One message about some flows, which are all on its interface then. -/
theorem announces_one {remotes : List AgentRef} {node : NodeRef}
    (haddresses : ∀ pre iface, .computeNewAddress pre iface ∉ out)
    (hmsgs : updateMsgs out = [(remotes, node)])
    (hends : flows'.map FlowEntry.ends = flows.map FlowEntry.ends)
    (h : ∀ f ∈ flows', if f.remote ∈ remotes then f.interface = node else f ∈ flows) :
    Announces out flows flows' := by
  refine ⟨haddresses, hends, fun f hf => ?_⟩
  have hf' := h f hf
  rw [announced, hmsgs, List.map_singleton, lastFor_singleton]
  split_ifs with hmem
  · rwa [if_pos hmem] at hf'
  · rwa [if_neg hmem] at hf'

end Announces

namespace HandoverAgent

variable {tcl : Tcl} {h : HandoverAgent} {ifaces : List LocalInterface}

theorem announces_redirectFlows (target : LocalInterface) :
    Announces (h.redirectFlows tcl target).2 h.flows (h.redirectFlows tcl target).1.flows := by
  have hout : announced (h.redirectFlows tcl target).2 =
      (h.flows.filter fun f => f.interface ≠ tcl.getNode target.mac).map
        fun f => ⟨[f.remote], tcl.getNode target.mac⟩ := by
    rw [announced, redirectFlows, updateMsgs_flatMap, List.map_map]
    rfl
  refine ⟨fun pre iface hmem => ?_, map_ends_redirectFlows target, fun f hf => ?_⟩
  · obtain ⟨f, -, hf⟩ := List.mem_flatMap.1 hmem
    rcases List.mem_pair.1 hf with hf | hf <;> cases hf
  · have hinterface := interface_of_redirectFlows hf
    rw [hout]
    cases hlast : lastFor f.remote
        ((h.flows.filter fun f => f.interface ≠ tcl.getNode target.mac).map
          fun f => (⟨[f.remote], tcl.getNode target.mac⟩ : Write AgentRef NodeRef)) with
    | some w =>
      obtain ⟨g, -, rfl⟩ := List.mem_map.1 (mem_of_lastFor hlast)
      exact hinterface
    | none =>
      -- a flow that was moved would have been announced
      obtain ⟨g, hg, rfl⟩ := List.mem_map.1 hf
      show ite _ _ _ ∈ h.flows
      split_ifs with hne
      · have hmem : g ∈ h.flows.filter fun f => f.interface ≠ tcl.getNode target.mac :=
          List.mem_filter.2 ⟨hg, decide_eq_true hne⟩
        refine absurd ?_ (lastFor_eq_none.1 hlast _ (List.mem_map_of_mem hmem))
        rw [if_pos hne]
        exact List.mem_singleton_self g.remote
      · exact hg

theorem announces_turnOn (flows : List FlowEntry) : Announces (turnOn ifaces) flows flows := by
  refine announces_same (fun pre iface hmem => ?_) updateMsgs_turnOn flows
  obtain ⟨i, -, hi⟩ := List.mem_map.1 hmem
  cases hi

theorem announces_requestScan (linkId : LinkIdentifier) :
    Announces (h.requestScan linkId).2 h.flows (h.requestScan linkId).1.flows := by
  rw [flows_requestScan]
  refine announces_same (fun pre iface hmem => ?_) (updateMsgs_requestScan linkId) h.flows
  unfold requestScan at hmem
  split_ifs at hmem
  · cases List.mem_singleton.1 hmem
  · cases hmem

theorem announces_processLinkDown (e : LinkDown) :
    Announces (h.processLinkDown tcl ifaces e).2 h.flows
      (h.processLinkDown tcl ifaces e).1.flows := by
  unfold processLinkDown
  split
  · exact announces_nil h.flows
  · refine Announces.trans ?_ (announces_requestScan _)
    split
    · exact announces_redirectFlows _
    · split_ifs
      · exact announces_turnOn h.flows
      · exact announces_nil h.flows

theorem announces_processLinkDetected (e : LinkDetected) :
    Announces (h.processLinkDetected ifaces e).2 h.flows
      (h.processLinkDetected ifaces e).1.flows := by
  rw [flows_processLinkDetected]
  unfold processLinkDetected
  split_ifs
  · exact announces_nil h.flows
  · exact announces_singleton (fun _ _ ho => by cases ho) rfl h.flows
  · exact announces_nil h.flows

theorem announces_processLinkUp {mih : LocalAgent} {e : LinkUp}
    {r : HandoverAgent × List HandoverOutput} (hr : h.processLinkUp mih e = .ok r) :
    Announces r.2 h.flows r.1.flows := by
  rw [flows_processLinkUp hr]
  unfold processLinkUp at hr
  dsimp only at hr
  split_ifs at hr
  all_goals
    first
    | obtain ⟨mac, -, hr⟩ := bind_ok_iff.1 hr
      cases hr
      exact announces_singleton (fun _ _ ho => by cases ho) rfl h.flows
    | cases hr
      exact announces_nil h.flows

theorem announces_connectLoop (rsp : List ScanResult) :
    Announces (h.connectLoop rsp).2 h.flows (h.connectLoop rsp).1.flows := by
  induction rsp generalizing h with
  | nil => exact announces_nil h.flows
  | cons r rsp ih =>
    let pendingScan := h.pendingScan.filter fun m => m ≠ r.macAddr
    unfold connectLoop
    split
    · exact ih (h := { h with pendingScan := pendingScan })
    · rename_i poa _
      have hask : Announces [.configureLinkId ⟨r.entry.linkType, r.macAddr, poa⟩] h.flows h.flows :=
        announces_singleton (fun _ _ ho => by cases ho) rfl h.flows
      exact hask.trans (ih (h := { h with pendingScan := pendingScan, connectingMac := r.macAddr }))

theorem announces_startScanTimer (r : ScanResult) :
    Announces (h.startScanTimer r).2 h.flows (h.startScanTimer r).1.flows := by
  rw [flows_startScanTimer]
  unfold startScanTimer
  split_ifs
  · exact announces_singleton (fun _ _ ho => by cases ho) rfl h.flows
  · exact announces_singleton (fun _ _ ho => by cases ho) rfl h.flows
  · exact announces_nil h.flows

/-- The flow that an interface takes away is announced. -/
theorem announces_takeFlow (tcl : Tcl) {node : NodeRef} (i : LocalInterface) {f : FlowEntry}
    (hn : (h.flows.map FlowEntry.remote).Nodup) (hfind : h.flows.find? (onNode node) = some f) :
    Announces [.target f.localAgent (tcl.getNode i.mac), .updateMsg [f.remote] (tcl.getNode i.mac)]
      h.flows (h.takeFlow true tcl node i).flows := by
  refine announces_one (fun _ _ hmem => ?_) rfl ?_ fun g hg => ?_
  · rcases List.mem_pair.1 hmem with hmem | hmem <;> cases hmem
  · exact map_updateFirst (f := (·.updateInterface (tcl.getNode i.mac))) (g := FlowEntry.ends)
      (by intro g; rfl) h.flows
  · rcases (mem_updateFirst_iff hn hfind).1 hg with rfl | ⟨hg, hne⟩
    · exact (if_pos (List.mem_singleton_self f.remote)).mpr rfl
    · rw [if_neg fun hmem => hne (List.mem_singleton.1 hmem)]
      exact hg

theorem announces_spreadFlows {node : NodeRef} (hn : (h.flows.map FlowEntry.remote).Nodup)
    (is : List LocalInterface) :
    Announces (h.spreadFlows true tcl node is).2 h.flows
      (h.spreadFlows true tcl node is).1.flows := by
  induction is generalizing h with
  | nil => exact announces_nil h.flows
  | cons i is ih =>
    unfold spreadFlows
    split_ifs
    · split
      · exact ih hn
      · rename_i f hfind
        have htake := announces_takeFlow tcl i hn hfind
        exact htake.trans (ih (by rwa [remotes_of_ends htake.ends]))
    · exact ih hn

theorem announces_processScanConf {mih : LocalAgent} {rsp : List ScanResult}
    {r : HandoverAgent × List HandoverOutput} (hn : (h.flows.map FlowEntry.remote).Nodup)
    (hr : Handover2.processScanConf tcl h mih rsp = .ok r) : Announces r.2 h.flows r.1.flows := by
  have hconnect := announces_connectLoop (h := h) rsp
  unfold Handover2.processScanConf scanConf at hr
  dsimp only at hr
  split_ifs at hr
  · cases hr
    exact hconnect
  · obtain ⟨first, -, hr⟩ := bind_ok_iff.1 hr
    obtain ⟨info, -, hr⟩ := bind_ok_iff.1 hr
    obtain ⟨mac, -, hr⟩ := bind_ok_iff.1 hr
    cases hr
    refine (hconnect.trans (announces_startScanTimer first)).trans (announces_spreadFlows ?_ _)
    rwa [flows_startScanTimer, flows_connectLoop]

/-- What a prefix asks for first, and that no other output changes an address. -/
theorem outputs_processNewPrefix {mih : LocalAgent} {data : NewPrefix} {config : MIHInterfaceInfo}
    {r : HandoverAgent × List HandoverOutput}
    (hconfig : mih.getInterface (tcl.mac0 data.interface).addr = some config)
    (hr : h.processNewPrefix tcl mih data = .ok r) :
    ∃ out, r.2 = .computeNewAddress data.prefix_ data.interface :: out ∧
      ∀ pre iface, .computeNewAddress pre iface ∉ out := by
  have htargets : ∀ (reports : List FlowEntry) (pre : Addr) (iface : NodeRef),
      .computeNewAddress pre iface ∉
        reports.map fun f => HandoverOutput.target f.localAgent data.interface := by
    intro reports pre iface hmem
    obtain ⟨f, -, hf⟩ := List.mem_map.1 hmem
    cases hf
  unfold processNewPrefix at hr
  dsimp only at hr
  rw [hconfig, newPrefixLoop_eq, ok_bind] at hr
  dsimp only at hr
  split_ifs at hr <;> cases hr
  · refine ⟨_, rfl, fun pre iface hmem => ?_⟩
    rcases List.mem_append.1 hmem with hmem | hmem
    · cases List.mem_singleton.1 hmem
    · exact htargets _ pre iface hmem
  · refine ⟨_, rfl, fun pre iface hmem => ?_⟩
    rcases List.mem_append.1 hmem with hmem | hmem
    · rcases List.mem_append.1 hmem with hmem | hmem
      · cases List.mem_singleton.1 hmem
      · exact htargets _ pre iface hmem
    · cases List.mem_singleton.1 hmem

/-- The remote agents that a sweep reports are those of the flows that go, if they are different. -/
theorem remote_mem_swept (tcl : Tcl) (config : MIHInterfaceInfo) (mac : Mac) (newNode : NodeRef)
    (ifaces : List LocalInterface) {flows : List FlowEntry} {f : FlowEntry}
    (hn : (flows.map FlowEntry.remote).Nodup) (hf : f ∈ flows) :
    f.remote ∈ (swept tcl config mac newNode ifaces flows).2.map FlowEntry.remote ↔
      IsRedirected tcl config mac ifaces f := by
  have hreports := @mem_reports_sweep _ _ _ _ newNode FlowEntry.interface
    (·.updateInterface newNode) FlowEntry.remote (by intro x; rfl) (by intro x; rfl) flows (sweptNodes tcl config mac ifaces)
    f.remote
  refine hreports.trans ⟨?_, fun hred => ⟨f, hf, mem_sweptNodes.2 hred, rfl⟩⟩
  rintro ⟨g, hg, hswept, hremote⟩
  rw [← List.inj_on_of_nodup_map hn hg hf hremote]
  exact mem_sweptNodes.1 hswept

/-- A prefix first changes the address of its node.  The flows that are on it then are all
announced, as they were there before or come there now. -/
theorem announces_processNewPrefix {mih : LocalAgent} {data : NewPrefix}
    {r : HandoverAgent × List HandoverOutput} (hn : (h.flows.map FlowEntry.remote).Nodup)
    (hknows : Redirection.Knows tcl mih data.interface)
    (hr : h.processNewPrefix tcl mih data = .ok r) :
    ∃ out, r.2 = .computeNewAddress data.prefix_ data.interface :: out ∧
      Announces out h.flows r.1.flows ∧
      ∀ f ∈ r.1.flows, f.interface = data.interface → lastFor f.remote (announced out) ≠ none := by
  obtain ⟨i, hi, hmac, haddr, hnode⟩ := hknows
  have hends := ends_processNewPrefix hr
  obtain ⟨config, hconfig⟩ : ∃ config,
      mih.getInterface (tcl.mac0 data.interface).addr = some config := by
    have hmem : i.val ∈ mih.ifaces := (List.mem_attachWith ..).1 hi
    exact Option.isSome_iff_exists.1
      (List.find?_isSome.2 ⟨i.val, hmem, decide_eq_true (haddr.trans (congrArg Mac.addr hmac))⟩)
  obtain ⟨out, hout, haddresses⟩ := outputs_processNewPrefix hconfig hr
  obtain ⟨r', hr', hflows, hmsgs⟩ := processNewPrefix_eq tcl h hconfig
  obtain rfl : r' = r := Except.ok.inj (hr'.symm.trans hr)
  rw [swept_flows] at hflows
  set mac := tcl.mac0 data.interface
  set reports := (swept tcl config mac data.interface mih.getInterfaces h.flows).2 with hreports
  have hwrites : announced out =
      if reports = [] then [] else [⟨reports.map FlowEntry.remote, data.interface⟩] := by
    have hsame : updateMsgs out = updateMsgs r'.2 := by
      rw [hout]
      rfl
    rw [announced, hsame, hmsgs, newPrefixMsgs]
    split_ifs <;> rfl
  have hlast : ∀ a, lastFor a (announced out) = if a ∈ reports.map FlowEntry.remote then
      some ⟨reports.map FlowEntry.remote, data.interface⟩ else none := by
    intro a
    rw [hwrites]
    by_cases hnone : reports = []
    · rw [if_pos hnone, hnone]
      rfl
    · rw [if_neg hnone, lastFor_singleton]
  -- a flow is reported and on the new node then, or neither
  have hflow : ∀ f ∈ r'.1.flows, if f.remote ∈ reports.map FlowEntry.remote then
      f.interface = data.interface else f ∈ h.flows ∧ f.interface ≠ data.interface := by
    intro f hf
    rw [hflows] at hf
    obtain ⟨g, hg, rfl⟩ := List.mem_map.1 hf
    have hmem := remote_mem_swept tcl config mac data.interface mih.getInterfaces hn hg
    by_cases hred : IsRedirected tcl config mac mih.getInterfaces g
    · rw [if_pos hred]
      exact (if_pos (hmem.2 hred)).mpr rfl
    · rw [if_neg hred, if_neg (mt hmem.1 hred)]
      exact ⟨hg, fun heq => hred ⟨i, hi, Or.inr hmac, heq.trans hnode.symm⟩⟩
  refine ⟨out, hout, ⟨haddresses, hends, fun f hf => ?_⟩, fun f hf heq => ?_⟩
  · have hf' := hflow f hf
    rw [hlast]
    split_ifs at hf' ⊢
    · exact hf'
    · exact hf'.1
  · have hf' := hflow f hf
    rw [hlast]
    split_ifs at hf' ⊢
    · exact nofun
    · exact absurd heq hf'.2

end HandoverAgent

namespace Redirection

variable {tcl : Tcl} {s s' : Redirection}

/-! ### Each remote agent follows its flow -/

/-- Outputs that leave the addresses alone send what they announce. -/
theorem foldl_emit {out : List HandoverOutput}
    (haddresses : ∀ pre iface, .computeNewAddress pre iface ∉ out) (s : Redirection) :
    out.foldl emit s =
      { s with redirects := s.redirects ++ (announced out).map (Write.map s.address) } := by
  induction out generalizing s with
  | nil => simp [announced, updateMsgs]
  | cons o out ih =>
    have hrest := fun pre iface hmem => haddresses pre iface (List.mem_cons_of_mem o hmem)
    rw [List.foldl_cons, ih hrest]
    cases o with
    | computeNewAddress pre iface => exact absurd List.mem_cons_self (haddresses pre iface)
    | updateMsg dagent iface => simp [emit, announced, updateMsgs, Write.map]
    | _ => rfl

/-- The events of the module: the flows that are not announced are right already. -/
theorem follows_emit {out : List HandoverOutput} {node : HandoverNode}
    (hremotes : (s.flows.map FlowEntry.remote).Nodup)
    (hann : Announces out s.flows node.handover.flows)
    (hkept : ∀ f ∈ node.handover.flows, lastFor f.remote (announced out) = none →
      s.settled f.remote = s.address f.interface) :
    (out.foldl emit { s with node := node }).Follows := by
  rw [foldl_emit hann.addresses]
  refine ⟨by rwa [flows, remotes_of_ends hann.ends], fun f hf => ?_⟩
  show settle s.dstAddr (s.redirects ++ (announced out).map (Write.map s.address)) f.remote = _
  rw [settle_append, settle_eq, lastFor_map]
  have hlast := hann.last f hf
  cases hw : lastFor f.remote (announced out) with
  | some w =>
    rw [hw] at hlast
    exact congrArg s.address hlast.symm
  | none => exact hkept f hf hw

/-- The events that change no address. -/
theorem Follows.announce {out : List HandoverOutput} {node : HandoverNode} (hs : s.Follows)
    (hann : Announces out s.flows node.handover.flows) :
    (out.foldl emit { s with node := node }).Follows := by
  refine follows_emit hs.remotes hann fun f hf hnone => ?_
  have hlast := hann.last f hf
  rw [hnone] at hlast
  exact hs.settled f hlast

theorem Follows.node {i : Event} (hs : s.Follows) (hadm : Admits tcl s (.node i))
    (hstep : s.step tcl (.node i) = .ok s') : s'.Follows := by
  obtain ⟨⟨node, out⟩, hreact, hstep⟩ := bind_ok_iff.1 hstep
  cases hstep
  cases i with
  | detected e =>
    obtain ⟨mih, -, hr⟩ := bind_ok_iff.1 hreact
    cases hr
    exact hs.announce (HandoverAgent.announces_processLinkDetected e)
  | up e =>
    obtain ⟨mih, -, hr⟩ := bind_ok_iff.1 hreact
    obtain ⟨r, hup, hr⟩ := bind_ok_iff.1 hr
    cases hr
    exact hs.announce (HandoverAgent.announces_processLinkUp hup)
  | down e =>
    obtain ⟨mih, -, hr⟩ := bind_ok_iff.1 hreact
    cases hr
    exact hs.announce (HandoverAgent.announces_processLinkDown e)
  | scanConf rsp =>
    obtain ⟨r, hscan, hr⟩ := bind_ok_iff.1 hreact
    cases hr
    exact hs.announce (HandoverAgent.announces_processScanConf hs.remotes hscan)
  | newPrefix data =>
    obtain ⟨⟨h, out⟩, hnew, hr⟩ := bind_ok_iff.1 hreact
    cases hr
    obtain ⟨msgs, hout, hann, hthere⟩ :=
      HandoverAgent.announces_processNewPrefix hs.remotes hadm hnew
    dsimp only at hout
    rw [hout, List.foldl_cons]
    -- a flow that is not announced is on an interface whose address stays
    refine follows_emit (s := { s with address := Function.update s.address data.interface _ })
      hs.remotes hann fun f hf hnone => ?_
    have hne : f.interface ≠ data.interface := fun heq => hthere f hf heq hnone
    have hlast := hann.last f hf
    rw [hnone] at hlast
    exact (hs.settled f hlast).trans (Function.update_of_ne hne _ _).symm

/-- The remote agent of a new flow is that of no other. -/
theorem Follows.addFlow {localAgent remote : AgentRef} {iface : NodeRef} (hs : s.Follows)
    (hadm : Admits tcl s (.addFlow localAgent remote iface)) :
    (s.addFlow localAgent remote iface).Follows := by
  unfold Redirection.addFlow HandoverAgent.addFlow
  cases hfind : s.node.handover.getFlow localAgent remote with
  | some f => exact hs
  | none =>
    obtain ⟨hnew, hquiet⟩ := hadm hfind
    constructor
    · refine List.nodup_cons.2 ⟨fun hmem => ?_, hs.remotes⟩
      obtain ⟨f, hf, hremote⟩ := List.mem_map.1 hmem
      exact hnew f hf hremote
    · intro f hf
      show settle (Function.update s.dstAddr remote (s.address iface)) s.redirects f.remote = _
      rcases List.mem_cons.1 hf with rfl | hf
      · exact (settle_of_forall_not_mem hquiet).trans (Function.update_self ..)
      · have hsettled := hs.settled f hf
        rw [Redirection.settled, settle_eq] at hsettled
        rwa [settle_eq, Function.update_of_ne (hnew f hf)]

theorem Follows.deleteFlow (localAgent remote : AgentRef) (hs : s.Follows) :
    (s.withHandover (s.node.handover.deleteFlow localAgent remote)).Follows := by
  have hsub : (s.node.handover.deleteFlow localAgent remote).flows.Sublist s.flows :=
    List.eraseP_sublist
  exact ⟨hs.remotes.sublist (hsub.map FlowEntry.remote), fun f hf => hs.settled f (hsub.mem hf)⟩

/-- The message at a place, with those before and after it. -/
theorem redirects_split {k : ℕ} {m : Redirect} (h : s.redirects[k]? = some m) :
    s.redirects = s.redirects.take k ++ m :: s.redirects.drop (k + 1) ∧
      s.redirects.eraseIdx k = s.redirects.take k ++ s.redirects.drop (k + 1) := by
  obtain ⟨hk, rfl⟩ := List.getElem?_eq_some_iff.1 h
  refine ⟨?_, List.eraseIdx_eq_take_drop_succ ..⟩
  rw [← List.drop_eq_getElem_cons hk, List.take_append_drop]

theorem Follows.recvRedirect {k : ℕ} (hs : s.Follows) (hadm : Admits tcl s (.arrive k)) :
    (s.recvRedirect k).Follows := by
  unfold Redirection.recvRedirect
  cases hk : s.redirects[k]? with
  | none => exact hs
  | some m =>
    obtain ⟨hsplit, herase⟩ := redirects_split hk
    refine ⟨hs.remotes, fun f hf => Eq.trans ?_ (hs.settled f hf)⟩
    show settle (arrive s.dstAddr m) (s.redirects.eraseIdx k) f.remote =
      settle s.dstAddr s.redirects f.remote
    rw [herase, settle_arrive (hadm m hk), ← hsplit]

theorem Follows.lose {k : ℕ} (hs : s.Follows) (hadm : Admits tcl s (.lose k)) :
    Follows { s with redirects := s.redirects.eraseIdx k } := by
  refine ⟨hs.remotes, fun f hf => Eq.trans ?_ (hs.settled f hf)⟩
  show settle s.dstAddr (s.redirects.eraseIdx k) f.remote =
    settle s.dstAddr s.redirects f.remote
  cases hk : s.redirects[k]? with
  | none => rw [List.eraseIdx_of_length_le (List.getElem?_eq_none_iff.1 hk)]
  | some m =>
    obtain ⟨hsplit, herase⟩ := redirects_split hk
    rw [herase, settle_lose (hadm m hk), ← hsplit]

/-- One event. -/
theorem Follows.step {e : RedirectEvent} (hs : s.Follows) (hadm : Admits tcl s e)
    (hstep : s.step tcl e = .ok s') : s'.Follows := by
  cases e with
  | node i => exact hs.node hadm hstep
  | addFlow localAgent remote iface =>
    cases hstep
    exact hs.addFlow hadm
  | deleteFlow localAgent remote =>
    cases hstep
    exact hs.deleteFlow localAgent remote
  | arrive k =>
    cases hstep
    exact hs.recvRedirect hadm
  | lose k =>
    cases hstep
    exact hs.lose hadm
  | ack =>
    cases hstep
    unfold recvRedirectAck
    split_ifs
    · exact hs
    · exact ⟨hs.remotes, hs.settled⟩
  | loseAck =>
    cases hstep
    exact ⟨hs.remotes, hs.settled⟩

/-- From a node without flows, in every run as above: the last message under way about the remote
agent of a flow, or its destination if there is none, is the address that the interface of the flow
has now. -/
theorem dstAddr_of_flow (h0 : s.flows = []) {es : List RedirectEvent}
    (hadm : StepsMeet (step tcl) (Admits tcl) s es) (hrun : runSteps (step tcl) s es = .ok s')
    {f : FlowEntry} (hf : f ∈ s'.flows) :
    (lastFor f.remote s'.redirects).elim (s'.dstAddr f.remote) Write.value =
      s'.address f.interface := by
  have hfirst : s.Follows := by
    refine ⟨?_, ?_⟩
    · rw [h0]
      exact List.nodup_nil
    · rw [h0]
      exact nofun
  have hlast : s'.Follows :=
    runSteps_invariant (fun _ _ _ hs hadm hstep => hs.step hadm hstep) hfirst hadm hrun
  rw [← settle_eq]
  exact hlast.settled f hf

/-- A node with two interfaces that are up. -/
def twoInterfaces : Redirection where
  node :=
    { mih := nodeAgent [nodeInterface 1 link80211 .up, nodeInterface 2 link80211 .up]
      handover := { flows := [] } }
  address := BitVec.ofNat 32
  dstAddr := fun _ => 0

/-- A flow is set up on the interface 1, which gets a new prefix and goes down; the message about
the prefix is lost. -/
def prefixLost : List RedirectEvent :=
  [.addFlow 10 20 1, .node (.newPrefix ⟨2048, 1⟩), .node (.down ⟨⟨link80211, 1, 7⟩, 0, 0⟩), .lose 0,
    .arrive 0, .ack]

/-- The remote agent sends to the address of the interface 2. -/
theorem dstAddr_of_flow_prefixLost :
    ∃ s, StepsMeet (step numberedTcl) (Admits numberedTcl) twoInterfaces prefixLost ∧
      runSteps (step numberedTcl) twoInterfaces prefixLost = .ok s ∧ s.flows = [⟨10, 20, 2⟩] ∧
      s.redirects = [] ∧ s.dstAddr 20 = s.address 2 := by
  have hadm : StepsMeet (step numberedTcl) (Admits numberedTcl) twoInterfaces prefixLost := by
    decide +kernel
  have hend : (runSteps (step numberedTcl) twoInterfaces prefixLost).map
      (fun s => (s.flows, s.redirects)) = .ok ([⟨10, 20, 2⟩], []) := by decide +kernel
  obtain ⟨s, hrun, heq⟩ := map_ok_iff.1 hend
  obtain ⟨hflows, hredirects⟩ := Prod.mk.inj heq
  have hf : (⟨10, 20, 2⟩ : FlowEntry) ∈ s.flows := hflows ▸ List.mem_singleton_self _
  have hdst := dstAddr_of_flow rfl hadm hrun hf
  rw [hredirects] at hdst
  exact ⟨s, hadm, hrun, hflows, hredirects, hdst⟩

end Redirection

end SipNemo.Handover
