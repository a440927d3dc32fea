import SipNemo.Handover.LinkDown
import SipNemo.Handover.ScanConfirm

/-!
# Pending connections

While `connectingMac_` is set, `Handover2` ignores every link down: "we are connecting to another
interface, we don't look for another one".  A node is a handover module with its MIH agent, which
sets the statuses as it passes the link events on, and with the connections that were asked for and
the links that came up, which the source does not keep.  `connectingMac_` is the last connection
asked for whose link has not come up since (`tracks_run`), whatever happens to it.  So a link down
clears its node when nothing is pending (`linkDown_clears_node`).
-/

namespace SipNemo.Handover

open Mih Runs

/-- `new_prefix`: the prefix and the node that has received it. -/
structure NewPrefix where
  prefix_ : Addr
  interface : NodeRef

namespace HandoverAgent

/-! ### The other events -/

/-- Whether `process_link_detected` finds a better interface that is up or being connected. -/
def betterExists (h : HandoverAgent) (ifaces : List LocalInterface) (type : BitVec 32) : Bool :=
  ifaces.any fun i =>
    (i.val.status = .up ∨ h.connectingMac = i.val.macAddr) ∧
      (i.val.type = linkEthernet ∨ i.val.type = link80211 ∧ type ≠ linkEthernet)

/-- `process_link_detected`. -/
def processLinkDetected (h : HandoverAgent) (ifaces : List LocalInterface) (e : LinkDetected) :
    HandoverAgent × List HandoverOutput :=
  if h.betterExists ifaces e.linkIdentifier.type then (h, [])
  else if e.linkIdentifier.type = link80211 ∨ e.linkIdentifier.type = link80216 then
    ({ h with connectingMac := e.linkIdentifier.macMobileTerminal },
      [.configureLinkId e.linkIdentifier])
  else (h, [])

/-- `process_link_up`. -/
def processLinkUp (h : HandoverAgent) (mih : LocalAgent) (e : LinkUp) :
    Act (HandoverAgent × List HandoverOutput) := do
  let h :=
    if e.linkIdentifier.macMobileTerminal = h.connectingMac then { h with connectingMac := -1 }
    else h
  if h.scenarioCase = 2 ∨ h.scenarioCase = 3 then
    let mac ← mih.getMac e.linkIdentifier.macMobileTerminal
    pure (h, [.sendRs mac])
  else pure (h, [])

/-- The condition under which the flows of an interface go to the one of the MAC, whose record is
`config`.  It is read for three types only. -/
def replaced (config : Option MIHInterfaceInfo) (mac : Mac) (i : LocalInterface) : Act Bool :=
  if i.val.type = linkUmts ∨ i.val.type = link80216 ∨ i.val.type = link80211 then do
    let config ← deref config
    pure (better i.val.type config.type ∨ i.mac = mac)
  else pure (i.mac = mac)

/-- The loop over the interfaces, with the agents that have to redirect. -/
def newPrefixLoop (tcl : Tcl) (config : Option MIHInterfaceInfo) (mac : Mac) (newNode : NodeRef) :
    List FlowEntry → List LocalInterface →
      Act (List FlowEntry × List AgentRef × List HandoverOutput)
  | flows, [] => .ok (flows, [], [])
  | flows, i :: is => do
    if ← replaced config mac i then
      let node := tcl.getNode i.mac
      let moved := flows.filter (onNode node)
      let (flows, remotes, out) ← newPrefixLoop tcl config mac newNode
        (flows.map fun f => if onNode node f then f.updateInterface newNode else f) is
      pure (flows, moved.map FlowEntry.remote ++ remotes,
        moved.map (fun f => .target f.localAgent newNode) ++ out)
    else newPrefixLoop tcl config mac newNode flows is

/-- `process_new_prefix`: one update message for all flows that move. -/
def processNewPrefix (tcl : Tcl) (h : HandoverAgent) (mih : LocalAgent) (data : NewPrefix) :
    Act (HandoverAgent × List HandoverOutput) := do
  let mac := tcl.mac0 data.interface
  let config := mih.getInterface mac.addr
  let (flows, remotes, out) ←
    newPrefixLoop tcl config mac data.interface h.flows mih.getInterfaces
  let asks := [.computeNewAddress data.prefix_ data.interface, .capDiscReq mac]
  if remotes = [] then pure ({ h with flows := flows }, asks ++ out)
  else
    pure ({ h with flows := flows, redirectMac := mac.addr },
      asks ++ out ++ [.updateMsg remotes data.interface])

end HandoverAgent

/-! ### The node -/

/-- What matters of the past: a connection that was asked for, and a link that came up. -/
inductive Entry
  | asked (m : MacAddr)
  | cameUp (m : MacAddr)
  deriving DecidableEq, Repr

/-- The connections that a module asks for, the last one first. -/
def askedFor (out : List HandoverOutput) : List Entry :=
  (out.filterMap fun
    | .configureLinkId linkId => some (.asked linkId.macMobileTerminal)
    | _ => none).reverse

/-- The connection of `m` is pending: it is the last that was asked for, and the link has not come
up since.  The newest entry is the first. -/
def Pending : List Entry → MacAddr → Prop
  | [], _ => False
  | .asked m' :: _, m => m' = m
  | .cameUp u :: history, m => u ≠ m ∧ Pending history m

/-- A handover module with its MIH agent, and with the past. -/
structure HandoverNode where
  mih : LocalAgent
  handover : HandoverAgent
  history : List Entry := []

/-- The events a module gets; it has subscribed to those of all links. -/
inductive Event
  | detected (e : LinkDetected)
  | up (e : LinkUp)
  | down (e : LinkDown)
  | scanConf (rsp : List ScanResult)
  | newPrefix (data : NewPrefix)

namespace HandoverNode

/-- One event, with what the module asks of the others. -/
def react (tcl : Tcl) (s : HandoverNode) : Event → Act (HandoverNode × List HandoverOutput)
  | .detected e => do
    let mih ← s.mih.processLinkDetected e
    let (h, out) := s.handover.processLinkDetected mih.getInterfaces e
    pure ({ mih := mih, handover := h, history := askedFor out ++ s.history }, out)
  | .up e => do
    let mih ← s.mih.processLinkUp e
    let (h, out) ← s.handover.processLinkUp mih e
    pure
      ({ mih := mih
         handover := h
         history := askedFor out ++ .cameUp e.linkIdentifier.macMobileTerminal :: s.history }, out)
  | .down e => do
    let mih ← s.mih.processLinkDown e
    let (h, out) := s.handover.processLinkDown tcl mih.getInterfaces e
    pure ({ mih := mih, handover := h, history := askedFor out ++ s.history }, out)
  | .scanConf rsp => do
    let (h, out) ← Handover2.processScanConf tcl s.handover s.mih rsp
    pure ({ s with handover := h, history := askedFor out ++ s.history }, out)
  | .newPrefix data => do
    let (h, out) ← s.handover.processNewPrefix tcl s.mih data
    pure ({ s with handover := h, history := askedFor out ++ s.history }, out)

/-- The state after an event. -/
def step (tcl : Tcl) (s : HandoverNode) (i : Event) : Act HandoverNode := (s.react tcl i).map (·.1)

end HandoverNode

/-! ### `connectingMac_` and the past -/

/-- The MAC, unless it is -1, is that of the pending connection, and there is no other. -/
def Tracks (connectingMac : MacAddr) (history : List Entry) : Prop :=
  ∀ m, m ≠ -1 → (connectingMac = m ↔ Pending history m)

variable {c : MacAddr} {history : List Entry}

theorem tracks_nil : Tracks (-1) [] := fun _ hm => iff_of_false hm.symm id

theorem tracks_asked (m : MacAddr) (history : List Entry) : Tracks m (.asked m :: history) :=
  fun _ _ => Iff.rfl

theorem tracks_cameUp (ht : Tracks c history) (u : MacAddr) :
    Tracks (if u = c then -1 else c) (.cameUp u :: history) := by
  intro m hm
  rw [Pending, ← ht m hm]
  split_ifs with hu
  · subst hu
    exact iff_of_false hm.symm fun h => h.1 h.2
  · constructor
    · rintro rfl
      exact ⟨hu, rfl⟩
    · exact And.right

theorem askedFor_append (out out' : List HandoverOutput) :
    askedFor (out ++ out') = askedFor out' ++ askedFor out := by
  unfold askedFor
  rw [List.filterMap_append, List.reverse_append]

/-- Outputs that ask for no connection. -/
theorem askedFor_eq_nil {out : List HandoverOutput} (h : ∀ o ∈ out, ∀ l, o ≠ .configureLinkId l) :
    askedFor out = [] := by
  unfold askedFor
  rw [List.reverse_eq_nil_iff, List.filterMap_eq_nil_iff]
  intro o ho
  cases o with
  | configureLinkId l => exact absurd rfl (h _ ho l)
  | _ => rfl

/-- An operation that keeps `connectingMac_` in step with the connections it asks for. -/
def KeepsTrack (h : HandoverAgent) (r : HandoverAgent × List HandoverOutput) : Prop :=
  ∀ history, Tracks h.connectingMac history → Tracks r.1.connectingMac (askedFor r.2 ++ history)

/-- Two operations in a row. -/
theorem KeepsTrack.trans {h h' h'' : HandoverAgent} {out out' : List HandoverOutput}
    (h₁ : KeepsTrack h (h', out)) (h₂ : KeepsTrack h' (h'', out')) :
    KeepsTrack h (h'', out ++ out') := by
  intro history ht
  rw [askedFor_append, List.append_assoc]
  exact h₂ _ (h₁ history ht)

namespace HandoverAgent

variable {tcl : Tcl} {h : HandoverAgent} {ifaces : List LocalInterface}

/-- One that does not touch it and asks for none. -/
theorem keepsTrack_of_frame {r : HandoverAgent × List HandoverOutput}
    (hc : r.1.connectingMac = h.connectingMac) (hout : askedFor r.2 = []) : KeepsTrack h r := by
  intro history ht
  rw [hc, hout]
  exact ht

theorem keepsTrack_processLinkDetected (ifaces : List LocalInterface) (e : LinkDetected) :
    KeepsTrack h (h.processLinkDetected ifaces e) := by
  unfold processLinkDetected
  split_ifs
  · exact keepsTrack_of_frame rfl rfl
  · exact fun history _ => tracks_asked _ history
  · exact keepsTrack_of_frame rfl rfl

theorem keepsTrack_redirectFlows (target : LocalInterface) :
    KeepsTrack h (h.redirectFlows tcl target) := by
  refine keepsTrack_of_frame rfl (askedFor_eq_nil fun o ho l => ?_)
  obtain ⟨f, -, hf⟩ := List.mem_flatMap.1 ho
  rcases List.mem_pair.1 hf with rfl | rfl <;> exact nofun

theorem askedFor_turnOn : askedFor (turnOn ifaces) = [] := by
  refine askedFor_eq_nil fun o ho l => ?_
  obtain ⟨i, -, rfl⟩ := List.mem_map.1 ho
  exact nofun

theorem keepsTrack_requestScan (linkId : LinkIdentifier) :
    KeepsTrack h (h.requestScan linkId) := by
  unfold requestScan
  split_ifs <;> exact keepsTrack_of_frame rfl rfl

theorem keepsTrack_processLinkDown (ifaces : List LocalInterface) (e : LinkDown) :
    KeepsTrack h (h.processLinkDown tcl ifaces e) := by
  unfold processLinkDown
  split
  · exact keepsTrack_of_frame rfl rfl
  · refine KeepsTrack.trans ?_ (keepsTrack_requestScan _)
    split
    · exact keepsTrack_redirectFlows _
    · refine keepsTrack_of_frame rfl ?_
      split_ifs
      · exact askedFor_turnOn
      · rfl

theorem keepsTrack_connectLoop (rsp : List ScanResult) : KeepsTrack h (h.connectLoop rsp) := by
  induction rsp generalizing h with
  | nil => exact keepsTrack_of_frame rfl rfl
  | cons r rsp ih =>
    let pendingScan := h.pendingScan.filter fun m => m ≠ r.macAddr
    unfold connectLoop
    split
    · exact ih (h := { h with pendingScan := pendingScan })
    · rename_i poa _
      have hask : KeepsTrack h ({ h with pendingScan := pendingScan, connectingMac := r.macAddr },
          [.configureLinkId ⟨r.entry.linkType, r.macAddr, poa⟩]) :=
        fun history _ => tracks_asked r.macAddr history
      exact hask.trans ih

theorem keepsTrack_startScanTimer (r : ScanResult) : KeepsTrack h (h.startScanTimer r) := by
  unfold startScanTimer
  split_ifs <;> exact keepsTrack_of_frame rfl rfl

theorem keepsTrack_spreadFlows {recordsMac : Bool} {node : NodeRef} (is : List LocalInterface) :
    KeepsTrack h (h.spreadFlows recordsMac tcl node is) := by
  induction is generalizing h with
  | nil => exact keepsTrack_of_frame rfl rfl
  | cons i is ih =>
    unfold spreadFlows
    split_ifs
    · split
      · exact ih
      · rename_i f _
        have htake : KeepsTrack h (h.takeFlow recordsMac tcl node i,
            [.target f.localAgent (tcl.getNode i.mac),
              .updateMsg [f.remote] (tcl.getNode i.mac)]) := keepsTrack_of_frame rfl rfl
        exact htake.trans ih
    · exact ih

theorem keepsTrack_scanConf {recordsMac : Bool} {mih : LocalAgent} {rsp : List ScanResult}
    {r : HandoverAgent × List HandoverOutput}
    (hr : h.scanConf recordsMac tcl mih rsp = .ok r) : KeepsTrack h r := by
  have hconnect := keepsTrack_connectLoop (h := h) rsp
  unfold scanConf at hr
  obtain ⟨h₁, out₁⟩ := h.connectLoop rsp
  dsimp only at hr
  split_ifs at hr
  · cases hr
    exact hconnect
  · obtain ⟨first, -, hr⟩ := bind_ok_iff.1 hr
    obtain ⟨info, -, hr⟩ := bind_ok_iff.1 hr
    obtain ⟨mac, -, hr⟩ := bind_ok_iff.1 hr
    cases hr
    exact (hconnect.trans (keepsTrack_startScanTimer first)).trans (keepsTrack_spreadFlows _)

/-- The outputs of the loop over the interfaces ask for no connection. -/
theorem askedFor_newPrefixLoop {config : Option MIHInterfaceInfo} {mac : Mac} {newNode : NodeRef}
    {flows flows' : List FlowEntry} {is : List LocalInterface} {remotes : List AgentRef}
    {out : List HandoverOutput}
    (hr : newPrefixLoop tcl config mac newNode flows is = .ok (flows', remotes, out)) :
    askedFor out = [] := by
  induction is generalizing flows flows' remotes out with
  | nil =>
    cases hr
    rfl
  | cons i is ih =>
    obtain ⟨b, -, hr⟩ := bind_ok_iff.1 hr
    split at hr
    · obtain ⟨⟨flows₁, remotes₁, out₁⟩, hrest, hr⟩ := bind_ok_iff.1 hr
      cases hr
      rw [askedFor_append, ih hrest, List.nil_append]
      refine askedFor_eq_nil fun o ho l => ?_
      obtain ⟨f, -, rfl⟩ := List.mem_map.1 ho
      exact nofun
    · exact ih hr

theorem keepsTrack_processNewPrefix {mih : LocalAgent} {data : NewPrefix}
    {r : HandoverAgent × List HandoverOutput} (hr : h.processNewPrefix tcl mih data = .ok r) :
    KeepsTrack h r := by
  obtain ⟨⟨flows, remotes, out⟩, hloop, hr⟩ := bind_ok_iff.1 hr
  have hout := askedFor_newPrefixLoop hloop
  dsimp only at hr
  split_ifs at hr
  · cases hr
    refine keepsTrack_of_frame rfl ?_
    rw [askedFor_append, hout]
    rfl
  · cases hr
    refine keepsTrack_of_frame rfl ?_
    rw [askedFor_append, askedFor_append, hout]
    rfl

/-- A link up ends the connection of its MAC, and does nothing else to the module. -/
theorem processLinkUp_effect {mih : LocalAgent} {e : LinkUp}
    {r : HandoverAgent × List HandoverOutput} (hr : h.processLinkUp mih e = .ok r) :
    askedFor r.2 = [] ∧ r.1 =
      if e.linkIdentifier.macMobileTerminal = h.connectingMac then { h with connectingMac := -1 }
      else h := by
  unfold processLinkUp at hr
  set h₁ := if e.linkIdentifier.macMobileTerminal = h.connectingMac then
    { h with connectingMac := -1 } else h
  dsimp only at hr
  split_ifs at hr
  · obtain ⟨mac, -, hr⟩ := bind_ok_iff.1 hr
    cases hr
    exact ⟨rfl, rfl⟩
  · cases hr
    exact ⟨rfl, rfl⟩

/-! ### The flows of a module -/

theorem flows_processLinkDetected (ifaces : List LocalInterface) (e : LinkDetected) :
    (h.processLinkDetected ifaces e).1.flows = h.flows := by
  unfold processLinkDetected
  split_ifs <;> rfl

theorem flows_processLinkUp {mih : LocalAgent} {e : LinkUp}
    {r : HandoverAgent × List HandoverOutput} (hr : h.processLinkUp mih e = .ok r) :
    r.1.flows = h.flows := by
  rw [(processLinkUp_effect hr).2]
  split_ifs <;> rfl

theorem ends_newPrefixLoop {config : Option MIHInterfaceInfo} {mac : Mac} {newNode : NodeRef}
    {flows flows' : List FlowEntry} {is : List LocalInterface} {remotes : List AgentRef}
    {out : List HandoverOutput}
    (hr : newPrefixLoop tcl config mac newNode flows is = .ok (flows', remotes, out)) :
    flows'.map FlowEntry.ends = flows.map FlowEntry.ends := by
  induction is generalizing flows flows' remotes out with
  | nil =>
    cases hr
    rfl
  | cons i is ih =>
    obtain ⟨b, -, hr⟩ := bind_ok_iff.1 hr
    split at hr
    · obtain ⟨⟨flows₁, remotes₁, out₁⟩, hrest, hr⟩ := bind_ok_iff.1 hr
      cases hr
      rw [ih hrest, List.map_map]
      refine List.map_congr_left fun f _ => ?_
      show FlowEntry.ends (ite _ _ _) = f.ends
      split_ifs <;> rfl
    · exact ih hr

theorem ends_processNewPrefix {mih : LocalAgent} {data : NewPrefix}
    {r : HandoverAgent × List HandoverOutput} (hr : h.processNewPrefix tcl mih data = .ok r) :
    r.1.flows.map FlowEntry.ends = h.flows.map FlowEntry.ends := by
  obtain ⟨⟨flows, remotes, out⟩, hloop, hr⟩ := bind_ok_iff.1 hr
  have hends := ends_newPrefixLoop hloop
  dsimp only at hr
  split_ifs at hr
  · cases hr
    exact hends
  · cases hr
    exact hends

end HandoverAgent

namespace HandoverNode

variable {tcl : Tcl} {s s' : HandoverNode} {e : LinkDown}

/-- Every event keeps `connectingMac_` in step with the past. -/
theorem tracks_step {i : Event} (ht : Tracks s.handover.connectingMac s.history)
    (hstep : s.step tcl i = .ok s') : Tracks s'.handover.connectingMac s'.history := by
  obtain ⟨⟨node, out⟩, hreact, rfl⟩ := map_ok_iff.1 hstep
  cases i with
  | detected e =>
    obtain ⟨mih, -, hr⟩ := bind_ok_iff.1 hreact
    cases hr
    exact HandoverAgent.keepsTrack_processLinkDetected _ e s.history ht
  | up e =>
    obtain ⟨mih, -, hr⟩ := bind_ok_iff.1 hreact
    obtain ⟨r, hup, hr⟩ := bind_ok_iff.1 hr
    cases hr
    obtain ⟨hout, hmodule⟩ := HandoverAgent.processLinkUp_effect hup
    show Tracks r.1.connectingMac (askedFor r.2 ++ _)
    rw [hout, hmodule, apply_ite HandoverAgent.connectingMac]
    exact tracks_cameUp ht _
  | down e =>
    obtain ⟨mih, -, hr⟩ := bind_ok_iff.1 hreact
    cases hr
    exact HandoverAgent.keepsTrack_processLinkDown _ e s.history ht
  | scanConf rsp =>
    obtain ⟨r, hscan, hr⟩ := bind_ok_iff.1 hreact
    cases hr
    exact HandoverAgent.keepsTrack_scanConf hscan s.history ht
  | newPrefix data =>
    obtain ⟨r, hnew, hr⟩ := bind_ok_iff.1 hreact
    cases hr
    exact HandoverAgent.keepsTrack_processNewPrefix hnew s.history ht

/-- A node that has just started. -/
structure Fresh (s : HandoverNode) : Prop where
  connectingMac : s.handover.connectingMac = -1
  history : s.history = []

theorem tracks_run {events : List Event} (h0 : s.Fresh)
    (hrun : runSteps (step tcl) s events = .ok s') :
    Tracks s'.handover.connectingMac s'.history := by
  have hstart : Tracks s.handover.connectingMac s.history := by
    rw [h0.connectingMac, h0.history]
    exact tracks_nil
  exact runSteps_invariant_of_any (fun _ _ _ ht => tracks_step ht) hstart hrun

/-- The module after a link down, which sees the interfaces as they are then. -/
theorem handover_of_down (hstep : s.step tcl (.down e) = .ok s') :
    s'.handover = (s.handover.processLinkDown tcl s'.mih.getInterfaces e).1 := by
  obtain ⟨⟨node, out⟩, hreact, rfl⟩ := map_ok_iff.1 hstep
  obtain ⟨mih, -, hr⟩ := bind_ok_iff.1 hreact
  cases hr
  rfl

/-- Some other interface is up. -/
def OtherUp (s : HandoverNode) (m : MacAddr) : Prop :=
  ∃ i ∈ s.mih.getInterfaces, i.val.macAddr ≠ m ∧ i.val.status = .up

/-- Every flow is on the node of another interface that is up. -/
def OnOthers (tcl : Tcl) (s : HandoverNode) (m : MacAddr) : Prop :=
  ∀ f ∈ s.handover.flows, ∃ i ∈ s.mih.getInterfaces,
    (i.val.macAddr ≠ m ∧ i.val.status = .up) ∧ f.interface = tcl.getNode i.mac

/-- No flow is on the node of the MAC. -/
def NoFlowOn (tcl : Tcl) (s : HandoverNode) (m : MacAddr) : Prop :=
  ∀ own ∈ s.mih.getInterfaces, own.val.macAddr = m →
    ∀ f ∈ s.handover.flows, f.interface ≠ tcl.getNode own.mac

/-- The MAC shares its node with no other interface that is up. -/
def OwnNode (tcl : Tcl) (s : HandoverNode) (m : MacAddr) : Prop :=
  ∀ own ∈ s.mih.getInterfaces, own.val.macAddr = m → ∀ i ∈ s.mih.getInterfaces,
    i.val.macAddr ≠ m ∧ i.val.status = .up → tcl.getNode i.mac ≠ tcl.getNode own.mac

instance (s : HandoverNode) (m : MacAddr) : Decidable (s.OtherUp m) :=
  inferInstanceAs (Decidable (∃ i ∈ s.mih.getInterfaces, _))

instance (s : HandoverNode) (m : MacAddr) : Decidable (s.NoFlowOn tcl m) :=
  inferInstanceAs (Decidable (∀ own ∈ s.mih.getInterfaces, _ → ∀ f ∈ s.handover.flows, _))

instance (s : HandoverNode) (m : MacAddr) : Decidable (s.OwnNode tcl m) :=
  inferInstanceAs (Decidable (∀ own ∈ s.mih.getInterfaces, _ → ∀ i ∈ s.mih.getInterfaces, _))

variable {s₁ s₂ : HandoverNode} {events : List Event}

/-- A link down that comes while nothing is pending moves every flow to another interface that is
up, if there is one. -/
theorem onOthers_of_down (hc : s₁.handover.connectingMac = -1)
    (hdown : s₁.step tcl (.down e) = .ok s₂)
    (hup : s₂.OtherUp e.linkIdentifier.macMobileTerminal) :
    s₂.OnOthers tcl e.linkIdentifier.macMobileTerminal := by
  obtain ⟨t, ht⟩ := Option.isSome_iff_exists.1 (isSome_linkDownTarget.2 hup)
  obtain ⟨hmem, hel⟩ := List.mem_filter.1 (mem_of_linkDownTarget ht)
  intro f hf
  rw [handover_of_down hdown, (HandoverAgent.processLinkDown_of_target tcl hc ht).1] at hf
  exact ⟨t, hmem, eligible_iff.1 hel, HandoverAgent.interface_of_redirectFlows hf⟩

/-- Then none is left on the node of the MAC, which is its own. -/
theorem OnOthers.noFlowOn {m : MacAddr} (h : s.OnOthers tcl m) (hown : s.OwnNode tcl m) :
    s.NoFlowOn tcl m := by
  intro own hmem hm f hf hnode
  obtain ⟨i, hi, hup, hif⟩ := h f hf
  exact hown own hmem hm i hi hup (hif.symm.trans hnode)

/-- In every run, a link down that comes when nothing is pending and another interface is up leaves
each flow on such an interface, and none on the node of the MAC, if the node is its own. -/
theorem linkDown_clears_node (h0 : s.Fresh) (hrun : runSteps (step tcl) s events = .ok s₁)
    (hpending : ∀ m, m ≠ -1 → ¬ Pending s₁.history m) (hdown : s₁.step tcl (.down e) = .ok s₂)
    (hup : s₂.OtherUp e.linkIdentifier.macMobileTerminal) :
    s₂.OnOthers tcl e.linkIdentifier.macMobileTerminal ∧
      (s₂.OwnNode tcl e.linkIdentifier.macMobileTerminal →
        s₂.NoFlowOn tcl e.linkIdentifier.macMobileTerminal) := by
  have hc : s₁.handover.connectingMac = -1 := by
    by_contra hne
    exact hpending _ hne ((tracks_run h0 hrun _ hne).1 rfl)
  have hothers := onOthers_of_down hc hdown hup
  exact ⟨hothers, hothers.noFlowOn⟩

/-- A flow on the node 1; 802.16, UMTS and 802.11 interfaces, all down. -/
def threeLinks : HandoverNode where
  mih := nodeAgent [nodeInterface 1 link80216 .down, nodeInterface 2 linkUmts .down,
    nodeInterface 3 link80211 .down]
  handover := { flows := [⟨10, 20, 1⟩] }

/-- An interpreter where all MACs are on the node 1. -/
def sharedTcl : Tcl where
  getNode _ := 1
  mac0 _ := ⟨1, 0, link80216, 0⟩

/-- The link of the MAC comes up. -/
def upOf (type : BitVec 32) (m : MacAddr) : Event := .up ⟨⟨type, m, 7⟩, 0, 0, false, 0⟩

/-- Once the connection of the 802.11 interface is there, the flow leaves the node 1. -/
theorem linkDown_clears_node_sample :
    ∃ s₁ s₂, threeLinks.Fresh ∧
      runSteps (step numberedTcl) threeLinks [upOf link80216 1, upOf linkUmts 2,
        .detected ⟨⟨link80211, 3, 8⟩, false⟩, upOf link80211 3] = .ok s₁ ∧
      (∀ m, m ≠ -1 → ¬ Pending s₁.history m) ∧
      s₁.step numberedTcl (.down ⟨⟨link80216, 1, 7⟩, 0, 0⟩) = .ok s₂ ∧
      s₂.OtherUp 1 ∧ s₂.OnOthers numberedTcl 1 ∧ s₂.NoFlowOn numberedTcl 1 := by
  have h0 : threeLinks.Fresh := ⟨rfl, rfl⟩
  obtain ⟨s₁, s₂, hrun, hpending, hdown, hup, hown⟩ : ∃ s₁ s₂,
      runSteps (step numberedTcl) threeLinks [upOf link80216 1, upOf linkUmts 2,
        .detected ⟨⟨link80211, 3, 8⟩, false⟩, upOf link80211 3] = .ok s₁ ∧
      (∀ m, m ≠ -1 → ¬ Pending s₁.history m) ∧
      s₁.step numberedTcl (.down ⟨⟨link80216, 1, 7⟩, 0, 0⟩) = .ok s₂ ∧
      s₂.OtherUp 1 ∧ s₂.OwnNode numberedTcl 1 := by
    refine ⟨_, _, rfl, ?_, rfl, by decide, by decide⟩
    simp +contextual [Pending, askedFor]
  obtain ⟨hothers, hclear⟩ := linkDown_clears_node h0 hrun hpending hdown hup
  exact ⟨s₁, s₂, h0, hrun, hpending, hdown, hup, hothers, hclear hown⟩

/-- The connection of the 802.11 interface is pending when the link of the flow goes down; or the
other interface is on the same node. -/
theorem pendingConnection_strands :
    threeLinks.Fresh ∧
      (∃ s₁ s₂, runSteps (step numberedTcl) threeLinks [upOf link80216 1, upOf linkUmts 2,
          .detected ⟨⟨link80211, 3, 8⟩, false⟩] = .ok s₁ ∧
        s₁.step numberedTcl (.down ⟨⟨link80216, 1, 7⟩, 0, 0⟩) = .ok s₂ ∧
        s₂.OtherUp 1 ∧ ¬ s₂.NoFlowOn numberedTcl 1) ∧
      ∃ s₁ s₂, runSteps (step sharedTcl) threeLinks [upOf link80216 1, upOf linkUmts 2] = .ok s₁ ∧
        s₁.step sharedTcl (.down ⟨⟨link80216, 1, 7⟩, 0, 0⟩) = .ok s₂ ∧
        s₂.OtherUp 1 ∧ ¬ s₂.NoFlowOn sharedTcl 1 := by
  refine ⟨⟨rfl, rfl⟩, ⟨_, _, rfl, rfl, ?_, ?_⟩, _, _, rfl, rfl, ?_, ?_⟩ <;> decide

end HandoverNode

end SipNemo.Handover
