import SipNemo.Handover.Connecting
import SipNemo.Lib.Sweep

/-!
# The flows and a new prefix

`Handover2::process_new_prefix` goes through the interfaces: the flows on the node of one that is
less preferred than the new one, or is the new one, are redirected to the node of the prefix and
their remote agents noted for the update message.  It moves a flow as soon as it has noted it, so
that the loop, when it comes to the new interface, notes every flow again that it has moved there.
Each is named once exactly when the new interface does not come behind an interface that has a flow
to redirect (`processNewPrefix_exact_iff`).
-/

namespace SipNemo.Handover

open Mih Runs Sweep

/-- An interface of the first type is strictly less preferred than one of the second. -/
def LessPreferred (type newType : BitVec 32) : Prop :=
  IsRanked type ∧ IsRanked newType ∧ linkRank type < linkRank newType

/-- An interface of the first type is equally or more preferred. -/
def AtLeastAsPreferred (type newType : BitVec 32) : Prop :=
  IsRanked type ∧ IsRanked newType ∧ linkRank newType ≤ linkRank type

instance (type newType : BitVec 32) : Decidable (LessPreferred type newType) :=
  inferInstanceAs (Decidable (_ ∧ _ ∧ _))

instance (type newType : BitVec 32) : Decidable (AtLeastAsPreferred type newType) :=
  inferInstanceAs (Decidable (_ ∧ _ ∧ _))

/-- The condition on the types is the order. -/
theorem better_iff_lessPreferred {type newType : BitVec 32} :
    better type newType = true ↔ LessPreferred type newType := by
  constructor
  · intro h
    have hranked : IsRanked type ∧ IsRanked newType := by
      unfold better at h
      rcases of_decide_eq_true h with ⟨rfl, rfl⟩ | ⟨rfl, rfl | rfl⟩ | ⟨rfl, rfl | rfl | rfl⟩ <;>
        decide
    exact ⟨hranked.1, hranked.2, (better_iff hranked.1 hranked.2).1 h⟩
  · rintro ⟨h, h', hlt⟩
    exact (better_iff h h').2 hlt

/-- Nothing is less preferred but by one of three types. -/
theorem LessPreferred.type_mem {type newType : BitVec 32} (h : LessPreferred type newType) :
    type = linkUmts ∨ type = link80216 ∨ type = link80211 := by
  have hbetter := better_iff_lessPreferred.2 h
  unfold better at hbetter
  rcases of_decide_eq_true hbetter with ⟨htype, -⟩ | ⟨htype, -⟩ | ⟨htype, -⟩
  · exact Or.inr (Or.inr htype)
  · exact Or.inr (Or.inl htype)
  · exact Or.inl htype

/-- The flows of the interface go to the new one: it is less preferred, or the new one itself. -/
def Replaced (config : MIHInterfaceInfo) (mac : Mac) (i : LocalInterface) : Prop :=
  LessPreferred i.val.type config.type ∨ i.mac = mac

instance (config : MIHInterfaceInfo) (mac : Mac) (i : LocalInterface) :
    Decidable (Replaced config mac i) := inferInstanceAs (Decidable (_ ∨ _))

namespace HandoverAgent

variable {tcl : Tcl} {h : HandoverAgent} {mih : LocalAgent} {data : NewPrefix}
  {config : MIHInterfaceInfo} {mac : Mac} {i : LocalInterface} {newNode : NodeRef}
  {flows : List FlowEntry} {ifaces : List LocalInterface}

theorem replaced_some : replaced (some config) mac i = .ok (decide (Replaced config mac i)) := by
  unfold replaced Replaced
  split_ifs with htype
  · simp only [deref_some, ok_bind, pure_eq_ok]
    exact congrArg Except.ok (decide_eq_decide.2 (or_congr_left better_iff_lessPreferred))
  · have hless : ¬ LessPreferred i.val.type config.type := fun h => htype h.type_mem
    exact congrArg Except.ok (decide_eq_decide.2 (or_iff_right hless).symm)

/-- The nodes of the interfaces whose flows go, in their order. -/
def sweptNodes (tcl : Tcl) (config : MIHInterfaceInfo) (mac : Mac) (ifaces : List LocalInterface) :
    List NodeRef :=
  (ifaces.filter fun i => Replaced config mac i).map fun i => tcl.getNode i.mac

/-- The flows and the reports of the sweep. -/
def swept (tcl : Tcl) (config : MIHInterfaceInfo) (mac : Mac) (newNode : NodeRef)
    (ifaces : List LocalInterface) (flows : List FlowEntry) : List FlowEntry × List FlowEntry :=
  sweep FlowEntry.interface (·.updateInterface newNode) flows (sweptNodes tcl config mac ifaces)

/-- The loop over the interfaces sweeps their nodes. -/
theorem newPrefixLoop_eq (tcl : Tcl) (config : MIHInterfaceInfo) (mac : Mac) (newNode : NodeRef)
    (flows : List FlowEntry) (ifaces : List LocalInterface) :
    newPrefixLoop tcl (some config) mac newNode flows ifaces =
      .ok ((swept tcl config mac newNode ifaces flows).1,
        (swept tcl config mac newNode ifaces flows).2.map FlowEntry.remote,
        (swept tcl config mac newNode ifaces flows).2.map fun f =>
          .target f.localAgent newNode) := by
  induction ifaces generalizing flows with
  | nil => rfl
  | cons i ifaces ih =>
    unfold newPrefixLoop
    rw [replaced_some, ok_bind]
    by_cases hi : Replaced config mac i
    · have hnodes : sweptNodes tcl config mac (i :: ifaces) =
          tcl.getNode i.mac :: sweptNodes tcl config mac ifaces := by
        simp [sweptNodes, hi]
      rw [if_pos (decide_eq_true hi)]
      dsimp only
      rw [ih]
      have hon : onNode (tcl.getNode i.mac) =
          fun f : FlowEntry => decide (f.interface = tcl.getNode i.mac) := rfl
      simp [swept, sweep, hnodes, hon]
    · have hnodes : sweptNodes tcl config mac (i :: ifaces) =
          sweptNodes tcl config mac ifaces := by
        simp [sweptNodes, hi]
      rw [if_neg (by simpa using hi), ih]
      simp [swept, hnodes]

/-- The message about the flows that were reported. -/
def newPrefixMsgs (newNode : NodeRef) (reports : List FlowEntry) : List (List AgentRef × NodeRef) :=
  if reports = [] then [] else [(reports.map FlowEntry.remote, newNode)]

/-- What `process_new_prefix` does: the flows are swept, and the remote agents of those it has found
on the way are named in one message. -/
theorem processNewPrefix_eq (tcl : Tcl) (h : HandoverAgent)
    (hconfig : mih.getInterface (tcl.mac0 data.interface).addr = some config) :
    ∃ r, h.processNewPrefix tcl mih data = .ok r ∧
      r.1.flows = (swept tcl config (tcl.mac0 data.interface) data.interface mih.getInterfaces
        h.flows).1 ∧
      updateMsgs r.2 = newPrefixMsgs data.interface
        (swept tcl config (tcl.mac0 data.interface) data.interface mih.getInterfaces
          h.flows).2 := by
  have htargets : ∀ reports : List FlowEntry, updateMsgs
      (reports.map fun f => HandoverOutput.target f.localAgent data.interface) = [] := by
    intro reports
    rw [updateMsgs, List.filterMap_map, List.filterMap_eq_nil_iff]
    exact fun f _ => rfl
  unfold processNewPrefix
  dsimp only
  rw [hconfig, newPrefixLoop_eq, ok_bind]
  dsimp only
  set reports := (swept tcl config (tcl.mac0 data.interface) data.interface mih.getInterfaces
    h.flows).2
  unfold newPrefixMsgs
  by_cases hnone : reports = []
  · refine ⟨_, if_pos (by rw [hnone]; rfl), rfl, ?_⟩
    rw [if_pos hnone, updateMsgs_append, htargets]
    rfl
  · refine ⟨_, if_neg (by simpa using hnone), rfl, ?_⟩
    rw [if_neg hnone, updateMsgs_append, updateMsgs_append, htargets]
    rfl

/-! ### Exact redirection -/

/-- The flow is on the node of an interface whose flows go to the new one. -/
def IsRedirected (tcl : Tcl) (config : MIHInterfaceInfo) (mac : Mac) (ifaces : List LocalInterface)
    (f : FlowEntry) : Prop :=
  ∃ i ∈ ifaces, Replaced config mac i ∧ f.interface = tcl.getNode i.mac

instance (tcl : Tcl) (config : MIHInterfaceInfo) (mac : Mac) (ifaces : List LocalInterface)
    (f : FlowEntry) : Decidable (IsRedirected tcl config mac ifaces f) :=
  inferInstanceAs (Decidable (∃ i ∈ ifaces, _))

theorem mem_sweptNodes {f : FlowEntry} :
    f.interface ∈ sweptNodes tcl config mac ifaces ↔ IsRedirected tcl config mac ifaces f := by
  unfold sweptNodes IsRedirected
  rw [List.mem_map]
  constructor
  · rintro ⟨i, hi, hnode⟩
    obtain ⟨hmem, hreplaced⟩ := List.mem_filter.1 hi
    exact ⟨i, hmem, of_decide_eq_true hreplaced, hnode.symm⟩
  · rintro ⟨i, hmem, hreplaced, hnode⟩
    exact ⟨i, List.mem_filter.2 ⟨hmem, decide_eq_true hreplaced⟩, hnode.symm⟩

/-- After a new prefix on the node `newNode` of `mac`: no flow is left on an interface that is less
preferred, those on others are as they were, and one message names the remote agent of each flow
that was redirected once, and no other. -/
structure RedirectsExactly (tcl : Tcl) (config : MIHInterfaceInfo) (mac : Mac) (newNode : NodeRef)
    (ifaces : List LocalInterface) (flows flows' : List FlowEntry)
    (msgs : List (List AgentRef × NodeRef)) : Prop where
  cleared : ∀ f ∈ flows', ∀ i ∈ ifaces, LessPreferred i.val.type config.type →
    f.interface ≠ tcl.getNode i.mac
  kept : List.Forall₂ (fun f f' => ∀ i ∈ ifaces, i.mac ≠ mac →
    AtLeastAsPreferred i.val.type config.type → f.interface = tcl.getNode i.mac → f' = f)
      flows flows'
  named : ∀ f ∈ flows, IsRedirected tcl config mac ifaces f →
    ∃ dagent, msgs = [(dagent, newNode)] ∧ dagent.count f.remote = 1
  only : ∀ msg ∈ msgs, ∀ a ∈ msg.1, ∃ f ∈ flows, IsRedirected tcl config mac ifaces f ∧ f.remote = a

/-- What it takes: the nodes of the interfaces do not coincide where it matters, no interface with a
flow to redirect comes before one on the new node whose flows are looked at, and the flows to
redirect have different remote agents. -/
structure RedirectsOnce (tcl : Tcl) (config : MIHInterfaceInfo) (mac : Mac) (newNode : NodeRef)
    (ifaces : List LocalInterface) (flows : List FlowEntry) : Prop where
  newNode_ne : ∀ f ∈ flows, IsRedirected tcl config mac ifaces f →
    ∀ i ∈ ifaces, LessPreferred i.val.type config.type → newNode ≠ tcl.getNode i.mac
  node_ne : ∀ f ∈ flows, IsRedirected tcl config mac ifaces f → f.interface ≠ newNode →
    ∀ i ∈ ifaces, i.mac ≠ mac → AtLeastAsPreferred i.val.type config.type →
      f.interface ≠ tcl.getNode i.mac
  order : ∀ f ∈ flows, (ifaces.filter fun i => Replaced config mac i).Pairwise fun i j =>
    tcl.getNode i.mac = f.interface → tcl.getNode j.mac ≠ newNode
  remotes : ((flows.filter fun f => IsRedirected tcl config mac ifaces f).map
    FlowEntry.remote).Nodup

theorem swept_flows : (swept tcl config mac newNode ifaces flows).1 = flows.map fun f =>
    if IsRedirected tcl config mac ifaces f then f.updateInterface newNode else f := by
  refine (items_sweep FlowEntry.interface (·.updateInterface newNode) (fun _ => rfl) flows _).trans
    (List.map_congr_left fun f _ => ?_)
  exact if_congr mem_sweptNodes rfl rfl

theorem cleared_iff :
    (∀ f ∈ (swept tcl config mac newNode ifaces flows).1, ∀ i ∈ ifaces,
        LessPreferred i.val.type config.type → f.interface ≠ tcl.getNode i.mac) ↔
      ∀ f ∈ flows, IsRedirected tcl config mac ifaces f →
        ∀ i ∈ ifaces, LessPreferred i.val.type config.type → newNode ≠ tcl.getNode i.mac := by
  rw [swept_flows, List.forall_mem_map]
  refine forall₂_congr fun f hf => ?_
  by_cases hred : IsRedirected tcl config mac ifaces f
  · rw [if_pos hred]
    exact ⟨fun h _ => h, fun h => h hred⟩
  · rw [if_neg hred]
    refine iff_of_true (fun i hi hless hnode => ?_) (fun h => absurd h hred)
    exact hred ⟨i, hi, Or.inl hless, hnode⟩

theorem kept_iff :
    List.Forall₂ (fun f f' => ∀ i ∈ ifaces, i.mac ≠ mac →
        AtLeastAsPreferred i.val.type config.type → f.interface = tcl.getNode i.mac → f' = f)
      flows (swept tcl config mac newNode ifaces flows).1 ↔
      ∀ f ∈ flows, IsRedirected tcl config mac ifaces f → f.interface ≠ newNode →
        ∀ i ∈ ifaces, i.mac ≠ mac → AtLeastAsPreferred i.val.type config.type →
          f.interface ≠ tcl.getNode i.mac := by
  rw [swept_flows, List.forall₂_map_right_iff, List.forall₂_same]
  refine forall₂_congr fun f hf => ?_
  by_cases hred : IsRedirected tcl config mac ifaces f
  · rw [if_pos hred]
    constructor
    · intro h _ hne i hi hother hleast hnode
      have heq := congrArg FlowEntry.interface (h i hi hother hleast hnode)
      exact hne heq.symm
    · intro h i hi hother hleast hnode
      have heq : f.interface = newNode := by
        by_contra hne
        exact h hred hne i hi hother hleast hnode
      rw [← heq]
      rfl
  · rw [if_neg hred]
    exact iff_of_true (fun _ _ _ _ _ => rfl) (fun h => absurd h hred)

theorem named_once_iff :
    (∀ f ∈ flows, IsRedirected tcl config mac ifaces f →
        ((swept tcl config mac newNode ifaces flows).2.map FlowEntry.remote).count f.remote = 1) ↔
      (∀ f ∈ flows, (ifaces.filter fun i => Replaced config mac i).Pairwise fun i j =>
        tcl.getNode i.mac = f.interface → tcl.getNode j.mac ≠ newNode) ∧
      ((flows.filter fun f => IsRedirected tcl config mac ifaces f).map
        FlowEntry.remote).Nodup := by
  have honce := reported_once_iff FlowEntry.interface (·.updateInterface newNode) FlowEntry.remote
    (fun _ => rfl) (fun _ => rfl) flows (sweptNodes tcl config mac ifaces)
  simp only [mem_sweptNodes] at honce
  rw [sweptNodes] at honce
  simp only [List.pairwise_map] at honce
  exact honce

theorem named_iff {reports : List FlowEntry} {a : AgentRef} :
    (∃ dagent, newPrefixMsgs newNode reports = [(dagent, newNode)] ∧ dagent.count a = 1) ↔
      (reports.map FlowEntry.remote).count a = 1 := by
  unfold newPrefixMsgs
  by_cases hnone : reports = []
  · simp [hnone]
  · simp [hnone]

theorem remote_of_named {msg : List AgentRef × NodeRef} {a : AgentRef}
    (hmsg : msg ∈ newPrefixMsgs newNode (swept tcl config mac newNode ifaces flows).2)
    (ha : a ∈ msg.1) : ∃ f ∈ flows, IsRedirected tcl config mac ifaces f ∧ f.remote = a := by
  unfold newPrefixMsgs at hmsg
  split_ifs at hmsg
  · cases hmsg
  · obtain rfl := List.mem_singleton.1 hmsg
    obtain ⟨f, hf, hplace, hremote⟩ := (mem_reports_sweep FlowEntry.interface
      (·.updateInterface newNode) FlowEntry.remote (fun _ => rfl) fun _ => rfl).1 ha
    exact ⟨f, hf, mem_sweptNodes.1 hplace, hremote⟩

/-- A new prefix redirects exactly the flows on less preferred interfaces and on its own, each named
once, if and only if each of them is found once. -/
theorem processNewPrefix_exact_iff (tcl : Tcl) (h : HandoverAgent) (data : NewPrefix)
    (hconfig : mih.getInterface (tcl.mac0 data.interface).addr = some config) :
    ∃ r, h.processNewPrefix tcl mih data = .ok r ∧
      (RedirectsExactly tcl config (tcl.mac0 data.interface) data.interface mih.getInterfaces
          h.flows r.1.flows (updateMsgs r.2) ↔
        RedirectsOnce tcl config (tcl.mac0 data.interface) data.interface mih.getInterfaces
          h.flows) := by
  obtain ⟨r, hr, hflows, hmsgs⟩ := processNewPrefix_eq tcl h hconfig
  refine ⟨r, hr, ?_⟩
  rw [hflows, hmsgs]
  constructor
  · rintro ⟨hcleared, hkept, hnamed, -⟩
    obtain ⟨horder, hremotes⟩ :=
      (named_once_iff ..).1 fun f hf hred => named_iff.1 (hnamed f hf hred)
    exact ⟨(cleared_iff ..).1 hcleared, (kept_iff ..).1 hkept, horder, hremotes⟩
  · rintro ⟨hnew, hnode, horder, hremotes⟩
    refine ⟨(cleared_iff ..).2 hnew, (kept_iff ..).2 hnode, fun f hf hred => ?_,
      fun msg hmsg a ha => remote_of_named hmsg ha⟩
    exact named_iff.2 ((named_once_iff ..).2 ⟨horder, hremotes⟩ f hf hred)

/-- A flow on the node 2, which is that of the UMTS interface. -/
def umtsFlow : HandoverAgent where
  flows := [⟨10, 20, 2⟩]

/-- A UMTS interface, and the 802.11 interface of the node 1 before or behind it. -/
def twoLinks (newFirst : Bool) : LocalAgent :=
  nodeAgent (if newFirst then [nodeInterface 1 link80211 .up, nodeInterface 2 linkUmts .up]
    else [nodeInterface 2 linkUmts .up, nodeInterface 1 link80211 .up])

/-- The new interface comes first. -/
theorem processNewPrefix_exact_iff_sample :
    ∃ r, umtsFlow.processNewPrefix numberedTcl (twoLinks true) ⟨2048, 1⟩ = .ok r ∧
      r.1.flows = [⟨10, 20, 1⟩] ∧ updateMsgs r.2 = [([20], 1)] ∧
      RedirectsExactly numberedTcl (nodeInterface 1 link80211 .up).val (numberedTcl.mac0 1) 1
        (twoLinks true).getInterfaces umtsFlow.flows r.1.flows (updateMsgs r.2) := by
  have hconfig : (twoLinks true).getInterface (numberedTcl.mac0 1).addr =
      some (nodeInterface 1 link80211 .up).val := rfl
  obtain ⟨r, hr, hiff⟩ := processNewPrefix_exact_iff numberedTcl umtsFlow ⟨2048, 1⟩ hconfig
  have hexact := hiff.2 ⟨by decide, by decide, by decide, by decide⟩
  refine ⟨r, hr, ?_, ?_, hexact⟩
  · cases hr
    decide
  · cases hr
    decide

/-- The new interface comes last: the flow is named when it is moved, and again on the node it was
moved to. -/
theorem movedFlow_named_twice :
    (twoLinks false).getInterface (numberedTcl.mac0 1).addr =
        some (nodeInterface 1 link80211 .up).val ∧
      (umtsFlow.flows.map FlowEntry.ends).Nodup ∧
      ∃ r, umtsFlow.processNewPrefix numberedTcl (twoLinks false) ⟨2048, 1⟩ = .ok r ∧
        updateMsgs r.2 = [([20, 20], 1)] ∧
        ¬ RedirectsExactly numberedTcl (nodeInterface 1 link80211 .up).val (numberedTcl.mac0 1) 1
          (twoLinks false).getInterfaces umtsFlow.flows r.1.flows (updateMsgs r.2) := by
  obtain ⟨r, hr, hmsgs⟩ : ∃ r, umtsFlow.processNewPrefix numberedTcl (twoLinks false) ⟨2048, 1⟩ =
      .ok r ∧ updateMsgs r.2 = [([20, 20], 1)] := ⟨_, rfl, by decide⟩
  refine ⟨rfl, by decide, r, hr, hmsgs, fun hexact => ?_⟩
  obtain ⟨dagent, hone, hcount⟩ := hexact.named ⟨10, 20, 2⟩ (by decide) (by decide)
  rw [hmsgs] at hone
  cases hone
  exact absurd hcount (by decide)

end HandoverAgent

end SipNemo.Handover
