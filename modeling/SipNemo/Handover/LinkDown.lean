import Mathlib.Data.List.MinMax
import Mathlib.Data.List.TakeWhile
import SipNemo.Handover.Agent

/-!
# The target of a link down

`Handover2::process_link_down` takes the first other interface that is up and exchanges it for
every later one that its condition calls better.  On the four types of the condition that is the
first interface of maximal rank (`linkDownTarget_eq_argmax`), and every flow goes to its node.
-/

namespace SipNemo.Handover

open Mih

/-! ### The order of the types -/

/-- The condition under which an interface of another type is exchanged for the best one so far. -/
def better (bestType type : BitVec 32) : Bool :=
  bestType = link80211 ∧ type = linkEthernet ∨
    bestType = link80216 ∧ (type = link80211 ∨ type = linkEthernet) ∨
    bestType = linkUmts ∧ (type = link80216 ∨ type = link80211 ∨ type = linkEthernet)

/-- The types of the condition. -/
def IsRanked (type : BitVec 32) : Prop :=
  type = linkEthernet ∨ type = link80211 ∨ type = link80216 ∨ type = linkUmts

instance (type : BitVec 32) : Decidable (IsRanked type) :=
  inferInstanceAs (Decidable (_ ∨ _ ∨ _ ∨ _))

/-- Ethernet, then 802.11, then 802.16, then UMTS. -/
def linkRank (type : BitVec 32) : ℕ :=
  if type = linkEthernet then 3
  else if type = link80211 then 2
  else if type = link80216 then 1
  else 0

/-- The condition is the order of the ranks. -/
theorem better_iff {bestType type : BitVec 32} (hb : IsRanked bestType) (ht : IsRanked type) :
    better bestType type = true ↔ linkRank bestType < linkRank type := by
  rcases hb with rfl | rfl | rfl | rfl <;> rcases ht with rfl | rfl | rfl | rfl <;> decide

/-! ### The search -/

/-- The interfaces the search looks at. -/
def eligible (m : MacAddr) (i : LocalInterface) : Bool :=
  i.val.macAddr ≠ m ∧ i.val.status = .up

/-- `mac_infos[best_index]` after the search, if `found`. -/
def linkDownTarget (ifaces : List LocalInterface) (m : MacAddr) : Option LocalInterface :=
  match ifaces.dropWhile fun i => !eligible m i with
  | [] => none
  | first :: rest =>
    some (rest.foldl
      (fun best i => if eligible m i ∧ better best.val.type i.val.type then i else best) first)

/-- The rank of an interface. -/
def LocalInterface.rank (i : LocalInterface) : ℕ := linkRank i.val.type

/-- The loop over the rest keeps the first of maximal rank. -/
theorem foldl_better_eq {m : MacAddr} {best : LocalInterface} {rest : List LocalInterface}
    (hbest : IsRanked best.val.type) (htypes : ∀ i ∈ rest, IsRanked i.val.type) :
    some (rest.foldl
      (fun best i => if eligible m i ∧ better best.val.type i.val.type then i else best) best) =
      (rest.filter (eligible m)).foldl
        (List.argAux fun b c => LocalInterface.rank c < LocalInterface.rank b) (some best) := by
  induction rest generalizing best with
  | nil => rfl
  | cons i rest ih =>
    have hi := htypes i List.mem_cons_self
    have hrest := fun j hj => htypes j (List.mem_cons_of_mem i hj)
    rw [List.foldl_cons]
    cases he : eligible m i with
    | false => simpa [he] using ih hbest hrest
    | true =>
      simp only [he, true_and, better_iff hbest hi, List.filter_cons_of_pos, List.foldl_cons,
        List.argAux]
      by_cases hlt : linkRank best.val.type < linkRank i.val.type
      · rw [if_pos hlt, if_pos (show best.rank < i.rank from hlt)]
        exact ih hi hrest
      · rw [if_neg hlt, if_neg (show ¬ best.rank < i.rank from hlt)]
        exact ih hbest hrest

/-- The search finds the first interface of maximal rank. -/
theorem linkDownTarget_eq_argmax {m : MacAddr} {ifaces : List LocalInterface}
    (htypes : ∀ i ∈ ifaces, IsRanked i.val.type) :
    linkDownTarget ifaces m = (ifaces.filter (eligible m)).argmax LocalInterface.rank := by
  induction ifaces with
  | nil => rfl
  | cons i ifaces ih =>
    have hrest := fun j hj => htypes j (List.mem_cons_of_mem i hj)
    cases he : eligible m i with
    | false =>
      have hskip : linkDownTarget (i :: ifaces) m = linkDownTarget ifaces m := by
        simp [linkDownTarget, he]
      rw [hskip, ih hrest, List.filter_cons_of_neg (by simp [he])]
    | true =>
      have hfirst : linkDownTarget (i :: ifaces) m = some (ifaces.foldl
          (fun best i =>
            if eligible m i ∧ better best.val.type i.val.type then i else best) i) := by
        simp [linkDownTarget, he]
      rw [hfirst, foldl_better_eq (htypes i List.mem_cons_self) hrest,
        List.filter_cons_of_pos he]
      rfl

/-- The best interface that is up and has another MAC. -/
structure IsBestOther (ifaces : List LocalInterface) (m : MacAddr) (t : LocalInterface) : Prop where
  mem : t ∈ ifaces
  up : t.val.status = .up
  ne : t.val.macAddr ≠ m
  best : ∀ i ∈ ifaces, i.val.status = .up → i.val.macAddr ≠ m →
    ¬ linkRank t.val.type < linkRank i.val.type

variable {ifaces : List LocalInterface} {m : MacAddr} {t : LocalInterface}

theorem eligible_iff {i : LocalInterface} :
    eligible m i = true ↔ i.val.macAddr ≠ m ∧ i.val.status = .up := by
  simp [eligible]

/-- The loop over the rest goes from an interface to one of the rest that is eligible. -/
theorem foldl_better_mem (best : LocalInterface) (rest : List LocalInterface) :
    rest.foldl (fun best i =>
        if eligible m i ∧ better best.val.type i.val.type then i else best) best ∈
      best :: rest.filter (eligible m) := by
  induction rest generalizing best with
  | nil => exact List.mem_cons_self
  | cons i rest ih =>
    rw [List.foldl_cons]
    split_ifs with h
    · rw [List.filter_cons_of_pos h.1]
      exact List.mem_cons_of_mem best (ih i)
    · rcases List.mem_cons.1 (ih best) with heq | hmem
      · rw [heq]
        exact List.mem_cons_self
      · have hsub := List.Sublist.filter (eligible m) (List.sublist_cons_self i rest)
        exact List.mem_cons_of_mem best (hsub.mem hmem)

/-- A target is another interface that is up, whatever the types are. -/
theorem mem_of_linkDownTarget (h : linkDownTarget ifaces m = some t) :
    t ∈ ifaces.filter (eligible m) := by
  unfold linkDownTarget at h
  split at h
  · cases h
  · rename_i first rest hdrop
    have hsub : (first :: rest).Sublist ifaces := hdrop ▸ List.dropWhile_sublist _
    have hfirst : eligible m first = true := by
      have hnot := List.head?_dropWhile_not (fun i => !eligible m i) ifaces
      rw [hdrop] at hnot
      simpa using hnot
    have hmem := foldl_better_mem (m := m) first rest
    rw [Option.some.inj h, ← List.filter_cons_of_pos hfirst] at hmem
    exact (hsub.filter _).mem hmem

theorem linkDownTarget_eq_none :
    linkDownTarget ifaces m = none ↔ ∀ i ∈ ifaces, eligible m i = false := by
  unfold linkDownTarget
  cases hdrop : ifaces.dropWhile fun i => !eligible m i with
  | nil =>
    have hall := List.dropWhile_eq_nil_iff.1 hdrop
    exact iff_of_true rfl fun i hi => by simpa using hall i hi
  | cons first rest =>
    refine iff_of_false (by simp) fun hall => ?_
    have hnil : ifaces.dropWhile (fun i => !eligible m i) = [] :=
      List.dropWhile_eq_nil_iff.2 fun i hi => by simp [hall i hi]
    rw [hdrop] at hnil
    cases hnil

/-- The search finds something exactly when another interface is up. -/
theorem isSome_linkDownTarget :
    (linkDownTarget ifaces m).isSome = true ↔
      ∃ i ∈ ifaces, i.val.macAddr ≠ m ∧ i.val.status = .up := by
  rw [← not_iff_not, Option.not_isSome_iff_eq_none, linkDownTarget_eq_none, not_exists]
  refine forall_congr' fun i => ?_
  rw [not_and, ← eligible_iff, Bool.not_eq_true]

theorem isBestOther_of_linkDownTarget (htypes : ∀ i ∈ ifaces, IsRanked i.val.type)
    (h : linkDownTarget ifaces m = some t) : IsBestOther ifaces m t := by
  rw [linkDownTarget_eq_argmax htypes] at h
  have hmem := List.mem_filter.1 (List.argmax_mem h)
  obtain ⟨hne, hup⟩ := eligible_iff.1 hmem.2
  refine ⟨hmem.1, hup, hne, fun i hi hiup hine => ?_⟩
  have hin : i ∈ ifaces.filter (eligible m) := List.mem_filter.2 ⟨hi, eligible_iff.2 ⟨hine, hiup⟩⟩
  exact List.not_lt_of_mem_argmax (f := LocalInterface.rank) hin h

/-! ### `process_link_down` -/

namespace HandoverAgent

variable (tcl : Tcl) (h : HandoverAgent)

/-- The loop over the flows: those on another node go to the node of the target. -/
def redirectFlows (target : LocalInterface) : HandoverAgent × List HandoverOutput :=
  let node := tcl.getNode target.mac
  let moved := h.flows.filter fun f => f.interface ≠ node
  ({ h with
      flows := h.flows.map fun f => if f.interface ≠ node then f.updateInterface node else f
      redirectMac := if moved = [] then h.redirectMac else target.mac.addr },
    moved.flatMap fun f => [.target f.localAgent node, .updateMsg [f.remote] node])

/-- The 802.16 interfaces that are not up, turned on. -/
def turnOn (ifaces : List LocalInterface) : List HandoverOutput :=
  (ifaces.filter fun i => i.val.type = link80216 ∧ i.val.status ≠ .up).map fun i =>
    .configureNormalMode i.val.type i.val.macAddr

/-- The scan of the link, unless one is pending for its MAC. -/
def requestScan (linkId : LinkIdentifier) : HandoverAgent × List HandoverOutput :=
  if (linkId.type = link80216 ∨ linkId.type = link80211) ∧
      h.pendingScan.find? (fun m => m = linkId.macMobileTerminal) = none then
    ({ h with pendingScan := linkId.macMobileTerminal :: h.pendingScan }, [.scan linkId])
  else (h, [])

/-- `process_link_down`. -/
def processLinkDown (ifaces : List LocalInterface) (e : LinkDown) :
    HandoverAgent × List HandoverOutput :=
  if h.connectingMac ≠ -1 then (h, [])
  else
    let (h, moves) :=
      match linkDownTarget ifaces e.linkIdentifier.macMobileTerminal with
      | some target => h.redirectFlows tcl target
      | none => (h, if e.linkIdentifier.type = link80211 then turnOn ifaces else [])
    let (h, scan) := h.requestScan e.linkIdentifier
    (h, moves ++ scan)

variable {tcl h} {e : LinkDown}

@[simp] theorem flows_requestScan (linkId : LinkIdentifier) :
    (h.requestScan linkId).1.flows = h.flows := by
  unfold requestScan
  split_ifs <;> rfl

theorem updateMsgs_requestScan (linkId : LinkIdentifier) :
    updateMsgs (h.requestScan linkId).2 = [] := by
  unfold requestScan
  split_ifs <;> rfl

theorem updateMsgs_turnOn : updateMsgs (turnOn ifaces) = [] := by
  unfold turnOn updateMsgs
  rw [List.filterMap_map, List.filterMap_eq_nil_iff]
  intro i _
  rfl

/-- An update message for each flow whose interface is another one afterwards. -/
def updatesFor (flows flows' : List FlowEntry) : List (List AgentRef × NodeRef) :=
  ((flows.zip flows').filter fun p => p.1.interface ≠ p.2.interface).map fun p =>
    ([p.1.remote], p.2.interface)

/-- The messages of a change made flow by flow. -/
theorem updatesFor_map (flows : List FlowEntry) (g : FlowEntry → FlowEntry) :
    updatesFor flows (flows.map g) =
      (flows.filter fun f => f.interface ≠ (g f).interface).map fun f =>
        ([f.remote], (g f).interface) := by
  unfold updatesFor
  rw [← List.map_prod_left_eq_zip, List.filter_map, List.map_map]
  rfl

theorem updatesFor_self (flows : List FlowEntry) : updatesFor flows flows = [] := by
  have hmap := updatesFor_map flows id
  rwa [List.map_id, List.filter_eq_nil_iff.2 (by simp), List.map_nil] at hmap

theorem updateMsgs_flatMap (moved : List FlowEntry) (node : NodeRef) :
    updateMsgs (moved.flatMap fun f => [.target f.localAgent node, .updateMsg [f.remote] node]) =
      moved.map fun f => ([f.remote], node) := by
  induction moved with
  | nil => rfl
  | cons f moved ih =>
    rw [List.flatMap_cons, updateMsgs_append, ih]
    rfl

/-- Where the flows of `redirectFlows` are. -/
theorem interface_of_redirectFlows {target : LocalInterface} {f : FlowEntry}
    (hf : f ∈ (h.redirectFlows tcl target).1.flows) : f.interface = tcl.getNode target.mac := by
  obtain ⟨f₀, -, rfl⟩ := List.mem_map.1 hf
  split_ifs with hne
  · rfl
  · exact not_not.1 hne

theorem updateMsgs_redirectFlows (target : LocalInterface) :
    updateMsgs (h.redirectFlows tcl target).2 =
      updatesFor h.flows (h.redirectFlows tcl target).1.flows := by
  rw [redirectFlows, updateMsgs_flatMap, updatesFor_map]
  set node := tcl.getNode target.mac
  have hmoved : ∀ f : FlowEntry,
      (if f.interface ≠ node then f.updateInterface node else f).interface = node := by
    intro f
    split_ifs with hne
    · rfl
    · exact not_not.1 hne
  simp only [hmoved]

/-- With a target, all flows are on its node and each that changed was announced. -/
theorem processLinkDown_of_target (tcl : Tcl) (hc : h.connectingMac = -1)
    (ht : linkDownTarget ifaces e.linkIdentifier.macMobileTerminal = some t) :
    (h.processLinkDown tcl ifaces e).1.flows = (h.redirectFlows tcl t).1.flows ∧
      updateMsgs (h.processLinkDown tcl ifaces e).2 =
        updatesFor h.flows (h.processLinkDown tcl ifaces e).1.flows := by
  have hflows : (h.processLinkDown tcl ifaces e).1.flows = (h.redirectFlows tcl t).1.flows := by
    simp [processLinkDown, hc, ht]
  refine ⟨hflows, ?_⟩
  rw [hflows, ← updateMsgs_redirectFlows]
  simp [processLinkDown, hc, ht, updateMsgs_append, updateMsgs_requestScan]

/-- Without a target the flows stay where they are. -/
theorem processLinkDown_of_none (tcl : Tcl) (hc : h.connectingMac = -1)
    (ht : linkDownTarget ifaces e.linkIdentifier.macMobileTerminal = none) :
    (h.processLinkDown tcl ifaces e).1.flows = h.flows ∧
      updateMsgs (h.processLinkDown tcl ifaces e).2 = [] := by
  constructor
  · simp [processLinkDown, hc, ht]
  · simp only [processLinkDown, hc, ht, ne_eq, not_true, if_false, updateMsgs_append,
      updateMsgs_requestScan, List.append_nil]
    split_ifs
    · exact updateMsgs_turnOn
    · rfl

theorem map_ends_redirectFlows (target : LocalInterface) :
    (h.redirectFlows tcl target).1.flows.map FlowEntry.ends = h.flows.map FlowEntry.ends := by
  unfold redirectFlows
  rw [List.map_map]
  refine List.map_congr_left fun f _ => ?_
  show FlowEntry.ends (ite _ _ _) = f.ends
  split_ifs <;> rfl

/-- A link down that is not ignored finds a target exactly when another interface is up.  The target
is the best of those; all flows, which are the same as before, are on its node.  An update message
was sent for each flow that changed and for no other. -/
theorem processLinkDown_best (tcl : Tcl) (e : LinkDown) (hc : h.connectingMac = -1)
    (htypes : ∀ i ∈ ifaces, IsRanked i.val.type) :
    ((linkDownTarget ifaces e.linkIdentifier.macMobileTerminal).isSome = true ↔
        ∃ i ∈ ifaces, i.val.macAddr ≠ e.linkIdentifier.macMobileTerminal ∧ i.val.status = .up) ∧
      (∀ t, linkDownTarget ifaces e.linkIdentifier.macMobileTerminal = some t →
        IsBestOther ifaces e.linkIdentifier.macMobileTerminal t ∧
          ∀ f ∈ (h.processLinkDown tcl ifaces e).1.flows, f.interface = tcl.getNode t.mac) ∧
      (h.processLinkDown tcl ifaces e).1.flows.map FlowEntry.ends = h.flows.map FlowEntry.ends ∧
      updateMsgs (h.processLinkDown tcl ifaces e).2 =
        updatesFor h.flows (h.processLinkDown tcl ifaces e).1.flows := by
  refine ⟨isSome_linkDownTarget, fun t ht => ⟨isBestOther_of_linkDownTarget htypes ht, ?_⟩, ?_⟩
  · intro f hf
    rw [(processLinkDown_of_target tcl hc ht).1] at hf
    exact interface_of_redirectFlows hf
  · cases ht : linkDownTarget ifaces e.linkIdentifier.macMobileTerminal with
    | some t =>
      obtain ⟨hflows, hmsgs⟩ := processLinkDown_of_target tcl hc ht
      exact ⟨hflows ▸ map_ends_redirectFlows t, hmsgs⟩
    | none =>
      obtain ⟨hflows, hmsgs⟩ := processLinkDown_of_none tcl hc ht
      rw [hflows, hmsgs, updatesFor_self]
      exact ⟨rfl, rfl⟩

/-- The interface 1 goes down; of the others, UMTS and 802.16 are up. -/
def nodeInterfaces : List LocalInterface :=
  [nodeInterface 1 link80211 .down, nodeInterface 2 linkUmts .up,
    nodeInterface 3 linkEthernet .down, nodeInterface 4 link80216 .up]

/-- A module with a flow on the node 1 and one on the node 4. -/
def twoFlows : HandoverAgent where
  flows := [⟨10, 20, 1⟩, ⟨11, 21, 4⟩]

/-- The flow on the node 1 goes to the node 4. -/
theorem processLinkDown_best_sample :
    let e : LinkDown := ⟨⟨link80211, 1, 7⟩, 0, 0⟩
    twoFlows.connectingMac = -1 ∧ (∀ i ∈ nodeInterfaces, IsRanked i.val.type) ∧
      (twoFlows.processLinkDown numberedTcl nodeInterfaces e).1.flows.map
        FlowEntry.interface = [4, 4] ∧
      updateMsgs (twoFlows.processLinkDown numberedTcl nodeInterfaces e).2 = [([20], 4)] := by
  intro e
  have hc : twoFlows.connectingMac = -1 := by decide
  have htypes : ∀ i ∈ nodeInterfaces, IsRanked i.val.type := by decide
  obtain ⟨-, -, -, hmsgs⟩ := processLinkDown_best numberedTcl e hc htypes
  refine ⟨hc, htypes, by decide, ?_⟩
  rw [hmsgs]
  decide

end HandoverAgent

end SipNemo.Handover
