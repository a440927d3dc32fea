import SipNemo.Handover.Agent

/-!
# The confirmation of a scan

`process_scan_conf` of `Handover1` and `Handover2`.  When no result has another point of attachment,
the flows of the scanned interface go to other interfaces.  The inner loop ends with the first flow
it finds, so each interface that is up takes one flow: `processScanConf_empties_iff` counts them.
-/

namespace SipNemo.Handover

open Mih FirstMatch Runs

/-- A result, with the list of `BSSDescription` that the response of an 802.11 scan points to. -/
structure ScanResult where
  entry : ScanRspEntry
  bssDesc : List MacAddr

/-- `(int *) scanResponse`; the lowest byte of an `int` comes first. -/
def ints : List (BitVec 8) → List (BitVec 32)
  | a :: b :: c :: d :: bytes =>
    (a.setWidth 32 ||| b.setWidth 32 <<< 8 ||| c.setWidth 32 <<< 16 ||| d.setWidth 32 <<< 24) ::
      ints bytes
  | _ => []

namespace ScanResult

/-- The scanned interface. -/
def macAddr (r : ScanResult) : MacAddr := ethToInt r.entry.macMobileTerminal

/-- The first point of attachment found that is not the old one. -/
def newPoA (r : ScanResult) : Option MacAddr :=
  if r.entry.linkType = link80211 then
    r.bssDesc.find? fun bssId => bssId ≠ ethToInt r.entry.macPoA
  else if r.entry.linkType = link80216 then
    (ints r.entry.scanResponse).find? fun poa => ethToInt r.entry.macPoA ≠ poa
  else none

end ScanResult

namespace HandoverAgent

/-! ### `process_scan_conf` -/

/-- The loop over the results: each is no longer pending, and its new point of attachment, if there
is one, is connected to. -/
def connectLoop : HandoverAgent → List ScanResult → HandoverAgent × List HandoverOutput
  | h, [] => (h, [])
  | h, r :: rs =>
    let h := { h with pendingScan := h.pendingScan.filter fun m => m ≠ r.macAddr }
    match r.newPoA with
    | none => connectLoop h rs
    | some poa =>
      let (h, out) := connectLoop { h with connectingMac := r.macAddr } rs
      (h, .configureLinkId ⟨r.entry.linkType, r.macAddr, poa⟩ :: out)

/-- "Scan periodically": the timer of the first result. -/
def startScanTimer (h : HandoverAgent) (r : ScanResult) : HandoverAgent × List HandoverOutput :=
  if r.entry.linkType = link80211 then
    ({ h with scanTimer := some (link80211, r.macAddr) },
      [if h.scanTimer = none then .schedScanTimer 3 else .reschedScanTimer 3])
  else (h, [])

/-- A flow is on the node. -/
def onNode (node : NodeRef) (f : FlowEntry) : Bool := f.interface = node

/-- The first flow on the node goes to the interface; only `Handover2` records its MAC. -/
def takeFlow (recordsMac : Bool) (tcl : Tcl) (node : NodeRef) (h : HandoverAgent)
    (i : LocalInterface) : HandoverAgent :=
  { h with
    flows := updateFirst (onNode node) (fun f => f.updateInterface (tcl.getNode i.mac)) h.flows
    redirectMac := if recordsMac then i.mac.addr else h.redirectMac }

/-- The loops over the interfaces and the flows: each interface that is up takes one flow. -/
def spreadFlows (recordsMac : Bool) (tcl : Tcl) (node : NodeRef) :
    HandoverAgent → List LocalInterface → HandoverAgent × List HandoverOutput
  | h, [] => (h, [])
  | h, i :: is =>
    if i.val.status = .up then
      match h.flows.find? (onNode node) with
      | none => spreadFlows recordsMac tcl node h is
      | some f =>
        let newNode := tcl.getNode i.mac
        let (h, out) := spreadFlows recordsMac tcl node (h.takeFlow recordsMac tcl node i) is
        (h, [.target f.localAgent newNode, .updateMsg [f.remote] newNode] ++ out)
    else spreadFlows recordsMac tcl node h is

/-- The common form of the two `process_scan_conf`. -/
def scanConf (recordsMac : Bool) (tcl : Tcl) (h : HandoverAgent) (mih : LocalAgent)
    (rsp : List ScanResult) : Act (HandoverAgent × List HandoverOutput) := do
  let (h, out) := h.connectLoop rsp
  if rsp.any fun r => r.newPoA.isSome then pure (h, out)
  else
    let first ← (rsp.head?.elim (.error .outOfRange) .ok : Act ScanResult)
    let mac ← deref (← mih.getMac first.macAddr)
    let (h, timer) := h.startScanTimer first
    let (h, moves) := h.spreadFlows recordsMac tcl (tcl.getNode mac) mih.getInterfaces
    pure (h, out ++ timer ++ moves)

end HandoverAgent

/-- `Handover1::process_scan_conf`. -/
def Handover1.processScanConf := HandoverAgent.scanConf false

/-- `Handover2::process_scan_conf`. -/
def Handover2.processScanConf := HandoverAgent.scanConf true

namespace HandoverAgent

variable {recordsMac : Bool} {tcl : Tcl} {node : NodeRef} {h : HandoverAgent}

/-! ### What the loops do -/

/-- The interfaces that take a flow away: those on the node itself put it back. -/
def takes (tcl : Tcl) (node : NodeRef) (i : LocalInterface) : Bool :=
  i.val.status = .up ∧ tcl.getNode i.mac ≠ node

theorem countP_takeFlow (recordsMac : Bool) (tcl : Tcl) (node : NodeRef) (h : HandoverAgent)
    {i : LocalInterface} (hup : i.val.status = .up) :
    (h.takeFlow recordsMac tcl node i).flows.countP (onNode node) =
      h.flows.countP (onNode node) - if takes tcl node i then 1 else 0 := by
  by_cases hnode : tcl.getNode i.mac = node
  · have hmatch : ∀ f : FlowEntry, onNode node (f.updateInterface (tcl.getNode i.mac)) = true :=
      fun _ => decide_eq_true hnode
    simpa [takeFlow, takes, hnode] using countP_updateFirst_of_match hmatch h.flows
  · have hleave : ∀ f : FlowEntry, onNode node (f.updateInterface (tcl.getNode i.mac)) = false :=
      fun _ => decide_eq_false hnode
    simpa [takeFlow, takes, hup, hnode] using countP_updateFirst_of_unmatched hleave h.flows

/-- One interface, one flow. -/
theorem countP_spreadFlows (recordsMac : Bool) (tcl : Tcl) (node : NodeRef) (h : HandoverAgent)
    (ifaces : List LocalInterface) :
    (h.spreadFlows recordsMac tcl node ifaces).1.flows.countP (onNode node) =
      h.flows.countP (onNode node) - ifaces.countP (takes tcl node) := by
  induction ifaces generalizing h with
  | nil => rfl
  | cons i ifaces ih =>
    unfold spreadFlows
    by_cases hup : i.val.status = .up
    · rw [if_pos hup]
      cases hfind : h.flows.find? (onNode node) with
      | none =>
        have hzero : h.flows.countP (onNode node) = 0 :=
          List.countP_eq_zero.2 (List.find?_eq_none.1 hfind)
        show (h.spreadFlows recordsMac tcl node ifaces).1.flows.countP (onNode node) = _
        rw [ih, hzero, Nat.zero_sub, Nat.zero_sub]
      | some f =>
        refine (ih (h.takeFlow recordsMac tcl node i)).trans ?_
        rw [countP_takeFlow recordsMac tcl node h hup, List.countP_cons]
        omega
    · rw [if_neg hup, ih, List.countP_cons_of_neg (by simp [takes, hup])]

/-- What the loops do to a flow: nothing, or, on the node, a move to one of the interfaces. -/
def Moved (tcl : Tcl) (ifaces : List LocalInterface) (node : NodeRef) (f f' : FlowEntry) : Prop :=
  f'.ends = f.ends ∧ (f'.interface = f.interface ∨
    f.interface = node ∧ ∃ i ∈ ifaces, i.val.status = .up ∧ f'.interface = tcl.getNode i.mac)

variable {ifaces : List LocalInterface}

theorem Moved.refl (f : FlowEntry) : Moved tcl ifaces node f f := ⟨rfl, Or.inl rfl⟩

theorem Moved.trans (f f' f'' : FlowEntry) (h₁ : Moved tcl ifaces node f f')
    (h₂ : Moved tcl ifaces node f' f'') : Moved tcl ifaces node f f'' := by
  refine ⟨h₂.1.trans h₁.1, ?_⟩
  rcases h₁.2 with heq | ⟨hf, -⟩
  · rw [← heq]
    exact h₂.2
  · rcases h₂.2 with heq' | ⟨-, hup⟩
    · rw [heq']
      exact h₁.2
    · exact Or.inr ⟨hf, hup⟩

theorem forall₂_takeFlow {i : LocalInterface} (hi : i ∈ ifaces) (hup : i.val.status = .up) :
    List.Forall₂ (Moved tcl ifaces node) h.flows (h.takeFlow recordsMac tcl node i).flows := by
  refine forall₂_updateFirst Moved.refl (fun f hf => ?_) h.flows
  exact ⟨rfl, Or.inr ⟨of_decide_eq_true hf, i, hi, hup, rfl⟩⟩

/-- The loops move each flow at most to an interface that is up. -/
theorem forall₂_spreadFlows (recordsMac : Bool) (tcl : Tcl) (node : NodeRef) (h : HandoverAgent)
    {is : List LocalInterface} (hsub : ∀ i ∈ is, i ∈ ifaces) :
    List.Forall₂ (Moved tcl ifaces node) h.flows
      (h.spreadFlows recordsMac tcl node is).1.flows := by
  induction is generalizing h with
  | nil => exact List.forall₂_same.2 fun f _ => Moved.refl f
  | cons i is ih =>
    have hrest := fun j hj => hsub j (List.mem_cons_of_mem i hj)
    unfold spreadFlows
    split_ifs with hup
    · split
      · exact ih h hrest
      · exact forall₂_trans Moved.trans (forall₂_takeFlow (hsub i List.mem_cons_self) hup)
          (ih _ hrest)
    · exact ih h hrest

/-! ### A scan that finds nothing -/

/-- The node has lost its flows to interfaces that are up. -/
structure Emptied (tcl : Tcl) (ifaces : List LocalInterface) (node : NodeRef)
    (flows flows' : List FlowEntry) : Prop where
  empty : ∀ f ∈ flows', f.interface ≠ node
  moved : List.Forall₂ (fun f f' => f'.ends = f.ends ∧ (f.interface = node →
    ∃ i ∈ ifaces, i.val.status = .up ∧ f'.interface = tcl.getNode i.mac)) flows flows'

/-- The confirmation returns, with the node emptied. -/
def Empties (tcl : Tcl) (h : HandoverAgent) (mih : LocalAgent) (node : NodeRef)
    (r : Act (HandoverAgent × List HandoverOutput)) : Prop :=
  ∃ h' out, r = .ok (h', out) ∧ Emptied tcl mih.getInterfaces node h.flows h'.flows

theorem empties_ok {node : NodeRef} {h' : HandoverAgent} {out : List HandoverOutput}
    {mih : LocalAgent} : Empties tcl h mih node (.ok (h', out)) ↔
      Emptied tcl mih.getInterfaces node h.flows h'.flows := by
  constructor
  · rintro ⟨_, _, heq, he⟩
    cases heq
    exact he
  · exact fun he => ⟨h', out, rfl, he⟩

theorem emptied_iff {flows flows' : List FlowEntry}
    (hmoved : List.Forall₂ (Moved tcl ifaces node) flows flows') :
    Emptied tcl ifaces node flows flows' ↔ flows'.countP (onNode node) = 0 := by
  rw [List.countP_eq_zero]
  constructor
  · intro he f hf hnode
    exact he.empty f hf (of_decide_eq_true hnode)
  · intro hzero
    have hempty : ∀ f ∈ flows', f.interface ≠ node :=
      fun f hf hnode => hzero f hf (decide_eq_true hnode)
    refine ⟨hempty, ?_⟩
    induction hmoved with
    | nil => exact .nil
    | @cons f f' _ _ hm _ ih =>
      have hf' := hempty f' List.mem_cons_self
      refine .cons ⟨hm.1, fun hf => ?_⟩ (ih (fun g hg => hzero g (List.mem_cons_of_mem f' hg))
        fun g hg => hempty g (List.mem_cons_of_mem f' hg))
      rcases hm.2 with heq | ⟨-, hup⟩
      · exact absurd (heq.trans hf) hf'
      · exact hup

theorem flows_connectLoop (rsp : List ScanResult) : (h.connectLoop rsp).1.flows = h.flows := by
  induction rsp generalizing h with
  | nil => rfl
  | cons r rsp ih =>
    unfold connectLoop
    split
    · exact ih
    · exact ih

theorem flows_startScanTimer (r : ScanResult) : (h.startScanTimer r).1.flows = h.flows := by
  unfold startScanTimer
  split_ifs <;> rfl

variable {mih : LocalAgent} {rsp : List ScanResult} {first : ScanResult} {scanned : LocalInterface}

theorem getMac_of_getInterface {m : MacAddr} {i : LocalInterface}
    (hi : mih.getInterface m = some i.val) : mih.getMac m = .ok (some i.mac) := by
  unfold MIHAgent.getMac
  rw [hi]
  exact congrArg Except.ok (Option.some_get i.property).symm

/-- What `scanConf` does when nothing new is found. -/
theorem scanConf_of_none (recordsMac : Bool) (tcl : Tcl) (h : HandoverAgent)
    (hfirst : rsp.head? = some first) (hnone : ∀ r ∈ rsp, r.newPoA = none)
    (hscan : mih.getInterface first.macAddr = some scanned.val) :
    ∃ (h₁ : HandoverAgent) (out : List HandoverOutput),
      h₁.flows = h.flows ∧ h.scanConf recordsMac tcl mih rsp =
        .ok ((h₁.spreadFlows recordsMac tcl (tcl.getNode scanned.mac) mih.getInterfaces).1,
          out) := by
  have hany : (rsp.any fun r => r.newPoA.isSome) = false := by
    rw [List.any_eq_false]
    intro r hr
    simp [hnone r hr]
  have hflows : ((h.connectLoop rsp).1.startScanTimer first).1.flows = h.flows :=
    (flows_startScanTimer first).trans (flows_connectLoop rsp)
  unfold scanConf
  rw [hany, hfirst]
  simp only [Option.elim_some, Bool.false_eq_true, if_false, ok_bind, getMac_of_getInterface hscan]
  exact ⟨_, _, hflows, rfl⟩

theorem scanConf_empties_iff (hfirst : rsp.head? = some first)
    (hnone : ∀ r ∈ rsp, r.newPoA = none)
    (hscan : mih.getInterface first.macAddr = some scanned.val) :
    Empties tcl h mih (tcl.getNode scanned.mac) (h.scanConf recordsMac tcl mih rsp) ↔
      h.flows.countP (onNode (tcl.getNode scanned.mac)) ≤
        mih.getInterfaces.countP (takes tcl (tcl.getNode scanned.mac)) := by
  obtain ⟨h₁, out, hflows, hrun⟩ := scanConf_of_none recordsMac tcl h hfirst hnone hscan
  set node := tcl.getNode scanned.mac
  have hmoved := forall₂_spreadFlows recordsMac tcl node h₁ fun i (hi : i ∈ mih.getInterfaces) => hi
  have hcount := countP_spreadFlows recordsMac tcl node h₁ mih.getInterfaces
  rw [hflows] at hmoved hcount
  rw [hrun, empties_ok, emptied_iff hmoved, hcount, Nat.sub_eq_zero_iff_le]

/-- Both modules empty the node exactly when there are as many interfaces that are up, on other
nodes, as there are flows on it. -/
theorem processScanConf_empties_iff (tcl : Tcl) (h : HandoverAgent)
    (hfirst : rsp.head? = some first) (hnone : ∀ r ∈ rsp, r.newPoA = none)
    (hscan : mih.getInterface first.macAddr = some scanned.val) :
    (Empties tcl h mih (tcl.getNode scanned.mac) (Handover1.processScanConf tcl h mih rsp) ↔
      h.flows.countP (onNode (tcl.getNode scanned.mac)) ≤
        mih.getInterfaces.countP (takes tcl (tcl.getNode scanned.mac))) ∧
    (Empties tcl h mih (tcl.getNode scanned.mac) (Handover2.processScanConf tcl h mih rsp) ↔
      h.flows.countP (onNode (tcl.getNode scanned.mac)) ≤
        mih.getInterfaces.countP (takes tcl (tcl.getNode scanned.mac))) :=
  ⟨scanConf_empties_iff hfirst hnone hscan, scanConf_empties_iff hfirst hnone hscan⟩

/-- Where an emptied node is empty. -/
theorem Empties.countP_eq_zero {r : Act (HandoverAgent × List HandoverOutput)}
    (he : Empties tcl h mih node r) :
    (r.map fun s => s.1.flows.countP (onNode node)) = .ok 0 := by
  obtain ⟨h', out, rfl, hempty⟩ := he
  have hzero : h'.flows.countP (onNode node) = 0 :=
    List.countP_eq_zero.2 fun f hf hnode => hempty.empty f hf (of_decide_eq_true hnode)
  exact congrArg Except.ok hzero

/-- A scan of the interface 1 that finds the old access point only. -/
def fruitlessScan : List ScanResult := [⟨⟨link80211, intToEth 1, intToEth 7, []⟩, [7]⟩]

/-- The node of the scan: two other interfaces, one of which is up. -/
def scannedAgent : LocalAgent :=
  nodeAgent [nodeInterface 1 link80211 .down, nodeInterface 2 link80216 .up,
    nodeInterface 3 link80216 .down]

/-- One flow goes to the interface 2. -/
theorem processScanConf_empties_iff_sample :
    let h : HandoverAgent := { flows := [⟨10, 20, 1⟩, ⟨11, 21, 2⟩] }
    (∀ r ∈ fruitlessScan, r.newPoA = none) ∧
      Empties numberedTcl h scannedAgent 1
        (Handover1.processScanConf numberedTcl h scannedAgent fruitlessScan) ∧
      Empties numberedTcl h scannedAgent 1
        (Handover2.processScanConf numberedTcl h scannedAgent fruitlessScan) := by
  intro h
  have hnone : ∀ r ∈ fruitlessScan, r.newPoA = none := by decide
  have hiff := processScanConf_empties_iff numberedTcl h rfl hnone
    (show scannedAgent.getInterface 1 = some (nodeInterface 1 link80211 .down).val from rfl)
  exact ⟨hnone, hiff.1.2 (by decide), hiff.2.2 (by decide)⟩

/-- The second of two flows stays on the node. -/
theorem fruitlessScan_leaves_flow :
    let h : HandoverAgent := { flows := [⟨10, 20, 1⟩, ⟨11, 21, 1⟩] }
    (∀ r ∈ fruitlessScan, r.newPoA = none) ∧
      (∃ i ∈ scannedAgent.getInterfaces, i.val.macAddr ≠ 1 ∧ i.val.status = .up) ∧
      ¬ Empties numberedTcl h scannedAgent 1
        (Handover1.processScanConf numberedTcl h scannedAgent fruitlessScan) ∧
      ¬ Empties numberedTcl h scannedAgent 1
        (Handover2.processScanConf numberedTcl h scannedAgent fruitlessScan) := by
  intro h
  have hrun : ∀ recordsMac, ((HandoverAgent.scanConf recordsMac numberedTcl h scannedAgent
      fruitlessScan).map fun s => s.1.flows.countP (onNode 1)) = .ok 1 := by
    decide
  refine ⟨by decide, by decide, fun he => ?_, fun he => ?_⟩
  · have hzero := he.countP_eq_zero
    rw [Handover1.processScanConf, hrun] at hzero
    cases hzero
  · have hzero := he.countP_eq_zero
    rw [Handover2.processScanConf, hrun] at hzero
    cases hzero

end HandoverAgent

end SipNemo.Handover
