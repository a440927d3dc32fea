import SipNemo.Mih.Types
import SipNemo.Net.TimerHandler

/-!
# A station of a wireless network

What `Mac802_11` keeps of its attachment to an access point and of a scan in progress: commands of
the MIH, timers, beacons and management frames.  The rest of the MAC (carrier sense, data frames,
access points) and the times are left out; a timer may expire at any time while it is pending, and
a management frame is sent, answered or given up at any time while it is in `pktManagement_`.

The MIH hands a scan result to its users before `nextScan` goes on, and they may give commands at
once: these come with the expiry that ends the scan.  What the users do about other events is a
later step.  `log` records what the station does.
-/

namespace SipNemo.Mac

open RequestTable
open Mih (MacAddr)
open TimerHandler (cancelPending cancelPending_ne_pending)

/-- `IBSS_ID`. -/
def ibssId : MacAddr := 0xFFFFFFFF

/-- `MacStateHandover`. -/
inductive MacStateHandover
  | connected | disconnected | beingConnected
  deriving DecidableEq, Repr

/-- `Mac802_11_ScanSteps`. -/
inductive ScanStep
  | none | waiting | active
  deriving DecidableEq, Repr

/-- `Mac802_11_ScanActions`. -/
inductive ScanAction
  | scanAll | stopFirst
  deriving DecidableEq, Repr

/-- `Mac802_11_scan_request_s`, less its times; `nb_channels` is the length of `pref_ch`. -/
structure ScanRequest where
  action : ScanAction
  prefCh : List ℤ
  deriving DecidableEq, Repr

/-- The pointer to a request; the memory behind it may have been freed. -/
inductive ReqPtr
  | null
  | live (req : ScanRequest)
  | freed
  deriving DecidableEq, Repr

/-- Dereference the pointer. -/
def ReqPtr.deref : ReqPtr → Act ScanRequest
  | .live req => .ok req
  | _ => .error .nullPointer

/-- `free`, and the pointer afterwards. -/
def ReqPtr.free : ReqPtr → Act ReqPtr
  | .null => .ok .null
  | .live _ => .ok .freed
  | .freed => .error .nullPointer

theorem ReqPtr.deref_eq_ok {p : ReqPtr} {req : ScanRequest} (h : p.deref = .ok req) :
    p = .live req := by
  cases p <;> cases h
  rfl

theorem ReqPtr.free_ne_live {p q : ReqPtr} (h : p.free = .ok q) (r : ScanRequest) :
    q ≠ .live r := by
  cases p with
  | null => simp [ReqPtr.free] at h; simp [← h]
  | live => simp [ReqPtr.free] at h; simp [← h]
  | freed => cases h

/-- `BSSDescription`, less the beacon period and the capability, which are constants. -/
structure BSSDescription where
  bssId : MacAddr
  channel : ℤ
  deriving DecidableEq, Repr

/-- The management frames of a station. -/
inductive ManagementFrame
  | probeRequest
  | assocRequest (dst : MacAddr)
  deriving DecidableEq, Repr

/-- What a station does: it tunes to a channel and sends events to the MIH. -/
inductive MacOutput
  | setFreq (channel : ℤ)
  | linkUp (newPoA oldPoA : MacAddr)
  | linkDown (poA : MacAddr)
  | linkDetected (poA : MacAddr)
  | handoverImminent (oldPoA newPoA : MacAddr)
  | handoverComplete (oldPoA newPoA : MacAddr)
  | scanResult (bssDesc : List BSSDescription)
  deriving DecidableEq, Repr

/-- The commands of the MIH. -/
inductive LinkCommand
  | connect (macPoA : MacAddr)
  | disconnect
  | scan (req : ScanRequest)
  deriving DecidableEq, Repr

/-- A station of `Mac802_11`. -/
structure Mac80211 where
  addr : MacAddr
  mih : Bool
  bssId : MacAddr := ibssId
  oldBssId : MacAddr := ibssId
  channel : ℤ := 1
  hdvState : MacStateHandover := .disconnected
  handover : Bool := false
  step : ScanStep := .none
  req : ReqPtr := .null
  resp : Option (List BSSDescription) := none
  scanIndex : ℕ := 0
  recvdResponse : Bool := false
  origCh : ℤ := 0
  minTimer : TimerStatus := .idle
  maxTimer : TimerStatus := .idle
  probeTimer : TimerStatus := .idle
  bssTimer : TimerStatus := .idle
  channelIDAfterScan : MacAddr → ℤ := fun _ => 0
  pktManagement : Option ManagementFrame := none
  log : List MacOutput := []

namespace Mac80211

variable (s : Mac80211)

/-! ### The radio -/

def emit (o : MacOutput) : Mac80211 := { s with log := s.log ++ [o] }

/-- `set-freq` with `calFreq`. -/
def setFreq (channel : ℤ) : Act Mac80211 :=
  if 0 < channel ∧ channel ≤ 11 then .ok ({ s with channel := channel }.emit (.setFreq channel))
  else .error .assertion

/-- `clear_tx_rx`. -/
def clearTxRx : Mac80211 :=
  { s with
    pktManagement := none
    maxTimer := cancelPending s.maxTimer
    minTimer := cancelPending s.minTimer }

/-! ### Commands -/

/-- `link_disconnect`. -/
def linkDisconnect : Mac80211 :=
  let s := { s with
    bssTimer := cancelPending s.bssTimer
    oldBssId := s.bssId
    bssId := ibssId
    hdvState := .disconnected }
  let s := s.clearTxRx
  if s.oldBssId ≠ ibssId then { s.emit (.linkDown s.oldBssId) with handover := false } else s

/-- `sendAssocRequest`. -/
def sendAssocRequest (dst : MacAddr) : Act Mac80211 :=
  let s := { s with hdvState := .beingConnected }
  if s.pktManagement = none then .ok { s with pktManagement := some (.assocRequest dst) }
  else .error .assertion

/-- `link_connect`. -/
def linkConnect (macPoA : MacAddr) : Act Mac80211 := do
  let s :=
    if s.bssId ≠ ibssId ∧ macPoA ≠ s.bssId then
      let s := { s.linkDisconnect with handover := true }
      s.emit (.handoverImminent s.bssId macPoA)
    else { s.clearTxRx with oldBssId := s.bssId }
  let s ← s.setFreq (s.channelIDAfterScan macPoA)
  let s := { s with step := .none }
  if s.minTimer = .pending then .error .assertion
  else
    let s := { s with maxTimer := cancelPending s.maxTimer, bssId := macPoA }
    s.sendAssocRequest macPoA

/-- `link_scan`. -/
def linkScan (req : ScanRequest) : Act Mac80211 :=
  if s.step ≠ .none then .ok s
  else do
    let s := { s with
      req := .live req
      scanIndex := 0
      step := .waiting
      resp := some []
      origCh := s.channel
      recvdResponse := false }
    let channel ← index req.prefCh 0
    let s ← (if s.origCh ≠ channel then (s.setFreq channel).map clearTxRx else .ok s)
    .ok { s with
      minTimer := .pending
      maxTimer := .pending
      probeTimer := .pending
      hdvState := .disconnected
      oldBssId := s.bssId
      bssId := ibssId
      bssTimer := cancelPending s.bssTimer }

/-- A command of the MIH. -/
def command : LinkCommand → Act Mac80211
  | .connect macPoA => s.linkConnect macPoA
  | .disconnect => .ok s.linkDisconnect
  | .scan req => s.linkScan req

/-! ### Scanning -/

/-- `sendProbeRequest`. -/
def sendProbeRequest : Mac80211 :=
  if s.pktManagement.isSome then s else { s with pktManagement := some .probeRequest }

/-- The access point `src` was heard during a scan. -/
def addDescription (src : MacAddr) : Act Mac80211 := do
  let resp ← SipNemo.deref s.resp
  if resp.any fun n => n.bssId = src then .ok s
  else do
    let req ← s.req.deref
    let channel ← index req.prefCh s.scanIndex
    .ok { s with resp := some (⟨src, channel⟩ :: resp) }

/-- The last branch stores the channels of the access points that were found. -/
def storeChannels (resp : List BSSDescription) : Mac80211 :=
  { s with
    channelIDAfterScan :=
      resp.foldl (fun f n => Function.update f n.bssId n.channel) s.channelIDAfterScan }

/-- `send_scan_result`, with the commands that the users of the MIH give at once. -/
def sendScanResult (resp : List BSSDescription) (react : List LinkCommand) : Act Mac80211 :=
  react.foldlM command (s.emit (.scanResult resp))

/-- The first branch of `nextScan`: a response stops the scan. -/
def stopScan (react : List LinkCommand) : Act Mac80211 := do
  let resp ← SipNemo.deref s.resp
  let s := { s with
    maxTimer := cancelPending s.maxTimer
    minTimer := cancelPending s.minTimer }
  let s ← s.sendScanResult resp react
  let req ← s.req.free
  .ok { s with req := req, recvdResponse := false }

/-- The second branch: the next channel. -/
def nextChannel (req : ScanRequest) : Act Mac80211 := do
  let s := { s with
    scanIndex := s.scanIndex + 1
    maxTimer := cancelPending s.maxTimer }
  let channel ← index req.prefCh s.scanIndex
  let s ← s.setFreq channel
  .ok { s.clearTxRx with
    minTimer := .pending
    maxTimer := .pending
    probeTimer := .pending
    recvdResponse := false }

/-- The last branch: all channels have been scanned. -/
def endScan (react : List LinkCommand) : Act Mac80211 := do
  let s ← { s with scanIndex := s.scanIndex + 1 }.setFreq s.origCh
  let resp ← SipNemo.deref s.resp
  let s := { s with
    step := .none
    bssId := s.oldBssId
    maxTimer := cancelPending s.maxTimer
    minTimer := cancelPending s.minTimer }
  let s := { s.clearTxRx with
    hdvState := .connected
    bssTimer := .pending }
  let s ← (s.storeChannels resp).sendScanResult resp react
  let _ ← s.req.free
  .ok { s with resp := none, req := .null, recvdResponse := false }

/-- `nextScan`. -/
def nextScan (react : List LinkCommand) : Act Mac80211 := do
  let req ← s.req.deref
  if req.action = .stopFirst ∧ s.recvdResponse then s.stopScan react
  else if s.scanIndex + 1 < req.prefCh.length then s.nextChannel req
  else s.endScan react

/-! ### Timers -/

/-- `ProbeDelayTimer`. -/
def probeExpire : Act Mac80211 := do
  let t ← TimerHandler.handle s.probeTimer
  let s := { s with probeTimer := t }.sendProbeRequest
  .ok { s with probeTimer := TimerHandler.finish s.probeTimer }

/-- `MinScanTimer`. -/
def minExpire (react : List LinkCommand) : Act Mac80211 := do
  let t ← TimerHandler.handle s.minTimer
  let s := { s with minTimer := t }
  let s ← (if s.recvdResponse then
      s.req.deref.map fun _ => { s with minTimer := .pending }.sendProbeRequest
    else s.nextScan react)
  .ok { s with minTimer := TimerHandler.finish s.minTimer }

/-- `MaxScanTimer`. -/
def maxExpire (react : List LinkCommand) : Act Mac80211 := do
  let t ← TimerHandler.handle s.maxTimer
  let s ← { s with maxTimer := t }.nextScan react
  .ok { s with maxTimer := TimerHandler.finish s.maxTimer }

/-- `BSSTimer`. -/
def bssExpire : Act Mac80211 := do
  let t ← TimerHandler.handle s.bssTimer
  let s := { s with bssTimer := t }
  let s := if s.bssId ≠ ibssId then s.linkDisconnect else s
  .ok { s with bssTimer := TimerHandler.finish s.bssTimer }

/-! ### Frames -/

/-- `recvBeacon`; `strong` tells whether the signal is strong enough for a link detected event. -/
def recvBeacon (src : MacAddr) (strong : Bool) : Act Mac80211 :=
  if s.addr = s.bssId then .ok s
  else if src = s.bssId then .ok { s with bssTimer := .pending }
  else if s.step ≠ .none then
    (s.addDescription src).map fun s => { s with recvdResponse := true }
  else if s.hdvState = .disconnected then
    let s := { s with channelIDAfterScan := Function.update s.channelIDAfterScan src s.channel }
    if s.mih then .ok (if strong then s.emit (.linkDetected src) else s) else s.linkConnect src
  else .ok s

/-- `recvProbeResponse`; `busy` tells whether a control frame is pending. -/
def recvProbeResponse (src : MacAddr) (busy : Bool) : Act Mac80211 :=
  let s := { s with recvdResponse := true }
  if busy then .ok s
  else if s.step = .none then .ok s
  else do
    let _ ← assertNonNull s.resp
    s.addDescription src

/-- `recvAssocResponse`; `busy` as above. -/
def recvAssocResponse (src : MacAddr) (accepted busy : Bool) : Mac80211 :=
  if busy then s
  else if src = s.bssId ∧ s.hdvState = .connected then s
  else if accepted then
    let s := { s with bssId := src, hdvState := .connected }
    let s := if s.handover then s.emit (.handoverComplete s.oldBssId s.bssId) else s
    { s with handover := false }.emit (.linkUp src s.oldBssId)
  else { s with bssId := ibssId }.linkDisconnect

/-- The frame in `pktManagement_` was sent or acknowledged. -/
def managementSent : Mac80211 := { s with pktManagement := none }

/-- `RetransmitManagement` when the frame has been repeated too often: after an association request
the station disconnects. -/
def managementFailed : Mac80211 :=
  match s.pktManagement with
  | some (.assocRequest _) => { s.linkDisconnect with pktManagement := none }
  | _ => { s with pktManagement := none }

/-- What happens to a station. -/
inductive Input
  | command (c : LinkCommand)
  | probeExpire
  | minExpire (react : List LinkCommand)
  | maxExpire (react : List LinkCommand)
  | bssExpire
  | beacon (src : MacAddr) (strong : Bool)
  | probeResponse (src : MacAddr) (busy : Bool)
  | assocResponse (src : MacAddr) (accepted busy : Bool)
  | managementSent
  | managementFailed

def perform : Input → Act Mac80211
  | .command c => s.command c
  | .probeExpire => s.probeExpire
  | .minExpire react => s.minExpire react
  | .maxExpire react => s.maxExpire react
  | .bssExpire => s.bssExpire
  | .beacon src strong => s.recvBeacon src strong
  | .probeResponse src busy => s.recvProbeResponse src busy
  | .assocResponse src accepted busy => .ok (s.recvAssocResponse src accepted busy)
  | .managementSent => .ok s.managementSent
  | .managementFailed => .ok s.managementFailed

/-! ### What the operations change -/

section Effects

variable {s} {s' : Mac80211} {src : MacAddr}

theorem setFreq_eq_ok {channel : ℤ} (h : s.setFreq channel = .ok s') :
    s' = { s with channel := channel }.emit (.setFreq channel) := by
  unfold setFreq at h
  split_ifs at h
  exact (Except.ok.inj h).symm

/-- The beginning of `link_connect`: an access point is given up before another one is asked. -/
def leave (s : Mac80211) (macPoA : MacAddr) : Mac80211 :=
  if s.bssId ≠ ibssId ∧ macPoA ≠ s.bssId then
    { s.linkDisconnect with handover := true }.emit
      (.handoverImminent s.linkDisconnect.bssId macPoA)
  else { s.clearTxRx with oldBssId := s.bssId }

/-- The rest of it, on the channel that the station has for the access point. -/
def askFor (s : Mac80211) (macPoA : MacAddr) : Mac80211 :=
  { s.emit (.setFreq (s.channelIDAfterScan macPoA)) with
    channel := s.channelIDAfterScan macPoA
    step := .none
    maxTimer := cancelPending s.maxTimer
    bssId := macPoA
    hdvState := .beingConnected
    pktManagement := some (.assocRequest macPoA) }

/-- A station that leaves has its timers off and no frame to send, and keeps the rest. -/
theorem leave_cleared (s : Mac80211) (macPoA : MacAddr) :
    (s.leave macPoA).minTimer ≠ .pending ∧ (s.leave macPoA).pktManagement = none ∧
      (s.leave macPoA).channelIDAfterScan = s.channelIDAfterScan ∧
        (s.leave macPoA).req = s.req ∧ (s.leave macPoA).resp = s.resp ∧
          (s.leave macPoA).probeTimer = s.probeTimer := by
  unfold leave linkDisconnect
  dsimp only
  split_ifs <;> exact ⟨cancelPending_ne_pending, rfl, rfl, rfl, rfl, rfl⟩

/-- Only the channel can make `link_connect` fail. -/
theorem linkConnect_eq (s : Mac80211) (macPoA : MacAddr) :
    s.linkConnect macPoA =
      if 0 < s.channelIDAfterScan macPoA ∧ s.channelIDAfterScan macPoA ≤ 11 then
        .ok ((s.leave macPoA).askFor macPoA)
      else .error .assertion := by
  obtain ⟨hmin, hframe, hmap, -⟩ := leave_cleared s macPoA
  have hsplit : s.linkConnect macPoA =
      (s.leave macPoA).setFreq ((s.leave macPoA).channelIDAfterScan macPoA) >>= fun t =>
        if t.minTimer = .pending then .error .assertion
        else sendAssocRequest { t with
          step := .none
          maxTimer := cancelPending t.maxTimer
          bssId := macPoA } macPoA := rfl
  rw [hsplit, hmap]
  unfold setFreq
  split_ifs
  · simp [emit, hmin, sendAssocRequest, hframe, askFor, hmap]
  · rfl

theorem linkConnect_ok {macPoA : MacAddr} (h : s.linkConnect macPoA = .ok s') :
    s' = (s.leave macPoA).askFor macPoA ∧
      0 < s.channelIDAfterScan macPoA ∧ s.channelIDAfterScan macPoA ≤ 11 := by
  rw [linkConnect_eq] at h
  split_ifs at h with hband
  exact ⟨(Except.ok.inj h).symm, hband⟩

/-- `link_scan` does nothing during a scan, and otherwise starts one on the first channel. -/
theorem linkScan_cases {req : ScanRequest} (h : s.linkScan req = .ok s') :
    s.step ≠ .none ∧ s' = s ∨
      s.step = .none ∧ ∃ channel frame log, index req.prefCh 0 = .ok channel ∧
        (s.channel ≠ channel → 0 < channel ∧ channel ≤ 11) ∧
        s' = { s with
          req := .live req
          scanIndex := 0
          step := .waiting
          resp := some []
          origCh := s.channel
          recvdResponse := false
          channel := channel
          minTimer := .pending
          maxTimer := .pending
          probeTimer := .pending
          hdvState := .disconnected
          oldBssId := s.bssId
          bssId := ibssId
          bssTimer := cancelPending s.bssTimer
          pktManagement := frame
          log := log } := by
  unfold linkScan at h
  split_ifs at h with hstep
  · exact Or.inl ⟨hstep, (Except.ok.inj h).symm⟩
  · obtain ⟨channel, hchannel, h⟩ := Runs.bind_ok_iff.1 h
    obtain ⟨t, ht, h⟩ := Runs.bind_ok_iff.1 h
    obtain rfl := Except.ok.inj h
    refine Or.inr ⟨not_not.1 hstep, channel, t.pktManagement, t.log, hchannel, ?_⟩
    dsimp only at ht
    split_ifs at ht with hother
    · obtain ⟨u, hu, rfl⟩ := Runs.map_ok_iff.1 ht
      have hu' := setFreq_eq_ok hu
      unfold setFreq at hu
      split_ifs at hu with hband
      rw [hu']
      exact ⟨fun _ => hband, rfl⟩
    · obtain rfl := Except.ok.inj ht
      have hsame : s.channel = channel := not_not.1 hother
      exact ⟨fun hne => absurd hsame hne, hsame ▸ rfl⟩

theorem sendProbeRequest_eq (s : Mac80211) :
    ∃ frame, s.sendProbeRequest = { s with pktManagement := frame } := by
  unfold sendProbeRequest
  split_ifs
  · exact ⟨s.pktManagement, rfl⟩
  · exact ⟨_, rfl⟩

theorem addDescription_ok (h : s.addDescription src = .ok s') :
    ∃ resp, s' = { s with resp := resp } := by
  obtain ⟨resp, hresp, h⟩ := Runs.bind_ok_iff.1 h
  split_ifs at h
  · obtain rfl := Except.ok.inj h
    exact ⟨s.resp, rfl⟩
  · obtain ⟨req, -, h⟩ := Runs.bind_ok_iff.1 h
    obtain ⟨channel, -, h⟩ := Runs.bind_ok_iff.1 h
    exact ⟨_, (Except.ok.inj h).symm⟩

theorem recvProbeResponse_ok {busy : Bool} (h : s.recvProbeResponse src busy = .ok s') :
    ∃ resp, s' = { s with recvdResponse := true, resp := resp } := by
  unfold recvProbeResponse at h
  dsimp only at h
  split_ifs at h
  · exact ⟨s.resp, (Except.ok.inj h).symm⟩
  · exact ⟨s.resp, (Except.ok.inj h).symm⟩
  · obtain ⟨_, -, h⟩ := Runs.bind_ok_iff.1 h
    exact addDescription_ok h

/-- A beacon starts the timer of the access point, is noted for the scan in progress, is reported,
or makes the station connect while there is no scan. -/
theorem recvBeacon_cases {strong : Bool} (h : s.recvBeacon src strong = .ok s') :
    (∃ timer resp recvd channels log, s' = { s with
      bssTimer := timer
      resp := resp
      recvdResponse := recvd
      channelIDAfterScan := channels
      log := log }) ∨
    s.step = .none ∧
      ∃ channels, { s with channelIDAfterScan := channels }.linkConnect src = .ok s' := by
  unfold recvBeacon at h
  dsimp only at h
  split_ifs at h with _ _ hscan
  · exact .inl ⟨_, _, _, _, _, (Except.ok.inj h).symm⟩
  · exact .inl ⟨_, _, _, _, _, (Except.ok.inj h).symm⟩
  · obtain ⟨t, ht, rfl⟩ := Runs.map_ok_iff.1 h
    obtain ⟨resp, rfl⟩ := addDescription_ok ht
    exact .inl ⟨_, _, _, _, _, rfl⟩
  · exact .inl ⟨_, _, _, _, _, (Except.ok.inj h).symm⟩
  · exact .inl ⟨_, _, _, _, _, (Except.ok.inj h).symm⟩
  · exact .inr ⟨not_not.1 hscan, _, h⟩
  · exact .inl ⟨_, _, _, _, _, (Except.ok.inj h).symm⟩

theorem probeExpire_ok (h : s.probeExpire = .ok s') : s.probeTimer = .pending ∧
    ∃ frame, s' = { s with probeTimer := .idle, pktManagement := frame } := by
  obtain ⟨t, ht, h⟩ := Runs.bind_ok_iff.1 h
  obtain ⟨hpending, rfl⟩ := TimerHandler.handle_eq_ok ht
  obtain ⟨frame, hframe⟩ := sendProbeRequest_eq { s with probeTimer := .handling }
  rw [hframe] at h
  exact ⟨hpending, frame, (Except.ok.inj h).symm⟩

/-- After a response the timer starts again; otherwise the next channel is next. -/
theorem minExpire_cases {react : List LinkCommand} (h : s.minExpire react = .ok s') :
    s.minTimer = .pending ∧
      ((s.recvdResponse = true ∧
          ∃ frame, s' = { s with minTimer := .pending, pktManagement := frame }) ∨
        (s.recvdResponse = false ∧
          ∃ u, { s with minTimer := .handling }.nextScan react = .ok u ∧
            s' = { u with minTimer := TimerHandler.finish u.minTimer })) := by
  obtain ⟨t, ht, h⟩ := Runs.bind_ok_iff.1 h
  obtain ⟨hpending, rfl⟩ := TimerHandler.handle_eq_ok ht
  obtain ⟨u, hu, h⟩ := Runs.bind_ok_iff.1 h
  refine ⟨hpending, ?_⟩
  dsimp only at hu
  split_ifs at hu with hrecvd
  · obtain ⟨req, -, rfl⟩ := Runs.map_ok_iff.1 hu
    obtain ⟨frame, hframe⟩ := sendProbeRequest_eq { s with minTimer := .pending }
    rw [hframe] at h
    exact .inl ⟨hrecvd, frame, (Except.ok.inj h).symm⟩
  · exact .inr ⟨Bool.eq_false_of_not_eq_true hrecvd, u, hu, (Except.ok.inj h).symm⟩

theorem maxExpire_cases {react : List LinkCommand} (h : s.maxExpire react = .ok s') :
    s.maxTimer = .pending ∧ ∃ u, { s with maxTimer := .handling }.nextScan react = .ok u ∧
      s' = { u with maxTimer := TimerHandler.finish u.maxTimer } := by
  obtain ⟨t, ht, h⟩ := Runs.bind_ok_iff.1 h
  obtain ⟨hpending, rfl⟩ := TimerHandler.handle_eq_ok ht
  obtain ⟨u, hu, h⟩ := Runs.bind_ok_iff.1 h
  exact ⟨hpending, u, hu, (Except.ok.inj h).symm⟩

end Effects

end Mac80211

end SipNemo.Mac
