import SipNemo.Mih.Messages

/-!
# Scans

`MIHScan` of `mih-scan.cc`, which collects the results of the links a user or a remote session
wants scanned, and the functions of `MIHAgent` that start scans and answer them.
-/

namespace SipNemo.Mih

open RequestTable

namespace MIHScan

/-- Whether this is the scan a remote request asked for.  The transaction of a local request is
not set, and its session is `-1`. -/
def isFor (scan : MIHScan) (sessionid : BitVec 32) (transactionid : BitVec 16) : Bool :=
  match scan.origin with
  | .localUser _ _ => false
  | .remote id tid _ => id = sessionid && tid = transactionid

/-- The header of the result for the interface `mac`: the first link of the request that has
it. -/
def resultFor (scan : MIHScan) (mac : MacAddr) : Option (BitVec 32 × Eth × Eth) :=
  match scan.origin with
  | .localUser _ lreq =>
    (lreq.find? fun l => l.macMobileTerminal = mac).map fun l =>
      (l.type, intToEth l.macMobileTerminal, intToEth l.macPoA)
  | .remote _ _ rreq =>
    (rreq.find? fun l => ethToInt l.macMobileTerminal = mac).map fun l =>
      (l.linkType, l.macMobileTerminal, l.macPoA)

/-- `nbElement` of the request. -/
def nbElement (scan : MIHScan) : ℕ :=
  match scan.origin with
  | .localUser _ lreq => lreq.length
  | .remote _ _ rreq => rreq.length

/-- The result of one link is entered in the response. -/
def addResult (scan : MIHScan) (mac : MacAddr) (rsp : List (BitVec 8)) : Act MIHScan :=
  match scan.resultFor mac with
  | none => .ok scan
  | some (type, terminal, poa) =>
    if scan.rsp.length < maxScanElements ∧ rsp.length ≤ maxScanResponse then
      .ok { scan with rsp := scan.rsp ++ [⟨type, terminal, poa, rsp⟩] }
    else .error .outOfRange

/-- `MIHScan::process_scan_response`: the scan with the result, and whether it is complete. -/
def processScanResponse (scan : MIHScan) (mac : MacAddr) (rsp : List (BitVec 8)) :
    Act (MIHScan × Bool) := do
  let scan ← scan.addResult mac rsp
  pure (scan, scan.rsp.length = scan.nbElement)

end MIHScan

namespace MIHAgent

variable (s : MIHAgent)

/-- `link_scan`. -/
def linkScan (linkId : LinkIdentifier) : Act Output := do
  let mac ← s.getMac (s.localMac linkId)
  let mac ← deref mac
  pure (.linkScan mac.addr)

/-- The loop of the constructors of `MIHScan`, which know two types of links. -/
def startScan (links : List LinkIdentifier) : Act (List Output) :=
  (links.filter fun l => l.type = link80211 ∨ l.type = link80216).mapM s.linkScan

/-- `mih_scan`. -/
def mihScan (user : Option UserId) (mihfid : BitVec 32) (req : List LinkIdentifier) :
    Act (MIHAgent × List Output) :=
  if mihfid = s.mihfId then do
    let u ← assertNonNull user
    let out ← s.startScan req
    pure ({ s with scanReq := s.scanReq ++ [{ origin := .localUser u req }] }, out)
  else do
    let m ← deref (s.getMihfInfo mihfid)
    let r ← deref (s.mihf m).session
    if req.length ≤ maxScanElements then do
      let entries := req.map fun l : LinkIdentifier =>
        ⟨l.type, intToEth l.macMobileTerminal, intToEth l.macPoA⟩
      let p := s.allocpkt
        { transactionId := s.tid, sessionId := (s.session r).id, payload := .scanReq entries }
      let (s, _, out) ← s.nextTid.sendMihMessage user p (some r)
      pure (s, out)
    else .error .outOfRange

/-- `recv_mih_scan_req`. -/
def recvMihScanReq (p : MihPacket) (requestSet : List ScanReqEntry) :
    Act (MIHAgent × List Output) :=
  if s.scanReq.any fun scan => scan.isFor p.mihh.sessionId p.mihh.transactionId then .ok (s, [])
  else do
    let r ← deref (s.getSession p.mihh.sessionId)
    if (p.mihh.transactionId.toNat : ℤ) ≤ (s.session r).lastTID then pure (s, [])
    else do
      let s := s.modifySession r fun i => { i with lastTID := p.mihh.transactionId.toNat }
      let scans ← s.startScan (requestSet.map fun l =>
        ⟨l.linkType, ethToInt l.macMobileTerminal, ethToInt l.macPoA⟩)
      let scan : MIHScan :=
        { origin := .remote p.mihh.sessionId p.mihh.transactionId requestSet }
      let s := { s with scanReq := s.scanReq ++ [scan] }
      let res := s.allocpkt
        { ackRsp := true, transactionId := p.mihh.transactionId, sessionId := p.mihh.sessionId
          payload := .scanRsp [] }
      let (s, _, out) ← s.sendMihMessage none res (some r)
      pure (s, scans ++ out)

/-- `req->waitAck = false`, and the timer is cancelled. -/
def ackRequest (o : Obj (BitVec 16) PendingReq) : Obj (BitVec 16) PendingReq :=
  cancelTimer { o with data.waitAck := false }

/-- `recv_mih_scan_res`.  An acknowledgement leaves the request pending, without its timer. -/
def recvMihScanRes (p : MihPacket) (resultSet : List ScanRspEntry) :
    Act (MIHAgent × List Output) :=
  if p.mihh.ackRsp then do
    let r ← s.findRequest p.mihh.transactionId
    pure ({ s with requests := s.requests.modify r ackRequest }, [])
  else s.confirm p.mihh.transactionId (.confOf (.scanRsp resultSet))

/-- What is done with a complete scan. -/
def answerScan (scan : MIHScan) : Act (MIHAgent × List Output) :=
  match scan.origin with
  | .localUser u _ => .ok (s, [.user u (.confOf (.scanRsp scan.rsp))])
  | .remote id tid _ => do
    let p := s.allocpkt
      { transactionId := tid, sessionId := id, payload := .scanRsp scan.rsp }
    let (s, _, out) ← s.sendMihMessage none p (s.getSession id)
    pure (s, out)

/-- The loop of `process_scan_response`: the scans that stay, and the outputs. -/
def scanLoop (mac : MacAddr) (rsp : List (BitVec 8)) :
    MIHAgent → List MIHScan → Act (MIHAgent × List MIHScan × List Output)
  | s, [] => .ok (s, [], [])
  | s, scan :: scans => do
    let (scan, complete) ← scan.processScanResponse mac rsp
    if complete then do
      let (s, out) ← s.answerScan scan
      let (s, kept, rest) ← scanLoop mac rsp s scans
      pure (s, kept, out ++ rest)
    else do
      let (s, kept, rest) ← scanLoop mac rsp s scans
      pure (s, scan :: kept, rest)

/-- `process_scan_response`. -/
def processScanResponse (mac : MacAddr) (rsp : List (BitVec 8)) :
    Act (MIHAgent × List Output) := do
  let (s, kept, out) ← scanLoop mac rsp s s.scanReq
  pure ({ s with scanReq := kept }, out)

section ScanResponse

variable {s} {s' : MIHAgent} {out : List Output}

theorem answerScan_ok {scan : MIHScan} (h : s.answerScan scan = .ok (s', out)) : s' = s := by
  unfold answerScan at h
  split at h
  · exact (Prod.mk.inj (Except.ok.inj h)).1.symm
  · obtain ⟨⟨t, q, o⟩, hsend, h⟩ := Runs.bind_ok_iff.1 h
    obtain rfl : t = s' := (Prod.mk.inj (Except.ok.inj h)).1
    exact sendMihMessage_quiet_ok ⟨rfl, rfl⟩ hsend

theorem scanLoop_ok {mac : MacAddr} {rsp : List (BitVec 8)} {scans kept : List MIHScan}
    (h : scanLoop mac rsp s scans = .ok (s', kept, out)) : s' = s := by
  induction scans generalizing s kept out with
  | nil => exact (Prod.mk.inj (Except.ok.inj h)).1.symm
  | cons scan scans ih =>
    obtain ⟨⟨scan', complete⟩, hscan, h⟩ := Runs.bind_ok_iff.1 h
    cases complete with
    | true =>
      obtain ⟨⟨s₁, out₁⟩, hanswer, h⟩ := Runs.bind_ok_iff.1 h
      obtain ⟨⟨s₂, kept₂, out₂⟩, hrest, h⟩ := Runs.bind_ok_iff.1 h
      obtain rfl : s₂ = s' := (Prod.mk.inj (Except.ok.inj h)).1
      rw [ih hrest, answerScan_ok hanswer]
    | false =>
      obtain ⟨⟨s₂, kept₂, out₂⟩, hrest, h⟩ := Runs.bind_ok_iff.1 h
      obtain rfl : s₂ = s' := (Prod.mk.inj (Except.ok.inj h)).1
      exact ih hrest

/-- A result of a MAC changes nothing but the scans. -/
theorem processScanResponse_ok {mac : MacAddr} {rsp : List (BitVec 8)}
    (h : s.processScanResponse mac rsp = .ok (s', out)) :
    ∃ kept, s' = { s with scanReq := kept } := by
  obtain ⟨⟨t, kept, o⟩, hloop, hret⟩ := Runs.bind_ok_iff.1 h
  have hs' := (Prod.mk.inj (Except.ok.inj hret)).1
  rw [scanLoop_ok hloop] at hs'
  exact ⟨kept, hs'.symm⟩

/-- There is an unfinished scan for the request. -/
def HasScan (s : MIHAgent) (p : MihPacket) : Prop :=
  ∃ scan ∈ s.scanReq, scan.isFor p.mihh.sessionId p.mihh.transactionId

instance (s : MIHAgent) (p : MihPacket) : Decidable (s.HasScan p) :=
  inferInstanceAs (Decidable (∃ scan ∈ s.scanReq, scan.isFor _ _))

/-- A request is ignored, or creates a scan and is the last one of its session from then on. -/
theorem recvMihScanReq_cases {p : MihPacket} {l : List ScanReqEntry}
    (h : s.recvMihScanReq p l = .ok (s', out)) :
    (s' = s ∧ (s.HasScan p ∨ ∃ r, s.getSession p.mihh.sessionId = some r ∧
      (p.mihh.transactionId.toNat : ℤ) ≤ (s.session r).lastTID)) ∨
    ∃ r, s.getSession p.mihh.sessionId = some r ∧
      s' = { s.modifySession r fun i => { i with lastTID := p.mihh.transactionId.toNat } with
        scanReq :=
          s.scanReq ++ [{ origin := .remote p.mihh.sessionId p.mihh.transactionId l }] } := by
  unfold recvMihScanReq at h
  split_ifs at h with hscan
  · exact Or.inl ⟨(Prod.mk.inj (Except.ok.inj h)).1.symm, Or.inl (by simpa [HasScan] using hscan)⟩
  · obtain ⟨r, hr, h⟩ := Runs.bind_ok_iff.1 h
    rw [deref_eq_ok] at hr
    split_ifs at h with hold
    · exact Or.inl ⟨(Prod.mk.inj (Except.ok.inj h)).1.symm, Or.inr ⟨r, hr, hold⟩⟩
    · obtain ⟨scans, -, h⟩ := Runs.bind_ok_iff.1 h
      obtain ⟨⟨t, q, o⟩, hsend, h⟩ := Runs.bind_ok_iff.1 h
      obtain rfl : t = s' := (Prod.mk.inj (Except.ok.inj h)).1
      exact Or.inr ⟨r, hr, sendMihMessage_quiet_ok ⟨rfl, rfl⟩ hsend⟩

/-- A remote scan request changes nothing but its session and the scans. -/
theorem recvMihScanReq_ok {p : MihPacket} {l : List ScanReqEntry}
    (h : s.recvMihScanReq p l = .ok (s', out)) :
    ∃ session scans, s' = { s with session := session, scanReq := scans } := by
  rcases recvMihScanReq_cases h with ⟨rfl, -⟩ | ⟨r, -, rfl⟩
  · exact ⟨s'.session, s'.scanReq, rfl⟩
  · exact ⟨_, _, rfl⟩

end ScanResponse

/-! ### Switching -/

/-- `recv_mih_switch_req`; the response is built and not sent. -/
def recvMihSwitchReq (p : MihPacket) (m : SwitchReq) : Act (MIHAgent × List Output) :=
  match s.getSession p.mihh.sessionId with
  | none => .ok (s, [])
  | some r => do
    let _ ← assertNonNull (s.session r).mihf
    let mac ← s.getMac (ethToInt m.macMobileTerminal)
    let mac ← deref mac
    let connect : Output := .linkConnect mac.addr (ethToInt m.newMacPoA)
    if m.handoverMode = 0 then pure (s, [connect])
    else if m.handoverMode = 1 then pure (s, [.linkDisconnect mac.addr, connect])
    else pure (s, [])

end MIHAgent

end SipNemo.Mih
