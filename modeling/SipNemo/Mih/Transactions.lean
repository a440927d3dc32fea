import SipNemo.Mih.Requests

/-!
# Transaction ids

A response is matched to its request by the transaction id, 16 bits of a counter of 32.  The table
of pending requests is filled by insertion if absent, so a request that is created while an older
one has its id is not entered, and its response finds the older one.

`responses_matched`: as long as requests are only created under ids that are free, the entry found
for an outstanding request is that request, with the user and the packet it was created with.

A response whose id is in no entry dereferences the end of the map (`unknown_response_fails`).
-/

namespace SipNemo.Mih

open RequestTable

namespace MIHAgent

/-- A request is created only under an id that no pending request has. -/
def FreshTid (s : MIHAgent) (i : Step) : Prop :=
  s.opensRequest i = true → s.requests.index s.tid = none

/-- User and packet of a request, which never change. -/
def originOf (req : PendingReq) : Option UserId × MihPacket := (req.user, req.pkt)

variable {s s' : MIHAgent} {i : Step} {out : List Output} {r : ℕ}

theorem handleTimer_keeps (h : s.handleTimer r = .ok (s', out)) :
    s.requests.Keeps originOf s'.requests := by
  have hdone : ∀ (t : Table (BitVec 16) PendingReq) q, t.Keeps originOf (t.modify q timerDone) :=
    fun t q => .modify inner_timerDone (fun o => by rw [timerDone_data]) q
  have hstart : s.requests.Keeps originOf (s.requests.modify r timerHandling) :=
    .modify inner_timerHandling (fun _ => rfl) r
  obtain ⟨-, q, -, ⟨-, -, ht⟩ | ⟨-, -, -, ht⟩ | ⟨-, -, ht⟩⟩ := handleTimer_cases h
  all_goals rw [ht]
  · exact (hstart.trans (.modify inner_incRetx (fun _ => rfl) q)).trans (hdone _ r)
  · exact (hstart.trans (.modify inner_resend (fun _ => rfl) q)).trans (hdone _ r)
  · exact (hstart.trans (.release q)).trans (hdone _ r)

/-- No step touches user or packet of a request. -/
theorem perform_keeps (h : s.perform i = .ok (s', out)) :
    s.requests.Keeps originOf s'.requests := by
  obtain ⟨-, hchange⟩ := perform_requests h
  generalize s'.requests = t at hchange ⊢
  cases hchange with
  | same => exact .refl _
  | create req hnew hopen => exact .create _
  | clear k r hr =>
    exact (Table.Keeps.modify inner_cancelTimer (fun o => by rw [cancelTimer_data]) r).trans
      (.release r)
  | ack p junk l r hi hscan hack hr =>
    exact .modify inner_ackRequest (fun o => by simp [ackRequest, cancelTimer_data, originOf]) r
  | expire r s₁ out₁ hi hexp => exact handleTimer_keeps hexp

theorem handleTimer_reachable (hw : s.requests.WellFormed) (hreach : s.requests.Reachable)
    (h : s.handleTimer r = .ok (s', out)) : s'.requests.Reachable := by
  have hstart := hreach.modify inner_timerHandling r
  obtain ⟨-, q, hq, ⟨-, -, ht⟩ | ⟨-, -, -, ht⟩ | ⟨-, -, ht⟩⟩ := handleTimer_cases h
  all_goals rw [ht]
  · exact (hstart.modify inner_incRetx q).modify inner_timerDone r
  · exact (hstart.modify inner_resend q).modify inner_timerDone r
  · refine (hstart.release ?_).modify inner_timerDone r
    -- the entry that is dropped was found under its own id
    rw [(Table.modify_key_alive inner_timerHandling r q).1, hw.key_eq _ q hq]
    exact hq

/-- A step that creates its request under a free id keeps every outstanding request in reach. -/
theorem perform_reachable (hw : s.requests.WellFormed) (hreach : s.requests.Reachable)
    (hok : s.FreshTid i) (h : s.perform i = .ok (s', out)) : s'.requests.Reachable := by
  obtain ⟨-, hchange⟩ := perform_requests h
  generalize s'.requests = t at hchange ⊢
  cases hchange with
  | same => exact hreach
  | create req hnew hopen => exact hreach.create hw (hok hopen)
  | clear k r hr =>
    refine (hreach.modify inner_cancelTimer r).release ?_
    rw [(Table.modify_key_alive inner_cancelTimer r r).1, hw.key_eq k r hr]
    exact hr
  | ack p junk l r hi hscan hack hr => exact hreach.modify inner_ackRequest r
  | expire r s₁ out₁ hi hexp => exact handleTimer_reachable hw hreach hexp

/-- The invariant of the runs that meet the condition. -/
structure Matched (s : MIHAgent) : Prop where
  wellFormed : s.requests.WellFormed
  reachable : s.requests.Reachable

theorem Matched.of_blank (h : s.requests.Blank) : Matched s := ⟨h.wellFormed, h.reachable⟩

theorem Matched.step (hs : Matched s) (hok : s.FreshTid i) (h : s.step i = .ok s') :
    Matched s' := by
  obtain ⟨out, hperform⟩ := step_ok h
  exact ⟨perform_wellFormed hs.wellFormed hperform,
    perform_reachable hs.wellFormed hs.reachable hok hperform⟩

theorem run_keeps {steps : List Step} (h : Runs.runSteps MIHAgent.step s steps = .ok s') :
    s.requests.Keeps originOf s'.requests := by
  have hstep : ∀ (t : MIHAgent) i t', s.requests.Keeps originOf t.requests → t.step i = .ok t' →
      s.requests.Keeps originOf t'.requests := by
    intro t i t' ht hi
    obtain ⟨out, hperform⟩ := step_ok hi
    exact ht.trans (perform_keeps hperform)
  exact Runs.runSteps_preserves hstep (.refl _) h

/-- In every run from an agent without requests that creates requests only under free ids: for
every request `r` created by some time (`s₁`) that is outstanding at a later time (`s₂`), a response
with its id finds `r`, which has the user and the packet it was created with; and no two requests
that are outstanding together have the same id. -/
theorem responses_matched {s₀ s₁ s₂ : MIHAgent} {before after : List Step}
    (h₀ : s₀.requests.Blank)
    (hok₁ : Runs.StepsMeet MIHAgent.step FreshTid s₀ before)
    (hrun₁ : Runs.runSteps MIHAgent.step s₀ before = .ok s₁)
    (hok₂ : Runs.StepsMeet MIHAgent.step FreshTid s₁ after)
    (hrun₂ : Runs.runSteps MIHAgent.step s₁ after = .ok s₂) :
    (∀ r, r < s₁.requests.next → (s₂.requests.obj r).alive = true →
      s₂.findRequest (s₁.requests.obj r).key = .ok r ∧
      (s₂.requests.obj r).data.user = (s₁.requests.obj r).data.user ∧
      (s₂.requests.obj r).data.pkt = (s₁.requests.obj r).data.pkt) ∧
    ∀ r q, (s₂.requests.obj r).alive = true → (s₂.requests.obj q).alive = true →
      (s₂.requests.obj r).key = (s₂.requests.obj q).key → r = q := by
  have hstep : ∀ (t : MIHAgent) i t', Matched t → t.FreshTid i → t.step i = .ok t' → Matched t' :=
    fun t i t' ht hi h => ht.step hi h
  have hm₁ := Runs.runSteps_invariant hstep (Matched.of_blank h₀) hok₁ hrun₁
  have hm₂ := Runs.runSteps_invariant hstep hm₁ hok₂ hrun₂
  have hkeeps := run_keeps hrun₂
  refine ⟨?_, fun r q hr hq hkey => hm₂.reachable.unique hr hq hkey⟩
  intro r hr halive
  have hfind := hm₂.reachable r halive
  rw [hkeeps.key r hr] at hfind
  have horigin := Prod.mk.inj (hkeeps.part r hr)
  exact ⟨by simp [findRequest, hfind], horigin.1, horigin.2⟩

/-- The status request of the user `u` for the peer. -/
def sampleRequest (u : UserId) : Step := .getStatus (some u) 2 0

/-- The state after the request of the user 7. -/
def sampleWaiting : MIHAgent :=
  (sampleAgent 0x202).nextTid.newRequest 0
    { user := some 7
      pkt := ⟨{ saddr := 10, sport := 5, daddr := 20, dport := 5 },
        { sessionId := 1 <<< 18, payload := .getStatusReq 0 }⟩
      waitRsp := true, session := some 0, mac := sampleMac }

/-- The first of two requests still finds its entry. -/
theorem responses_matched_sample :
    ∃ s, Runs.runSteps MIHAgent.step sampleWaiting [sampleRequest 8] = .ok s ∧
      s.findRequest 0 = .ok 0 ∧ (s.requests.obj 0).data.user = some 7 := by
  have hok₁ : Runs.StepsMeet MIHAgent.step FreshTid (sampleAgent 0x202) [sampleRequest 7] :=
    Runs.StepsMeet.cons (fun _ => rfl) rfl trivial
  have hok₂ : Runs.StepsMeet MIHAgent.step FreshTid sampleWaiting [sampleRequest 8] :=
    Runs.StepsMeet.cons (fun _ => rfl) rfl trivial
  obtain ⟨s, hs⟩ : ∃ s, Runs.runSteps MIHAgent.step sampleWaiting [sampleRequest 8] = .ok s :=
    ⟨_, rfl⟩
  have hlive : (s.requests.obj 0).alive = true := by
    cases hs
    rfl
  have h := (responses_matched (Table.blank_empty _) hok₁ rfl hok₂ hs).1 0 (by decide) hlive
  exact ⟨s, hs, h.1, h.2.1⟩

/-! ### A run of more than 2^16 transactions -/

/-- A remote peer that is registered and has no transport for commands. -/
def NoTransport (s : MIHAgent) (id : BitVec 32) : Prop :=
  id ≠ s.mihfId ∧ ∃ m r peer mac, s.getMihfInfo id = some m ∧ (s.mihf m).session = some r ∧
    s.route r = some (peer, mac) ∧ transports peer.transport .command = (false, false)

/-- A status request to such a peer only uses up a transaction id. -/
theorem step_noTransport {id : BitVec 32} (h : s.NoTransport id) (u : Option UserId) :
    s.step (.getStatus u id 0) = .ok s.nextTid := by
  obtain ⟨hid, m, r, peer, mac, hm, hr, hroute, hnone⟩ := h
  have hroute' : s.nextTid.route r = some (peer, mac) := hroute
  simp [step, perform, mihGetStatus, hid, hm, hr, sendMihMessage_of_route hroute', transmit,
    allocpkt, Payload.serviceId, hnone]

/-- So many of them in a row use up as many. -/
theorem run_noTransport {id : BitVec 32} (h : s.NoTransport id) (u : Option UserId) (n : ℕ) :
    Runs.runSteps MIHAgent.step s (List.replicate n (.getStatus u id 0)) =
      .ok (s.setTid (s.transactionId + BitVec.ofNat 32 n)) := by
  induction n generalizing s with
  | zero => simp [setTid]
  | succ n ih =>
    have hnext : s.nextTid.NoTransport id := h
    have hcount : s.nextTid.transactionId + BitVec.ofNat 32 n =
        s.transactionId + BitVec.ofNat 32 (n + 1) := by
      simp only [nextTid]
      rw [BitVec.add_assoc, BitVec.add_comm 1, BitVec.ofNat_add]
      rfl
    rw [List.replicate_succ, Runs.runSteps, step_noTransport h]
    show Runs.runSteps MIHAgent.step s.nextTid _ = _
    rw [ih hnext, hcount]
    rfl

/-- The agent with a second peer, 3, which has no transport. -/
def twoPeers : MIHAgent :=
  { sampleAgent 0x202 with
    mihf := fun m =>
      if m = 0 then samplePeer 0x202 else { samplePeer 0 with id := 3, session := some 1 }
    nextMihf := 2
    peerMihfs := [0, 1]
    session := fun r => { id := 1 <<< (18 + r), macAddr := 1, mihf := some r }
    nextSession := 2
    sessions := [0, 1] }

/-- A scan request of the user 7 and its acknowledgement, after which the entry stays. -/
def scanAndAck : List Step := [.scan (some 7) 2 [], .recv sampleScanAck 0]

/-- The state then. -/
def afterScanAndAck : MIHAgent :=
  let s := twoPeers.nextTid.newRequest 0
    { user := some 7
      pkt := ⟨{ saddr := 10, sport := 5, daddr := 20, dport := 5 },
        { sessionId := 1 <<< 18, payload := .scanReq [] }⟩
      waitRsp := true, session := some 0, mac := sampleMac }
  { s with requests := s.requests.modify 0 ackRequest }

/-- The counter goes once around, and the user 8 asks for a scan. -/
def aroundAndScan : List Step :=
  List.replicate 65535 (.getStatus (some 9) 3 0) ++ [.scan (some 8) 2 []]

/-- Two requests are outstanding under the transaction id 0; the response to that of the user 8
finds that of the user 7. -/
theorem transaction_id_reused :
    ∃ s, twoPeers.requests.Blank ∧
      Runs.runSteps MIHAgent.step twoPeers (scanAndAck ++ aroundAndScan) = .ok s ∧
      (s.requests.obj 0).alive = true ∧ (s.requests.obj 0).data.user = some 7 ∧
      (s.requests.obj 1).alive = true ∧ (s.requests.obj 1).data.user = some 8 ∧
      (s.requests.obj 1).key = (s.requests.obj 0).key ∧
      s.findRequest (s.requests.obj 1).key = .ok 0 := by
  have hscan : Runs.runSteps MIHAgent.step twoPeers scanAndAck = .ok afterScanAndAck := rfl
  have hnone : afterScanAndAck.NoTransport 3 :=
    ⟨by decide, 1, 1, _, _, rfl, rfl, rfl, by decide⟩
  have haround : Runs.runSteps MIHAgent.step afterScanAndAck
      (List.replicate 65535 (.getStatus (some 9) 3 0)) =
        .ok (afterScanAndAck.setTid 65536) := run_noTransport hnone _ _
  rw [Runs.runSteps_append hscan, aroundAndScan, Runs.runSteps_append haround]
  exact ⟨_, Table.blank_empty _, rfl, rfl, rfl, rfl, rfl, rfl, rfl⟩

/-! ### Responses that belong to no request -/

/-- The response messages. -/
def IsResponse : Payload → Prop
  | .capDiscRsp _ | .regRsp _ | .deregRsp _ | .eventSubRsp _ | .eventUnsubRsp _ => True
  | .getStatusRsp _ | .scanRsp _ => True
  | _ => False

/-- A message that is processed without calling a user and without a trace in sessions, requests
and subscriptions. -/
def Harmless (s : MIHAgent) (p : MihPacket) (junk : BitVec 32) : Prop :=
  ∃ s' out, s.recv p junk = .ok (s', out) ∧ (∀ u call, .user u call ∉ out) ∧
    s'.sessions = s.sessions ∧ s'.session = s.session ∧ s'.requests = s.requests ∧
    s'.ifaces.map MIHInterfaceInfo.localSub = s.ifaces.map MIHInterfaceInfo.localSub ∧
    s'.ifaces.map MIHInterfaceInfo.remoteSub = s.ifaces.map MIHInterfaceInfo.remoteSub

/-- A confirmation has found its request. -/
theorem confirm_known {tid : BitVec 16} {call : UserCall} {res : MIHAgent × List Output}
    (h : s.confirm tid call = .ok res) : s.requests.index tid ≠ none := by
  obtain ⟨r, hr, -⟩ := confirm_ok h
  simp [hr]

theorem confirmOn_known {tid : BitVec 16} {id : BitVec 32} {call : UserCall}
    {res : MIHAgent × List Output} (h : s.confirmOn tid id call = .ok res) :
    s.requests.index tid ≠ none := by
  obtain ⟨r, hr, -⟩ := confirmOn_ok h
  simp [hr]

theorem recvRegRsp_known {p : MihPacket} {m : RegRsp} {res : MIHAgent × List Output}
    (h : s.recvRegRsp p m = .ok res) : s.requests.index p.mihh.transactionId ≠ none := by
  unfold recvRegRsp at h
  split_ifs at h
  · -- the session is created first, and the table is the same
    obtain ⟨t, ht, hconfirm⟩ := Runs.bind_ok_iff.1 h
    obtain ⟨id, mac, peer, -, -, rfl⟩ := openSession_ok ht
    have hknown := confirm_known hconfirm
    exact hknown
  · exact confirm_known h

theorem recvCapDiscRsp_known {p : MihPacket} {m : CapDisc} {res : MIHAgent × List Output}
    (h : s.recvCapDiscRsp p m = .ok res) : s.requests.index p.mihh.transactionId ≠ none := by
  obtain ⟨_, -, hconfirm⟩ := Runs.bind_ok_iff.1 h
  have hknown := confirm_known hconfirm
  rwa [recordPeer_requests] at hknown

theorem recvDeregRsp_known {p : MihPacket} {m : DeregRsp} {res : MIHAgent × List Output}
    (h : s.recvDeregRsp p m = .ok res) : s.requests.index p.mihh.transactionId ≠ none := by
  have hknown := confirm_known h
  split_ifs at hknown
  · rwa [deleteSession_requests] at hknown
  · exact hknown

theorem recvMihScanRes_known {p : MihPacket} {l : List ScanRspEntry}
    {res : MIHAgent × List Output} (h : s.recvMihScanRes p l = .ok res) :
    s.requests.index p.mihh.transactionId ≠ none := by
  unfold recvMihScanRes at h
  split_ifs at h
  · obtain ⟨r, hr, -⟩ := Runs.bind_ok_iff.1 h
    simp [findRequest_ok hr]
  · exact confirm_known h

/-- A response that is processed belongs to a pending request. -/
theorem recv_response_known {p : MihPacket} {junk : BitVec 32} {res : MIHAgent × List Output}
    (hp : IsResponse p.mihh.payload) (h : s.recv p junk = .ok res) :
    s.requests.index p.mihh.transactionId ≠ none := by
  unfold recv at h
  cases hpay : p.mihh.payload with
  | capDiscRsp m =>
    simp only [hpay] at h
    exact recvCapDiscRsp_known h
  | regRsp m =>
    simp only [hpay] at h
    exact recvRegRsp_known h
  | deregRsp m =>
    simp only [hpay] at h
    exact recvDeregRsp_known h
  | eventSubRsp m =>
    simp only [hpay] at h
    exact confirmOn_known h
  | eventUnsubRsp m =>
    simp only [hpay] at h
    exact confirmOn_known h
  | getStatusRsp m =>
    simp only [hpay] at h
    exact confirmOn_known h
  | scanRsp l =>
    simp only [hpay] at h
    exact recvMihScanRes_known h
  | _ =>
    rw [hpay] at hp
    exact hp.elim

/-- A response whose transaction id is not a key of `pending_req_` is never harmless: whatever the
state, processing it leaves defined behaviour. -/
theorem unknown_response_fails (s : MIHAgent) (p : MihPacket) (junk : BitVec 32)
    (hp : IsResponse p.mihh.payload) (h : s.requests.index p.mihh.transactionId = none) :
    ¬ Harmless s p junk := by
  rintro ⟨s', out, hrecv, -⟩
  exact recv_response_known hp hrecv h

/-- The answer of the peer to the status request of the user 7. -/
def sampleAnswer : MihPacket :=
  ⟨{ saddr := 20, daddr := 10 }, { sessionId := 1 <<< 18, payload := .getStatusRsp ⟨0, []⟩ }⟩

theorem unknown_response_fails_sample : ¬ Harmless (sampleAgent 0x202) sampleAnswer 0 :=
  unknown_response_fails _ _ _ trivial rfl

/-- The request is sent, sent again when its timer expires, and answered twice: the second answer
dereferences the end of the map. -/
theorem second_answer_fails :
    ∃ s, Runs.runSteps MIHAgent.step (sampleAgent 0x202)
        [sampleRequest 7, .expire 0, .recv sampleAnswer 0] = .ok s ∧
      s.requests.index sampleAnswer.mihh.transactionId = none ∧
      s.recv sampleAnswer 0 = .error .endOfMap ∧ ¬ Harmless s sampleAnswer 0 := by
  refine ⟨_, rfl, rfl, rfl, ?_⟩
  rintro ⟨s', out, hrecv, -⟩
  cases hrecv

end MIHAgent

end SipNemo.Mih
