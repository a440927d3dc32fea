import SipNemo.Mih.Agent

/-!
# Link events

`MIHAgent::recv_event` and the eight functions `process_link_*`.  Each of them looks up the local
end of the link, sets the status of the interface, calls the local users that have subscribed to
the event and sends an indication to each remote session that has.

Five of the eight are the same code with their own status, lists and message (`processLink` with
`indicate`).  Three are not: the parameters report reads the list of local users of another event,
and the two handover events send each packet a second time.
-/

namespace SipNemo.Mih

namespace MIHAgent

/-- A loop over a list, with the outputs of its turns. -/
def forEach {α : Type} (f : MIHAgent → α → Act (MIHAgent × List Output)) :
    MIHAgent → List α → Act (MIHAgent × List Output)
  | s, [] => .ok (s, [])
  | s, a :: as => do
    let (s, out) ← f s a
    let (s, rest) ← forEach f s as
    pure (s, out ++ rest)

variable (s : MIHAgent)

/-- The loop over the local users: each gets a copy of the event. -/
def notifyLocal (users : List UserId) (e : LinkEvent) : List Output :=
  users.map fun u => .user u (.event e)

/-- An indication with its transaction and session ids. -/
def indicate (payload : Payload) (r : SessionRef) : Act (MIHAgent × List Output) := do
  let p := s.allocpkt
    { transactionId := s.tid, sessionId := (s.session r).id, payload := payload }
  let (s, _, out) ← s.nextTid.sendMihMessage none p (some r)
  pure (s, out)

/-- An indication whose transaction and session ids are left at 0. -/
def indicatePlain (payload : Payload) (r : SessionRef) : Act (MIHAgent × List Output) := do
  let (s, _, out) ← s.sendMihMessage none (s.allocpkt { payload := payload }) (some r)
  pure (s, out)

/-- An indication whose transaction and session ids are left at 0 and whose packet is sent again
by `send(p, 0)`. -/
def indicateTwice (payload : Payload) (r : SessionRef) : Act (MIHAgent × List Output) := do
  let (s, p, out) ← s.sendMihMessage none (s.allocpkt { payload := payload }) (some r)
  pure (s, out ++ [.packet (some r) p])

/-- The common form of `process_link_*`. -/
def processLink (linkId : LinkIdentifier) (status : InterfaceStatus) (e : LinkEvent)
    (remote : MIHAgent → SessionRef → Act (MIHAgent × List Output)) :
    Act (MIHAgent × List Output) := do
  let mac := s.localMac linkId
  let info ← assertNonNull (s.getInterface mac)
  let s := s.modifyInterface mac fun i => i.setStatus status
  let calls := notifyLocal (info.getRegisteredLocalUser e.type) e
  let (s, sent) ← forEach remote s (info.getRegisteredRemoteUser e.type)
  pure (s, calls ++ sent)

/-! ### The messages -/

/-- The `mih_link_up_ind` of an event; the optional fields are not written. -/
def linkUpInd (e : LinkUp) : LinkUpInd where
  linkType := e.linkIdentifier.type
  macMobileTerminal := intToEth e.linkIdentifier.macMobileTerminal
  macNewPoA := intToEth e.linkIdentifier.macPoA

/-- The `mih_link_down_ind` of an event. -/
def linkDownInd (e : LinkDown) : LinkDownInd where
  linkType := e.linkIdentifier.type
  macMobileTerminal := intToEth e.linkIdentifier.macMobileTerminal
  macPoA := intToEth e.linkIdentifier.macPoA
  macOldAccessRouter := intToEth e.macOldAccessRouter
  reasonCode := e.reason.setWidth 8

/-- The `mih_link_going_down_ind` of an event, which has no field for the reason. -/
def linkGoingDownInd (e : LinkGoingDown) : LinkGoingDownInd where
  linkType := e.linkIdentifier.type
  macMobileTerminal := intToEth e.linkIdentifier.macMobileTerminal
  macCurrentPoA := intToEth e.linkIdentifier.macPoA
  timeInterval := (e.timeInterval / 1000).setWidth 16
  confidenceLevel := e.confidenceLevel.setWidth 8
  uniqueEventIdentifier := e.uniqueEventIdentifier.setWidth 16

/-- The `mih_link_detected_ind` of an event. -/
def linkDetectedInd (e : LinkDetected) : LinkDetectedInd where
  linkType := e.linkIdentifier.type
  macMobileTerminal := intToEth e.linkIdentifier.macMobileTerminal
  macPoA := intToEth e.linkIdentifier.macPoA
  capability := if e.mihCapability then 1 else 0

/-- The `mih_link_parameters_report_ind` of an event; link type and access router are not
written. -/
def linkParametersReportInd (e : LinkParametersReport) : LinkParametersReportInd where
  macMobileTerminal := intToEth e.linkIdentifier.macMobileTerminal
  linkParameterList := e.linkParameterList

/-- The `mih_link_rollback_ind` of an event. -/
def linkRollbackInd (e : LinkRollback) : LinkRollbackInd where
  linkType := e.linkIdentifier.type
  macMobileTerminal := intToEth e.linkIdentifier.macMobileTerminal
  macCurrentPoA := intToEth e.linkIdentifier.macPoA
  uniqueEventIdentifier := e.uniqueEventIdentifier.setWidth 16

/-- The `mih_link_handover_imminent_ind` of an event. -/
def linkHandoverImminentInd (e : LinkHandoverImminent) : LinkHandoverImminentInd where
  linkType := e.linkIdentifier.type
  macMobileTerminal := intToEth e.linkIdentifier.macMobileTerminal
  macPoA := intToEth e.linkIdentifier.macPoA
  newLinkType := e.newLinkIdentifier.type
  newMacMobileTerminal := intToEth e.newLinkIdentifier.macMobileTerminal
  newMacPoA := intToEth e.newLinkIdentifier.macPoA
  macOldAccessRouter := intToEth e.macOldAccessRouter
  macNewAccessRouter := intToEth e.macNewAccessRouter

/-- The `mih_link_handover_complete_ind` of an event. -/
def linkHandoverCompleteInd (e : LinkHandoverComplete) : LinkHandoverCompleteInd where
  newLinkType := e.linkIdentifier.type
  newMacMobileTerminal := intToEth e.linkIdentifier.macMobileTerminal
  newMacPoA := intToEth e.linkIdentifier.macPoA
  macOldAccessRouter := intToEth e.macOldAccessRouter
  macNewAccessRouter := intToEth e.macNewAccessRouter

/-- The message of an event. -/
def indication : LinkEvent → Payload
  | .up e => .linkUpInd (linkUpInd e)
  | .down e => .linkDownInd (linkDownInd e)
  | .goingDown e => .linkGoingDownInd (linkGoingDownInd e)
  | .detected e => .linkDetectedInd (linkDetectedInd e)
  | .parametersReport e => .linkParametersReportInd (linkParametersReportInd e)
  | .rollback e => .linkRollbackInd (linkRollbackInd e)
  | .handoverImminent e => .linkHandoverImminentInd (linkHandoverImminentInd e)
  | .handoverComplete e => .linkHandoverCompleteInd (linkHandoverCompleteInd e)

/-! ### `process_link_*` -/

/-- `process_link_up`. -/
def processLinkUp (e : LinkUp) : Act (MIHAgent × List Output) :=
  s.processLink e.linkIdentifier .up (.up e) fun s => s.indicate (.linkUpInd (linkUpInd e))

/-- `process_link_down`. -/
def processLinkDown (e : LinkDown) : Act (MIHAgent × List Output) :=
  s.processLink e.linkIdentifier .down (.down e) fun s =>
    s.indicate (.linkDownInd (linkDownInd e))

/-- `process_link_going_down`. -/
def processLinkGoingDown (e : LinkGoingDown) : Act (MIHAgent × List Output) :=
  s.processLink e.linkIdentifier .goingDown (.goingDown e) fun s =>
    s.indicate (.linkGoingDownInd (linkGoingDownInd e))

/-- `process_link_detected`: "detected is not up yet". -/
def processLinkDetected (e : LinkDetected) : Act (MIHAgent × List Output) :=
  s.processLink e.linkIdentifier .down (.detected e) fun s =>
    s.indicate (.linkDetectedInd (linkDetectedInd e))

/-- `process_link_rollback`. -/
def processLinkRollback (e : LinkRollback) : Act (MIHAgent × List Output) :=
  s.processLink e.linkIdentifier .up (.rollback e) fun s =>
    s.indicate (.linkRollbackInd (linkRollbackInd e))

/-- `process_link_handover_imminent`. -/
def processLinkHandoverImminent (e : LinkHandoverImminent) : Act (MIHAgent × List Output) :=
  s.processLink e.linkIdentifier .handoverImminent (.handoverImminent e) fun s =>
    s.indicateTwice (.linkHandoverImminentInd (linkHandoverImminentInd e))

/-- `process_link_handover_complete`. -/
def processLinkHandoverComplete (e : LinkHandoverComplete) : Act (MIHAgent × List Output) :=
  s.processLink e.linkIdentifier .handoverComplete (.handoverComplete e) fun s =>
    s.indicateTwice (.linkHandoverCompleteInd (linkHandoverCompleteInd e))

/-- The copy of a report for a local user, whose `macPoA` is not written: `junk` is what the
memory held. -/
def reportCopy (e : LinkParametersReport) (junk : BitVec 32) : LinkParametersReport :=
  { e with linkIdentifier := { e.linkIdentifier with macPoA := junk } }

/-- `process_link_parameters_report`: the status stays as it is, and the local users are those
registered for `MIH_LINK_GOING_DOWN`. -/
def processLinkParametersReport (e : LinkParametersReport) (junk : BitVec 32) :
    Act (MIHAgent × List Output) := do
  let info ← assertNonNull (s.getInterface (s.localMac e.linkIdentifier))
  let calls := notifyLocal (info.getRegisteredLocalUser .linkGoingDown)
    (.parametersReport (reportCopy e junk))
  let (s, sent) ← forEach
    (fun s => s.indicatePlain (.linkParametersReportInd (linkParametersReportInd e))) s
    (info.getRegisteredRemoteUser .linkParametersReport)
  pure (s, calls ++ sent)

/-- `recv_event`. -/
def recvEvent (e : LinkEvent) (junk : BitVec 32) : Act (MIHAgent × List Output) :=
  match e with
  | .up e => s.processLinkUp e
  | .down e => s.processLinkDown e
  | .goingDown e => s.processLinkGoingDown e
  | .detected e => s.processLinkDetected e
  | .parametersReport e => s.processLinkParametersReport e junk
  | .rollback e => s.processLinkRollback e
  | .handoverImminent e => s.processLinkHandoverImminent e
  | .handoverComplete e => s.processLinkHandoverComplete e

/-! ### What a link event changes

Only the status of one interface and the transaction counter; its indications go to remote
subscribers of the event. -/

/-- The state with another transaction counter. -/
def setTid (t : BitVec 32) : MIHAgent := { s with transactionId := t }

/-- What one turn of a loop over remote sessions does: it sends packets with the payload on the
session. -/
def IsTurn (payload : Payload) (f : MIHAgent → SessionRef → Act (MIHAgent × List Output)) : Prop :=
  ∀ s r s' out, f s r = .ok (s', out) →
    (∃ t, s' = s.setTid t) ∧ ∀ o ∈ out, ∃ q, o = .packet (some r) q ∧ q.mihh.payload = payload

variable {s} {s' : MIHAgent} {out : List Output} {payload : Payload}

/-- A quiet message leaves the state as it is and goes out on its session, as it is but for its
addresses. -/
theorem sendMihMessage_turn {p q : MihPacket} {r : SessionRef} (hp : Quiet p)
    (h : s.sendMihMessage none p (some r) = .ok (s', q, out)) :
    s' = s ∧ q.mihh = p.mihh ∧ ∀ o ∈ out, ∃ x, o = .packet (some r) x ∧ x.mihh = p.mihh := by
  obtain ⟨r', peer, mac, hr, -, h⟩ := sendMihMessage_ok h
  obtain rfl : r = r' := Option.some.inj hr
  rw [transmit_of_quiet hp] at h
  split_ifs at h
  · simp only [Except.ok.injEq, Prod.mk.injEq] at h
    obtain ⟨rfl, rfl, rfl⟩ := h
    exact ⟨rfl, rfl, fun o ho => ⟨_, List.mem_singleton.1 ho, rfl⟩⟩
  · simp only [Except.ok.injEq, Prod.mk.injEq] at h
    obtain ⟨rfl, rfl, rfl⟩ := h
    exact ⟨rfl, rfl, fun o ho => absurd ho List.not_mem_nil⟩

theorem isTurn_indicate (hp : payload.isRequest = false) :
    IsTurn payload fun s => s.indicate payload := by
  intro s r s' out h
  obtain ⟨⟨t, q, o⟩, hsend, h⟩ := Runs.bind_ok_iff.1 h
  obtain ⟨rfl, rfl⟩ := Prod.mk.inj (Except.ok.inj h)
  obtain ⟨rfl, -, hout⟩ := sendMihMessage_turn ⟨rfl, hp⟩ hsend
  refine ⟨⟨s.transactionId + 1, rfl⟩, fun o ho => ?_⟩
  obtain ⟨x, hx, hmihh⟩ := hout o ho
  exact ⟨x, hx, congrArg HdrMih.payload hmihh⟩

theorem isTurn_indicatePlain (hp : payload.isRequest = false) :
    IsTurn payload fun s => s.indicatePlain payload := by
  intro s r s' out h
  obtain ⟨⟨t, q, o⟩, hsend, h⟩ := Runs.bind_ok_iff.1 h
  obtain ⟨rfl, rfl⟩ := Prod.mk.inj (Except.ok.inj h)
  obtain ⟨rfl, -, hout⟩ := sendMihMessage_turn ⟨rfl, hp⟩ hsend
  refine ⟨⟨t.transactionId, rfl⟩, fun o ho => ?_⟩
  obtain ⟨x, hx, hmihh⟩ := hout o ho
  exact ⟨x, hx, congrArg HdrMih.payload hmihh⟩

theorem isTurn_indicateTwice (hp : payload.isRequest = false) :
    IsTurn payload fun s => s.indicateTwice payload := by
  intro s r s' out h
  obtain ⟨⟨t, q, o⟩, hsend, h⟩ := Runs.bind_ok_iff.1 h
  obtain ⟨rfl, rfl⟩ := Prod.mk.inj (Except.ok.inj h)
  obtain ⟨rfl, hq, hout⟩ := sendMihMessage_turn ⟨rfl, hp⟩ hsend
  refine ⟨⟨t.transactionId, rfl⟩, fun o ho => ?_⟩
  rcases List.mem_append.1 ho with ho | ho
  · obtain ⟨x, hx, hmihh⟩ := hout o ho
    exact ⟨x, hx, congrArg HdrMih.payload hmihh⟩
  · exact ⟨q, List.mem_singleton.1 ho, congrArg HdrMih.payload hq⟩

theorem forEach_turn {f : MIHAgent → SessionRef → Act (MIHAgent × List Output)}
    (hf : IsTurn payload f) {l : List SessionRef} (h : forEach f s l = .ok (s', out)) :
    (∃ t, s' = s.setTid t) ∧
      ∀ o ∈ out, ∃ r ∈ l, ∃ q, o = .packet (some r) q ∧ q.mihh.payload = payload := by
  induction l generalizing s out with
  | nil =>
    obtain ⟨rfl, rfl⟩ : s = s' ∧ [] = out := by simpa [forEach] using h
    exact ⟨⟨s.transactionId, rfl⟩, fun o ho => absurd ho List.not_mem_nil⟩
  | cons r l ih =>
    obtain ⟨⟨s₁, out₁⟩, hfirst, h⟩ := Runs.bind_ok_iff.1 h
    obtain ⟨⟨s₂, out₂⟩, hrest, h⟩ := Runs.bind_ok_iff.1 h
    obtain ⟨rfl, rfl⟩ := Prod.mk.inj (Except.ok.inj h)
    obtain ⟨⟨t₁, rfl⟩, hout₁⟩ := hf s r s₁ out₁ hfirst
    obtain ⟨⟨t₂, rfl⟩, hout₂⟩ := ih hrest
    refine ⟨⟨t₂, rfl⟩, ?_⟩
    intro o ho
    rcases List.mem_append.1 ho with ho | ho
    · exact ⟨r, List.mem_cons_self, hout₁ o ho⟩
    · obtain ⟨r', hr', hq⟩ := hout₂ o ho
      exact ⟨r', List.mem_cons_of_mem _ hr', hq⟩

/-- What a link event leaves of the state; its packets are indications, and where they go. -/
structure EventEffect (s : MIHAgent) (e : LinkEvent) (s' : MIHAgent) (out : List Output) :
    Prop where
  frame : ∃ ifaces t, s' = { s with ifaces := ifaces, transactionId := t } ∧
    ifaces.map MIHInterfaceInfo.remoteSub = s.ifaces.map MIHInterfaceInfo.remoteSub
  packets : ∀ session q, .packet session q ∈ out → q.mihh.payload = indication e ∧
    ∃ r, session = some r ∧ ∃ i ∈ s.ifaces, r ∈ i.remoteSub e.type

theorem not_packet_of_notifyLocal {users : List UserId} {e : LinkEvent}
    {session : Option SessionRef} {q : MihPacket} : .packet session q ∉ notifyLocal users e := by
  simp [notifyLocal]

/-- The packets of the two loops of an event. -/
theorem packets_of_loops {e e' : LinkEvent} {users : List UserId} {sent : List Output}
    {info : MIHInterfaceInfo} {mac : MacAddr} (hinfo : s.getInterface mac = some info)
    (hsent : ∀ o ∈ sent, ∃ r ∈ info.getRegisteredRemoteUser e.type,
      ∃ q, o = .packet (some r) q ∧ q.mihh.payload = indication e)
    (session : Option SessionRef) (q : MihPacket)
    (hq : .packet session q ∈ notifyLocal users e' ++ sent) :
    q.mihh.payload = indication e ∧
      ∃ r, session = some r ∧ ∃ i ∈ s.ifaces, r ∈ i.remoteSub e.type := by
  rcases List.mem_append.1 hq with hq | hq
  · exact absurd hq not_packet_of_notifyLocal
  · obtain ⟨r, hr, q', hq', hpayload⟩ := hsent _ hq
    obtain ⟨rfl, rfl⟩ := Output.packet.inj hq'
    exact ⟨hpayload, r, rfl, info, List.mem_of_find?_eq_some hinfo, hr⟩

theorem processLink_ok {linkId : LinkIdentifier} {status : InterfaceStatus} {e : LinkEvent}
    {remote : MIHAgent → SessionRef → Act (MIHAgent × List Output)}
    (hf : IsTurn (indication e) remote)
    (h : s.processLink linkId status e remote = .ok (s', out)) : EventEffect s e s' out := by
  obtain ⟨info, hinfo, h⟩ := Runs.bind_ok_iff.1 h
  obtain ⟨⟨t, sent⟩, hloop, h⟩ := Runs.bind_ok_iff.1 h
  obtain ⟨rfl, rfl⟩ := Prod.mk.inj (Except.ok.inj h)
  obtain ⟨⟨n, rfl⟩, hsent⟩ := forEach_turn hf hloop
  exact ⟨⟨_, n, rfl, s.map_remoteSub_modifyInterface _ fun _ => rfl⟩,
    packets_of_loops (assertNonNull_eq_ok.1 hinfo) hsent⟩

theorem processLinkParametersReport_ok {e : LinkParametersReport} {junk : BitVec 32}
    (h : s.processLinkParametersReport e junk = .ok (s', out)) :
    EventEffect s (.parametersReport e) s' out := by
  obtain ⟨info, hinfo, h⟩ := Runs.bind_ok_iff.1 h
  obtain ⟨⟨t, sent⟩, hloop, h⟩ := Runs.bind_ok_iff.1 h
  obtain ⟨rfl, rfl⟩ := Prod.mk.inj (Except.ok.inj h)
  obtain ⟨⟨n, rfl⟩, hsent⟩ := forEach_turn (isTurn_indicatePlain rfl) hloop
  exact ⟨⟨s.ifaces, n, rfl, rfl⟩, packets_of_loops (assertNonNull_eq_ok.1 hinfo) hsent⟩

/-- Every link event keeps to that. -/
theorem recvEvent_ok {e : LinkEvent} {junk : BitVec 32}
    (h : s.recvEvent e junk = .ok (s', out)) : EventEffect s e s' out := by
  cases e with
  | up e => exact processLink_ok (isTurn_indicate rfl) h
  | down e => exact processLink_ok (isTurn_indicate rfl) h
  | goingDown e => exact processLink_ok (isTurn_indicate rfl) h
  | detected e => exact processLink_ok (isTurn_indicate rfl) h
  | parametersReport e => exact processLinkParametersReport_ok h
  | rollback e => exact processLink_ok (isTurn_indicate rfl) h
  | handoverImminent e => exact processLink_ok (isTurn_indicateTwice rfl) h
  | handoverComplete e => exact processLink_ok (isTurn_indicateTwice rfl) h

end MIHAgent

end SipNemo.Mih
