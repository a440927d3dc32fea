import SipNemo.Mih.Delivery

/-!
# Indications on the way

A remote subscriber learns of a link event from an indication.  `indication_decodes_iff`: the
receiver does exactly what it would do for the event itself if and only if the event is
`Transportable`.  A link up indication carries only the link, going down neither the reason nor
the milliseconds, rollback 16 bits of its identifier, and for four of the eight events
`MIHAgent::recv` has no case.
-/

namespace SipNemo.Mih

namespace MIHAgent

/-- The documented ranges: reason codes up to 255, at most 65535 ms, a confidence of 1 to 100. -/
def InRange : LinkEvent → Prop
  | .down e => e.reason.toNat ≤ 255
  | .goingDown e =>
    e.timeInterval.toNat ≤ 65535 ∧ 1 ≤ e.confidenceLevel.toNat ∧
      e.confidenceLevel.toNat ≤ 100 ∧ e.reasonCode.toNat ≤ 255
  | _ => True

/-- One end of the link is an interface of the agent. -/
def HasEndpoint (s : MIHAgent) (l : LinkIdentifier) : Prop :=
  s.isLocalMac l.macMobileTerminal = true ∨ s.isLocalMac l.macPoA = true

/-- Whoever has an end of the link does with the packet what it does with the event. -/
def Decodes (p : MihPacket) (e : LinkEvent) : Prop :=
  ∀ (s : MIHAgent) (junk : BitVec 32), s.HasEndpoint e.linkIdentifier →
    s.recv p junk = s.recvEvent e junk

/-- The events that arrive as they were sent. -/
def Transportable : LinkEvent → Prop
  | .up e =>
    e.macOldAccessRouter = 0 ∧ e.macNewAccessRouter = 0 ∧ e.ipRenewal = false ∧
      e.mobilityManagement = 0
  | .down _ => True
  | .rollback e => e.uniqueEventIdentifier.toNat < 65536
  | _ => False

variable {s s' : MIHAgent} {out : List Output} {e : LinkEvent} {p : MihPacket} {junk : BitVec 32}

/-! ### What the receiver makes of it -/

/-- How `recv` reads the message of an event. -/
def recvIndication (s : MIHAgent) (e : LinkEvent) (junk : BitVec 32) :
    Act (MIHAgent × List Output) :=
  match e with
  | .up e => s.recvLinkUpInd (linkUpInd e)
  | .down e => s.recvLinkDownInd (linkDownInd e)
  | .goingDown e => s.recvLinkGoingDownInd (linkGoingDownInd e) junk
  | .rollback e => s.recvLinkRollbackInd (linkRollbackInd e)
  | _ => .error .exit

theorem recv_indication (hp : p.mihh.payload = indication e) :
    s.recv p junk = s.recvIndication e junk := by
  cases e <;> simp only [recv, hp, indication, recvIndication]

theorem setWidth_of_lt {w : ℕ} {x : BitVec 32} (h : x.toNat < 2 ^ w) :
    (x.setWidth w).setWidth 32 = x := by
  apply BitVec.eq_of_toNat_eq
  rw [BitVec.toNat_setWidth, BitVec.toNat_setWidth, Nat.mod_eq_of_lt h, Nat.mod_eq_of_lt x.isLt]

/-- The reason of a link down event fits its byte. -/
theorem recvLinkDownInd_linkDownInd {e : LinkDown} (h : e.reason.toNat ≤ 255) :
    s.recvLinkDownInd (linkDownInd e) = s.processLinkDown e := by
  have hreason : (e.reason.setWidth 8).setWidth 32 = e.reason :=
    setWidth_of_lt (by omega)
  simp only [recvLinkDownInd, linkDownInd, ethToInt_intToEth, hreason]

theorem recvLinkUpInd_linkUpInd {e : LinkUp} (h : Transportable (.up e)) :
    s.recvLinkUpInd (linkUpInd e) = s.processLinkUp e := by
  obtain ⟨link, old, new, renewal, mobility⟩ := e
  obtain ⟨rfl, rfl, rfl, rfl⟩ : old = 0 ∧ new = 0 ∧ renewal = false ∧ mobility = 0 := h
  simp only [recvLinkUpInd, linkUpInd, ethToInt_intToEth]
  rfl

theorem recvLinkRollbackInd_linkRollbackInd {e : LinkRollback}
    (h : e.uniqueEventIdentifier.toNat < 65536) :
    s.recvLinkRollbackInd (linkRollbackInd e) = s.processLinkRollback e := by
  have hid : (e.uniqueEventIdentifier.setWidth 16).setWidth 32 = e.uniqueEventIdentifier :=
    setWidth_of_lt h
  simp only [recvLinkRollbackInd, linkRollbackInd, ethToInt_intToEth, hid]

/-- A transportable event is decoded. -/
theorem decodes_of_transportable (hp : p.mihh.payload = indication e) (he : InRange e)
    (h : Transportable e) : Decodes p e := by
  intro s junk _
  rw [recv_indication hp]
  cases e with
  | up e => exact recvLinkUpInd_linkUpInd h
  | down e => exact recvLinkDownInd_linkDownInd he
  | rollback e => exact recvLinkRollbackInd_linkRollbackInd h
  | goingDown e => exact h.elim
  | detected e => exact h.elim
  | parametersReport e => exact h.elim
  | handoverImminent e => exact h.elim
  | handoverComplete e => exact h.elim

/-! ### A receiver that tells events apart -/

/-- An agent whose only interface is the mobile terminal of the link, with one user subscribed to
everything. -/
def listener (l : LinkIdentifier) : MIHAgent :=
  let mac : Mac := ⟨l.macMobileTerminal, 10, l.type, 0⟩
  { sampleAgent 0x202 with
    ifaces := [(MIHInterfaceInfo.ofMac mac).eventSubscribe 0 0xFFFFFFFF] }

theorem listener_localMac (l : LinkIdentifier) :
    (listener l).localMac l = l.macMobileTerminal := by
  simp [listener, localMac, isLocalMac, getInterface, MIHInterfaceInfo.ofMac,
    MIHInterfaceInfo.eventSubscribe, MIHInterfaceInfo.isLocal]

theorem listener_hasEndpoint (l : LinkIdentifier) : (listener l).HasEndpoint l := by
  simp [HasEndpoint, listener, isLocalMac, getInterface, MIHInterfaceInfo.ofMac,
    MIHInterfaceInfo.eventSubscribe, MIHInterfaceInfo.isLocal]

theorem listener_getInterface (l : LinkIdentifier) :
    (listener l).getInterface ((listener l).localMac l) =
      some ((MIHInterfaceInfo.ofMac ⟨l.macMobileTerminal, 10, l.type, 0⟩).eventSubscribe 0
        0xFFFFFFFF) := by
  rw [listener_localMac]
  simp [listener, getInterface, MIHInterfaceInfo.ofMac, MIHInterfaceInfo.eventSubscribe]

/-- Its user is called with the event. -/
theorem listener_processLink (status : InterfaceStatus)
    (f : MIHAgent → SessionRef → Act (MIHAgent × List Output)) :
    ((listener e.linkIdentifier).processLink e.linkIdentifier status e f).map Prod.snd =
      .ok [.user 0 (.event e)] := by
  simp only [processLink, listener_getInterface, assertNonNull, Runs.ok_bind, Runs.pure_eq_ok,
    MIHInterfaceInfo.getRegisteredLocalUser, MIHInterfaceInfo.getRegisteredRemoteUser,
    MIHInterfaceInfo.eventSubscribe, MIHInterfaceInfo.inEventList_all, if_true]
  rfl

/-- It does not abort. -/
theorem listener_ne_error {x : Act (MIHAgent × List Output)} {calls : List Output} {a : Abort}
    (h : x.map Prod.snd = .ok calls) : x ≠ .error a := by
  rintro rfl
  cases h

/-- What it does for one event it does for no other. -/
theorem listener_inj {x : Act (MIHAgent × List Output)} {e' : LinkEvent}
    (h : x.map Prod.snd = .ok [.user 0 (.event e)])
    (h' : x.map Prod.snd = .ok [.user 0 (.event e')]) : e = e' := by
  have hlist : [Output.user 0 (.event e)] = [.user 0 (.event e')] :=
    Except.ok.inj (h.symm.trans h')
  simpa using hlist

theorem transportable_up {e : LinkUp}
    (h : (listener e.linkIdentifier).recvLinkUpInd (linkUpInd e) =
      (listener e.linkIdentifier).processLinkUp e) : Transportable (.up e) := by
  obtain ⟨link, old, new, renewal, mobility⟩ := e
  let arrived : LinkEvent := .up ⟨link, 0, 0, false, 0⟩
  have hind : ((listener link).recvLinkUpInd (linkUpInd ⟨link, old, new, renewal, mobility⟩)).map
      Prod.snd = .ok [.user 0 (.event arrived)] := by
    simp only [recvLinkUpInd, linkUpInd, ethToInt_intToEth]
    exact listener_processLink (e := arrived) .up _
  have hevent : .up ⟨link, old, new, renewal, mobility⟩ = arrived :=
    listener_inj (listener_processLink .up _) (h ▸ hind)
  obtain ⟨-, rfl, rfl, rfl, rfl⟩ := LinkUp.mk.inj (LinkEvent.up.inj hevent)
  exact ⟨rfl, rfl, rfl, rfl⟩

theorem transportable_rollback {e : LinkRollback}
    (h : (listener e.linkIdentifier).recvLinkRollbackInd (linkRollbackInd e) =
      (listener e.linkIdentifier).processLinkRollback e) : Transportable (.rollback e) := by
  obtain ⟨link, id⟩ := e
  let arrived : LinkEvent := .rollback ⟨link, (id.setWidth 16).setWidth 32⟩
  have hind : ((listener link).recvLinkRollbackInd (linkRollbackInd ⟨link, id⟩)).map Prod.snd =
      .ok [.user 0 (.event arrived)] := by
    simp only [recvLinkRollbackInd, linkRollbackInd, ethToInt_intToEth]
    exact listener_processLink (e := arrived) .up _
  have hevent : .rollback ⟨link, id⟩ = arrived :=
    listener_inj (listener_processLink .up _) (h ▸ hind)
  have hid : id = (id.setWidth 16).setWidth 32 :=
    (LinkRollback.mk.inj (LinkEvent.rollback.inj hevent)).2
  have hlt : ((id.setWidth 16).setWidth 32).toNat < 65536 := by
    rw [BitVec.toNat_setWidth, BitVec.toNat_setWidth]
    omega
  exact hid ▸ hlt

/-- A going down indication has no reason, and the receiver takes what its memory holds. -/
theorem recvLinkGoingDownInd_ne {e : LinkGoingDown} {junk : BitVec 32}
    (hjunk : junk ≠ e.reasonCode) :
    (listener e.linkIdentifier).recvLinkGoingDownInd (linkGoingDownInd e) junk ≠
      (listener e.linkIdentifier).processLinkGoingDown e := by
  intro h
  obtain ⟨link, interval, level, reason, id⟩ := e
  let arrived : LinkEvent := .goingDown
    { linkIdentifier := link
      timeInterval := ((interval / 1000).setWidth 16).setWidth 32
      confidenceLevel := (level.setWidth 8).setWidth 16
      reasonCode := junk
      uniqueEventIdentifier := (id.setWidth 16).setWidth 32 }
  have hind : ((listener link).recvLinkGoingDownInd
      (linkGoingDownInd ⟨link, interval, level, reason, id⟩) junk).map Prod.snd =
      .ok [.user 0 (.event arrived)] := by
    simp only [recvLinkGoingDownInd, linkGoingDownInd, ethToInt_intToEth]
    exact listener_processLink (e := arrived) .goingDown _
  have hevent : .goingDown ⟨link, interval, level, reason, id⟩ = arrived :=
    listener_inj (listener_processLink .goingDown _) (h ▸ hind)
  exact hjunk (LinkGoingDown.mk.inj (LinkEvent.goingDown.inj hevent)).2.2.2.1.symm

/-- The listener hears a parameters report. -/
theorem listener_parametersReport (e : LinkParametersReport) (junk : BitVec 32) :
    (listener e.linkIdentifier).processLinkParametersReport e junk ≠ .error .exit := by
  simp only [processLinkParametersReport, listener_getInterface, assertNonNull, Runs.ok_bind,
    MIHInterfaceInfo.getRegisteredRemoteUser, MIHInterfaceInfo.eventSubscribe]
  rintro ⟨⟩

/-- What the listener understands is transportable. -/
theorem transportable_of_listener
    (h : ∀ junk, (listener e.linkIdentifier).recvIndication e junk =
      (listener e.linkIdentifier).recvEvent e junk) : Transportable e := by
  -- the memory of the receiver is chosen to differ from the reason that is not sent
  cases e with
  | up e => exact transportable_up (h 0)
  | down e => exact trivial
  | goingDown e =>
    have hne : e.reasonCode + 1 ≠ e.reasonCode := by simp
    exact absurd (h (e.reasonCode + 1)) (recvLinkGoingDownInd_ne hne)
  | detected e => exact absurd (h 0).symm (listener_ne_error (listener_processLink .down _))
  | parametersReport e => exact absurd (h 0).symm (listener_parametersReport e 0)
  | rollback e => exact transportable_rollback (h 0)
  | handoverImminent e =>
    exact absurd (h 0).symm (listener_ne_error (listener_processLink .handoverImminent _))
  | handoverComplete e =>
    exact absurd (h 0).symm (listener_ne_error (listener_processLink .handoverComplete _))

/-- An indication sent for an event decodes to it if and only if the event is `Transportable`. -/
theorem indication_decodes_iff (s s' : MIHAgent) (e : LinkEvent) (junk : BitVec 32)
    (out : List Output) (session : Option SessionRef) (p : MihPacket) (he : InRange e)
    (hevent : s.recvEvent e junk = .ok (s', out)) (hp : .packet session p ∈ out) :
    Decodes p e ↔ Transportable e := by
  have hpayload : p.mihh.payload = indication e := ((recvEvent_ok hevent).packets session p hp).1
  constructor
  · intro h
    -- one receiver is enough: the one that hears every event of this link
    refine transportable_of_listener fun junk => ?_
    rw [← recv_indication hpayload]
    exact h _ junk (listener_hasEndpoint _)
  · exact decodes_of_transportable hpayload he

/-- A link up event without the optional fields. -/
def samplePlainUp : LinkEvent := .up ⟨sampleLink, 0, 0, false, 0⟩

/-- A link up event with an old access router. -/
def sampleRoutedUp : LinkEvent := .up ⟨sampleLink, 5, 0, false, 0⟩

theorem indication_decodes_iff_sample :
    ∃ s out p, subscribedAgent.recvEvent samplePlainUp 0 = .ok (s, out) ∧
      .packet (some 0) p ∈ out ∧ Decodes p samplePlainUp :=
  ⟨_, _, _, rfl, List.mem_singleton_self _,
    (indication_decodes_iff subscribedAgent _ samplePlainUp 0 _ (some 0) _ trivial rfl
      (List.mem_singleton_self _)).2 ⟨rfl, rfl, rfl, rfl⟩⟩

/-- The indication of a link up event with an access router does not decode to it, and that of a
handover imminent event ends the receiver. -/
theorem indications_lose :
    (∃ s out p, subscribedAgent.recvEvent sampleRoutedUp 0 = .ok (s, out) ∧
      .packet (some 0) p ∈ out ∧ InRange sampleRoutedUp ∧ ¬ Decodes p sampleRoutedUp) ∧
    ∃ s out p, subscribedAgent.recvEvent sampleImminent 0 = .ok (s, out) ∧
      .packet (some 0) p ∈ out ∧ InRange sampleImminent ∧
      (listener sampleLink).recv p 0 = .error .exit ∧ ¬ Decodes p sampleImminent := by
  have hends : (listener sampleLink).HasEndpoint sampleLink := listener_hasEndpoint sampleLink
  refine ⟨⟨_, _, _, rfl, List.mem_singleton_self _, trivial, ?_⟩,
    ⟨_, _, _, rfl, List.mem_cons_self, trivial, rfl, ?_⟩⟩
  · intro h
    have hrouter : Transportable sampleRoutedUp :=
      transportable_up (h (listener sampleLink) 0 hends)
    exact absurd hrouter.1 (by decide)
  · intro h
    have hexit : (.error .exit : Act (MIHAgent × List Output)) =
        (listener sampleLink).recvEvent sampleImminent 0 := h (listener sampleLink) 0 hends
    exact listener_ne_error
      (listener_processLink (e := sampleImminent) .handoverImminent _) hexit.symm

end MIHAgent

end SipNemo.Mih
