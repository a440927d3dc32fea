import SipNemo.Mih.Frames
import SipNemo.Mih.Indications

/-!
# Link events of another agent

A subscriber and a publisher with the indications under way between them.  The subscriber handles
an indication with the functions written for its own link events, `process_link_up` and the like:
they look up the end of the link that is local, and call the users that have subscribed to the
event on that interface.

So an indication ends the subscriber unless one end of its link is one of its interfaces
(`infoKnown_iff`), and a user that has subscribed to the events of the publisher only is never
called (`never_called`).
-/

namespace SipNemo.Mih

open Runs FirstMatch

/-- Link up, link down and link going down. -/
def LinkEvent.IsUpDown : LinkEvent → Bool
  | .up _ | .down _ | .goingDown _ => true
  | _ => false

namespace MIHAgent

variable {s s' : MIHAgent} {out : List Output} {i : Step} {p : MihPacket} {e : LinkEvent}
  {junk : BitVec 32}

/-! ### Receiving an indication -/

/-- An indication of a link without a local end fails the assertion `info != NULL`. -/
theorem recv_assertion (he : e.IsUpDown = true) (hp : p.mihh.payload = indication e)
    (hnone : s.getInterface (s.localMac e.linkIdentifier) = none) :
    s.recv p junk = .error .assertion := by
  rw [recv_indication hp]
  cases e with
  | up e =>
    have hnone' : s.getInterface (s.localMac e.linkIdentifier) = none := hnone
    simp only [recvIndication, recvLinkUpInd, processLinkUp, processLink, linkUpInd,
      ethToInt_intToEth, hnone']
    rfl
  | down e =>
    have hnone' : s.getInterface (s.localMac e.linkIdentifier) = none := hnone
    simp only [recvIndication, recvLinkDownInd, processLinkDown, processLink, linkDownInd,
      ethToInt_intToEth, hnone']
    rfl
  | goingDown e =>
    have hnone' : s.getInterface (s.localMac e.linkIdentifier) = none := hnone
    simp only [recvIndication, recvLinkGoingDownInd, processLinkGoingDown, processLink,
      linkGoingDownInd, ethToInt_intToEth, hnone']
    rfl
  | _ => cases he

/-- No local user has subscribed to anything. -/
def NoUsers (s : MIHAgent) : Prop := ∀ i ∈ s.ifaces, ∀ e, i.localSub e = .empty

theorem eventCalls_of_packets {sent : List Output}
    (h : ∀ o ∈ sent, ∃ session q, o = .packet session q) : eventCalls sent = [] := by
  refine List.filterMap_eq_nil_iff.2 fun o ho => ?_
  obtain ⟨session, q, rfl⟩ := h o ho
  rfl

/-- Without subscribers a link event calls nobody. -/
theorem eventCalls_processLink {linkId : LinkIdentifier} {status : InterfaceStatus}
    {payload : Payload} {f : MIHAgent → SessionRef → Act (MIHAgent × List Output)}
    (hs : s.NoUsers) (hf : IsTurn payload f)
    (h : s.processLink linkId status e f = .ok (s', out)) : eventCalls out = [] := by
  obtain ⟨info, hinfo, h⟩ := Runs.bind_ok_iff.1 h
  obtain ⟨⟨t, sent⟩, hloop, h⟩ := Runs.bind_ok_iff.1 h
  obtain rfl := (Prod.mk.inj (Except.ok.inj h)).2
  have hnobody : info.getRegisteredLocalUser e.type = [] := by
    have hmem := List.mem_of_find?_eq_some (assertNonNull_eq_ok.1 hinfo)
    rw [MIHInterfaceInfo.getRegisteredLocalUser, hs info hmem]
    rfl
  have hsent : eventCalls sent = [] := by
    refine eventCalls_of_packets fun o ho => ?_
    obtain ⟨r, -, q, rfl, -⟩ := (forEach_turn hf hloop).2 o ho
    exact ⟨some r, q, rfl⟩
  rw [eventCalls_append, hnobody, hsent]
  rfl

theorem eventCalls_recv (hs : s.NoUsers) (he : e.IsUpDown = true)
    (hp : p.mihh.payload = indication e) (h : s.recv p junk = .ok (s', out)) :
    eventCalls out = [] := by
  rw [recv_indication hp] at h
  cases e with
  | up e => exact eventCalls_processLink hs (isTurn_indicate rfl) h
  | down e => exact eventCalls_processLink hs (isTurn_indicate rfl) h
  | goingDown e => exact eventCalls_processLink hs (isTurn_indicate rfl) h
  | _ => cases he

/-! ### An agent without subscriptions of its own users -/

/-- Not a subscription to the agent's own events. -/
def SubscribesElsewhere (s : MIHAgent) : Step → Prop
  | .eventSubscribe _ id _ _ => id ≠ s.mihfId
  | _ => True

/-- Interfaces with the same subscriptions of local users. -/
theorem NoUsers.congr (hs : s.NoUsers)
    (h : s'.ifaces.map MIHInterfaceInfo.own = s.ifaces.map MIHInterfaceInfo.own) :
    s'.NoUsers := by
  intro i hi e
  have hown : i.own ∈ s.ifaces.map MIHInterfaceInfo.own := h ▸ List.mem_map_of_mem hi
  obtain ⟨j, hj, hji⟩ := List.mem_map.1 hown
  have hsub : j.localSub = i.localSub := (Prod.mk.inj (Prod.mk.inj hji).2).2
  rw [← hsub]
  exact hs j hj e

theorem noUsers_perform (hs : s.NoUsers) (hi : s.SubscribesElsewhere i)
    (h : s.perform i = .ok (s', out)) : s'.NoUsers := by
  cases perform_effect h with
  | frame hframe => exact hs.congr hframe.ifaces
  | addMac mac =>
    intro j hj e
    rcases List.mem_append.1 hj with hj | hj
    · exact hs j hj e
    · obtain rfl := List.mem_singleton.1 hj
      rfl
  | localSubscribe => exact absurd rfl hi
  | localUnsubscribe u v link events =>
    intro j hj e
    rcases mem_updateFirst hj with hj | ⟨k, hk, rfl⟩
    · exact hs j hj e
    · have hempty := hs k (List.mem_of_find?_eq_some hk) e
      simp only [MIHInterfaceInfo.eventUnsubscribe, hempty, Subscribers.remove_empty, ite_self]
  | localScan | scanResponse => exact hs
  | peers _ _ _ _ hframe => exact NoUsers.congr (s := s) hs hframe.ifaces
  | remoteScan _ h =>
    rcases recvMihScanReq_cases h with ⟨rfl, -⟩ | ⟨r, -, rfl⟩
    · exact hs
    · exact hs

end MIHAgent

/-! ### The pair -/

/-- A subscriber and a publisher, with the indications the publisher has sent on the session of the
subscriber, each with its event. -/
structure Pair where
  subscriber : MIHAgent
  publisher : MIHAgent
  net : List (LinkEvent × MihPacket)

/-- A step of either agent, or an indication arrives: any of them, any number of times. -/
inductive PairStep
  | subscriber (i : MIHAgent.Step)
  | publisher (i : MIHAgent.Step)
  | deliver (k : ℕ) (junk : BitVec 32)

namespace Pair

open MIHAgent

variable {r : SessionRef} {d d' : Pair} {i : PairStep} {u : UserId}

/-- The packet of an output on a session. -/
def packetOn (r : SessionRef) : Output → Option MihPacket
  | .packet session p => if session = some r then some p else none
  | _ => none

/-- The indications of a step of the publisher for the session `r`. -/
def indications (r : SessionRef) (i : Step) (out : List Output) : List (LinkEvent × MihPacket) :=
  match i with
  | .event e _ => if e.IsUpDown then (out.filterMap (packetOn r)).map fun p => (e, p) else []
  | _ => []

def step (r : SessionRef) (d : Pair) : PairStep → Act Pair
  | .subscriber i => do
    let s ← d.subscriber.step i
    pure { d with subscriber := s }
  | .publisher i => do
    let (s, out) ← d.publisher.perform i
    pure { d with publisher := s, net := d.net ++ indications r i out }
  | .deliver k junk =>
    match d.net[k]? with
    | none => pure d
    | some (_, p) => do
      let s ← d.subscriber.step (.recv p junk)
      pure { d with subscriber := s }

/-- What is under way are indications of up, down and going down events. -/
def Genuine (d : Pair) : Prop :=
  ∀ ep ∈ d.net, ep.1.IsUpDown = true ∧ ep.2.mihh.payload = indication ep.1

theorem genuine_step (hd : d.Genuine) (h : step r d i = .ok d') : d'.Genuine := by
  cases i with
  | subscriber i =>
    obtain ⟨s, -, h⟩ := Runs.bind_ok_iff.1 h
    obtain rfl := Except.ok.inj h
    exact hd
  | publisher i =>
    obtain ⟨⟨s, out⟩, hs, h⟩ := Runs.bind_ok_iff.1 h
    obtain rfl := Except.ok.inj h
    intro ep hep
    rcases List.mem_append.1 hep with hep | hep
    · exact hd ep hep
    · cases i with
      | event e junk =>
        simp only [indications] at hep
        split_ifs at hep with he
        · obtain ⟨p, hp, rfl⟩ := List.mem_map.1 hep
          obtain ⟨o, ho, hop⟩ := List.mem_filterMap.1 hp
          cases o with
          | packet session q =>
            simp only [packetOn] at hop
            split_ifs at hop
            obtain rfl := Option.some.inj hop
            exact ⟨he, ((recvEvent_ok hs).packets session q ho).1⟩
          | _ => cases hop
        · cases hep
      | _ => cases hep
  | deliver k junk =>
    simp only [step] at h
    split at h
    · obtain rfl := Except.ok.inj h
      exact hd
    · obtain ⟨s, -, h⟩ := Runs.bind_ok_iff.1 h
      obtain rfl := Except.ok.inj h
      exact hd

/-- The delivery of an indication fails the assertion `info != NULL`. -/
def FailsInfo (d : Pair) : PairStep → Prop
  | .deliver k junk => ∃ e p, d.net[k]? = some (e, p) ∧
      d.subscriber.recv p junk = .error .assertion ∧
      d.subscriber.getInterface (d.subscriber.localMac e.linkIdentifier) = none
  | _ => False

/-- The end of the link that the subscriber takes for its own is one of its interfaces. -/
def KnowsEnd (d : Pair) : PairStep → Prop
  | .deliver k _ => ∀ e p, d.net[k]? = some (e, p) →
      (d.subscriber.getInterface (d.subscriber.localMac e.linkIdentifier)).isSome
  | _ => True

theorem not_failsInfo_iff (hd : d.Genuine) : ¬ FailsInfo d i ↔ KnowsEnd d i := by
  cases i with
  | subscriber i => exact iff_of_true not_false trivial
  | publisher i => exact iff_of_true not_false trivial
  | deliver k junk =>
    constructor
    · intro h e p hk
      by_contra hno
      rw [Option.not_isSome_iff_eq_none] at hno
      obtain ⟨he, hp⟩ := hd (e, p) (List.mem_of_getElem? hk)
      exact h ⟨e, p, hk, recv_assertion he hp hno, hno⟩
    · rintro h ⟨e, p, hk, -, hnone⟩
      have hsome := h e p hk
      rw [hnone] at hsome
      cases hsome

/-- No indication fails the assertion if and only if each that arrives is of a link whose end is an
interface of the subscriber. -/
theorem infoKnown_iff (r : SessionRef) (d : Pair) (hnet : d.net = []) (is : List PairStep) :
    StepsMeet (step r) (fun d i => ¬ FailsInfo d i) d is ↔ StepsMeet (step r) KnowsEnd d is := by
  refine stepsMeet_congr (I := Genuine) (fun _ _ _ => genuine_step)
    (fun _ _ => not_failsInfo_iff) ?_
  intro ep hep
  rw [hnet] at hep
  cases hep

/-! ### The subscription of a user -/

/-- A user of the subscriber, without other subscriptions, has subscribed to events of the
publisher, which has accepted the event `t`. -/
structure Subscription (u : UserId) (t : MihEvent) (link : LinkIdentifier) where
  start : Pair
  noUsers : start.subscriber.NoUsers
  other : start.publisher.mihfId ≠ start.subscriber.mihfId
  events : BitVec 32
  asked : inEventList events t = true
  waiting : MIHAgent
  session₀ : Option SessionRef
  request : MihPacket
  requested : start.subscriber.perform
    (.eventSubscribe (some u) start.publisher.mihfId link events) =
      .ok (waiting, [.packet session₀ request])
  session : SessionRef
  known : start.publisher.getSession request.mihh.sessionId = some session
  publisher : MIHAgent
  response : MihPacket
  answered : start.publisher.perform (.recv request 0) =
    .ok (publisher, [.packet (some session) response])
  accepted : ∃ m, response.mihh.payload = .eventSubRsp m ∧ inEventList m.eventList t = true
  subscriber : MIHAgent
  conf : List Output
  confirmed : waiting.perform (.recv response 0) = .ok (subscriber, conf)

/-- The pair after the subscription. -/
def Subscription.pair {t : MihEvent} {link : LinkIdentifier} (x : Subscription u t link) : Pair :=
  ⟨x.subscriber, x.publisher, []⟩

/-- The delivery of an indication calls the user once with the event. -/
def CallsOnce (u : UserId) (d : Pair) : PairStep → Prop
  | .deliver k junk => ∃ e p s out, d.net[k]? = some (e, p) ∧
      d.subscriber.recv p junk = .ok (s, out) ∧ (eventCalls out).count (u, e.type) = 1
  | _ => False

/-- The subscriber has no subscriptions to its own events. -/
def Elsewhere (d : Pair) : PairStep → Prop
  | .subscriber i => d.subscriber.SubscribesElsewhere i
  | _ => True

/-- What is under way is genuine, and no user of the subscriber has subscribed to its events. -/
structure Silent (d : Pair) : Prop where
  genuine : d.Genuine
  noUsers : d.subscriber.NoUsers

theorem silent_step (hd : Silent d) (hi : Elsewhere d i) (h : step r d i = .ok d') :
    Silent d' := by
  refine ⟨genuine_step hd.genuine h, ?_⟩
  cases i with
  | subscriber i =>
    obtain ⟨s, hs, h⟩ := Runs.bind_ok_iff.1 h
    obtain ⟨⟨t, out⟩, ht, rfl⟩ := Runs.map_ok_iff.1 hs
    obtain rfl := Except.ok.inj h
    exact noUsers_perform hd.noUsers hi ht
  | publisher i =>
    obtain ⟨⟨s, out⟩, -, h⟩ := Runs.bind_ok_iff.1 h
    obtain rfl := Except.ok.inj h
    exact hd.noUsers
  | deliver k junk =>
    simp only [step] at h
    split at h
    · obtain rfl := Except.ok.inj h
      exact hd.noUsers
    · next p _ =>
      obtain ⟨s, hs, h⟩ := Runs.bind_ok_iff.1 h
      obtain ⟨⟨t, out⟩, ht, rfl⟩ := Runs.map_ok_iff.1 hs
      obtain rfl := Except.ok.inj h
      exact noUsers_perform (i := .recv p junk) hd.noUsers trivial ht

theorem not_callsOnce (hd : Silent d) : ¬ CallsOnce u d i := by
  cases i with
  | subscriber i => exact not_false
  | publisher i => exact not_false
  | deliver k junk =>
    rintro ⟨e, p, s, out, hk, hrecv, hcount⟩
    obtain ⟨he, hp⟩ := hd.genuine (e, p) (List.mem_of_getElem? hk)
    rw [eventCalls_recv hd.noUsers he hp hrecv] at hcount
    cases hcount

theorem Subscription.silent {t : MihEvent} {link : LinkIdentifier} (x : Subscription u t link) :
    Silent x.pair := by
  refine ⟨fun ep hep => absurd hep List.not_mem_nil, ?_⟩
  have hwaiting := noUsers_perform x.noUsers (i := .eventSubscribe _ _ _ _) x.other x.requested
  exact noUsers_perform (i := .recv x.response 0) hwaiting trivial x.confirmed

/-- After the subscription no indication that arrives calls the user. -/
theorem never_called {t : MihEvent} {link : LinkIdentifier} (x : Subscription u t link)
    (is : List PairStep) (his : StepsMeet (step x.session) Elsewhere x.pair is) :
    StepsMeet (step x.session) (fun d i => ¬ CallsOnce u d i) x.pair is :=
  his.imp (I := Silent) (fun _ _ _ => silent_step) (fun _ _ hd _ => not_callsOnce hd) x.silent

/-! ### A user of the sample agent and a mobile node -/

/-- The mobile node 2, with the MAC 5. -/
def sampleMobile : MIHAgent :=
  { sampleAgent 0x202 with
    addr := 20
    mihfId := 2
    ifaces := [.ofMac { sampleMac with addr := 5, nodeAddr := 20 }]
    mihf := fun _ => { samplePeer 0x202 with id := 1, address := 10 }
    session := fun _ => { id := 1 <<< 18, macAddr := 5, mihf := some 0 } }

/-- The link of the mobile node at a point of attachment. -/
def mobileLink (poa : MacAddr) : LinkIdentifier := ⟨link80211, 5, poa⟩

/-- The link at the point of attachment comes up. -/
def mobileUp (poa : MacAddr) : PairStep :=
  .publisher (.event (.up ⟨mobileLink poa, 0, 0, false, 0⟩) 0)

/-- The user 0 of the sample agent has subscribed to link up. -/
def sampleSubscription : Subscription 0 .linkUp (mobileLink 1) where
  start := ⟨sampleAgent 0x202, sampleMobile, []⟩
  noUsers := by
    intro i hi e
    obtain rfl := List.mem_singleton.1 hi
    rfl
  other := by decide
  events := 1
  asked := by decide
  waiting := _
  session₀ := _
  request := _
  requested := rfl
  session := 0
  known := by decide
  publisher := _
  response := _
  answered := rfl
  accepted := ⟨_, rfl, by decide⟩
  subscriber := _
  conf := _
  confirmed := rfl

/-- At the point of attachment 1, which is the interface of the subscriber. -/
theorem infoKnown_at_home :
    StepsMeet (step 0) (fun d i => ¬ FailsInfo d i) sampleSubscription.pair
      [mobileUp 1, .deliver 0 0] := by
  refine (infoKnown_iff 0 sampleSubscription.pair rfl [mobileUp 1, .deliver 0 0]).2
    ⟨trivial, fun d hd => ⟨?_, fun _ _ => trivial⟩⟩
  obtain rfl := Except.ok.inj hd
  intro e p hk
  obtain rfl := (Prod.mk.inj (Option.some.inj hk)).1
  decide

/-- The mobile node moves to the point of attachment 9, which is not: the indication ends the
subscriber. -/
theorem indication_aborts :
    ∃ d, runSteps (step 0) sampleSubscription.pair [mobileUp 9] = .ok d ∧
      FailsInfo d (.deliver 0 0) :=
  ⟨_, rfl, _, _, rfl, rfl, by decide⟩

theorem never_called_sample :
    StepsMeet (step 0) (fun d i => ¬ CallsOnce 0 d i) sampleSubscription.pair
      [mobileUp 1, .deliver 0 0] :=
  never_called sampleSubscription [mobileUp 1, .deliver 0 0]
    ⟨trivial, fun _ _ => ⟨trivial, fun _ _ => trivial⟩⟩

/-- The indication arrives and is handled, and the user is not called. -/
theorem indication_without_call :
    ∃ d e p s, runSteps (step 0) sampleSubscription.pair [mobileUp 1] = .ok d ∧
      d.net = [(e, p)] ∧ e.type = .linkUp ∧ e.linkIdentifier = mobileLink 1 ∧
      d.subscriber.recv p 0 = .ok (s, []) ∧ ¬ CallsOnce 0 d (.deliver 0 0) := by
  refine ⟨_, _, _, _, rfl, rfl, rfl, rfl, rfl, ?_⟩
  rintro ⟨e, p, s, out, hk, hrecv, hcount⟩
  obtain ⟨-, rfl⟩ := Prod.mk.inj (Option.some.inj hk)
  obtain rfl := (Prod.mk.inj (Except.ok.inj hrecv)).2
  cases hcount

end Pair

end SipNemo.Mih
