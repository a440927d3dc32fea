import SipNemo.Mih.Dispatch

/-!
# Delivery of link events

Who gets a link event: each local user that has subscribed to it on the interface, one call; each
remote session that has and whose peer is reached over layer 3, one packet.  `delivered_iff` says
for which events and states the agent does that.  Up, down, going down, detected and rollback are
delivered whenever the remote subscribers have a peer and a MAC.  The parameters report goes to the
local users of going down, so the two lists must have the same members.  The handover events are
delivered only when there is no remote subscriber, since each packet is sent twice.
-/

namespace SipNemo.Mih

namespace MIHAgent

/-- The calls of `process_mih_event`, with the type of the event. -/
def eventCalls (out : List Output) : List (UserId × MihEvent) :=
  out.filterMap fun
    | .user u (.event e) => some (u, e.type)
    | _ => none

/-- The sessions on which packets are sent, one entry for each packet. -/
def packetSessions (out : List Output) : List (Option SessionRef) :=
  out.filterMap fun
    | .packet session _ => some session
    | _ => none

/-- The peer of a session is reached over layer 3. -/
def reachesL3 (s : MIHAgent) (r : SessionRef) : Bool :=
  match s.route r with
  | some (peer, _) => usesL3 peer .event
  | none => false

/-- The event reaches exactly its subscribers on the interface `info`, once each. -/
def Delivered (s : MIHAgent) (info : MIHInterfaceInfo) (e : LinkEvent) (junk : BitVec 32) : Prop :=
  ∃ s' out, s.recvEvent e junk = .ok (s', out) ∧
    (∀ u type, (eventCalls out).count (u, type) =
      if type = e.type ∧ u ∈ info.localSub e.type then 1 else 0) ∧
    ∀ session, (packetSessions out).count session =
      if ∃ r ∈ info.remoteSub e.type, session = some r ∧ s.reachesL3 r = true then 1 else 0

/-- When the agent does that. -/
def Deliverable (s : MIHAgent) (info : MIHInterfaceInfo) (e : LinkEvent) : Prop :=
  (∀ r ∈ info.remoteSub e.type, (s.route r).isSome) ∧
    match e with
    | .parametersReport _ =>
      ∀ u, u ∈ info.localSub .linkGoingDown ↔ u ∈ info.localSub .linkParametersReport
    | .handoverImminent _ => ∀ r, r ∉ info.remoteSub .linkHandoverImminent
    | .handoverComplete _ => ∀ r, r ∉ info.remoteSub .linkHandoverComplete
    | _ => True

/-! ### The local users -/

theorem eventCalls_append (a b : List Output) :
    eventCalls (a ++ b) = eventCalls a ++ eventCalls b := List.filterMap_append

theorem packetSessions_append (a b : List Output) :
    packetSessions (a ++ b) = packetSessions a ++ packetSessions b := List.filterMap_append

theorem eventCalls_notifyLocal (users : List UserId) (e : LinkEvent) :
    eventCalls (notifyLocal users e) = users.map fun u => (u, e.type) := by
  induction users with
  | nil => rfl
  | cons u users ih =>
    show (u, e.type) :: eventCalls (notifyLocal users e) = _
    rw [ih]
    rfl

theorem packetSessions_notifyLocal (users : List UserId) (e : LinkEvent) :
    packetSessions (notifyLocal users e) = [] := by
  induction users with
  | nil => rfl
  | cons u users ih => exact ih

/-- Each user of the list is called once, with the event. -/
theorem count_eventCalls_notifyLocal (users : Subscribers UserId) (e : LinkEvent) (u : UserId)
    (type : MihEvent) :
    (eventCalls (notifyLocal users.list e)).count (u, type) =
      if type = e.type ∧ u ∈ users then 1 else 0 := by
  rw [eventCalls_notifyLocal]
  by_cases htype : type = e.type
  · subst htype
    have hinj : Function.Injective fun u : UserId => (u, e.type) :=
      fun a b h => (Prod.mk.inj h).1
    rw [List.count_map_of_injective _ _ hinj, Subscribers.count_list]
    simp
  · rw [if_neg fun h => htype h.1, List.count_eq_zero]
    intro h
    obtain ⟨v, -, hv⟩ := List.mem_map.1 h
    exact htype (Prod.mk.inj hv).2.symm

/-! ### The remote sessions -/

/-- What one turn of a loop over remote sessions sends: `k peer` packets on the session. -/
structure Sends (f : MIHAgent → SessionRef → Act (MIHAgent × List Output)) (k : MihfInfo → ℕ) :
    Prop where
  ok : ∀ s r peer mac, s.route r = some (peer, mac) → ∃ t out,
    f s r = .ok (s.setTid t, out) ∧ eventCalls out = [] ∧
      packetSessions out = List.replicate (k peer) (some r)
  fails : ∀ s r, s.route r = none → ∃ e, f s r = .error e

/-- How many packets an indication is. -/
def oncePerL3 (peer : MihfInfo) : ℕ := if usesL3 peer .event then 1 else 0

/-- The packets for a session, when its peer gets `k peer`. -/
def packetsFor (s : MIHAgent) (k : MihfInfo → ℕ) (r : SessionRef) : ℕ :=
  match s.route r with
  | some (peer, _) => k peer
  | none => 0

variable {s s' : MIHAgent} {out : List Output} {payload : Payload}
  {f : MIHAgent → SessionRef → Act (MIHAgent × List Output)} {k : MihfInfo → ℕ}

/-- An event message on a session with a route. -/
theorem sendMihMessage_event {p : MihPacket} {r : SessionRef} {peer : MihfInfo} {mac : Mac}
    (hq : Quiet p) (hp : p.mihh.payload.serviceId = .event) (hr : s.route r = some (peer, mac)) :
    ∃ q out, s.sendMihMessage none p (some r) = .ok (s, q, out) ∧ eventCalls out = [] ∧
      packetSessions out = List.replicate (oncePerL3 peer) (some r) := by
  rw [sendMihMessage_of_route hr, transmit_of_quiet hq, hp]
  unfold oncePerL3
  split_ifs
  · exact ⟨_, _, rfl, rfl, rfl⟩
  · exact ⟨_, _, rfl, rfl, rfl⟩

theorem sendMihMessage_fails {p : MihPacket} {r : SessionRef} (hr : s.route r = none) :
    ∃ e, s.sendMihMessage none p (some r) = .error e := by
  cases h : s.sendMihMessage none p (some r) with
  | error e => exact ⟨e, rfl⟩
  | ok res =>
    obtain ⟨r', peer, mac, hr', hroute, -⟩ := sendMihMessage_ok h
    obtain rfl : r = r' := Option.some.inj hr'
    rw [hr] at hroute
    cases hroute

theorem sends_indicate (hq : payload.isRequest = false) (hp : payload.serviceId = .event) :
    Sends (fun s => s.indicate payload) oncePerL3 where
  ok := by
    intro s r peer mac hr
    have hr' : s.nextTid.route r = some (peer, mac) := hr
    obtain ⟨q, out, hsend, hcalls, hpackets⟩ :=
      sendMihMessage_event (p := s.allocpkt
        { transactionId := s.tid, sessionId := (s.session r).id, payload := payload })
        ⟨rfl, hq⟩ hp hr'
    refine ⟨s.transactionId + 1, out, ?_, hcalls, hpackets⟩
    simp only [indicate, hsend, Runs.ok_bind, Runs.pure_eq_ok]
    rfl
  fails := by
    intro s r hr
    have hr' : s.nextTid.route r = none := hr
    obtain ⟨e, he⟩ := sendMihMessage_fails (p := s.allocpkt
      { transactionId := s.tid, sessionId := (s.session r).id, payload := payload }) hr'
    exact ⟨e, by simp only [indicate, he]; rfl⟩

theorem sends_indicatePlain (hq : payload.isRequest = false) (hp : payload.serviceId = .event) :
    Sends (fun s => s.indicatePlain payload) oncePerL3 where
  ok := by
    intro s r peer mac hr
    obtain ⟨q, out, hsend, hcalls, hpackets⟩ :=
      sendMihMessage_event (p := s.allocpkt { payload := payload }) ⟨rfl, hq⟩ hp hr
    refine ⟨s.transactionId, out, ?_, hcalls, hpackets⟩
    simp only [indicatePlain, hsend, Runs.ok_bind, Runs.pure_eq_ok]
    rfl
  fails := by
    intro s r hr
    obtain ⟨e, he⟩ := sendMihMessage_fails (p := s.allocpkt { payload := payload }) hr
    exact ⟨e, by simp only [indicatePlain, he]; rfl⟩

theorem sends_indicateTwice (hq : payload.isRequest = false) (hp : payload.serviceId = .event) :
    Sends (fun s => s.indicateTwice payload) (fun peer => oncePerL3 peer + 1) where
  ok := by
    intro s r peer mac hr
    obtain ⟨q, out, hsend, hcalls, hpackets⟩ :=
      sendMihMessage_event (p := s.allocpkt { payload := payload }) ⟨rfl, hq⟩ hp hr
    refine ⟨s.transactionId, out ++ [.packet (some r) q], ?_, ?_, ?_⟩
    · simp only [indicateTwice, hsend, Runs.ok_bind, Runs.pure_eq_ok]
      rfl
    · rw [eventCalls_append, hcalls]
      rfl
    · rw [packetSessions_append, hpackets, List.replicate_succ']
      rfl
  fails := by
    intro s r hr
    obtain ⟨e, he⟩ := sendMihMessage_fails (p := s.allocpkt { payload := payload }) hr
    exact ⟨e, by simp only [indicateTwice, he]; rfl⟩

/-- The loop, when every session has a route. -/
theorem Sends.forEach_ok (hf : Sends f k) {l : List SessionRef}
    (hl : ∀ r ∈ l, (s.route r).isSome) :
    ∃ t out, forEach f s l = .ok (s.setTid t, out) ∧ eventCalls out = [] ∧
      packetSessions out =
        (l.flatMap fun r => List.replicate (s.packetsFor k r) r).map some := by
  induction l generalizing s with
  | nil => exact ⟨s.transactionId, [], rfl, rfl, rfl⟩
  | cons r l ih =>
    obtain ⟨⟨peer, mac⟩, hr⟩ := Option.isSome_iff_exists.1 (hl r List.mem_cons_self)
    obtain ⟨t₁, out₁, hfirst, hcalls₁, hpackets₁⟩ := hf.ok s r peer mac hr
    have hl' : ∀ q ∈ l, ((s.setTid t₁).route q).isSome :=
      fun q hq => hl q (List.mem_cons_of_mem _ hq)
    obtain ⟨t₂, out₂, hrest, hcalls₂, hpackets₂⟩ := ih hl'
    refine ⟨t₂, out₁ ++ out₂, ?_, ?_, ?_⟩
    · simp only [forEach, hfirst, Runs.ok_bind, hrest, Runs.pure_eq_ok]
      rfl
    · rw [eventCalls_append, hcalls₁, hcalls₂]
      rfl
    · have hk : s.packetsFor k r = k peer := by simp [packetsFor, hr]
      rw [packetSessions_append, hpackets₁, hpackets₂, List.flatMap_cons, List.map_append,
        List.map_replicate, hk]
      rfl

/-- The loop, when some session has none. -/
theorem Sends.forEach_fails (hf : Sends f k) {l : List SessionRef} {r : SessionRef} (hr : r ∈ l)
    (hroute : s.route r = none) : ∃ e, forEach f s l = .error e := by
  induction l generalizing s with
  | nil => exact absurd hr List.not_mem_nil
  | cons q l ih =>
    cases hq : s.route q with
    | none =>
      obtain ⟨e, he⟩ := hf.fails s q hq
      exact ⟨e, by simp only [forEach, he]; rfl⟩
    | some peer =>
      obtain ⟨t, out, hfirst, -, -⟩ := hf.ok s q peer.1 peer.2 hq
      have hne : r ≠ q := by
        rintro rfl
        rw [hroute] at hq
        cases hq
      have hl : r ∈ l := (List.mem_cons.1 hr).resolve_left hne
      obtain ⟨e, he⟩ := ih hl (show (s.setTid t).route r = none from hroute)
      exact ⟨e, by simp only [forEach, hfirst, Runs.ok_bind, he]; rfl⟩

/-- A write that leaves address and MAC of the interfaces alone leaves the routes alone. -/
theorem route_modifyInterface (mac : MacAddr) {g : MIHInterfaceInfo → MIHInterfaceInfo}
    (hg : ∀ i, (g i).macAddr = i.macAddr ∧ (g i).mac = i.mac) (r : SessionRef) :
    (s.modifyInterface mac g).route r = s.route r := by
  have hmap (a : MacAddr) : ((s.modifyInterface mac g).getInterface a).map MIHInterfaceInfo.mac =
      (s.getInterface a).map MIHInterfaceInfo.mac :=
    FirstMatch.find?_updateFirst_map (fun i => by rw [(hg i).1]) (fun i => (hg i).2) s.ifaces
  have hmac (a : MacAddr) (dev : Mac) :
      (∃ info, (s.modifyInterface mac g).getInterface a = some info ∧ info.mac = some dev) ↔
        ∃ info, s.getInterface a = some info ∧ info.mac = some dev := by
    rw [← Option.map_eq_some_iff, hmap, Option.map_eq_some_iff]
  apply Option.ext
  rintro ⟨peer, dev⟩
  show (s.modifyInterface mac g).route r = some (peer, dev) ↔ s.route r = some (peer, dev)
  rw [route_eq_some, route_eq_some]
  constructor
  · rintro ⟨m, info, hm, hpeer, hinfo, hdev⟩
    obtain ⟨info', hinfo', hdev'⟩ := (hmac _ dev).1 ⟨info, hinfo, hdev⟩
    exact ⟨m, info', hm, hpeer, hinfo', hdev'⟩
  · rintro ⟨m, info, hm, hpeer, hinfo, hdev⟩
    obtain ⟨info', hinfo', hdev'⟩ := (hmac _ dev).2 ⟨info, hinfo, hdev⟩
    exact ⟨m, info', hm, hpeer, hinfo', hdev'⟩

/-- The number of packets for each session that a loop over subscribers sends. -/
theorem count_packets (subs : Subscribers SessionRef) (k : MihfInfo → ℕ)
    (session : Option SessionRef) :
    ((subs.list.flatMap fun r => List.replicate (s.packetsFor k r) r).map some).count session =
      match session with
      | some r => if r ∈ subs then s.packetsFor k r else 0
      | none => 0 := by
  cases session with
  | none => simp [List.count_eq_zero]
  | some r =>
    rw [List.count_map_of_injective _ _ (Option.some_injective _),
      Subscribers.count_flatMap_replicate]

/-- The result of a link event: the calls and packets of an interface, or none. -/
structure Outcome (s : MIHAgent) (res : Act (MIHAgent × List Output)) (e : LinkEvent)
    (users : Subscribers UserId) (subs : Subscribers SessionRef) (k : MihfInfo → ℕ) : Prop where
  ok : (∀ r ∈ subs, (s.route r).isSome) → ∃ s' out, res = .ok (s', out) ∧
    (∀ u type, (eventCalls out).count (u, type) =
      if type = e.type ∧ u ∈ users then 1 else 0) ∧
    ∀ session, (packetSessions out).count session =
      match session with
      | some r => if r ∈ subs then s.packetsFor k r else 0
      | none => 0
  fails : ∀ r ∈ subs, s.route r = none → ∃ err, res = .error err

/-- The calls of the local users and the loop over the remote sessions. -/
theorem Sends.outcome {s₁ : MIHAgent} (hf : Sends f k) (hroute : ∀ r, s₁.route r = s.route r)
    (e : LinkEvent) (users : Subscribers UserId) (subs : Subscribers SessionRef) :
    Outcome s
      (do
        let (t, sent) ← forEach f s₁ subs.list
        pure (t, notifyLocal users.list e ++ sent)) e users subs k where
  ok := by
    intro hsubs
    have hsubs₁ : ∀ r ∈ subs.list, (s₁.route r).isSome := by
      intro r hr
      rw [hroute]
      exact hsubs r hr
    obtain ⟨t, sent, hloop, hcalls, hpackets⟩ := hf.forEach_ok hsubs₁
    refine ⟨s₁.setTid t, notifyLocal users.list e ++ sent, ?_, ?_, ?_⟩
    · simp only [hloop, Runs.ok_bind, Runs.pure_eq_ok]
    · intro u type
      rw [eventCalls_append, hcalls, List.append_nil, count_eventCalls_notifyLocal]
    · intro session
      have hcount : ∀ r, s₁.packetsFor k r = s.packetsFor k r := by
        intro r
        rw [packetsFor, packetsFor, hroute]
      rw [packetSessions_append, packetSessions_notifyLocal, List.nil_append, hpackets,
        count_packets]
      simp only [hcount]
  fails := by
    intro r hr hnone
    obtain ⟨err, herr⟩ := hf.forEach_fails hr ((hroute r).trans hnone)
    exact ⟨err, by simp only [herr]; rfl⟩

theorem outcome_processLink {linkId : LinkIdentifier} {status : InterfaceStatus} {e : LinkEvent}
    {info : MIHInterfaceInfo} (hf : Sends f k)
    (hinfo : s.getInterface (s.localMac linkId) = some info) :
    Outcome s (s.processLink linkId status e f) e (info.localSub e.type) (info.remoteSub e.type)
      k := by
  have h := hf.outcome (s := s)
    (route_modifyInterface (s.localMac linkId) (g := fun i => i.setStatus status)
      fun _ => ⟨rfl, rfl⟩) e (info.localSub e.type) (info.remoteSub e.type)
  simpa only [processLink, hinfo, assertNonNull_some, Runs.ok_bind,
    MIHInterfaceInfo.getRegisteredLocalUser, MIHInterfaceInfo.getRegisteredRemoteUser] using h

theorem outcome_parametersReport {e : LinkParametersReport} {junk : BitVec 32}
    {info : MIHInterfaceInfo} (hinfo : s.getInterface (s.localMac e.linkIdentifier) = some info) :
    Outcome s (s.processLinkParametersReport e junk) (.parametersReport e)
      (info.localSub .linkGoingDown) (info.remoteSub .linkParametersReport) oncePerL3 := by
  have hf : Sends
      (fun s => s.indicatePlain (.linkParametersReportInd (linkParametersReportInd e))) oncePerL3 :=
    sends_indicatePlain rfl rfl
  have h := hf.outcome (s := s) (fun _ => rfl) (.parametersReport (reportCopy e junk))
    (info.localSub .linkGoingDown) (info.remoteSub .linkParametersReport)
  have h' : Outcome s (s.processLinkParametersReport e junk)
      (.parametersReport (reportCopy e junk)) (info.localSub .linkGoingDown)
      (info.remoteSub .linkParametersReport) oncePerL3 := by
    simpa only [processLinkParametersReport, hinfo, assertNonNull_some, Runs.ok_bind,
      MIHInterfaceInfo.getRegisteredLocalUser, MIHInterfaceInfo.getRegisteredRemoteUser] using h
  exact ⟨h'.ok, h'.fails⟩

/-! ### When an event is delivered -/

theorem packetsFor_oncePerL3 (r : SessionRef) :
    s.packetsFor oncePerL3 r = if s.reachesL3 r = true then 1 else 0 := by
  unfold packetsFor reachesL3
  cases s.route r with
  | none => rfl
  | some route => rfl

theorem packetsFor_succ {r : SessionRef} (hr : (s.route r).isSome) :
    s.packetsFor (fun peer => k peer + 1) r = s.packetsFor k r + 1 := by
  obtain ⟨⟨peer, mac⟩, hr⟩ := Option.isSome_iff_exists.1 hr
  simp [packetsFor, hr]

variable {info : MIHInterfaceInfo} {e : LinkEvent} {junk : BitVec 32}

/-- A delivered event has routes to all its remote subscribers. -/
theorem Outcome.routes {res : MIHAgent × List Output} {users : Subscribers UserId}
    {subs : Subscribers SessionRef} (h : Outcome s (s.recvEvent e junk) e users subs k)
    (hres : s.recvEvent e junk = .ok res) : ∀ r ∈ subs, (s.route r).isSome := by
  intro r hr
  cases hroute : s.route r with
  | some route => rfl
  | none =>
    obtain ⟨err, herr⟩ := h.fails r hr hroute
    rw [hres] at herr
    cases herr

/-- With one packet for each session, all that matters is which users are called. -/
theorem Outcome.delivered_once_iff {users : Subscribers UserId}
    (h : Outcome s (s.recvEvent e junk) e users (info.remoteSub e.type) oncePerL3) :
    Delivered s info e junk ↔
      (∀ r ∈ info.remoteSub e.type, (s.route r).isSome) ∧
        ∀ u, u ∈ users ↔ u ∈ info.localSub e.type := by
  constructor
  · rintro ⟨s', out, hres, hcalls, -⟩
    have hroutes := h.routes hres
    obtain ⟨s₁, out₁, hres₁, hcalls₁, -⟩ := h.ok hroutes
    rw [hres] at hres₁
    cases hres₁
    refine ⟨hroutes, ?_⟩
    intro u
    have hcount := (hcalls₁ u e.type).symm.trans (hcalls u e.type)
    by_cases hu : u ∈ users <;> by_cases hu' : u ∈ info.localSub e.type <;>
      simp_all
  · rintro ⟨hroutes, husers⟩
    obtain ⟨s', out, hres, hcalls, hpackets⟩ := h.ok hroutes
    refine ⟨s', out, hres, ?_, ?_⟩
    · intro u type
      rw [hcalls]
      simp only [husers]
    · intro session
      rw [hpackets]
      cases session with
      | none => simp
      | some r => 
        simp only [packetsFor_oncePerL3]
        by_cases hr : r ∈ info.remoteSub e.type <;> by_cases hl3 : s.reachesL3 r = true <;>
          simp [hr, hl3]

/-- With each packet sent twice, no session may have subscribed. -/
theorem Outcome.delivered_twice_iff
    (h : Outcome s (s.recvEvent e junk) e (info.localSub e.type) (info.remoteSub e.type)
      fun peer => oncePerL3 peer + 1) :
    Delivered s info e junk ↔ ∀ r, r ∉ info.remoteSub e.type := by
  constructor
  · rintro ⟨s', out, hres, -, hpackets⟩ r hr
    have hroutes := h.routes hres
    obtain ⟨s₁, out₁, hres₁, -, hpackets₁⟩ := h.ok hroutes
    rw [hres] at hres₁
    cases hres₁
    have hcount := (hpackets₁ (some r)).symm.trans (hpackets (some r))
    simp only [hr, if_true] at hcount
    rw [packetsFor_succ (hroutes r hr), packetsFor_oncePerL3] at hcount
    by_cases hl3 : s.reachesL3 r = true
    · simp [hl3, hr] at hcount
    · simp [hl3] at hcount
  · intro hnone
    obtain ⟨s', out, hres, hcalls, hpackets⟩ := h.ok fun r hr => absurd hr (hnone r)
    refine ⟨s', out, hres, hcalls, ?_⟩
    intro session
    rw [hpackets]
    cases session with
    | none => simp
    | some r => simp [hnone]

/-- The five events with the common code. -/
theorem delivered_iff_of_once {f : MIHAgent → SessionRef → Act (MIHAgent × List Output)}
    {status : InterfaceStatus} (hf : Sends f oncePerL3)
    (hinfo : s.getInterface (s.localMac e.linkIdentifier) = some info)
    (he : s.recvEvent e junk = s.processLink e.linkIdentifier status e f) :
    Delivered s info e junk ↔ ∀ r ∈ info.remoteSub e.type, (s.route r).isSome := by
  have h : Outcome s (s.recvEvent e junk) e (info.localSub e.type) (info.remoteSub e.type)
      oncePerL3 := by
    rw [he]
    exact outcome_processLink hf hinfo
  rw [h.delivered_once_iff]
  exact and_iff_left fun _ => Iff.rfl

/-- The two handover events. -/
theorem delivered_iff_of_twice {f : MIHAgent → SessionRef → Act (MIHAgent × List Output)}
    {status : InterfaceStatus} (hf : Sends f fun peer => oncePerL3 peer + 1)
    (hinfo : s.getInterface (s.localMac e.linkIdentifier) = some info)
    (he : s.recvEvent e junk = s.processLink e.linkIdentifier status e f) :
    Delivered s info e junk ↔
      (∀ r ∈ info.remoteSub e.type, (s.route r).isSome) ∧ ∀ r, r ∉ info.remoteSub e.type := by
  have h : Outcome s (s.recvEvent e junk) e (info.localSub e.type) (info.remoteSub e.type)
      fun peer => oncePerL3 peer + 1 := by
    rw [he]
    exact outcome_processLink hf hinfo
  rw [h.delivered_twice_iff]
  exact ⟨fun hnone => ⟨fun r hr => absurd hr (hnone r), hnone⟩, fun h => h.2⟩

/-- An event about a known local interface reaches exactly its subscribers, once each, if and only
if it is `Deliverable`. -/
theorem delivered_iff (s : MIHAgent) (e : LinkEvent) (junk : BitVec 32) (info : MIHInterfaceInfo)
    (hinfo : s.getInterface (s.localMac e.linkIdentifier) = some info) :
    Delivered s info e junk ↔ Deliverable s info e := by
  cases e with
  | up e =>
    rw [delivered_iff_of_once (sends_indicate rfl rfl) hinfo rfl]
    exact (and_iff_left trivial).symm
  | down e =>
    rw [delivered_iff_of_once (sends_indicate rfl rfl) hinfo rfl]
    exact (and_iff_left trivial).symm
  | goingDown e =>
    rw [delivered_iff_of_once (sends_indicate rfl rfl) hinfo rfl]
    exact (and_iff_left trivial).symm
  | detected e =>
    rw [delivered_iff_of_once (sends_indicate rfl rfl) hinfo rfl]
    exact (and_iff_left trivial).symm
  | rollback e =>
    rw [delivered_iff_of_once (sends_indicate rfl rfl) hinfo rfl]
    exact (and_iff_left trivial).symm
  | parametersReport e =>
    have h : Outcome s (s.recvEvent (.parametersReport e) junk) (.parametersReport e)
        (info.localSub .linkGoingDown) (info.remoteSub .linkParametersReport) oncePerL3 :=
      outcome_parametersReport hinfo
    exact h.delivered_once_iff
  | handoverImminent e => exact delivered_iff_of_twice (sends_indicateTwice rfl rfl) hinfo rfl
  | handoverComplete e => exact delivered_iff_of_twice (sends_indicateTwice rfl rfl) hinfo rfl

/-- The link of the sample MAC. -/
def sampleLink : LinkIdentifier := ⟨link80211, 1, 30⟩

/-- An interface with the user 7 subscribed to going down, and the session 0 to up and handover
imminent. -/
def sampleInterface : MIHInterfaceInfo :=
  ((MIHInterfaceInfo.ofMac sampleMac).eventSubscribe 7 0x4).remoteEventSubscribe 0 0x81

/-- The agent with that interface. -/
def subscribedAgent : MIHAgent := { sampleAgent 0x202 with ifaces := [sampleInterface] }

theorem delivered_iff_sample :
    Delivered subscribedAgent sampleInterface (.up ⟨sampleLink, 0, 0, false, 0⟩) 0 :=
  (delivered_iff subscribedAgent _ 0 sampleInterface rfl).2 ⟨fun _ _ => rfl, trivial⟩

/-- A parameters report. -/
def sampleReport : LinkEvent := .parametersReport ⟨sampleLink, [], by decide⟩

/-- A handover imminent event. -/
def sampleImminent : LinkEvent := .handoverImminent ⟨sampleLink, sampleLink, 0, 0⟩

/-- The report calls the user 7, which has not subscribed to it, and the handover event puts two
packets on the session 0. -/
theorem delivered_wrongly :
    ((∃ s out, subscribedAgent.recvEvent sampleReport 0 = .ok (s, out) ∧
        7 ∉ sampleInterface.localSub .linkParametersReport ∧
        (eventCalls out).count (7, .linkParametersReport) = 1) ∧
      ¬ Delivered subscribedAgent sampleInterface sampleReport 0) ∧
    (∃ s out, subscribedAgent.recvEvent sampleImminent 0 = .ok (s, out) ∧
        subscribedAgent.reachesL3 0 = true ∧ (packetSessions out).count (some 0) = 2) ∧
      ¬ Delivered subscribedAgent sampleInterface sampleImminent 0 := by
  refine ⟨⟨⟨_, _, rfl, by decide, by decide⟩, ?_⟩, ⟨_, _, rfl, by decide, by decide⟩, ?_⟩
  · rintro ⟨s, out, hres, hcalls, -⟩
    cases hres
    exact absurd (hcalls 7 .linkParametersReport) (by decide)
  · rintro ⟨s, out, hres, -, hpackets⟩
    cases hres
    have hsub : ∃ r ∈ sampleInterface.remoteSub .linkHandoverImminent,
        some 0 = some r ∧ subscribedAgent.reachesL3 r = true := ⟨0, by decide, rfl, by decide⟩
    have hcount := (hpackets (some 0)).trans (if_pos hsub)
    exact absurd hcount (by decide)

end MIHAgent

end SipNemo.Mih
