import SipNemo.Mih.Registration

/-!
# The end of a session

An agent that answers registrations, subscriptions and deregistrations.  `Responder` keeps, beside
the agent, a list of the peers that have been deregistered and have not asked for a registration
since.  `deregistration_ends`: if, whenever a deregistration succeeds, there is no second session
with the same id, then nothing is left of the session of a peer in that list (`Ended`).
-/

namespace SipNemo.Mih

open Runs FirstMatch

namespace MIHAgent

/-! ### What the responder does -/

/-- A session has subscribed to an event of some interface. -/
def Subscribed (s : MIHAgent) (r : SessionRef) : Prop := ∃ i ∈ s.ifaces, ∃ e, r ∈ i.remoteSub e

variable {s s' : MIHAgent} {out : List Output} {r x : SessionRef}

/-- Subscriptions are those of sessions in use. -/
def SubscribersInUse (s : MIHAgent) : Prop := ∀ r, s.Subscribed r → r ∈ s.sessions

/-- The records stay, and no session comes into use. -/
structure OpensNothing (s s' : MIHAgent) : Prop where
  mihfId : s'.mihfId = s.mihfId
  session : s'.session = s.session
  nextSession : s'.nextSession = s.nextSession
  mihf : s'.mihf = s.mihf
  peerMihfs : s'.peerMihfs = s.peerMihfs
  sessions : ∀ r ∈ s'.sessions, r ∈ s.sessions
  subscribers : s.SubscribersInUse → s'.SubscribersInUse

theorem OpensNothing.refl (s : MIHAgent) : OpensNothing s s :=
  ⟨rfl, rfl, rfl, rfl, rfl, fun _ h => h, id⟩

/-- A change of one interface that may subscribe one session. -/
theorem subscribed_modifyInterface {mac : MacAddr} {f : MIHInterfaceInfo → MIHInterfaceInfo}
    (hf : ∀ i e, ∀ x ∈ (f i).remoteSub e, x ∈ i.remoteSub e ∨ x = r)
    (h : (s.modifyInterface mac f).Subscribed x) : s.Subscribed x ∨ x = r := by
  obtain ⟨i, hi, e, hx⟩ := h
  rcases mem_updateFirst hi with hi | ⟨j, hj, rfl⟩
  · exact Or.inl ⟨i, hi, e, hx⟩
  · rcases hf j e x hx with hx | rfl
    · exact Or.inl ⟨j, List.mem_of_find?_eq_some hj, e, hx⟩
    · exact Or.inr rfl

/-- The deletion of a session: it and its subscriptions are gone. -/
theorem deleteSession_cases (s : MIHAgent) (id : BitVec 32) :
    (s.getSession id = none ∧ s.deleteSession id = s) ∨
      ∃ r, s.getSession id = some r ∧ OpensNothing s (s.deleteSession id) ∧
        (s.deleteSession id).sessions = s.sessions.erase r := by
  unfold deleteSession
  cases h : s.getSession id with
  | none => exact Or.inl ⟨rfl, rfl⟩
  | some r =>
    refine Or.inr ⟨r, rfl, ⟨rfl, rfl, rfl, rfl, rfl, fun x hx => List.mem_of_mem_erase hx, ?_⟩, rfl⟩
    rintro huse x ⟨i, hi, e, hx⟩
    obtain ⟨j, hj, rfl⟩ := List.mem_map.1 hi
    -- every interface has lost the deleted session, so what is left is still in use
    have hne : x ≠ r := by
      rintro rfl
      exact MIHInterfaceInfo.not_mem_remoteEventUnsubscribe_all hx
    have hold : s.Subscribed x := ⟨j, hj, e, MIHInterfaceInfo.mem_remoteEventUnsubscribe hx⟩
    exact (List.mem_erase_of_ne hne).2 (huse x hold)

theorem opensNothing_deleteSession (s : MIHAgent) (id : BitVec 32) :
    OpensNothing s (s.deleteSession id) := by
  rcases s.deleteSession_cases id with ⟨-, h⟩ | ⟨r, -, h, -⟩
  · rw [h]
    exact .refl s
  · exact h

/-- Where the lookup of an id has at most one result, the deletion leaves none. -/
theorem not_mem_deleteSession {id : BitVec 32}
    (h : s.sessions.countP (fun r => (s.session r).id = id) ≤ 1) :
    ∀ x ∈ (s.deleteSession id).sessions, (s.session x).id ≠ id := by
  rcases s.deleteSession_cases id with ⟨hnone, hs⟩ | ⟨r, hr, -, hsessions⟩
  · rw [hs]
    intro x hx
    simpa using List.find?_eq_none.1 hnone x hx
  · rw [hsessions]
    have hid : (s.session r).id = id := by simpa using List.find?_some hr
    have hcount : (s.sessions.erase r).countP (fun x => (s.session x).id = id) = 0 := by
      rw [(List.perm_cons_erase (List.mem_of_find?_eq_some hr)).countP_eq,
        List.countP_cons_of_pos (by simpa using hid)] at h
      omega
    intro x hx
    simpa using List.countP_eq_zero.1 hcount x hx

/-- A subscription or its end. -/
theorem OpensNothing.of_subscriptions {id : BitVec 32} (h : ChangesSubscriptions s s' id) :
    OpensNothing s s' := by
  rcases h with rfl | ⟨r, mac, f, hr, rfl, hf⟩
  · exact .refl s'
  · refine ⟨rfl, rfl, rfl, rfl, rfl, fun _ h => h, fun huse x hx => ?_⟩
    rcases subscribed_modifyInterface hf hx with hx | rfl
    · exact huse x hx
    · exact List.mem_of_find?_eq_some hr

/-- A link event leaves the subscriptions. -/
theorem opensNothing_recvEvent {e : LinkEvent} {junk : BitVec 32}
    (h : s.recvEvent e junk = .ok (s', out)) : OpensNothing s s' := by
  obtain ⟨⟨ifaces, t, rfl, hsub⟩, -⟩ := recvEvent_ok h
  refine ⟨rfl, rfl, rfl, rfl, rfl, fun _ h => h, ?_⟩
  rintro huse x ⟨i, hi, e', hx⟩
  have hi' : i.remoteSub ∈ s.ifaces.map MIHInterfaceInfo.remoteSub :=
    hsub ▸ List.mem_map_of_mem hi
  obtain ⟨j, hj, hji⟩ := List.mem_map.1 hi'
  exact huse x ⟨j, hj, e', hji ▸ hx⟩

/-! ### Runs of a responder -/

/-- What a responder does: the requests it gets, with `msb_session` as `send_reg_request` writes
it, its responses, and the link events. -/
def Step.IsResponder : Step → Prop
  | .recv p _ =>
    match p.mihh.payload with
    | .regReq m => m.msbSession = p.mihh.mihfId.setWidth 16
    | .deregReq _ | .eventSubReq _ | .eventUnsubReq _ | .getStatusReq _ => True
    | _ => False
  | .event _ _ | .regResponse _ _ _ _ _ | .deregResponse _ _ _ _ _ => True
  | _ => False

/-- The requests a responder gets. -/
theorem Step.IsResponder.payload {p : MihPacket} {junk : BitVec 32}
    (h : Step.IsResponder (.recv p junk)) :
    (∃ m, p.mihh.payload = .regReq m ∧ m.msbSession = p.mihh.mihfId.setWidth 16) ∨
    (∃ m, p.mihh.payload = .deregReq m) ∨ (∃ m, p.mihh.payload = .eventSubReq m) ∨
    (∃ m, p.mihh.payload = .eventUnsubReq m) ∨ ∃ m, p.mihh.payload = .getStatusReq m := by
  unfold Step.IsResponder at h
  cases hp : p.mihh.payload <;> simp_all

/-- The session of a peer's record. -/
def peerSession (s : MIHAgent) (mihfId : BitVec 32) : Option SessionRef :=
  (s.getMihfInfo mihfId).bind fun m => (s.mihf m).session

end MIHAgent

/-- A peer that has been deregistered, with the id its session had. -/
structure Deregistered where
  peer : BitVec 32
  session : BitVec 32
  deriving DecidableEq, Repr

/-- An agent, and the peers that have been deregistered and have not asked again. -/
structure Responder where
  agent : MIHAgent
  ended : List Deregistered

namespace Responder

/-- A step of a responder. -/
abbrev Step := { i : MIHAgent.Step // i.IsResponder }

/-- The peer whose registration request arrives. -/
def asking : MIHAgent.Step → Option (BitVec 32)
  | .recv p _ =>
    match p.mihh.payload with
    | .regReq _ => some p.mihh.mihfId
    | _ => none
  | _ => none

/-- The peer that is deregistered. -/
def dismissed : MIHAgent.Step → Option (BitVec 32)
  | .deregResponse _ mihfId deregResult _ _ => if deregResult = 1 then some mihfId else none
  | _ => none

/-- The session of a peer's record, with the peer. -/
def record (q : Responder) (peer : BitVec 32) : Option Deregistered :=
  (q.agent.peerSession peer).map fun r => ⟨peer, (q.agent.session r).id⟩

/-- The peers deregistered after a step. -/
def endedAfter (q : Responder) (i : MIHAgent.Step) : List Deregistered :=
  match dismissed i, asking i with
  | some peer, _ => (q.record peer).toList ++ q.ended
  | none, some peer => q.ended.filter fun d => d.peer ≠ peer
  | none, none => q.ended

/-- One step. -/
def step (q : Responder) (i : Step) : Act Responder :=
  (q.agent.step i.1).map fun s => ⟨s, q.endedAfter i.1⟩

/-- A deregistration succeeds only while there is no second session with the id, and while a peer
is deregistered no other peer asks for a registration under that id. -/
def Clean (q : Responder) (i : Step) : Prop :=
  (∀ peer ∈ asking i.1, ∀ d ∈ q.ended, d.peer ≠ peer →
    shiftedId peer q.agent.mihfId ≠ .ok d.session) ∧
  ∀ peer ∈ dismissed i.1, ∀ d ∈ q.record peer,
    q.agent.sessions.countP (fun r => (q.agent.session r).id = d.session) ≤ 1

/-- Decided for the one peer a step is about, not for every identifier. -/
instance (q : Responder) (i : Step) : Decidable (q.Clean i) :=
  @instDecidableAnd _ _ (Option.decidableForallMem _) (Option.decidableForallMem _)

end Responder

namespace MIHAgent

/-- The requests that are checked for a session. -/
def checksSession : Payload → Bool
  | .eventSubReq _ | .eventUnsubReq _ | .getStatusReq _ => true
  | _ => false

/-- Nothing is left of the session of a deregistered peer: no subscription, no indication to the
peer, and its requests come to nothing. -/
structure Ended (s : MIHAgent) (d : Deregistered) : Prop where
  subscriptions : ∀ i ∈ s.ifaces, ∀ e, ∀ r ∈ i.remoteSub e, (s.session r).id ≠ d.session
  indications : ∀ e junk s' out, s.recvEvent e junk = .ok (s', out) →
    ∀ session p, .packet session p ∈ out →
      ∃ r, session = some r ∧ ∀ m, (s.session r).mihf = some m → (s.mihf m).id ≠ d.peer
  requests : ∀ p junk, p.mihh.sessionId = d.session → checksSession p.mihh.payload = true →
    s.recv p junk = .ok (s, [])

/-- A session has the id of a peer. -/
def HasIdOf (s : MIHAgent) (r : SessionRef) (m : MihfRef) : Prop :=
  shiftedId (s.mihf m).id s.mihfId = .ok (s.session r).id

/-- The sessions in use and the sessions of the peer records have the ids of their peers. -/
structure Roster (s : MIHAgent) : Prop where
  small : s.mihfId.toNat < 2 ^ 16
  subscribers : s.SubscribersInUse
  lt : ∀ r ∈ s.sessions, r < s.nextSession
  peer : ∀ r ∈ s.sessions, ∀ m, (s.session r).mihf = some m → s.HasIdOf r m
  own : ∀ m ∈ s.peerMihfs, ∀ r, (s.mihf m).session = some r →
    r < s.nextSession ∧ s.HasIdOf r m

/-- No session in use has the id of a deregistered peer. -/
def NoneLeft (s : MIHAgent) (d : Deregistered) : Prop :=
  shiftedId d.peer s.mihfId = .ok d.session ∧ ∀ r ∈ s.sessions, (s.session r).id ≠ d.session

section Invariant

variable {s s' : MIHAgent} {d : Deregistered} {mihfId id : BitVec 32} {m : MihfRef}

theorem NoneLeft.ended (h : s.NoneLeft d) (hs : s.Roster) : s.Ended d where
  subscriptions i hi e r hr := h.2 r (hs.subscribers r ⟨i, hi, e, hr⟩)
  indications e junk s' out hevent session p hp := by
    obtain ⟨-, r, rfl, i, hi, hr⟩ := (recvEvent_ok hevent).packets session p hp
    have hmem : r ∈ s.sessions := hs.subscribers r ⟨i, hi, e.type, hr⟩
    refine ⟨r, rfl, ?_⟩
    rintro m hm hpeer
    have hid : shiftedId (s.mihf m).id s.mihfId = .ok (s.session r).id := hs.peer r hmem m hm
    -- a session of the peer would have its id
    rw [hpeer, h.1] at hid
    exact h.2 r hmem (Except.ok.inj hid).symm
  requests p junk hid hp := by
    have hnone : s.getSession p.mihh.sessionId = none := by
      rw [hid]
      exact List.find?_eq_none.2 fun r hr => by simpa using h.2 r hr
    cases hpayload : p.mihh.payload <;> rw [hpayload] at hp <;>
      simp_all [recv, recvEventSubReq, recvEventUnsubReq, recvMihGetStatusReq, checksSession]

theorem Roster.opensNothing (h : s.Roster) (hs : OpensNothing s s') : s'.Roster where
  small := hs.mihfId ▸ h.small
  subscribers := hs.subscribers h.subscribers
  lt r hr := hs.nextSession ▸ h.lt r (hs.sessions r hr)
  peer r hr m hm := by
    unfold HasIdOf
    rw [hs.session] at hm
    rw [hs.mihf, hs.mihfId, hs.session]
    exact h.peer r (hs.sessions r hr) m hm
  own m hm r hr := by
    unfold HasIdOf
    rw [hs.peerMihfs] at hm
    rw [hs.mihf] at hr
    rw [hs.mihf, hs.mihfId, hs.session, hs.nextSession]
    exact h.own m hm r hr

theorem NoneLeft.opensNothing (h : s.NoneLeft d) (hs : OpensNothing s s') : s'.NoneLeft d := by
  refine ⟨hs.mihfId ▸ h.1, fun r hr => ?_⟩
  rw [hs.session]
  exact h.2 r (hs.sessions r hr)

/-- A registration request opens a session with the id of its sender. -/
theorem Roster.pushSession (h : s.Roster) (hid : shiftedId mihfId s.mihfId = .ok id)
    (mac : MacAddr) :
    (s.pushSession { id := id, macAddr := mac, mihf := s.getMihfInfo mihfId }).Roster := by
  have hold : ∀ r, r < s.nextSession →
      (s.pushSession { id := id, macAddr := mac, mihf := s.getMihfInfo mihfId }).session r =
        s.session r := by
    intro r hr
    simp [MIHAgent.pushSession, hr.ne]
  refine ⟨h.small, fun r hr => ?_, ?_, ?_, ?_⟩
  · exact List.mem_append_left _ (h.subscribers r hr)
  · intro r hr
    rcases List.mem_append.1 hr with hr | hr
    · exact Nat.lt_succ_of_lt (h.lt r hr)
    · exact List.mem_singleton.1 hr ▸ Nat.lt_succ_self s.nextSession
  · intro r hr m hm
    unfold HasIdOf
    rcases List.mem_append.1 hr with hr | hr
    · rw [hold r (h.lt r hr)] at hm ⊢
      exact h.peer r hr m hm
    · -- the new session, whose peer is the record of the sender
      obtain rfl := List.mem_singleton.1 hr
      simp only [MIHAgent.pushSession, Function.update_self] at hm ⊢
      rw [mihf_of_getMihfInfo hm]
      exact hid
  · intro m hm r hr
    obtain ⟨hlt, hid⟩ := h.own m hm r hr
    refine ⟨Nat.lt_succ_of_lt hlt, ?_⟩
    unfold HasIdOf
    rw [hold r hlt]
    exact hid

theorem NoneLeft.pushSession (h : s.NoneLeft d) (hs : s.Roster) {info : SessionInfo}
    (hne : info.id ≠ d.session) : (s.pushSession info).NoneLeft d := by
  refine ⟨h.1, fun r hr => ?_⟩
  rcases List.mem_append.1 hr with hr | hr
  · have hlt : r ≠ s.nextSession := (hs.lt r hr).ne
    simp only [MIHAgent.pushSession, Function.update_of_ne hlt]
    exact h.2 r hr
  · obtain rfl := List.mem_singleton.1 hr
    simpa only [MIHAgent.pushSession, Function.update_self] using hne

/-- A successful registration response records the first session with the id. -/
theorem Roster.setSession (h : s.Roster) (hm : s.getMihfInfo mihfId = some m)
    (hid : shiftedId mihfId s.mihfId = .ok id) :
    (s.modifyMihf m fun i => { i with session := s.getSession id }).Roster := by
  have hids := mihf_id_modifyMihf (s := s) (m := m)
    (f := fun i => { i with session := s.getSession id }) fun _ => rfl
  refine ⟨h.small, h.subscribers, h.lt, ?_, ?_⟩
  · intro r hr x hx
    unfold HasIdOf
    rw [hids]
    exact h.peer r hr x hx
  · intro x hx r hr
    unfold HasIdOf
    rw [hids]
    by_cases hxm : x = m
    · subst hxm
      simp only [modifyMihf, Function.update_self] at hr
      refine ⟨h.lt r (List.mem_of_find?_eq_some hr), ?_⟩
      have hrid : (s.session r).id = id := by simpa using List.find?_some hr
      rw [mihf_of_getMihfInfo hm]
      exact hrid ▸ hid
    · simp only [modifyMihf, Function.update_of_ne hxm] at hr
      exact h.own x hx r hr

/-- A registration response. -/
theorem Roster.sendRegResponse (h : s.Roster) {regResult failureCode : BitVec 8}
    {validity : BitVec 32} {tid : BitVec 16} {out : List Output}
    (hsend : s.sendRegResponse mihfId regResult failureCode validity tid = .ok (s', out)) :
    s'.Roster ∧ ∀ d, s.NoneLeft d → s'.NoneLeft d := by
  obtain ⟨m, id, hm, hid, rfl, -⟩ := sendRegResponse_ok hsend
  split
  · exact ⟨h.opensNothing (opensNothing_deleteSession s id), fun d hd =>
      hd.opensNothing (opensNothing_deleteSession s id)⟩
  · exact ⟨h.setSession hm hid, fun d hd => hd⟩

/-- A registration request. -/
theorem Roster.recvRegReq (h : s.Roster) {p : MihPacket} {m : RegReq} {out : List Output}
    (hm : m.msbSession = p.mihh.mihfId.setWidth 16)
    (hrecv : s.recvRegReq p m = .ok (s', out)) :
    s'.Roster ∧ ∀ d, s.NoneLeft d → shiftedId p.mihh.mihfId s.mihfId ≠ .ok d.session →
      s'.NoneLeft d := by
  obtain ⟨id, mac, hid, rfl⟩ := recvRegReq_ok hrecv
  have hfits : FitsShift s.mihfId := fits_of_ok h.small hid
  rw [hm, shiftedId_setWidth _ hfits] at hid
  refine ⟨h.pushSession hid mac, fun d hd hne => hd.pushSession h ?_⟩
  rintro rfl
  exact hne hid

end Invariant

end MIHAgent

namespace Responder

open MIHAgent

variable {q q' : Responder} {i : Step}

/-- What holds between the steps. -/
def Inv (q : Responder) : Prop := q.agent.Roster ∧ ∀ d ∈ q.ended, q.agent.NoneLeft d

theorem Inv.opensNothing (h : q.Inv) {s : MIHAgent} (hs : OpensNothing q.agent s) :
    Inv ⟨s, q.ended⟩ :=
  ⟨h.1.opensNothing hs, fun d hd => (h.2 d hd).opensNothing hs⟩

/-- A deregistration. -/
theorem Inv.deregister (h : q.Inv) {user : Option UserId} {mihfId : BitVec 32}
    {deregResult failureCode : BitVec 8} {tid : BitVec 16} {s : MIHAgent} {out : List Output}
    (hclean : deregResult = 1 → ∀ d ∈ q.record mihfId,
      q.agent.sessions.countP (fun r => (q.agent.session r).id = d.session) ≤ 1)
    (hsend : q.agent.sendDeregResponse user mihfId deregResult failureCode tid = .ok (s, out)) :
    Inv ⟨s, q.endedAfter (.deregResponse user mihfId deregResult failureCode tid)⟩ := by
  obtain ⟨m, r, hm, hr, rfl⟩ := sendDeregResponse_ok hsend
  have hrecord : q.record mihfId = some ⟨mihfId, (q.agent.session r).id⟩ := by
    simp [record, peerSession, hm, hr]
  by_cases hresult : deregResult = 1
  · have hdelete := opensNothing_deleteSession q.agent (q.agent.session r).id
    simp only [endedAfter, dismissed, hresult, if_true, hrecord]
    refine ⟨h.1.opensNothing hdelete, fun d hd => ?_⟩
    rcases List.mem_cons.1 hd with rfl | hd
    · -- the peer itself: the session of its record had its id, and no other session has
      have hown := (h.1.own m (List.mem_of_find?_eq_some hm) r hr).2
      unfold HasIdOf at hown
      rw [mihf_of_getMihfInfo hm] at hown
      refine ⟨hdelete.mihfId ▸ hown, ?_⟩
      rw [hdelete.session]
      exact not_mem_deleteSession (hclean hresult _ hrecord)
    · exact (h.2 d hd).opensNothing hdelete
  · simp only [endedAfter, dismissed, asking, hresult, if_false]
    exact h

/-- What one step preserves. -/
theorem step_inv (h : q.Inv) (hok : q.Clean i) (hstep : q.step i = .ok q') : q'.Inv := by
  obtain ⟨i, hi⟩ := i
  obtain ⟨s, hs, rfl⟩ := map_ok_iff.1 hstep
  obtain ⟨⟨t, out⟩, hperform, rfl⟩ := map_ok_iff.1 hs
  cases i with
  | recv p junk =>
    simp only [perform, recv] at hperform
    simp only [endedAfter, dismissed, asking]
    obtain ⟨m, hp, hm⟩ | ⟨m, hp⟩ | ⟨m, hp⟩ | ⟨m, hp⟩ | ⟨m, hp⟩ := hi.payload
    · simp only [hp] at hperform ⊢
      obtain ⟨hroster, hnone⟩ := h.1.recvRegReq hm hperform
      refine ⟨hroster, fun d hd => ?_⟩
      obtain ⟨hd, hne⟩ := List.mem_filter.1 hd
      have hasks : p.mihh.mihfId ∈ asking (.recv p junk) := by simp [asking, hp]
      exact hnone d (h.2 d hd) (hok.1 p.mihh.mihfId hasks d hd (by simpa using hne))
    · simp only [hp] at hperform ⊢
      obtain rfl := (Prod.mk.inj (Except.ok.inj hperform)).1
      exact h
    · simp only [hp] at hperform ⊢
      exact h.opensNothing (.of_subscriptions (recvEventSubReq_ok hperform))
    · simp only [hp] at hperform ⊢
      exact h.opensNothing (.of_subscriptions (recvEventUnsubReq_ok hperform))
    · simp only [hp] at hperform ⊢
      obtain rfl := recvMihGetStatusReq_ok hperform
      exact h
  | event e junk => exact h.opensNothing (opensNothing_recvEvent hperform)
  | regResponse mihfId regResult failureCode validity tid =>
    obtain ⟨hroster, hnone⟩ := h.1.sendRegResponse hperform
    exact ⟨hroster, fun d hd => hnone d (h.2 d hd)⟩
  | deregResponse user mihfId deregResult failureCode tid =>
    refine h.deregister (fun hresult d hd => ?_) hperform
    exact hok.2 mihfId (by simp [dismissed, hresult]) d hd
  | addMac mac => exact hi.elim
  | registerManagementUser u => exact hi.elim
  | expire r => exact hi.elim
  | scanResponse mac rsp => exact hi.elim
  | capDiscReq u mac => exact hi.elim
  | regRequest u id => exact hi.elim
  | deregRequest u id => exact hi.elim
  | eventSubscribe u id link events => exact hi.elim
  | eventUnsubscribe u id link events => exact hi.elim
  | getStatus u id request => exact hi.elim
  | scan u id req => exact hi.elim

/-- Before the first registration; `mihfId_` is a count of agents. -/
structure Fresh (s : MIHAgent) : Prop where
  small : s.mihfId.toNat < 2 ^ 16
  sessions : s.sessions = []
  subscriptions : ∀ r, ¬ s.Subscribed r
  peers : ∀ m ∈ s.peerMihfs, (s.mihf m).session = none

theorem Fresh.inv {s : MIHAgent} (h : Fresh s) : Inv ⟨s, []⟩ := by
  refine ⟨⟨h.small, fun r hr => absurd hr (h.subscriptions r), ?_, ?_, ?_⟩, ?_⟩
  · simp [h.sessions]
  · simp [h.sessions]
  · intro m hm r hr
    rw [h.peers m hm] at hr
    cases hr
  · simp

end Responder

/-- In every state of a run whose steps are `Clean`, nothing is left of the session of a peer that
has been deregistered and has not asked again. -/
theorem deregistration_ends (s : MIHAgent) (is : List Responder.Step) (q : Responder)
    (h0 : Responder.Fresh s) (hok : StepsMeet Responder.step Responder.Clean ⟨s, []⟩ is)
    (hrun : runSteps Responder.step ⟨s, []⟩ is = .ok q) : ∀ d ∈ q.ended, q.agent.Ended d := by
  have hinv : q.Inv :=
    runSteps_invariant (fun _ _ _ h hi hstep => Responder.step_inv h hi hstep) h0.inv hok hrun
  intro d hd
  exact (hinv.2 d hd).ended hinv.1

/-- An agent that knows the peers 2 and 3. -/
def sampleResponder : MIHAgent :=
  { sampleAgent 0x202 with
    mihf := fun m => { samplePeer 0x202 with id := m, session := none }
    nextMihf := 4
    peerMihfs := [2, 3]
    nextSession := 0
    sessions := [] }

/-- The registration request of the peer 2. -/
def sampleRegReq : Responder.Step :=
  ⟨.recv ⟨{ daddr := 10 }, { mihfId := 2, payload := .regReq ⟨1, 0, 2⟩ }⟩ 0, rfl⟩

/-- The responses to the peer 2. -/
def sampleRegResponse : Responder.Step := ⟨.regResponse 2 1 0 0 0, trivial⟩

/-- The deregistration of the peer 2. -/
def sampleDeregResponse : Responder.Step := ⟨.deregResponse none 2 1 0 0, trivial⟩

/-- A status request on the session of the peer 2. -/
def sampleStatusReq : MihPacket := ⟨{}, { sessionId := 2 <<< 17, payload := .getStatusReq 0 }⟩

/-- The subscription of the peer 2 to link up events. -/
def sampleSubscription : Responder.Step :=
  ⟨.recv ⟨{}, { sessionId := 2 <<< 17, payload := .eventSubReq ⟨link80211, intToEth 1, 0, 1⟩ }⟩ 0,
    trivial⟩

/-- The peer 2 registers, subscribes and is deregistered. -/
def sampleSession : List Responder.Step :=
  [sampleRegReq, sampleRegResponse, sampleSubscription, sampleDeregResponse]

theorem deregistration_ends_sample :
    ∃ q, runSteps Responder.step ⟨sampleResponder, []⟩ sampleSession = .ok q ∧
      q.ended = [⟨2, 2 <<< 17⟩] ∧ q.agent.Ended ⟨2, 2 <<< 17⟩ := by
  have hended : (runSteps Responder.step ⟨sampleResponder, []⟩ sampleSession).map
      Responder.ended = .ok [⟨2, 2 <<< 17⟩] := by decide +kernel
  obtain ⟨q, hq, hlist⟩ := map_ok_iff.1 hended
  have hfresh : Responder.Fresh sampleResponder := by
    refine ⟨by decide, rfl, ?_, fun _ _ => rfl⟩
    rintro r ⟨i, hi, e, hr⟩
    obtain rfl := List.mem_singleton.1 hi
    cases hr
  have hok : StepsMeet Responder.step Responder.Clean ⟨sampleResponder, []⟩ sampleSession := by
    decide +kernel
  have hmem : ⟨2, 2 <<< 17⟩ ∈ q.ended := by
    rw [hlist]
    exact List.mem_singleton_self _
  exact ⟨q, hq, hlist,
    deregistration_ends sampleResponder sampleSession q hfresh hok hq ⟨2, 2 <<< 17⟩ hmem⟩

/-- The registration request arrives twice. -/
def sampleRetransmission : List Responder.Step :=
  [sampleRegReq, sampleRegReq, sampleRegResponse, sampleDeregResponse]

/-- A session of the peer survives its deregistration, and its status request is answered. -/
theorem retransmission_survives :
    ∃ q, runSteps Responder.step ⟨sampleResponder, []⟩ sampleRetransmission = .ok q ∧
      q.ended = [⟨2, 2 <<< 17⟩] ∧ q.agent.getSession (2 <<< 17) = some 1 ∧
      ¬ q.agent.Ended ⟨2, 2 <<< 17⟩ := by
  have hrun : (runSteps Responder.step ⟨sampleResponder, []⟩ sampleRetransmission).map
      (fun q => (q.ended, q.agent.getSession (2 <<< 17),
        (q.agent.recv sampleStatusReq 0).map fun r => r.2.length)) =
      .ok ([⟨2, 2 <<< 17⟩], some 1, .ok 1) := by decide +kernel
  obtain ⟨q, hq, hall⟩ := map_ok_iff.1 hrun
  obtain ⟨hended, hsession, hanswer⟩ :
      q.ended = [⟨2, 2 <<< 17⟩] ∧ q.agent.getSession (2 <<< 17) = some 1 ∧
        (q.agent.recv sampleStatusReq 0).map (fun r => r.2.length) = .ok 1 := by
    simpa using hall
  refine ⟨q, hq, hended, hsession, fun h => ?_⟩
  rw [h.requests sampleStatusReq 0 rfl rfl] at hanswer
  cases hanswer

end SipNemo.Mih
