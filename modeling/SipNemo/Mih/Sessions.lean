import SipNemo.Mih.Registration

/-!
# Session identifiers

Agents register with each other in any number of exchanges, whose steps interleave in any order.
Both ends of an exchange compute the id of its session from the two identifiers, so the ends agree
(`SessionsOf.sessionId`); that the ids also tell the peers of one agent apart depends on the
identifiers, and `sessions_agree` says on which.
-/

namespace SipNemo.Mih

open Runs

variable {ι : Type}

/-- How far an exchange is: the packet under way, or the one its responder has been told of, and
the sessions it has opened, at the responder and then at the initiator. -/
inductive Phase
  | requested (p : MihPacket)
  | indicated (p : MihPacket) (r : SessionRef)
  | responded (p : MihPacket) (r : SessionRef)
  | confirmed (r r' : SessionRef)

/-- A registration exchange. -/
structure Exchange (ι : Type) where
  initiator : ι
  responder : ι
  phase : Phase

/-- A session that an exchange has opened at `agent` with `peer`. -/
structure Opened (ι : Type) where
  initiator : ι
  responder : ι
  agent : ι
  peer : ι
  ref : SessionRef
  deriving DecidableEq

namespace Exchange

variable (x : Exchange ι) (r : SessionRef)

/-- The session at the responder. -/
def atResponder : Opened ι := ⟨x.initiator, x.responder, x.responder, x.initiator, r⟩

/-- The session at the initiator. -/
def atInitiator : Opened ι := ⟨x.initiator, x.responder, x.initiator, x.responder, r⟩

/-- The sessions an exchange has opened. -/
def opened : List (Opened ι) :=
  match x.phase with
  | .requested _ => []
  | .indicated _ r => [x.atResponder r]
  | .responded _ r => [x.atResponder r]
  | .confirmed r r' => [x.atResponder r, x.atInitiator r']

end Exchange

/-- The agents, and the exchanges between them in the order in which they began. -/
structure RegNet (ι : Type) where
  agent : ι → MIHAgent
  exchanges : List (Exchange ι)

/-- A user of `i` asks for a registration with `j`; a request arrives; a user of the responder
answers it with the result 1; a response arrives. -/
inductive RegStep (ι : Type)
  | start (i j : ι) (user : Option UserId)
  | request (k : ℕ) (junk : BitVec 32)
  | respond (k : ℕ) (failureCode : BitVec 8) (validity : BitVec 32)
  | response (k : ℕ) (junk : BitVec 32)

/-- The packet among the outputs. -/
def sentPacket (out : List Output) : Option MihPacket :=
  out.findSome? fun
    | .packet _ p => some p
    | _ => none

namespace RegNet

section

variable (n : RegNet ι)

/-- The sessions of all exchanges. -/
def opened : List (Opened ι) := n.exchanges.flatMap Exchange.opened

/-- The id of a session. -/
def sessionId (c : Opened ι) : BitVec 32 := ((n.agent c.agent).session c.ref).id

/-- The session a step opens. -/
def opens : RegStep ι → Option (Opened ι)
  | .request k _ =>
    match n.exchanges[k]? with
    | some ⟨i, j, .requested _⟩ => some ⟨i, j, j, i, (n.agent j).nextSession⟩
    | _ => none
  | .response k _ =>
    match n.exchanges[k]? with
    | some ⟨i, j, .responded _ _⟩ => some ⟨i, j, i, j, (n.agent i).nextSession⟩
    | _ => none
  | _ => none

/-- The number the id of a session shows. -/
def number (c : Opened ι) : ℕ := halves (n.agent c.initiator).mihfId (n.agent c.responder).mihfId

/-- The responder of a session has a record of the initiator. -/
def Recorded (c : Opened ι) : Prop :=
  ((n.agent c.responder).getMihfInfo (n.agent c.initiator).mihfId).isSome

instance (c : Opened ι) : Decidable (n.Recorded c) := inferInstanceAs (Decidable (_ = true))

/-- Where a session is opened, the responder has a record of the initiator, its own identifier is a
shift count that C defines, and the number differs modulo 2¹⁶ from those of the sessions the agent
has with other peers. -/
def Distinguishes (i : RegStep ι) : Prop :=
  ∀ c, n.opens i = some c → n.Recorded c ∧ FitsShift (n.agent c.responder).mihfId ∧
    ∀ d ∈ n.opened, d.agent = c.agent → d.peer ≠ c.peer →
      ¬ n.number d ≡ n.number c [MOD 2 ^ 16]

instance [DecidableEq ι] (i : RegStep ι) : Decidable (n.Distinguishes i) :=
  match h : n.opens i with
  | none => isTrue fun c hc => by simp [h] at hc
  | some c =>
    decidable_of_iff (n.Recorded c ∧ FitsShift (n.agent c.responder).mihfId ∧
        ∀ d ∈ n.opened, d.agent = c.agent → d.peer ≠ c.peer →
          ¬ n.number d ≡ n.number c [MOD 2 ^ 16])
      ⟨fun hc d hd => Option.some.inj (h.symm.trans hd) ▸ hc, fun hc => hc c h⟩

/-- Both ends of an exchange give its session the same id, one agent gives sessions with
different peers different ids, and the lookup of an id leads to the agent's record of the peer. -/
structure Agreed : Prop where
  agree : ∀ x ∈ n.exchanges, ∀ c ∈ x.opened, ∀ d ∈ x.opened, n.sessionId c = n.sessionId d
  unique : ∀ c ∈ n.opened, ∀ d ∈ n.opened, c.agent = d.agent → c.peer ≠ d.peer →
    n.sessionId c ≠ n.sessionId d
  routed : ∀ c ∈ n.opened, ∃ r m, (n.agent c.agent).getSession (n.sessionId c) = some r ∧
    ((n.agent c.agent).session r).mihf = some m ∧
    (n.agent c.agent).getMihfInfo (n.agent c.peer).mihfId = some m

/-- No session and no exchange yet. -/
def Fresh : Prop := n.exchanges = [] ∧ ∀ a, (n.agent a).sessions = []

end

variable [DecidableEq ι] (n : RegNet ι)

/-- The `k`-th exchange becomes `x`, and the agent `a` goes on as `s`. -/
def proceed (k : ℕ) (x : Exchange ι) (a : ι) (s : MIHAgent) : RegNet ι where
  agent := Function.update n.agent a s
  exchanges := n.exchanges.set k x

/-- One step; what an exchange is not ready for does not happen. -/
def step : RegStep ι → Act (RegNet ι)
  | .start i j user => do
    let (s, out) ← (n.agent i).sendRegRequest user (n.agent j).mihfId
    let p ← deref (sentPacket out)
    pure
      { agent := Function.update n.agent i s
        exchanges := n.exchanges ++ [⟨i, j, .requested p⟩] }
  | .request k junk =>
    match n.exchanges[k]? with
    | some ⟨i, j, .requested p⟩ => do
      let (s, _) ← (n.agent j).recv p junk
      pure (n.proceed k ⟨i, j, .indicated p (n.agent j).nextSession⟩ j s)
    | _ => .ok n
  | .respond k failureCode validity =>
    match n.exchanges[k]? with
    | some ⟨i, j, .indicated p r⟩ => do
      let (s, out) ← (n.agent j).sendRegResponse p.mihh.mihfId 1 failureCode validity
        p.mihh.transactionId
      let q ← deref (sentPacket out)
      pure (n.proceed k ⟨i, j, .responded q r⟩ j s)
    | _ => .ok n
  | .response k junk =>
    match n.exchanges[k]? with
    | some ⟨i, j, .responded p r⟩ => do
      let (s, _) ← (n.agent i).recv p junk
      pure (n.proceed k ⟨i, j, .confirmed r (n.agent i).nextSession⟩ i s)
    | _ => .ok n

end RegNet

/-! ### What the agents know of the sessions -/

section SessionsOf

variable {id : ι → BitVec 32} {s s' : MIHAgent} {c : Opened ι}

/-- A session of the agent, with the id of its exchange and the record of its peer. -/
structure IsSession (id : ι → BitVec 32) (s : MIHAgent) (c : Opened ι) : Prop where
  lt : c.ref < s.nextSession
  mem : c.ref ∈ s.sessions
  fits : FitsShift (id c.responder)
  sessionId : shiftedId (id c.initiator) (id c.responder) = .ok (s.session c.ref).id
  mihf : ∃ m, (s.session c.ref).mihf = some m ∧ s.getMihfInfo (id c.peer) = some m

theorem IsSession.of_same (h : IsSession id s c) (hs : s.SameSessions s') : IsSession id s' c where
  lt := hs.nextSession ▸ h.lt
  mem := hs.sessions ▸ h.mem
  fits := h.fits
  sessionId := hs.session ▸ h.sessionId
  mihf := by
    rw [hs.session, hs.getMihfInfo]
    exact h.mihf

/-- A new session leaves the others alone. -/
theorem IsSession.push (h : IsSession id s c) (info : SessionInfo) :
    IsSession id (s.pushSession info) c := by
  have hsame : (s.pushSession info).session c.ref = s.session c.ref := by
    simp [MIHAgent.pushSession, h.lt.ne]
  exact
    { lt := Nat.lt_succ_of_lt h.lt
      mem := List.mem_append_left _ h.mem
      fits := h.fits
      sessionId := hsame ▸ h.sessionId
      mihf := hsame ▸ h.mihf }

theorem isSession_push {info : SessionInfo} (hc : c.ref = s.nextSession)
    (hfits : FitsShift (id c.responder))
    (hid : shiftedId (id c.initiator) (id c.responder) = .ok info.id)
    {m : MihfRef} (hinfo : info.mihf = some m) (hm : s.getMihfInfo (id c.peer) = some m) :
    IsSession id (s.pushSession info) c := by
  have hnew : (s.pushSession info).session c.ref = info := by
    simp [MIHAgent.pushSession, hc]
  exact
    { lt := hc ▸ Nat.lt_succ_self s.nextSession
      mem := hc ▸ List.mem_append_right _ (List.mem_singleton_self _)
      fits := hfits
      sessionId := hnew.symm ▸ hid
      mihf := ⟨m, hnew.symm ▸ hinfo, hm⟩ }

/-- The sessions of the agents are the opened ones, and numbers tell the peers of an agent
apart. -/
structure SessionsOf (id : ι → BitVec 32) (agent : ι → MIHAgent) (cs : List (Opened ι)) :
    Prop where
  mihfId : ∀ a, (agent a).mihfId = id a
  isSession : ∀ c ∈ cs, IsSession id (agent c.agent) c
  known : ∀ a, ∀ r ∈ (agent a).sessions, ∃ c ∈ cs, c.agent = a ∧ c.ref = r
  distinct : ∀ c ∈ cs, ∀ d ∈ cs, c.agent = d.agent → c.peer ≠ d.peer →
    ¬ halves (id c.initiator) (id c.responder) ≡
      halves (id d.initiator) (id d.responder) [MOD 2 ^ 16]

namespace SessionsOf

variable {agent : ι → MIHAgent} {cs cs' : List (Opened ι)}

theorem sessionId_eq_iff (h : SessionsOf id agent cs) {d : Opened ι} (hc : c ∈ cs) (hd : d ∈ cs) :
    ((agent c.agent).session c.ref).id = ((agent d.agent).session d.ref).id ↔
      halves (id c.initiator) (id c.responder) ≡
        halves (id d.initiator) (id d.responder) [MOD 2 ^ 16] :=
  shiftedId_eq_iff (h.isSession c hc).fits (h.isSession d hd).fits (h.isSession c hc).sessionId
    (h.isSession d hd).sessionId

/-- The lookup of a session's id leads to its peer. -/
theorem getSession (h : SessionsOf id agent cs) (hc : c ∈ cs) :
    ∃ r m, (agent c.agent).getSession ((agent c.agent).session c.ref).id = some r ∧
      ((agent c.agent).session r).mihf = some m ∧
      (agent c.agent).getMihfInfo (id c.peer) = some m := by
  have hsome : ((agent c.agent).getSession ((agent c.agent).session c.ref).id).isSome :=
    List.find?_isSome.2 ⟨c.ref, (h.isSession c hc).mem, by simp⟩
  obtain ⟨r, hr⟩ := Option.isSome_iff_exists.1 hsome
  obtain ⟨d, hd, hagent, rfl⟩ := h.known c.agent r (List.mem_of_find?_eq_some hr)
  -- the lookup may find another session `d` with the id, but then its peer is the same
  have hsame : ((agent d.agent).session d.ref).id = ((agent c.agent).session c.ref).id := by
    rw [hagent]
    simpa using List.find?_some hr
  have hpeer : d.peer = c.peer := by
    by_contra hne
    exact h.distinct d hd c hc hagent hne ((h.sessionId_eq_iff hd hc).1 hsame)
  obtain ⟨m, hmihf, hm⟩ := (h.isSession d hd).mihf
  rw [hagent] at hmihf hm
  exact ⟨d.ref, m, hr, hmihf, hpeer ▸ hm⟩

variable [DecidableEq ι] {a : ι}

/-- An agent goes on with the same sessions. -/
theorem keep (h : SessionsOf id agent cs) (hs : (agent a).SameSessions s')
    (hcs : ∀ c, c ∈ cs' ↔ c ∈ cs) : SessionsOf id (Function.update agent a s') cs' := by
  have hsame : ∀ b, (agent b).SameSessions (Function.update agent a s' b) := by
    intro b
    by_cases hb : b = a
    · subst hb
      rwa [Function.update_self]
    · rw [Function.update_of_ne hb]
      exact .refl _
  exact
    { mihfId := fun b => (hsame b).mihfId.trans (h.mihfId b)
      isSession := fun c hc => (h.isSession c ((hcs c).1 hc)).of_same (hsame _)
      known := by
        intro b r hr
        rw [(hsame b).sessions] at hr
        obtain ⟨c, hc, hcb⟩ := h.known b r hr
        exact ⟨c, (hcs c).2 hc, hcb⟩
      distinct := fun c hc d hd => h.distinct c ((hcs c).1 hc) d ((hcs d).1 hd) }

/-- An agent opens a session. -/
theorem push (h : SessionsOf id agent cs) {info : SessionInfo} (hc : c.agent = a)
    (hnew : IsSession id ((agent a).pushSession info) c) (href : c.ref = (agent a).nextSession)
    (hdist : ∀ d ∈ cs, d.agent = a → d.peer ≠ c.peer →
      ¬ halves (id d.initiator) (id d.responder) ≡
        halves (id c.initiator) (id c.responder) [MOD 2 ^ 16]) :
    SessionsOf id (Function.update agent a ((agent a).pushSession info)) (c :: cs) where
  mihfId b := by
    by_cases hb : b = a
    · subst hb
      rw [Function.update_self]
      exact h.mihfId b
    · rw [Function.update_of_ne hb]
      exact h.mihfId b
  isSession d hd := by
    rcases List.mem_cons.1 hd with rfl | hd
    · rw [hc, Function.update_self]
      exact hnew
    · by_cases hda : d.agent = a
      · rw [hda, Function.update_self]
        exact (hda ▸ h.isSession d hd).push info
      · rw [Function.update_of_ne hda]
        exact h.isSession d hd
  known b r hr := by
    by_cases hb : b = a
    · subst hb
      rw [Function.update_self] at hr
      rcases List.mem_append.1 hr with hr | hr
      · obtain ⟨d, hd, hdr⟩ := h.known b r hr
        exact ⟨d, List.mem_cons_of_mem _ hd, hdr⟩
      · exact ⟨c, List.mem_cons_self, hc, href.trans (List.mem_singleton.1 hr).symm⟩
    · rw [Function.update_of_ne hb] at hr
      obtain ⟨d, hd, hdr⟩ := h.known b r hr
      exact ⟨d, List.mem_cons_of_mem _ hd, hdr⟩
  distinct d hd e he hagent hpeer hmod := by
    -- the new session against itself, against an old one from both sides, and two old ones
    rcases List.mem_cons.1 hd with rfl | hd' <;> rcases List.mem_cons.1 he with rfl | he'
    · exact hpeer rfl
    · exact hdist e he' (hagent.symm.trans hc) (Ne.symm hpeer) hmod.symm
    · exact hdist d hd' (hagent.trans hc) hpeer hmod
    · exact h.distinct d hd' e he' hagent hpeer hmod

end SessionsOf

end SessionsOf

/-! ### The steps -/

section Steps

variable {id : ι → BitVec 32} {n : RegNet ι}

theorem Exchange.mem_opened {x : Exchange ι} {c : Opened ι} (h : c ∈ x.opened) :
    c.initiator = x.initiator ∧ c.responder = x.responder := by
  obtain ⟨i, j, phase⟩ := x
  cases phase with
  | requested p => cases h
  | indicated p r =>
    obtain rfl := List.mem_singleton.1 h
    exact ⟨rfl, rfl⟩
  | responded p r =>
    obtain rfl := List.mem_singleton.1 h
    exact ⟨rfl, rfl⟩
  | confirmed r r' =>
    rcases List.mem_cons.1 h with rfl | h
    · exact ⟨rfl, rfl⟩
    · obtain rfl := List.mem_singleton.1 h
      exact ⟨rfl, rfl⟩

/-- The agreement, from the sessions of the agents. -/
theorem RegNet.agreed_of_sessionsOf (h : SessionsOf id n.agent n.opened) : n.Agreed where
  agree x hx c hc d hd := by
    have hc' : c ∈ n.opened := List.mem_flatMap.2 ⟨x, hx, hc⟩
    have hd' : d ∈ n.opened := List.mem_flatMap.2 ⟨x, hx, hd⟩
    refine (h.sessionId_eq_iff hc' hd').2 ?_
    rw [(Exchange.mem_opened hc).1, (Exchange.mem_opened hc).2, (Exchange.mem_opened hd).1,
      (Exchange.mem_opened hd).2]
  unique c hc d hd hagent hpeer hid :=
    h.distinct c hc d hd hagent hpeer ((h.sessionId_eq_iff hc hd).1 hid)
  routed c hc := by
    rw [h.mihfId]
    exact h.getSession hc

/-- The packets of an exchange carry what the next step reads. -/
def Exchange.Carries (id : ι → BitVec 32) (x : Exchange ι) : Prop :=
  match x.phase with
  | .requested p => p.mihh.mihfId = id x.initiator ∧
      ∃ m, p.mihh.payload = .regReq m ∧ m.msbSession = (id x.initiator).setWidth 16
  | .indicated p _ => p.mihh.mihfId = id x.initiator
  | .responded p _ => p.mihh.mihfId = id x.responder ∧
      ∃ m, p.mihh.payload = .regRsp m ∧ m.regResult = 1 ∧
        m.lsbSession = (id x.responder).setWidth 16
  | .confirmed _ _ => True

/-- What holds between the steps. -/
structure RegNet.Inv (id : ι → BitVec 32) (n : RegNet ι) : Prop where
  carries : ∀ x ∈ n.exchanges, x.Carries id
  sessions : SessionsOf id n.agent n.opened

/-- Before the first exchange. -/
theorem RegNet.Fresh.inv (h : n.Fresh) : n.Inv fun a => (n.agent a).mihfId where
  carries x hx := by
    rw [h.1] at hx
    cases hx
  sessions :=
    { mihfId := fun _ => rfl
      isSession := by simp [opened, h.1]
      known := by simp [h.2]
      distinct := by simp [opened, h.1] }

/-- The elements a changed list produces. -/
theorem mem_flatMap_set {α β : Type} {f : α → List β} {l : List α} {k : ℕ} {x x' : α} {P : Prop}
    {b : β} (hx : l[k]? = some x) (hb : b ∈ f x' ↔ b ∈ f x ∨ P) :
    b ∈ (l.set k x').flatMap f ↔ b ∈ l.flatMap f ∨ P := by
  induction l generalizing k with
  | nil => simp at hx
  | cons y l ih =>
    cases k with
    | zero =>
      obtain rfl : y = x := by simpa using hx
      simp only [List.set_cons_zero, List.flatMap_cons, List.mem_append, hb]
      tauto
    | succ k =>
      simp only [List.set_cons_succ, List.flatMap_cons, List.mem_append, ih (by simpa using hx)]
      tauto

variable {k : ℕ} {x x' : Exchange ι}

theorem RegNet.Inv.carries_set (h : n.Inv id) (hx' : x'.Carries id) :
    ∀ y ∈ n.exchanges.set k x', y.Carries id := by
  intro y hy
  rcases List.mem_or_eq_of_mem_set hy with hy | rfl
  · exact h.carries y hy
  · exact hx'

variable [DecidableEq ι] {a : ι} {s' : MIHAgent} {i : RegStep ι}

/-- An exchange goes on and opens no session. -/
theorem RegNet.Inv.keep (h : n.Inv id) (hx : n.exchanges[k]? = some x) (hx' : x'.Carries id)
    (hopened : x'.opened = x.opened) (hs : (n.agent a).SameSessions s') :
    (n.proceed k x' a s').Inv id where
  carries := h.carries_set hx'
  sessions := by
    refine h.sessions.keep hs fun c => ?_
    have hmem : c ∈ (n.exchanges.set k x').flatMap Exchange.opened ↔
        c ∈ n.exchanges.flatMap Exchange.opened ∨ False :=
      mem_flatMap_set hx (by rw [hopened, or_false])
    rwa [or_false] at hmem

/-- An exchange goes on and opens the session `c`. -/
theorem RegNet.Inv.opens (h : n.Inv id) (hx : n.exchanges[k]? = some x) (hx' : x'.Carries id)
    {c : Opened ι} (hopened : x'.opened = x.opened ++ [c]) (hc : c.agent = a)
    (href : c.ref = (n.agent a).nextSession) {info : SessionInfo}
    (hnew : IsSession id ((n.agent a).pushSession info) c)
    (hs : ((n.agent a).pushSession info).SameSessions s')
    (hdist : ∀ d ∈ n.opened, d.agent = a → d.peer ≠ c.peer →
      ¬ halves (id d.initiator) (id d.responder) ≡
        halves (id c.initiator) (id c.responder) [MOD 2 ^ 16]) :
    (n.proceed k x' a s').Inv id where
  carries := h.carries_set hx'
  sessions := by
    have hpush := h.sessions.push hc hnew href hdist
    have hself : (Function.update n.agent a ((n.agent a).pushSession info) a).SameSessions s' := by
      rwa [Function.update_self]
    have hmem : ∀ d, d ∈ (n.proceed k x' a s').opened ↔ d ∈ c :: n.opened := by
      intro d
      rw [List.mem_cons, or_comm]
      exact mem_flatMap_set hx (by rw [hopened, List.mem_append, List.mem_singleton])
    have hkeep := hpush.keep hself hmem
    rwa [Function.update_idem] at hkeep

/-- A request has arrived: the responder has a session of the initiator's. -/
theorem RegNet.Inv.request (h : n.Inv id) {i j : ι} {p : MihPacket} {junk : BitVec 32}
    {out : List Output} (hx : n.exchanges[k]? = some ⟨i, j, .requested p⟩)
    (hrecord : ((n.agent j).getMihfInfo (id i)).isSome) (hfits : FitsShift (id j))
    (hdist : ∀ d ∈ n.opened, d.agent = j → d.peer ≠ i →
      ¬ halves (id d.initiator) (id d.responder) ≡ halves (id i) (id j) [MOD 2 ^ 16])
    (hrecv : (n.agent j).recv p junk = .ok (s', out)) :
    (n.proceed k ⟨i, j, .indicated p (n.agent j).nextSession⟩ j s').Inv id := by
  obtain ⟨hid, m, hpayload, hmsb⟩ := h.carries _ (List.mem_of_getElem? hx)
  simp only [MIHAgent.recv, hpayload] at hrecv
  obtain ⟨sid, mac, hsid, rfl⟩ := MIHAgent.recvRegReq_ok hrecv
  -- the 16 bits of `msb_session` are all that the id shows of the initiator's identifier
  rw [hmsb, h.sessions.mihfId, shiftedId_setWidth _ hfits] at hsid
  obtain ⟨peer, hpeer⟩ := Option.isSome_iff_exists.1 hrecord
  have hnew : IsSession id
      ((n.agent j).pushSession ⟨sid, mac, (n.agent j).getMihfInfo p.mihh.mihfId, -1⟩)
      ⟨i, j, j, i, (n.agent j).nextSession⟩ :=
    isSession_push rfl hfits hsid ((congrArg (n.agent j).getMihfInfo hid).trans hpeer) hpeer
  have hx' : Exchange.Carries id ⟨i, j, .indicated p (n.agent j).nextSession⟩ := hid
  exact h.opens hx hx' rfl rfl rfl hnew (.refl _) hdist

/-- A request has been answered: no session is opened. -/
theorem RegNet.Inv.respond (h : n.Inv id) {i j : ι} {p q : MihPacket} {r : SessionRef}
    {failureCode : BitVec 8} {validity : BitVec 32} {out : List Output}
    (hx : n.exchanges[k]? = some ⟨i, j, .indicated p r⟩)
    (hsend : (n.agent j).sendRegResponse p.mihh.mihfId 1 failureCode validity
      p.mihh.transactionId = .ok (s', out))
    (hq : sentPacket out = some q) : (n.proceed k ⟨i, j, .responded q r⟩ j s').Inv id := by
  have hs : (n.agent j).SameSessions s' := MIHAgent.sameSessions_sendRegResponse hsend
  obtain ⟨m, sid, -, -, -, q', rsp, rfl, hid, hpayload, hresult, hlsb⟩ :=
    MIHAgent.sendRegResponse_ok hsend
  obtain rfl : q' = q := Option.some.inj hq
  rw [h.sessions.mihfId] at hid hlsb
  have hx' : Exchange.Carries id ⟨i, j, .responded q' r⟩ := ⟨hid, rsp, hpayload, hresult, hlsb⟩
  exact h.keep hx hx' rfl hs

/-- A response has arrived: the initiator has a session of the responder's. -/
theorem RegNet.Inv.response (h : n.Inv id) {i j : ι} {p : MihPacket} {r : SessionRef}
    {junk : BitVec 32} {out : List Output}
    (hx : n.exchanges[k]? = some ⟨i, j, .responded p r⟩)
    (hfits : FitsShift (id j))
    (hdist : ∀ d ∈ n.opened, d.agent = i → d.peer ≠ j →
      ¬ halves (id d.initiator) (id d.responder) ≡ halves (id i) (id j) [MOD 2 ^ 16])
    (hrecv : (n.agent i).recv p junk = .ok (s', out)) :
    (n.proceed k ⟨i, j, .confirmed r (n.agent i).nextSession⟩ i s').Inv id := by
  obtain ⟨hid, m, hpayload, hresult, hlsb⟩ := h.carries _ (List.mem_of_getElem? hx)
  simp only [MIHAgent.recv, hpayload] at hrecv
  obtain ⟨sid, mac, peer, hsid, hpeer, hs⟩ := MIHAgent.recvRegRsp_ok hresult hrecv
  rw [hlsb, h.sessions.mihfId, setWidth_setWidth_of_fits hfits] at hsid
  rw [hid] at hpeer
  have hnew : IsSession id ((n.agent i).pushSession ⟨sid, mac, some peer, -1⟩)
      ⟨i, j, i, j, (n.agent i).nextSession⟩ := isSession_push rfl hfits hsid rfl hpeer
  have hx' : Exchange.Carries id ⟨i, j, .confirmed r (n.agent i).nextSession⟩ := trivial
  exact h.opens hx hx' rfl rfl rfl hnew hs hdist

/-- What one step preserves. -/
theorem RegNet.step_inv {n' : RegNet ι} (h : n.Inv id) (hok : n.Distinguishes i)
    (hstep : n.step i = .ok n') : n'.Inv id := by
  cases i with
  | start i j user =>
    obtain ⟨⟨s, out⟩, hsend, hrest⟩ := bind_ok_iff.1 hstep
    obtain ⟨p, hp, hret⟩ := bind_ok_iff.1 hrest
    obtain rfl := Except.ok.inj hret
    obtain ⟨hs, q, m, rfl, hid, hpayload, hmsb⟩ := MIHAgent.sendRegRequest_ok hsend
    obtain rfl : q = p := Option.some.inj (deref_eq_ok.1 hp)
    rw [h.sessions.mihfId] at hid hmsb
    refine ⟨?_, h.sessions.keep hs fun c => by simp [opened, Exchange.opened]⟩
    intro x hx
    rcases List.mem_append.1 hx with hx | hx
    · exact h.carries x hx
    · obtain rfl := List.mem_singleton.1 hx
      exact ⟨hid, m, hpayload, hmsb⟩
  | request k junk =>
    simp only [step] at hstep
    split at hstep
    next i j p hx =>
      obtain ⟨⟨s, out⟩, hrecv, hret⟩ := bind_ok_iff.1 hstep
      obtain rfl := Except.ok.inj hret
      obtain ⟨hrecord, hfits, hdist⟩ :=
        hok ⟨i, j, j, i, (n.agent j).nextSession⟩ (by simp [opens, hx])
      simp only [Recorded, number, h.sessions.mihfId] at hrecord hfits hdist
      exact h.request hx hrecord hfits hdist hrecv
    next => exact Except.ok.inj hstep ▸ h
  | respond k failureCode validity =>
    simp only [step] at hstep
    split at hstep
    next i j p r hx =>
      obtain ⟨⟨s, out⟩, hsend, hrest⟩ := bind_ok_iff.1 hstep
      obtain ⟨q, hq, hret⟩ := bind_ok_iff.1 hrest
      obtain rfl := Except.ok.inj hret
      exact h.respond hx hsend (deref_eq_ok.1 hq)
    next => exact Except.ok.inj hstep ▸ h
  | response k junk =>
    simp only [step] at hstep
    split at hstep
    next i j p r hx =>
      obtain ⟨⟨s, out⟩, hrecv, hret⟩ := bind_ok_iff.1 hstep
      obtain rfl := Except.ok.inj hret
      obtain ⟨-, hfits, hdist⟩ := hok ⟨i, j, i, j, (n.agent i).nextSession⟩ (by simp [opens, hx])
      simp only [number, h.sessions.mihfId] at hfits hdist
      exact h.response hx hfits hdist hrecv
    next => exact Except.ok.inj hstep ▸ h

/-- No step shifts by a count that C does not define. -/
theorem RegNet.step_ne_shiftCount (h : n.Inv id) (hok : n.Distinguishes i) :
    n.step i ≠ .error .shiftCount := by
  cases i with
  | start i j user =>
    exact bind_ne_error (MIHAgent.sendRegRequest_ne_shiftCount _ _ _) fun _ _ =>
      bind_ne_error (MIHAgent.deref_ne_shiftCount _) fun _ _ => by simp
  | request k junk =>
    simp only [step]
    split
    next i j p hx =>
      obtain ⟨-, m, hpayload, -⟩ := h.carries _ (List.mem_of_getElem? hx)
      obtain ⟨-, hfits, -⟩ := hok ⟨i, j, j, i, (n.agent j).nextSession⟩ (by simp [opens, hx])
      have hrecv : (n.agent j).recv p junk ≠ .error .shiftCount := by
        simp only [MIHAgent.recv, hpayload]
        exact MIHAgent.recvRegReq_ne_shiftCount m hfits
      exact bind_ne_error hrecv fun _ _ => by simp
    next => simp
  | respond k failureCode validity =>
    simp only [step]
    split
    next i j p r hx =>
      -- the responder computes the id once more, of a session it has opened
      have hopened : ⟨i, j, j, i, r⟩ ∈ n.opened :=
        List.mem_flatMap.2 ⟨_, List.mem_of_getElem? hx, List.mem_singleton_self _⟩
      have hfits : FitsShift (n.agent j).mihfId := by
        rw [h.sessions.mihfId]
        exact (h.sessions.isSession _ hopened).fits
      exact bind_ne_error (MIHAgent.sendRegResponse_ne_shiftCount hfits) fun _ _ =>
        bind_ne_error (MIHAgent.deref_ne_shiftCount _) fun _ _ => by simp
    next => simp
  | response k junk =>
    simp only [step]
    split
    next i j p r hx =>
      obtain ⟨-, m, hpayload, -, hlsb⟩ := h.carries _ (List.mem_of_getElem? hx)
      obtain ⟨-, hfits, -⟩ := hok ⟨i, j, i, j, (n.agent i).nextSession⟩ (by simp [opens, hx])
      simp only [h.sessions.mihfId] at hfits
      have hrecv : (n.agent i).recv p junk ≠ .error .shiftCount := by
        simp only [MIHAgent.recv, hpayload]
        refine MIHAgent.recvRegRsp_ne_shiftCount ?_
        rwa [hlsb, setWidth_setWidth_of_fits hfits]
      exact bind_ne_error hrecv fun _ _ => by simp
    next => simp

end Steps

/-- In every run in which each session is opened where identifiers distinguish it, no id is
undefined, and in every state the agents agree on their sessions. -/
theorem sessions_agree {ι : Type} [DecidableEq ι] (n : RegNet ι) (is : List (RegStep ι))
    (h0 : n.Fresh) (hok : StepsMeet RegNet.step RegNet.Distinguishes n is) :
    runSteps RegNet.step n is ≠ .error .shiftCount ∧
      ∀ n', runSteps RegNet.step n is = .ok n' → n'.Agreed := by
  constructor
  · exact runSteps_ne_error (fun _ _ _ h hi hs => RegNet.step_inv h hi hs)
      (fun _ _ h hi => RegNet.step_ne_shiftCount h hi) h0.inv hok
  · intro n' hrun
    have hinv : n'.Inv fun a => (n.agent a).mihfId :=
      runSteps_invariant (fun _ _ _ h hi hs => RegNet.step_inv h hi hs) h0.inv hok hrun
    exact RegNet.agreed_of_sessionsOf hinv.sessions

/-- Stations at the nodes `0, 1, 2, …` with these numbers as identifiers. -/
def sampleStation (k : ℕ) : MIHAgent :=
  let mac : Mac := { sampleMac with nodeAddr := k }
  { sampleAgent 0x202 with
    addr := k
    mihfId := k
    ifaces := [.ofMac mac]
    mihf := fun m =>
      { samplePeer 0x202 with id := m, address := m, session := none, localMac := some mac }
    nextMihf := 17
    peerMihfs := List.range 17
    nextSession := 0
    sessions := [] }

/-- The stations before they register. -/
def sampleStations : RegNet ℕ := ⟨sampleStation, []⟩

/-- The `k`-th exchange, from its request to its response. -/
def registers (k i j : ℕ) : List (RegStep ℕ) :=
  [.start i j (some 0), .request k 0, .respond k 0 0, .response k 0]

/-- The station 1 registers with the stations 2 and 3. -/
def sampleRegistrations : List (RegStep ℕ) := registers 0 1 2 ++ registers 1 1 3

theorem sessions_agree_sample :
    ∃ n, runSteps RegNet.step sampleStations sampleRegistrations = .ok n ∧
      n.opened.length = 4 ∧ n.Agreed := by
  have hlength : (runSteps RegNet.step sampleStations sampleRegistrations).map
      (fun n => n.opened.length) = .ok 4 := by decide +kernel
  obtain ⟨n, hn, hfour⟩ := map_ok_iff.1 hlength
  exact ⟨n, hn, hfour, (sessions_agree sampleStations sampleRegistrations ⟨rfl, fun _ => rfl⟩
    (by decide +kernel)).2 n hn⟩

/-- The sessions of the station 0 with the stations 1 and 2. -/
def clashingSessions : List (Opened ℕ) := [⟨0, 1, 0, 1, 0⟩, ⟨0, 2, 0, 2, 1⟩]

/-- The station 0 gets sessions with the id 0 from two peers, and the id of a session with the
station 16 is undefined. -/
theorem session_ids_clash :
    (∃ n, runSteps RegNet.step sampleStations (registers 0 0 1 ++ registers 1 0 2) = .ok n ∧
      (∀ c ∈ clashingSessions, c ∈ n.opened ∧ n.sessionId c = 0) ∧ ¬ n.Agreed) ∧
    runSteps RegNet.step sampleStations [.start 1 16 (some 0), .request 0 0] =
      .error .shiftCount := by
  refine ⟨?_, rfl⟩
  have hids : (runSteps RegNet.step sampleStations (registers 0 0 1 ++ registers 1 0 2)).map
      (fun n => decide (∀ c ∈ clashingSessions, c ∈ n.opened ∧ n.sessionId c = 0)) =
        .ok true := by decide +kernel
  obtain ⟨n, hn, htrue⟩ := map_ok_iff.1 hids
  have hclash : ∀ c ∈ clashingSessions, c ∈ n.opened ∧ n.sessionId c = 0 :=
    of_decide_eq_true htrue
  refine ⟨n, hn, hclash, fun h => ?_⟩
  obtain ⟨hfirst, hfirstId⟩ := hclash ⟨0, 1, 0, 1, 0⟩ (by decide)
  obtain ⟨hsecond, hsecondId⟩ := hclash ⟨0, 2, 0, 2, 1⟩ (by decide)
  exact h.unique _ hfirst _ hsecond rfl (by decide) (hfirstId.trans hsecondId.symm)

end SipNemo.Mih
