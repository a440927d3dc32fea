import SipNemo.Lib.Network
import SipNemo.Sip.MobileNode

/-!
# Home agents, correspondents and the redirection of calls

The `recv` of the remaining node types, and with it `recvSip`, the handlers of all of them.  A
home agent answers an INVITE with "temporarily moved" (`send_temp_move_pkt`, method 6), and the
caller repeats its INVITE at the contact it is told (`send_invite_to_temp_move_pkt`).

A call to a node behind a mobile router is redirected twice: its home agent points to the home
agent of the router, and that one to the router.  The second lookup is by the url id of the
callee, which a router's home agent does not know; failing that it is by the entry type, so the
call goes to the `SIP_MR` entry at the head of the list.  `redirect_reaches_router_iff` is the
exact condition for that to be the router of the callee.
-/

namespace SipNemo.Sip

open FirstMatch Runs Network

/-! ### `send_temp_move_pkt` and `send_invite_to_temp_move_pkt` -/

/-- The INVITE `p` turned into "temporarily moved", back to the contact it came from. -/
def tempMoved (a : UdpmysipAgent) (p : Packet) (conId : ℤ) (con : Addr) : Packet :=
  { p with
    iph := { p.iph with daddr := p.mh.contact, dport := a.port }
    mh := { p.mh with method := 6, contactId := conId, contact := con } }

/-- `send_temp_move_pkt`, the rewriting of `p`: by the entry with the requested url id, or else by
the first `SIP_MR` entry. -/
def rewriteTempMove (a : UdpmysipAgent) (p : Packet) : Act Packet :=
  match getEntryByUrlId a.siplist p.mh.requestURLId with
  | none => do
    let bu ← deref (getMrEntry a.siplist)
    pure (tempMoved a p p.mh.requestURLId bu.con)
  | some bu => .ok (tempMoved a p bu.conId bu.con)

/-- `send_temp_move_pkt`: the packets sent, and `p` as it is rewritten on the way. -/
def sendTempMovePkt (a : UdpmysipAgent) (p : Packet) : Act (List Out × Packet) := do
  let p ← rewriteTempMove a p
  pure ([.send (copyHeaders a p)], p)

/-- `send_invite_to_temp_move_pkt` of a correspondent, which rewrites `p` itself. -/
def cnInviteToTempMove (a : UdpmysipAgent) (p : Packet) : Packet :=
  { p with
    iph := { p.iph with daddr := p.mh.contact, dport := a.port }
    mh := { p.mh with
      method := 0
      requestURLId := p.mh.contactId
      requestURL := p.mh.contact
      contactId := p.mh.fromId
      contact := p.mh.fromURL } }

/-! ### `recv` -/

/-- `recv` of the home agent of mobile routers, up to the delivery to the application. -/
def recvMrHa (a : UdpmysipAgent) (p : Packet) : Act Received :=
  if p.mh.method = 5 then
    if p.iph.daddr = a.addr then
      .ok ({ a with siplist := registration a.siplist p.mh .sipMr }, [], p)
    else .ok (a, [], p)
  else if p.mh.method = 0 then do
    let (outs, p) ← sendTempMovePkt a p
    pure (a, outs, { p with iph.prio := 14 })
  else if p.mh.method = 9 then
    .ok ({ a with siplist := registration a.siplist p.mh .sipMr }, [], { p with iph.prio := 14 })
  else if p.mh.method = 14 then do
    -- `mr_ha_recv_refer_send_to_mr`
    let mr ← deref (getMrEntry a.siplist)
    let p := p.setDaddr mr.con
    pure (a, [.send p], { p with iph.prio := 14 })
  else .ok (a, [], p)

/-- `recv` of the home agent of mobile nodes, up to the delivery to the application. -/
def recvMnHa (a : UdpmysipAgent) (p : Packet) : Act Received :=
  if p.mh.method = 5 then
    .ok ({ a with siplist := registration a.siplist p.mh .sipMn }, [], p)
  else if p.mh.method = 0 then do
    let (outs, p) ← sendTempMovePkt a p
    pure (a, outs, { p with iph.prio := 14 })
  else .ok (a, [], p)

/-- `recv` of a correspondent, up to the delivery to the application. -/
def recvCn (a : UdpmysipAgent) (p : Packet) : Act Received :=
  if p.mh.method = 0 ∨ p.mh.method = 1 ∨ p.mh.method = 7 then .ok (a, [], stripHeader p)
  else if p.mh.method = 6 then
    let p := cnInviteToTempMove a p
    .ok (a, [.send p], { p with iph.prio := 14 })
  else if p.mh.method = 9 ∨ p.mh.method = 12 then
    .ok (a, [], { stripHeader p with iph.prio := 15 })
  else .ok (a, [], p)

/-- `recv` by node type, up to the delivery to the application. -/
def recvSip (a : UdpmysipAgent) (p : Packet) : Act Received :=
  match a.nodeType with
  | .sipMr => recvMr a p
  | .sipMrHa => recvMrHa a p
  | .sipMnHa => recvMnHa a p
  | .sipMn => recvMn a p
  | .sipCn => recvCn a p
  | .sipMrBs => .ok (a, [], p)

/-! ### The bindings of a home agent -/

/-- What REGISTERs leave behind at the home agent of mobile nodes. -/
def registered (regs : List HdrMysip) : List SIPEntry :=
  regs.foldl (fun l mh => registration l mh .sipMn) []

/-- A REGISTER as `send_reg_msg` builds it has the same `From` and contact ids, so the entry it
makes has its url id as contact id. -/
theorem registration_conId {l : List SIPEntry} {mh : HdrMysip} (hmh : mh.fromId = mh.contactId)
    (h : ∀ e ∈ l, e.conId = e.urlId) : ∀ e ∈ registration l mh .sipMn, e.conId = e.urlId := by
  intro e he
  unfold registration at he
  cases hfind : getEntryByUrlId l mh.contactId with
  | none =>
    simp only [hfind] at he
    rcases List.mem_cons.1 he with rfl | he
    · exact hmh.symm
    · exact h e he
  | some x =>
    simp only [hfind] at he
    rcases mem_updateFirst he with he | ⟨b, hb, rfl⟩
    · exact h e he
    · exact h b (List.mem_of_find?_eq_some hb)

theorem registered_conId {regs : List HdrMysip} (hregs : ∀ mh ∈ regs, mh.fromId = mh.contactId) :
    ∀ e ∈ registered regs, e.conId = e.urlId := by
  unfold registered
  suffices hfold : ∀ (regs : List HdrMysip) (l : List SIPEntry),
      (∀ mh ∈ regs, mh.fromId = mh.contactId) → (∀ e ∈ l, e.conId = e.urlId) →
      ∀ e ∈ regs.foldl (fun l mh => registration l mh .sipMn) l, e.conId = e.urlId from
    hfold regs [] hregs (by simp)
  intro regs
  induction regs with
  | nil => exact fun l _ hl => hl
  | cons mh regs ih =>
    intro l hmhs hl
    rw [List.foldl_cons]
    exact ih _ (fun mh' h => hmhs mh' (List.mem_cons_of_mem _ h))
      (registration_conId (hmhs mh List.mem_cons_self) hl)

/-! ### The redirection as a route -/

/-- The parties of a redirected call. -/
inductive Party
  | cn | mnHa | mrHa
  deriving DecidableEq, Repr

/-- A caller, the home agent of the callee and the home agent of the routers. -/
structure CallSetup where
  cn : UdpmysipAgent
  mnHa : UdpmysipAgent
  mrHa : UdpmysipAgent
  isCn : cn.nodeType = .sipCn
  isMnHa : mnHa.nodeType = .sipMnHa
  isMrHa : mrHa.nodeType = .sipMrHa
  cn_ne_mnHa : cn.addr ≠ mnHa.addr
  cn_ne_mrHa : cn.addr ≠ mrHa.addr
  mnHa_ne_mrHa : mnHa.addr ≠ mrHa.addr

namespace CallSetup

variable (s : CallSetup)

/-- The agents of the parties. -/
def node : Party → UdpmysipAgent
  | .cn => s.cn
  | .mnHa => s.mnHa
  | .mrHa => s.mrHa

/-- The party a packet is addressed to, if it is one of them. -/
def dest (p : Packet) : Option Party :=
  if p.iph.daddr = s.cn.addr then some .cn
  else if p.iph.daddr = s.mnHa.addr then some .mnHa
  else if p.iph.daddr = s.mrHa.addr then some .mrHa
  else none

/-- A party receives a packet. -/
def receive (a : UdpmysipAgent) (p : Packet) : Act (UdpmysipAgent × List Packet) :=
  (recvSip a p).map fun r => (r.1, r.2.1.map Out.packet)

/-- An INVITE of the caller for the node `u` at the node's home agent. -/
structure Invite (u : ℤ) (p : Packet) : Prop where
  method : p.mh.method = 0
  daddr : p.iph.daddr = s.mnHa.addr
  requestURL : p.mh.requestURL = s.mnHa.addr
  requestURLId : p.mh.requestURLId = u
  toId : p.mh.toId = u
  fromURL : p.mh.fromURL = s.cn.addr
  contact : p.mh.contact = s.cn.addr

/-- The INVITE `p` is redirected by the home agent of the callee and by that of the routers, and
the caller then sends it to `c`, with the `To` and `From` ids it had. -/
def Redirected (p : Packet) (c : Addr) : Prop :=
  ∃ (hops : List (Party × Packet)) (n : Net Party UdpmysipAgent Packet) (q : Packet),
    hops.map Prod.fst = [.mnHa, .cn, .mrHa, .cn] ∧
    Route s.dest receive { node := s.node, flight := [p] } hops n ∧ n.flight = [q] ∧
    q.mh.method = 0 ∧ q.iph.daddr = c ∧ q.mh.toId = p.mh.toId ∧ q.mh.fromId = p.mh.fromId

end CallSetup

/-- A home agent with the bindings `l` redirects calls for `u` to the contact `c`: it has an entry
for `u` there, or it has none and the first `SIP_MR` entry is there. -/
def RedirectsTo (l : List SIPEntry) (u : ℤ) (c : Addr) : Prop :=
  (∃ e, getEntryByUrlId l u = some e ∧ e.con = c) ∨
    (getEntryByUrlId l u = none ∧ ∃ e, getMrEntry l = some e ∧ e.con = c)

/-- The contact id and the contact a redirection answers with. -/
def redirectTarget (l : List SIPEntry) (u : ℤ) : Option (ℤ × Addr) :=
  match getEntryByUrlId l u with
  | none => (getMrEntry l).map fun e => (u, e.con)
  | some e => some (e.conId, e.con)

theorem redirectsTo_iff {l : List SIPEntry} {u : ℤ} {c : Addr} :
    RedirectsTo l u c ↔ ∃ conId, redirectTarget l u = some (conId, c) := by
  unfold RedirectsTo redirectTarget
  cases getEntryByUrlId l u with
  | none => simp
  | some e => simp

theorem sendTempMovePkt_eq (a : UdpmysipAgent) (p : Packet) :
    sendTempMovePkt a p = (deref (redirectTarget a.siplist p.mh.requestURLId)).map fun t =>
      ([.send (copyHeaders a (tempMoved a p t.1 t.2))], tempMoved a p t.1 t.2) := by
  unfold sendTempMovePkt rewriteTempMove redirectTarget
  cases getEntryByUrlId a.siplist p.mh.requestURLId with
  | none => cases getMrEntry a.siplist <;> rfl
  | some e => rfl

namespace CallSetup

variable {s : CallSetup} {u : ℤ} {p q : Packet}

/-- A home agent answers an INVITE with the redirection and stays as it is. -/
theorem receive_invite {a : UdpmysipAgent} (ha : a.nodeType = .sipMnHa ∨ a.nodeType = .sipMrHa)
    (hp : p.mh.method = 0) :
    receive a p = (deref (redirectTarget a.siplist p.mh.requestURLId)).map fun t =>
      (a, [copyHeaders a (tempMoved a p t.1 t.2)]) := by
  have hsent : receive a p = (sendTempMovePkt a p).map fun r => (a, r.1.map Out.packet) := by
    rcases ha with ha | ha
    · simp only [receive, recvSip, ha, recvMnHa, hp]
      cases sendTempMovePkt a p <;> rfl
    · simp only [receive, recvSip, ha, recvMrHa, hp]
      cases sendTempMovePkt a p <;> rfl
  rw [hsent, sendTempMovePkt_eq]
  cases deref (redirectTarget a.siplist p.mh.requestURLId) <;> rfl

/-- The caller repeats its INVITE where it is told to. -/
theorem receive_tempMoved {a : UdpmysipAgent} (ha : a.nodeType = .sipCn) (hp : p.mh.method = 6) :
    receive a p = .ok (a, [cnInviteToTempMove a p]) := by
  simp [receive, recvSip, ha, recvCn, hp, Out.packet]

theorem dest_cn (h : q.iph.daddr = s.cn.addr) : s.dest q = some .cn := by
  simp [dest, h]

theorem dest_mnHa (h : q.iph.daddr = s.mnHa.addr) : s.dest q = some .mnHa := by
  simp [dest, h, s.cn_ne_mnHa.symm]

theorem dest_mrHa (h : q.iph.daddr = s.mrHa.addr) : s.dest q = some .mrHa := by
  simp [dest, h, s.cn_ne_mrHa.symm, s.mnHa_ne_mrHa.symm]

/-- The caller's INVITE after a redirection by `a` to `con`. -/
def reinvite (s : CallSetup) (a : UdpmysipAgent) (p : Packet) (conId : ℤ) (con : Addr) : Packet :=
  cnInviteToTempMove s.cn (copyHeaders a (tempMoved a p conId con))

/-- One redirection: the home agent `x` answers, the caller repeats its INVITE. -/
theorem redirect_route {x : Party} (hx : (s.node x).nodeType = .sipMnHa ∨
      (s.node x).nodeType = .sipMrHa) (hp : p.mh.method = 0) (hdest : s.dest p = some x)
    (hcontact : p.mh.contact = s.cn.addr) {hops : List (Party × Packet)}
    {n : Net Party UdpmysipAgent Packet} :
    (∃ m m', Route s.dest receive { node := s.node, flight := [p] }
        ((x, m) :: (.cn, m') :: hops) n) ↔
      ∃ t, redirectTarget (s.node x).siplist p.mh.requestURLId = some t ∧
        Route s.dest receive
          { node := s.node, flight := [s.reinvite (s.node x) p t.1 t.2] } hops n := by
  -- neither party changes its state, so the network stays as it is
  have hself : ∀ y, Function.update s.node y (s.node y) = s.node :=
    fun y => Function.update_eq_self y s.node
  have hcn : ∀ q : Packet, q.mh.method = 6 →
      receive (s.node .cn) q = .ok (s.node .cn, [cnInviteToTempMove s.cn q]) :=
    fun q hq => receive_tempMoved s.isCn hq
  constructor
  · rintro ⟨m, m', hroute⟩
    obtain ⟨-, -, a, out, hrecv, hroute⟩ := hroute.uncons
    rw [receive_invite hx hp, map_ok_iff] at hrecv
    obtain ⟨t, ht, hout⟩ := hrecv
    cases hout
    rw [hself] at hroute
    obtain ⟨-, -, a', out', hrecv', hroute⟩ := hroute.uncons
    rw [hcn _ rfl] at hrecv'
    cases hrecv'
    rw [hself] at hroute
    exact ⟨t, deref_eq_ok.1 ht, hroute⟩
  · rintro ⟨t, ht, hroute⟩
    have hrecv : receive (s.node x) p =
        .ok (s.node x, [copyHeaders (s.node x) (tempMoved (s.node x) p t.1 t.2)]) := by
      rw [receive_invite hx hp, ht]
      rfl
    refine ⟨p, copyHeaders (s.node x) (tempMoved (s.node x) p t.1 t.2), ?_⟩
    refine Route.cons hdest hrecv ?_
    rw [hself]
    refine Route.cons (dest_cn hcontact) (hcn _ rfl) ?_
    rw [hself]
    exact hroute

/-- Two redirections: the INVITE ends where the home agent of the routers redirects it to. -/
theorem redirected_iff (hp : s.Invite u p) {e : SIPEntry}
    (he : getEntryByUrlId s.mnHa.siplist u = some e) (hid : e.conId = u)
    (hcon : e.con = s.mrHa.addr) {c : Addr} :
    s.Redirected p c ↔ RedirectsTo s.mrHa.siplist u c := by
  have hfirst : redirectTarget (s.node .mnHa).siplist p.mh.requestURLId =
      some (u, s.mrHa.addr) := by
    rw [hp.requestURLId]
    simp [redirectTarget, node, he, hid, hcon]
  -- the two redirections, each with its own caller's INVITE
  let p₂ := s.reinvite s.mnHa p u s.mrHa.addr
  have hone := fun hops n => @redirect_route s p .mnHa (Or.inl s.isMnHa) hp.method
    (dest_mnHa hp.daddr) hp.contact hops n
  have htwo := fun hops n => @redirect_route s p₂ .mrHa (Or.inr s.isMrHa) rfl (dest_mrHa rfl)
    hp.fromURL hops n
  rw [redirectsTo_iff]
  constructor
  · rintro ⟨hops, n, q, hnodes, hroute, hflight, -, hdaddr, -⟩
    obtain ⟨m₁, m₂, m₃, m₄, rfl⟩ : ∃ m₁ m₂ m₃ m₄,
        hops = [(.mnHa, m₁), (.cn, m₂), (.mrHa, m₃), (.cn, m₄)] := by
      simp only [List.map_eq_cons_iff, List.map_eq_nil_iff] at hnodes
      obtain ⟨⟨_, m₁⟩, _, rfl, rfl, ⟨_, m₂⟩, _, rfl, rfl, ⟨_, m₃⟩, _, rfl, rfl, ⟨_, m₄⟩, _, rfl,
        rfl, rfl⟩ := hnodes
      exact ⟨m₁, m₂, m₃, m₄, rfl⟩
    obtain ⟨t, ht, hroute⟩ := (hone _ n).1 ⟨m₁, m₂, hroute⟩
    rw [hfirst] at ht
    cases ht
    obtain ⟨t, ht, hroute⟩ := (htwo _ n).1 ⟨m₃, m₄, hroute⟩
    obtain rfl : _ = n := hroute
    obtain rfl : _ = q := List.singleton_inj.1 hflight
    refine ⟨t.1, ?_⟩
    rw [← hdaddr]
    exact ht
  · rintro ⟨conId, ht⟩
    let q := s.reinvite s.mrHa p₂ conId c
    obtain ⟨m₃, m₄, hroute⟩ := (htwo [] { node := s.node, flight := [q] }).2 ⟨(conId, c), ht, rfl⟩
    obtain ⟨m₁, m₂, hroute⟩ := (hone _ _).2 ⟨_, hfirst, hroute⟩
    exact ⟨_, _, _, rfl, hroute, rfl, rfl, rfl, rfl, rfl⟩

end CallSetup

/-- A node `u` whose home agent has a binding for it that points to the home agent of the routers
is called: the INVITE arrives at the contact `c` of its router, with the ids it was sent with,
exactly when the home agent of the routers redirects calls for `u` to `c`. -/
theorem redirect_reaches_router_iff (s : CallSetup) {regs : List HdrMysip}
    (hregs : ∀ mh ∈ regs, mh.fromId = mh.contactId) (hlist : s.mnHa.siplist = registered regs)
    {u : ℤ} {e : SIPEntry} (he : getEntryByUrlId (registered regs) u = some e)
    (hcon : e.con = s.mrHa.addr) {p : Packet} (hp : s.Invite u p) (c : Addr) :
    s.Redirected p c ↔ RedirectsTo s.mrHa.siplist u c := by
  have hurl : e.urlId = u := by
    have hmatch : hasUrlId u e = true := List.find?_some he
    exact beq_iff_eq.1 hmatch
  have hid : e.conId = e.urlId := registered_conId hregs e (List.mem_of_find?_eq_some he)
  exact CallSetup.redirected_iff hp (by rw [hlist]; exact he) (hid.trans hurl) hcon

/-! ### Two routers behind one home agent -/

/-- The REGISTER of the node 8888 as its home agent gets it. -/
def registrationOf8888 : List HdrMysip :=
  [{ method := 5, fromId := 8888, contactId := 8888, contact := str2addr 8 0 0 }]

/-- A home agent at 8.0.0 where the router 9998 has registered after the router 9999, and a caller
of the node 8888. -/
def twoRouters : CallSetup where
  cn := { nodeType := .sipCn, addr := str2addr 1 0 0 }
  mnHa :=
    { nodeType := .sipMnHa
      addr := str2addr 5 0 0
      siplist := registered registrationOf8888 }
  mrHa :=
    { nodeType := .sipMrHa
      addr := str2addr 8 0 0
      siplist := [{ type := .sipMr, urlId := 9998, con := str2addr 3 0 1 },
        { type := .sipMr, urlId := 9999, con := str2addr 2 0 1 }] }
  isCn := rfl
  isMnHa := rfl
  isMrHa := rfl
  cn_ne_mnHa := by decide
  cn_ne_mrHa := by decide
  mnHa_ne_mrHa := by decide

/-- The INVITE for 8888. -/
def inviteFor8888 : Packet where
  iph := { saddr := str2addr 1 0 0, daddr := str2addr 5 0 0 }
  mh :=
    { method := 0, requestURLId := 8888, requestURL := str2addr 5 0 0, fromId := 1000,
      fromURL := str2addr 1 0 0, toId := 8888, toURL := str2addr 5 0 0, contactId := 1000,
      contact := str2addr 1 0 0 }

theorem inviteFor8888_invite : twoRouters.Invite 8888 inviteFor8888 := by
  constructor <;> rfl

theorem redirect_reaches_router_iff_sample :
    twoRouters.Redirected inviteFor8888 (str2addr 3 0 1) ↔
      RedirectsTo twoRouters.mrHa.siplist 8888 (str2addr 3 0 1) :=
  redirect_reaches_router_iff twoRouters (by simp [registrationOf8888]) rfl rfl rfl
    inviteFor8888_invite _

/-- The router 9999 is registered at 2.0.1, and no call for a node behind it arrives there. -/
theorem redirect_misses_older_router :
    twoRouters.Invite 8888 inviteFor8888 ∧
      (∃ r ∈ twoRouters.mrHa.siplist, r.type = .sipMr ∧ r.con = str2addr 2 0 1) ∧
      ¬ twoRouters.Redirected inviteFor8888 (str2addr 2 0 1) := by
  refine ⟨inviteFor8888_invite, by decide, ?_⟩
  rw [CallSetup.redirected_iff inviteFor8888_invite rfl rfl rfl]
  rintro (⟨e, he, -⟩ | ⟨-, e, he, hcon⟩)
  · cases he
  · cases he
    exact absurd hcon (by decide)

end SipNemo.Sip
