import SipNemo.Sip.Selection

/-!
# The SIP agent of a mobile node and its direct binding update

The operations of a `UdpmysipAgent` of type `SIP_MN`: the command `set-sip-mn`, `recv` on every
method, and `MIPV6Agent::process_new_prefix`, which gives an interface its care-of address and
has the agent register.  With `exp_mr_` 2 the node also sends a binding update for its first
correspondent (`mn_send_bu_cn`, method 13), which the mobile router answers in `recvBuMn`.

The binding update carries the contact id of the node's home agent entry, and the contact id is
set only by `mn_update_binding`, which `process_new_prefix` calls with `exp_mr_` 3.  With
`exp_mr_` 2 it is still `-1` (`MnConfigured.run`), so the router looks for an entry with the url
id `-1`: it either writes into an entry made by `set-mface` or `process_mr`, or registers the
node and then fails its own assertion.  `mn_bu_updates_iff` says that it meets its purpose only
when there was nothing to update.
-/

namespace SipNemo.Sip

open FirstMatch Runs

/-! ### Configuration -/

/-- `mn_init_entry` of a new home agent entry. -/
def mnInitEntry (addrId : ℤ) (addr : Addr) (urlId : ℤ) (url : Addr) (eface : NEMOAgent) :
    SIPEntry where
  type := .sipMnHa
  addrId := addrId
  addr := addr
  urlId := urlId
  url := url
  eface := some eface

/-- `set-sip-mn add_id add url_id url eface`. -/
def setSipMn (a : UdpmysipAgent) (addrId : ℤ) (addr : Addr) (urlId : ℤ) (url : Addr)
    (eface : NEMOAgent) : UdpmysipAgent :=
  { a with siplist := mnInitEntry addrId addr urlId url eface :: a.siplist }

/-- `set-mface prefix iface`, at a mobile router. -/
def setMface (a : UdpmysipAgent) (pre : Addr) (iface : NEMOAgent) : UdpmysipAgent :=
  { a with siplist := { type := .sipMr, nemoPrefix := pre, iface := some iface } :: a.siplist }

/-- `get_mn_ha_entry`, and in the same way `get_entry_by_type(SIP_MN_HA)`. -/
def getMnHaEntry (l : List SIPEntry) : Option SIPEntry := getEntryByType l .sipMnHa

/-- `MIPV6Agent::compute_new_address`: the node part of the old address under the new prefix. -/
def computeNewAddress (old pre : Addr) : Addr := (old &&& 0x7FF#32) ||| prefixOf pre

/-- The interface has a new address. -/
def readdress (a : UdpmysipAgent) (iface : NodeId) (x : Addr) : UdpmysipAgent :=
  { a with address := Function.update a.address iface x }

/-! ### The binding update -/

/-- `mn_update_binding(new_addr)`. -/
def mnUpdateBinding (a : UdpmysipAgent) (newAddr : Addr) : Act UdpmysipAgent := do
  let _ ← deref (getMnHaEntry a.siplist)
  pure { a with
    siplist := updateFirst (hasType .sipMnHa)
      (fun e => { e with conId := e.urlId, con := newAddr }) a.siplist }

/-- The binding update of the home agent entry `mn` for the correspondent `cn`. -/
def buCnMessage (a : UdpmysipAgent) (mn cn : SIPEntry) : Packet :=
  let q := sipMessage a 13
  { q with
    mh := { q.mh with
      requestURL := cn.url, requestURLId := cn.urlId
      fromId := mn.urlId, fromURL := mn.url
      toId := cn.urlId, toURL := cn.url
      contactId := mn.conId, contact := mn.con }
    iph := { q.iph with saddr := mn.con, daddr := prefixOf mn.con } }

/-- `mn_send_bu_cn`. -/
def mnSendBuCn (a : UdpmysipAgent) : Act (List Out) :=
  match getEntryByType a.siplist .sipCn with
  | none => .ok []
  | some cn => do
    let mn ← deref (getMnHaEntry a.siplist)
    let q ← throughMrBs a (buCnMessage a mn cn)
    let f ← deref mn.eface
    pure [.via f q]

/-- `MIPV6Agent::process_new_prefix` of a node with a SIP agent, for a prefix heard from the base
station `bsAddr` and not yet dealt with (`ms_bs_enable` unset). -/
def mnProcessNewPrefix (a : UdpmysipAgent) (pre : Addr) (iface : NodeId) (bsAddr : Addr) :
    Act (UdpmysipAgent × List Out) := do
  let newAddr := computeNewAddress (a.address iface) pre
  let a := readdress a iface newAddr
  let a ← if a.expMr = 3 then mnUpdateBinding { a with mrBsDaddr := bsAddr } newAddr else pure a
  let (a, outs) ← sendRegMsg a pre iface
  let bu ← if a.expMr = 2 then mnSendBuCn a else pure []
  pure (a, outs ++ bu)

/-! ### `recv` -/

/-- `hdrc->size() -= 20`. -/
def stripHeader (p : Packet) : Packet := { p with cmn.size := p.cmn.size - 20 }

/-- `process_new_prefix(prefix)` of the SIP agent itself, on a REFER. -/
def processNewPrefix (a : UdpmysipAgent) (pre : Addr) : Act (UdpmysipAgent × List Out) := do
  let bu ← deref (getMnHaEntry a.siplist)
  let _ ← deref a.mipv6Port
  let f ← deref bu.eface
  let newAddr := computeNewAddress (a.address f.iface) pre
  sendRegMsg { readdress a f.iface newAddr with addr := newAddr } pre f.iface

/-- `send_invite_to_temp_move_pkt` of a mobile node. -/
def mnInviteToTempMove (a : UdpmysipAgent) (p : Packet) : Act (List Out) := do
  let bu ← assertNonNull (getMnHaEntry a.siplist)
  let q := copyHeaders a p
  let q := { q with
    iph := { q.iph with daddr := prefixOf bu.con, dport := a.port, saddr := bu.con }
    cmn.size := 120
    mh := { q.mh with
      method := 0
      requestURLId := p.mh.contactId
      requestURL := p.mh.contact
      contactId := bu.urlId
      contact := bu.con } }
  let q ← throughMrBs a q
  let f ← deref bu.eface
  pure [.via f q]

/-- The list after an INVITE: a caller that is not known yet becomes a correspondent. -/
def ensureCaller (l : List SIPEntry) (mh : HdrMysip) : List SIPEntry :=
  match getEntryByUrlId l mh.fromId with
  | none => SIPEntry.ofHeader .sipCn mh :: l
  | some _ => l

/-- `recv` of a mobile node, up to the delivery to the application. -/
def recvMn (a : UdpmysipAgent) (p : Packet) : Act Received :=
  if p.mh.method = 0 then
    .ok ({ a with siplist := ensureCaller a.siplist p.mh }, [], stripHeader p)
  else if p.mh.method = 1 ∨ p.mh.method = 7 then .ok (a, [], stripHeader p)
  else if p.mh.method = 6 then do
    let p := stripHeader p
    let outs ← mnInviteToTempMove a p
    pure (a, outs, { p with iph.prio := 14 })
  else if p.mh.method = 9 ∨ p.mh.method = 12 then
    .ok (a, [], { stripHeader p with iph.prio := 15 })
  else if p.mh.method = 11 then do
    let (a, outs) ← processNewPrefix a p.mh.refer
    pure (a, outs, { p with iph.prio := 14 })
  else .ok (a, [], p)

/-! ### Runs of a mobile node -/

/-- What happens to a mobile node: a packet arrives, or an interface gets a prefix. -/
inductive MnEvent
  | recv (p : Packet)
  | newPrefix (pre : Addr) (iface : NodeId) (bsAddr : Addr)

/-- One event at a mobile node. -/
def mnStep (a : UdpmysipAgent) : MnEvent → Act UdpmysipAgent
  | .recv p => (recvMn a p).map (·.1)
  | .newPrefix pre iface bsAddr => (mnProcessNewPrefix a pre iface bsAddr).map (·.1)

/-- A mobile node in the experiment with `exp_mr_` 2 whose home agent entry has the url id `u`
and no contact id. -/
structure MnConfigured (u : ℤ) (a : UdpmysipAgent) : Prop where
  isMn : a.nodeType = .sipMn
  expMr : a.expMr = 2
  entry : ∃ m, getMnHaEntry a.siplist = some m ∧ m.urlId = u ∧ m.conId = -1

/-- `set-sip-mn` configures a mobile node. -/
theorem MnConfigured.setSipMn {a : UdpmysipAgent} (hmn : a.nodeType = .sipMn)
    (hexp : a.expMr = 2) (addrId : ℤ) (addr : Addr) (u : ℤ) (url : Addr) (eface : NEMOAgent) :
    MnConfigured u (setSipMn a addrId addr u url eface) where
  isMn := hmn
  expMr := hexp
  entry := by
    refine ⟨mnInitEntry addrId addr u url eface, ?_, rfl, rfl⟩
    simp [getMnHaEntry, getEntryByType, hasType, Sip.setSipMn, mnInitEntry]

/-- The home agent entry keeps its ids when contacts are written. -/
theorem mnHaEntry_updateFirst_setCon {p : SIPEntry → Bool} {c : Addr} {l : List SIPEntry} {u : ℤ}
    (h : ∃ m, getMnHaEntry l = some m ∧ m.urlId = u ∧ m.conId = -1) :
    ∃ m, getMnHaEntry (updateFirst p (·.setCon c) l) = some m ∧ m.urlId = u ∧ m.conId = -1 := by
  obtain ⟨m, hm, hu, hc⟩ := h
  have hmap := find?_updateFirst_map (p := p) (q := hasType .sipMnHa) (f := (·.setCon c))
    (g := fun e => (e.urlId, e.conId)) (fun _ => rfl) (fun _ => rfl) l
  rw [show l.find? (hasType .sipMnHa) = some m from hm, Option.map_some,
    Option.map_eq_some_iff] at hmap
  obtain ⟨m', hm', heq⟩ := hmap
  obtain ⟨hu', hc'⟩ := Prod.mk.inj heq
  exact ⟨m', hm', hu'.trans hu, hc'.trans hc⟩

theorem mnHaEntry_ensureCaller (l : List SIPEntry) (mh : HdrMysip) :
    getMnHaEntry (ensureCaller l mh) = getMnHaEntry l := by
  unfold ensureCaller
  cases getEntryByUrlId l mh.fromId with
  | none => simp [getMnHaEntry, getEntryByType, hasType, SIPEntry.ofHeader, SIPEntry.updateEntry]
  | some _ => rfl

/-- Registering writes one contact. -/
theorem MnConfigured.sendRegMsg {u : ℤ} {a a' : UdpmysipAgent} (h : MnConfigured u a)
    {pre : Addr} {iface : NodeId} {outs : List Out}
    (hreg : sendRegMsg a pre iface = .ok (a', outs)) : MnConfigured u a' := by
  obtain ⟨sip, -, hreg⟩ := bind_ok_iff.1 hreg
  have hnot : a.nodeType ≠ .sipMr := by simp [h.isMn]
  rw [if_neg hnot] at hreg
  obtain ⟨q, -, hreg⟩ := bind_ok_iff.1 hreg
  obtain ⟨f, -, hpure⟩ := bind_ok_iff.1 hreg
  cases hpure
  exact ⟨h.isMn, h.expMr, mnHaEntry_updateFirst_setCon h.entry⟩

theorem MnConfigured.readdress {u : ℤ} {a : UdpmysipAgent} (h : MnConfigured u a)
    (iface : NodeId) (x : Addr) : MnConfigured u (readdress a iface x) :=
  ⟨h.isMn, h.expMr, h.entry⟩

/-- A new prefix with `exp_mr_` 2: the registration, then the binding update. -/
theorem MnConfigured.processNewPrefix_ok {u : ℤ} {a a' : UdpmysipAgent} (h : MnConfigured u a)
    {pre bsAddr : Addr} {iface : NodeId} {outs : List Out}
    (hnew : mnProcessNewPrefix a pre iface bsAddr = .ok (a', outs)) :
    ∃ reg bu, MnConfigured u a' ∧ mnSendBuCn a' = .ok bu ∧ outs = reg ++ bu ∧
      Sip.sendRegMsg (Sip.readdress a iface (computeNewAddress (a.address iface) pre)) pre iface =
        .ok (a', reg) := by
  have hne : ¬ (Sip.readdress a iface (computeNewAddress (a.address iface) pre)).expMr = 3 := by
    rw [(h.readdress iface _).expMr]
    decide
  simp only [mnProcessNewPrefix, if_neg hne, pure_eq_ok, ok_bind] at hnew
  obtain ⟨⟨a₁, reg⟩, hreg, hnew⟩ := bind_ok_iff.1 hnew
  have h₁ : MnConfigured u a₁ := (h.readdress iface _).sendRegMsg hreg
  simp only [if_pos h₁.expMr] at hnew
  obtain ⟨bu, hbu, hpure⟩ := bind_ok_iff.1 hnew
  cases hpure
  exact ⟨reg, bu, h₁, hbu, rfl, hreg⟩

theorem MnConfigured.recvMn {u : ℤ} {a a' : UdpmysipAgent} (h : MnConfigured u a) {p p' : Packet}
    {outs : List Out} (hrecv : recvMn a p = .ok (a', outs, p')) : MnConfigured u a' := by
  unfold Sip.recvMn at hrecv
  split_ifs at hrecv
  · cases hrecv
    exact ⟨h.isMn, h.expMr, by rw [mnHaEntry_ensureCaller]; exact h.entry⟩
  · cases hrecv
    exact h
  · obtain ⟨_, -, hpure⟩ := bind_ok_iff.1 hrecv
    cases hpure
    exact h
  · cases hrecv
    exact h
  · obtain ⟨⟨a₁, _⟩, hnew, hpure⟩ := bind_ok_iff.1 hrecv
    cases hpure
    obtain ⟨bu, -, hnew⟩ := bind_ok_iff.1 hnew
    obtain ⟨_, -, hnew⟩ := bind_ok_iff.1 hnew
    obtain ⟨f, -, hnew⟩ := bind_ok_iff.1 hnew
    refine MnConfigured.sendRegMsg (u := u) ?_ hnew
    exact ⟨h.isMn, h.expMr, h.entry⟩
  · cases hrecv
    exact h

/-- No event of a run gives the home agent entry a contact id. -/
theorem MnConfigured.run {u : ℤ} {a a' : UdpmysipAgent} (h : MnConfigured u a)
    {evs : List MnEvent} (hrun : runSteps mnStep a evs = .ok a') : MnConfigured u a' := by
  refine runSteps_preserves ?_ h hrun
  intro s i s' hs hi
  cases i with
  | recv p =>
    obtain ⟨⟨s₁, outs, p'⟩, hrecv, rfl⟩ := map_ok_iff.1 hi
    exact hs.recvMn hrecv
  | newPrefix pre iface bsAddr =>
    obtain ⟨⟨s₁, outs⟩, hnew, rfl⟩ := map_ok_iff.1 hi
    obtain ⟨reg, bu, hs₁, -⟩ := hs.processNewPrefix_ok hnew
    exact hs₁

/-! ### The binding update at the router -/

theorem throughMrBs_mh {a : UdpmysipAgent} {p q : Packet} (h : throughMrBs a p = .ok q) :
    q.mh = p.mh := by
  unfold throughMrBs at h
  split_ifs at h with hno
  · cases h
    rfl
  · obtain ⟨port, -, hpure⟩ := bind_ok_iff.1 h
    cases hpure
    simp [toMrBs, hno, addTunnel, Packet.setDaddr, Packet.setDport]

/-- The registration of a mobile node is a REGISTER. -/
theorem sendRegMsg_method {a a' : UdpmysipAgent} (hmn : a.nodeType = .sipMn) {pre : Addr}
    {iface : NodeId} {outs : List Out} (h : sendRegMsg a pre iface = .ok (a', outs)) {out : Out}
    (hout : out ∈ outs) : out.packet.mh.method = 5 := by
  obtain ⟨sip, -, h⟩ := bind_ok_iff.1 h
  have hnot : a.nodeType ≠ .sipMr := by simp [hmn]
  rw [if_neg hnot] at h
  obtain ⟨q, hq, h⟩ := bind_ok_iff.1 h
  obtain ⟨f, -, hpure⟩ := bind_ok_iff.1 h
  cases hpure
  obtain rfl := List.mem_singleton.1 hout
  show q.mh.method = 5
  rw [throughMrBs_mh hq]
  rfl

/-- The binding update of a configured node names it in `From` and has the contact id `-1`. -/
theorem MnConfigured.buCn {u : ℤ} {a : UdpmysipAgent} (h : MnConfigured u a) {outs : List Out}
    (hbu : mnSendBuCn a = .ok outs) {out : Out} (hout : out ∈ outs) :
    out.packet.mh.method = 13 ∧ out.packet.mh.fromId = u ∧ out.packet.mh.contactId = -1 := by
  unfold mnSendBuCn at hbu
  split at hbu
  · cases hbu
    simp at hout
  · rename_i cn _
    obtain ⟨mn, hmn, hbu⟩ := bind_ok_iff.1 hbu
    obtain ⟨q, hq, hbu⟩ := bind_ok_iff.1 hbu
    obtain ⟨f, -, hpure⟩ := bind_ok_iff.1 hbu
    cases hpure
    obtain rfl := List.mem_singleton.1 hout
    obtain ⟨m, hm, hu, hc⟩ := h.entry
    rw [deref_eq_ok, hm] at hmn
    cases hmn
    show q.mh.method = 13 ∧ q.mh.fromId = u ∧ q.mh.contactId = -1
    rw [throughMrBs_mh hq]
    exact ⟨rfl, hu, hc⟩

/-- The router's part of the contract: the binding update is received without an abort, the entry
of url id `u` is then a mobile node at the contact of `bu`, and every other entry is as it was. -/
def UpdatesMn (a : UdpmysipAgent) (bu : SIPEntry) (u : ℤ) (p : Packet) : Prop :=
  ∃ r, recvMr a p = .ok r ∧
    (∃ e, getEntryByUrlId r.1.siplist u = some e ∧ e.type = .sipMn ∧ e.con = bu.con) ∧
    r.1.siplist.eraseP (hasUrlId u) = a.siplist.eraseP (hasUrlId u)

/-- Nothing to update: an entry with the url id `-1` stands before the others of that id and has
the contact of `bu` already, and so does the entry of url id `u`, a mobile node. -/
structure AlreadyBound (l : List SIPEntry) (bu : SIPEntry) (u : ℤ) : Prop where
  external : bu.eface ≠ none
  unnamed : ∃ x, getEntryByUrlId l (-1) = some x ∧ x.con = bu.con
  node : ∃ e, getEntryByUrlId l u = some e ∧ e.type = .sipMn ∧ e.con = bu.con

theorem hasUrlId_disjoint {u v : ℤ} (h : u ≠ v) (e : SIPEntry) (he : hasUrlId u e = true) :
    hasUrlId v e = false := by
  simp only [hasUrlId, beq_iff_eq, beq_eq_false_iff_ne] at he ⊢
  rw [he]
  exact h

/-- With no entry of the contact's url id the node is registered under its `From` id, so the
lookup after the registration fails as well. -/
theorem recvBuMn_unknown {a : UdpmysipAgent} {p : Packet} (hne : p.mh.fromId ≠ p.mh.contactId)
    (hnone : getEntryByUrlId a.siplist p.mh.contactId = none) (r : Received) :
    recvBuMn a p ≠ .ok r := by
  intro h
  obtain ⟨bu, -, h⟩ := bind_ok_iff.1 h
  obtain ⟨mn, hmn, -⟩ := bind_ok_iff.1 h
  have hnew : hasUrlId p.mh.contactId (SIPEntry.newMn p.mh) = false :=
    beq_eq_false_iff_ne.2 hne
  rcases ensureMn_cases a.siplist p.mh with ⟨e, he, -⟩ | ⟨-, heq⟩
  · rw [hnone] at he
    cases he
  · rw [assertNonNull_eq_ok, heq, getEntryByUrlId, List.find?_cons, hnew] at hmn
    rw [show a.siplist.find? (hasUrlId p.mh.contactId) = none from hnone] at hmn
    cases hmn

/-- With such an entry, it gets the contact of the first live home agent entry. -/
theorem recvBuMn_known {a : UdpmysipAgent} {p : Packet} {bu x : SIPEntry} {r : Received}
    (hx : getEntryByUrlId a.siplist p.mh.contactId = some x)
    (hbu : getMrHaEntryActive a.siplist = some bu) (h : recvBuMn a p = .ok r) :
    bu.eface ≠ none ∧
      r.1.siplist = updateFirst (hasUrlId p.mh.contactId) (·.setCon bu.con) a.siplist := by
  obtain ⟨bu', hbu', h⟩ := bind_ok_iff.1 h
  obtain ⟨mn, -, h⟩ := bind_ok_iff.1 h
  obtain ⟨f, hf, hpure⟩ := bind_ok_iff.1 h
  rw [assertNonNull_eq_ok, hbu] at hbu'
  cases hbu'
  rw [deref_eq_ok] at hf
  cases hpure
  refine ⟨by simp [hf], ?_⟩
  simp [ensureMn, hx]

theorem recvBuMn_ok {a : UdpmysipAgent} {p : Packet} {bu x : SIPEntry}
    (hx : getEntryByUrlId a.siplist p.mh.contactId = some x)
    (hbu : getMrHaEntryActive a.siplist = some bu) (heface : bu.eface ≠ none) :
    ∃ r, recvBuMn a p = .ok r := by
  obtain ⟨f, hf⟩ := Option.ne_none_iff_exists'.1 heface
  simp [recvBuMn, ensureMn, hx, hbu, hf]

/-- **The binding update of a mobile node at its router.** -/
theorem updatesMn_iff {a : UdpmysipAgent} {bu : SIPEntry} {u : ℤ} {p : Packet} (hu : u ≠ -1)
    (hmethod : p.mh.method = 13) (hfrom : p.mh.fromId = u) (hcontact : p.mh.contactId = -1)
    (hbu : getMrHaEntryActive a.siplist = some bu) :
    UpdatesMn a bu u p ↔ AlreadyBound a.siplist bu u := by
  have hrecv : recvMr a p = recvBuMn a p := by simp [recvMr, hmethod]
  have hother : ∀ e, hasUrlId u e = true → hasUrlId (-1) e = false := hasUrlId_disjoint hu
  constructor
  · rintro ⟨r, hr, ⟨e, he, htype, hcon⟩, hrest⟩
    rw [hrecv] at hr
    cases hx : getEntryByUrlId a.siplist (-1) with
    | none =>
      refine absurd hr (recvBuMn_unknown ?_ ?_ r)
      · rw [hfrom, hcontact]
        exact hu
      · rw [hcontact]
        exact hx
    | some x =>
      obtain ⟨heface, hlist⟩ := recvBuMn_known (hcontact ▸ hx) hbu hr
      rw [hcontact] at hlist
      refine ⟨heface, ⟨x, hx, ?_⟩, ⟨e, ?_, htype, hcon⟩⟩
      · -- outside the entry of `u` nothing has changed, so `x` has the contact already
        have hbefore := find?_eraseP_of_disjoint hother a.siplist
        have hafter := find?_eraseP_of_disjoint hother r.1.siplist
        have hself : (r.1.siplist).find? (hasUrlId (-1)) =
            (a.siplist.find? (hasUrlId (-1))).map (·.setCon bu.con) := by
          rw [hlist]
          have hid : ∀ e : SIPEntry, hasUrlId (-1) (e.setCon bu.con) = hasUrlId (-1) e :=
            fun _ => rfl
          exact find?_updateFirst_self hid a.siplist
        rw [hrest, hbefore, hself] at hafter
        rw [show a.siplist.find? (hasUrlId (-1)) = some x from hx] at hafter
        have hx' : x = x.setCon bu.con := Option.some.inj hafter
        rw [hx']
        rfl
      · rw [getEntryByUrlId, hlist, find?_updateFirst_of_disjoint] at he
        · exact he
        · intro b _ hb
          exact ⟨hasUrlId_disjoint (Ne.symm hu) b hb, hasUrlId_disjoint (Ne.symm hu) b hb⟩
  · rintro ⟨heface, ⟨x, hx, hxcon⟩, he⟩
    obtain ⟨r, hr⟩ := recvBuMn_ok (p := p) (hcontact ▸ hx) hbu heface
    obtain ⟨-, hlist⟩ := recvBuMn_known (hcontact ▸ hx) hbu hr
    -- the entry written to keeps its contact, so the list is the old one
    have hsame : r.1.siplist = a.siplist := by
      rw [hlist, hcontact]
      refine updateFirst_of_fixed hx ?_
      rw [← hxcon]
      rfl
    exact ⟨r, hrecv.trans hr, by rw [hsame]; exact he, by rw [hsame]⟩

/-- A mobile node configured with the url id `u` gets a care-of address with `exp_mr_` 2: its
binding update has the effect it is for only at a router where nothing was to be updated. -/
theorem mn_bu_updates_iff {mn₀ mn mn' : UdpmysipAgent} (hmn : mn₀.nodeType = .sipMn)
    (hexp : mn₀.expMr = 2) {addrId : ℤ} {addr : Addr} {u : ℤ} {url : Addr} {eface : NEMOAgent}
    (hu : u ≠ -1) {evs : List MnEvent}
    (hrun : runSteps mnStep (setSipMn mn₀ addrId addr u url eface) evs = .ok mn)
    {pre bsAddr : Addr} {iface : NodeId} {outs : List Out}
    (hnew : mnProcessNewPrefix mn pre iface bsAddr = .ok (mn', outs)) {out : Out}
    (hout : out ∈ outs) (hmethod : out.packet.mh.method = 13) {p : Packet}
    (hp : p.mh = out.packet.mh) {a : UdpmysipAgent} {bu : SIPEntry}
    (hbu : getMrHaEntryActive a.siplist = some bu) :
    UpdatesMn a bu u p ↔ AlreadyBound a.siplist bu u := by
  have hcfg : MnConfigured u mn := (MnConfigured.setSipMn hmn hexp addrId addr u url eface).run hrun
  obtain ⟨reg, sent, hcfg', hsent, rfl, hreg⟩ := hcfg.processNewPrefix_ok hnew
  have hmem : out ∈ sent := by
    rcases List.mem_append.1 hout with h | h
    · have h5 := sendRegMsg_method (hcfg.readdress iface _).isMn hreg h
      rw [hmethod] at h5
      cases h5
    · exact h
  obtain ⟨-, hfrom, hcontact⟩ := hcfg'.buCn hsent hmem
  exact updatesMn_iff hu (by rw [hp]; exact hmethod) (by rw [hp]; exact hfrom)
    (by rw [hp]; exact hcontact) hbu

/-! ### A mobile node and its router -/

/-- The interface of a mobile node and the external interface of its router. -/
def mnEface : NEMOAgent := { iface := 1, addr := str2addr 18 0 1, port := 0 }
def mrEface : NEMOAgent := { iface := 2, addr := str2addr 2 0 1, port := 0 }

/-- A mobile node with the url id 8888 and a correspondent, before it hears a prefix. -/
def configuredMn : UdpmysipAgent :=
  setSipMn
    { nodeType := .sipMn, expMr := 2, address := fun _ => str2addr 0 0 1,
      siplist := [{ type := .sipCn, urlId := 1000, url := str2addr 5 0 1 }] }
    88 (str2addr 5 0 0) 8888 (str2addr 5 0 0) mnEface

/-- Its binding update under the prefix 18.0.0. -/
def configuredMnBu : Packet :=
  buCnMessage configuredMn
    { mnInitEntry 88 (str2addr 5 0 0) 8888 (str2addr 5 0 0) mnEface with con := str2addr 18 0 1 }
    { type := .sipCn, urlId := 1000, url := str2addr 5 0 1 }

/-- The home agent entry of a router, at 2.0.1. -/
def mrHaAt2 : SIPEntry :=
  { type := .sipMrHa, addr := str2addr 8 0 0, urlId := 9999, url := str2addr 8 0 0,
    con := str2addr 2 0 1, eface := some mrEface }

/-- A router with `set-mface`, at which the binding has the right contact already. -/
def boundRouter : UdpmysipAgent :=
  { nodeType := .sipMr
    siplist := [{ type := .sipMn, urlId := 8888, con := str2addr 2 0 1 },
      { type := .sipMr, nemoPrefix := str2addr 18 0 0, con := str2addr 2 0 1 }, mrHaAt2] }

/-- A router with `set-mface` and no mobile node yet. -/
def newRouter : UdpmysipAgent :=
  setMface { nodeType := .sipMr, siplist := [mrHaAt2] } (str2addr 18 0 0) mnEface

theorem configuredMn_sends_bu :
    ∃ mn outs,
      mnProcessNewPrefix configuredMn (str2addr 18 0 0) 1 (str2addr 18 0 0) = .ok (mn, outs) ∧
      Out.via mnEface configuredMnBu ∈ outs := by
  refine ⟨_, _, rfl, ?_⟩
  decide

theorem mn_bu_updates_iff_sample :
    getMrHaEntryActive boundRouter.siplist = some mrHaAt2 ∧
      (UpdatesMn boundRouter mrHaAt2 8888 configuredMnBu ↔
        AlreadyBound boundRouter.siplist mrHaAt2 8888) := by
  obtain ⟨mn, outs, hnew, hout⟩ := configuredMn_sends_bu
  have hrun : runSteps mnStep configuredMn [] = .ok configuredMn := rfl
  exact ⟨rfl, mn_bu_updates_iff rfl rfl (by decide) hrun hnew hout rfl rfl rfl⟩

/-- At a router that knows the prefix but not the node, the binding update leaves the node
unknown and writes into the entry of the prefix. -/
theorem mn_bu_writes_mface :
    (∃ mn outs, mnProcessNewPrefix configuredMn (str2addr 18 0 0) 1 (str2addr 18 0 0) =
      .ok (mn, outs) ∧ Out.via mnEface configuredMnBu ∈ outs) ∧
    getMrHaEntryActive newRouter.siplist = some mrHaAt2 ∧
    ¬ UpdatesMn newRouter mrHaAt2 8888 configuredMnBu := by
  refine ⟨configuredMn_sends_bu, rfl, ?_⟩
  have hiff : UpdatesMn newRouter mrHaAt2 8888 configuredMnBu ↔
      AlreadyBound newRouter.siplist mrHaAt2 8888 :=
    updatesMn_iff (by decide) rfl rfl rfl rfl
  rw [hiff]
  rintro ⟨-, -, ⟨e, he, -⟩⟩
  have hnone : getEntryByUrlId newRouter.siplist 8888 = none := by decide
  rw [hnone] at he
  cases he

end SipNemo.Sip
