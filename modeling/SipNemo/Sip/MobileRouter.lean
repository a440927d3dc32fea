import SipNemo.Sip.Select

/-!
# The SIP agent of a mobile router

The operations of a `UdpmysipAgent` of type `SIP_MR`: `recv` on every method, `send_reg_msg` when
an external interface gets an address, and `re_homing` when one goes down.  Each returns the
agent and what it sends; `recv` also returns the packet as it leaves it to the application.
-/

namespace SipNemo.Sip

open FirstMatch Runs

/-- What `recv` leaves behind: the agent, the packets sent and the received packet. -/
abbrev Received := UdpmysipAgent × List Out × Packet

/-- `allocpkt()` followed by copies of the IP and SIP headers and of the size. -/
def copyHeaders (a : UdpmysipAgent) (p : Packet) : Packet :=
  { allocpkt a.addr a.port with
    iph := p.iph
    mh := p.mh
    cmn := { ptype := .udp, size := p.cmn.size } }

/-- A fresh 200-byte SIP message to this agent's port. -/
def sipMessage (a : UdpmysipAgent) (method : ℤ) : Packet :=
  { allocpkt a.addr a.port with
    iph := { (allocpkt a.addr a.port).iph with dport := a.port }
    mh := { ack := 1, seq := -2, nbytes := 200, method := method, cport := 3 }
    cmn := { ptype := .udp, size := 200 } }

/-- With `mr_bs_daddr` set, tunnel the packet to the base station's MIPv6 port. -/
def throughMrBs (a : UdpmysipAgent) (p : Packet) : Act Packet :=
  if a.mrBsDaddr = noAddr then .ok p
  else do
    let port ← deref a.mipv6Port
    pure (toMrBs a.mrBsDaddr (some port) p)

/-- Address `p` to the node at `add` and send it through the internal interface of its prefix;
the packet is returned as the caller then has it, with priority 14. -/
def sendInside (a : UdpmysipAgent) (add : Addr) (p : Packet) : Act (List Out × Packet) := do
  let p ← throughMrBs a (p.setDaddr add)
  let f ← deref (getIfaceAgentByPrefix a.siplist (prefixOf add))
  pure ([.via f p], { p with iph.prio := 14 })

/-- Register the sender as a mobile node if no entry has the contact's url id yet. -/
def ensureMn (l : List SIPEntry) (mh : HdrMysip) : List SIPEntry :=
  match getEntryByUrlId l mh.contactId with
  | none => registration l mh .sipMn
  | some _ => l

/-! ### `recv` -/

/-- Method 5, REGISTER from a mobile node: bind the node to an external interface and pass the
message on through it.  The entry written to is the first one with the contact's url id. -/
def recvRegister (a : UdpmysipAgent) (p : Packet) : Act Received := do
  let l := ensureMn a.siplist p.mh
  let (bu, sel) ← chooseMrHa a.select l a.sel (prefixOf p.iph.saddr)
  let bu ← assertNonNull bu
  let _ ← deref (getEntryByUrlId l p.mh.contactId)
  let l := updateFirst (hasUrlId p.mh.contactId) (·.setCon bu.con) l
  let p := { p with mh.contact := bu.url }
  let f ← deref bu.eface
  pure ({ a with siplist := l, sel := sel },
    [.via f ((copyHeaders a p).setDaddr p.mh.requestURL)], p)

/-- Methods 0 and 7, INVITE and data: inwards from a correspondent, outwards from a registered
node through the interface whose contact the node has. -/
def recvInvite (a : UdpmysipAgent) (p : Packet) : Act Received :=
  match getMnEntryByUrlId a.siplist p.mh.fromId with
  | none => do
    let l :=
      match getEntryByUrlId a.siplist p.mh.fromId with
      | none => registration a.siplist p.mh .sipCn
      | some _ => a.siplist
    let a := { a with siplist := l }
    let bu ← assertNonNull (getEntryByUrlId l p.mh.toId)
    let (outs, p) ← sendInside a bu.addr p
    pure (a, outs, p)
  | some mn => do
    let q := copyHeaders a p
    let q := { q with mh := { q.mh with contact := mn.con, cip := mn.con } }
    let q := q.setDaddr p.mh.requestURL
    let bu ← assertNonNull (getMrHaEntryByCaddr a.siplist mn.con)
    let f ← deref bu.eface
    pure (a, [.via f q], { p with iph.prio := 14 })

/-- Method 1, 200 OK. -/
def recvOk (a : UdpmysipAgent) (p : Packet) : Act Received := do
  let l :=
    match getEntryByUrlId a.siplist p.mh.toId with
    | none =>
      ({ type := .sipCn : SIPEntry }).updateEntry p.mh.toId p.mh.toURL p.mh.contactId p.mh.contact
        :: a.siplist
    | some _ => a.siplist
  -- the first entry with the `To` id gets the contact, if it is a correspondent
  let l := updateFirst (hasUrlId p.mh.toId)
    (fun e => if e.type = .sipCn then e.setCon p.mh.contact else e) l
  let a := { a with siplist := l }
  match getMnEntryByUrlId l p.mh.fromId with
  | none => do
    let cn ← assertNonNull (getCnEntryByUrlId l p.mh.fromId)
    let mn ← deref (getMnEntryByUrlId l p.mh.toId)
    let p := (p.setDaddr cn.con)
    let p := { p with mh := { p.mh with contact := mn.con, cip := mn.con } }
    let bu ← assertNonNull (getMrHaEntryByCaddr l mn.con)
    let f ← deref bu.eface
    pure (a, [.via f p], { p with iph.prio := 14 })
  | some mn => do
    let (outs, p) ← sendInside a mn.addr p
    pure (a, outs, p)

/-- Method 9, a correspondent has re-homed. -/
def recvRehome (a : UdpmysipAgent) (p : Packet) : Act Received := do
  let l := registration a.siplist p.mh .sipCn
  let mn ← deref (getMnEntryByUrlId l p.mh.toId)
  let p := p.setDaddr mn.addr
  let f ← deref (getIfaceAgentByPrefix l (prefixOf mn.addr))
  pure ({ a with siplist := l }, [.via f p], { p with iph.prio := 14 })

/-- The re-INVITE a router sends out for a REFER: through the active interface to `daddr`. -/
def reinviteToCn (a : UdpmysipAgent) (mh : HdrMysip) (daddr : Addr) : Act (List Out) := do
  let bu ← assertNonNull (getMrHaEntryActive a.siplist)
  let q := sipMessage a 12
  let q := { q with
    mh := { mh with method := 12, contact := bu.con }
    iph := { q.iph with saddr := bu.con, daddr := daddr } }
  let f ← deref bu.eface
  pure [.via f q]

/-- Method 11, REFER (`mr_send_reinvite_to_cn`). -/
def recvRefer (a : UdpmysipAgent) (p : Packet) : Act Received := do
  let a := { a with siplist := registration a.siplist p.mh .sipCn }
  let outs ← reinviteToCn a p.mh p.mh.contact
  pure (a, outs, { p with iph.prio := 14 })

/-- Method 6, temporarily moved (`send_invite_to_temp_move_pkt` of a router). -/
def recvTempMove (a : UdpmysipAgent) (p : Packet) : Act Received := do
  let mn ← deref (getMnEntryByUrlId a.siplist p.mh.fromId)
  let q := copyHeaders a p
  let q := { q with
    iph := { q.iph with daddr := p.mh.contact, dport := a.port, saddr := mn.con }
    cmn.size := 120
    mh := { q.mh with
      method := 0
      requestURLId := p.mh.contactId
      requestURL := p.mh.contact
      contactId := mn.urlId
      contact := mn.con } }
  let bu ← deref (getMrHaEntryByPrefix a.siplist (prefixOf mn.addr))
  let f ← deref bu.eface
  pure (a, [.via f q], { p with iph.prio := 14 })

/-- Method 12, re-INVITE from a correspondent. -/
def recvReinvite (a : UdpmysipAgent) (p : Packet) : Act Received := do
  let _ ← assertNonNull (getCnEntryByUrlId a.siplist p.mh.toId)
  let mn ← assertNonNull (getMnEntryByUrlId a.siplist p.mh.fromId)
  let l := updateFirst (isCnWithUrlId p.mh.toId)
    (·.setCon p.mh.contact) a.siplist
  let a := { a with siplist := l }
  let (outs, p) ← sendInside a mn.addr p
  pure (a, outs, p)

/-- Method 13, binding update of a mobile node for its correspondent. -/
def recvBuMn (a : UdpmysipAgent) (p : Packet) : Act Received := do
  let l := ensureMn a.siplist p.mh
  let bu ← assertNonNull (getMrHaEntryActive a.siplist)
  let _ ← assertNonNull (getEntryByUrlId l p.mh.contactId)
  let l := updateFirst (hasUrlId p.mh.contactId) (·.setCon bu.con) l
  let p := { p with mh := { p.mh with contact := bu.con, method := 12 } }
  let p := p.setDaddr p.mh.toURL
  let f ← deref bu.eface
  pure ({ a with siplist := l }, [.via f p], { p with iph.prio := 14 })

/-- Method 14, REFER from another router's interface (`mr_recv_refer_send_reinvite_to_cn`). -/
def recvEfaceRefer (a : UdpmysipAgent) (p : Packet) : Act Received := do
  let cn := ({ type := .sipCn : SIPEntry }).updateEntry p.mh.toId p.mh.toURL p.mh.requestURLId
    p.mh.requestURL
  let a := { a with siplist := cn :: a.siplist }
  let outs ← reinviteToCn a p.mh p.mh.requestURL
  pure (a, outs, { p with iph.prio := 14 })

/-- `recv` of a mobile router, up to the delivery to the application. -/
def recvMr (a : UdpmysipAgent) (p : Packet) : Act Received :=
  if p.mh.method = 5 then recvRegister a p
  else if p.mh.method = 0 ∨ p.mh.method = 7 then recvInvite a p
  else if p.mh.method = 1 then recvOk a p
  else if p.mh.method = 9 then recvRehome a p
  else if p.mh.method = 10 then .ok (a, [], p)
  else if p.mh.method = 11 then recvRefer a p
  else if p.mh.method = 6 then recvTempMove a p
  else if p.mh.method = 12 then recvReinvite a p
  else if p.mh.method = 13 then recvBuMn a p
  else if p.mh.method = 14 then recvEfaceRefer a p
  else .ok (a, [], p)

/-! ### `send_reg_msg` -/

/-- The renewal `send_reg_msg` performs at a mobile router. -/
def renewMnCoa (select : ℤ) (caddr : Addr) (l : List SIPEntry) (s : Selector) :
    Act (List SIPEntry × Selector) :=
  if select = 1 then renewMnCoaEntryRandom caddr l s
  else if select = 2 then (renewMnCoaEntryRoundRobin caddr l).map (·, s)
  else if select = 3 then (renewMnCoaEntryWeight caddr l).map (·, s)
  else if select = 4 then (renewMnCoaEntryWeight2 caddr l).map (·, s)
  else .ok (l, s)

/-- `send_reg_msg(prefix, iface)`. -/
def sendRegMsg (a : UdpmysipAgent) (pre : Addr) (iface : NodeId) :
    Act (UdpmysipAgent × List Out) := do
  let sip ← assertNonNull (getEntryByIface a.siplist iface)
  let addr := a.address iface
  let l := updateFirst (onIface iface) (·.setCon addr) a.siplist
  let q := sipMessage a 5
  let q := { q with
    mh := { q.mh with
      requestURL := sip.addr, requestURLId := sip.addrId
      fromId := sip.urlId, fromURL := sip.url
      toId := sip.urlId, toURL := sip.url
      contactId := sip.urlId, contact := addr }
    iph := { q.iph with saddr := addr, daddr := sip.addr } }
  if a.nodeType = .sipMr then
    let (l, sel) ← renewMnCoa a.select addr l a.sel
    pure ({ a with siplist := l, sel := sel }, [.entry iface q])
  else
    let q ← throughMrBs a (q.setDaddr pre)
    let f ← deref sip.eface
    pure ({ a with siplist := l }, [.via f q])

/-! ### `re_homing` -/

/-- `send_refer_to_mn`. -/
def sendReferToMn (a : UdpmysipAgent) : Act (List Out) := do
  let mn ← deref (getEntryByType a.siplist .sipMn)
  let cn ← deref (getEntryByType a.siplist .sipCn)
  let mr ← deref (getMrEntry a.siplist)
  let q := sipMessage a 11
  let q := { q with
    mh := { q.mh with
      requestURL := cn.con, requestURLId := cn.conId
      fromId := mn.addrId, fromURL := mn.addr
      toId := cn.conId, toURL := cn.con
      contactId := mn.addrId, contact := mn.addr
      refer := mr.addr }
    iph := { q.iph with saddr := mr.addr, daddr := mn.addr } }
  let q ← throughMrBs a q
  let bu ← deref (getMrHaEntryByPrefix a.siplist (prefixOf mn.addr))
  let f ← deref bu.iface
  pure [.via f q]

/-- `send_refer_to_mr`. -/
def sendReferToMr (a : UdpmysipAgent) : Act (List Out) := do
  let mn ← deref (getEntryByType a.siplist .sipMn)
  let cn ← deref (getEntryByType a.siplist .sipCn)
  let mr ← deref (getMrEntry a.siplist)
  let q := sipMessage a 11
  let q := { q with
    mh := { q.mh with
      requestURL := mn.addr, requestURLId := mn.addrId
      fromId := cn.urlId, fromURL := cn.url
      toId := mn.urlId, toURL := mn.url
      contactId := cn.conId, contact := cn.con
      refer := mr.addr }
    iph := { q.iph with saddr := mr.nemoPrefix, daddr := mr.addr } }
  let bu ← deref (getMrHaEntryByPrefix a.siplist (prefixOf mn.addr))
  let f ← deref bu.iface
  pure [.via f q]

/-- The table-driven branches of `re_homing` (`select_` 1 to 4). -/
def reHomingSelect (a : UdpmysipAgent) (iface : NodeId)
    (rehome : Addr → List SIPEntry → Selector → Act (List SIPEntry × Selector)) :
    Act (UdpmysipAgent × List Out) := do
  let brk ← assertNonNull (getEntryByIface a.siplist iface)
  let _ ← assertNonNull (getEntryWithoutIface a.siplist iface)
  let l := updateFirst (onIface iface) (·.setCon noAddr) a.siplist
  let (l, sel) ← rehome brk.con l a.sel
  pure ({ a with siplist := l, sel := sel }, [])

/-- The branch of `re_homing` for several routers (`exp_mr_ != 0`). -/
def reHomingRefer (a : UdpmysipAgent) (iface : NodeId) : Act (UdpmysipAgent × List Out) := do
  let _ ← assertNonNull (getEntryByIface a.siplist iface)
  let _ ← assertNonNull (getEntryByType a.siplist .sipMn)
  let l := updateFirst (onIface iface) (·.setCon noAddr) a.siplist
  let l := updateFirst (hasType .sipMn) (·.setCon noAddr) l
  let a := { a with siplist := l }
  let outsMn ← sendReferToMn a
  let outsMr ← sendReferToMr a
  pure (a, outsMn ++ outsMr)

/-- The list after the default branch: the broken entry loses its contact and the first mobile
node gets the contact `c`. -/
def rehomedList (iface : NodeId) (c : Addr) (l : List SIPEntry) : List SIPEntry :=
  updateFirst (hasType .sipMn) (·.setCon c)
    (updateFirst (onIface iface) (·.setCon noAddr) l)

/-- The default branch of `re_homing`: the first other entry replaces the broken one for the
first mobile node; the broken home agent and the first correspondent are told. -/
def reHomingDefault (a : UdpmysipAgent) (iface : NodeId) : Act (UdpmysipAgent × List Out) := do
  let brk ← assertNonNull (getEntryByIface a.siplist iface)
  let new ← assertNonNull (getEntryWithoutIface a.siplist iface)
  let mn ← assertNonNull (getEntryByType a.siplist .sipMn)
  let cn := getEntryByType a.siplist .sipCn
  let l := rehomedList iface new.con a.siplist
  let q := sipMessage a 9
  let toHa := { q with
    mh := { q.mh with
      requestURL := brk.addr, requestURLId := brk.addrId
      fromId := brk.urlId, fromURL := brk.url
      toId := brk.urlId, toURL := brk.url
      contactId := brk.urlId, contact := new.con }
    iph := { q.iph with saddr := new.con, daddr := brk.addr } }
  let f ← deref new.eface
  let toCn := match cn with
    | none => []
    | some cn => [Out.via f { q with
        mh := { q.mh with
          requestURL := cn.con, requestURLId := cn.conId
          fromId := mn.urlId, fromURL := mn.url
          toId := cn.urlId, toURL := cn.url
          contactId := mn.conId, contact := new.con }
        iph := { q.iph with saddr := new.con, daddr := cn.con } }]
  pure ({ a with siplist := l }, .via f toHa :: toCn)

/-- `re_homing(iface)`. -/
def reHoming (a : UdpmysipAgent) (iface : NodeId) : Act (UdpmysipAgent × List Out) :=
  if a.select = 1 then reHomingSelect a iface rehomeMnCoaEntryRandom
  else if a.select = 2 then reHomingSelect a iface rehomeMnCoaEntryRoundRobin
  else if a.select = 3 then reHomingSelect a iface rehomeMnCoaEntryWeight
  else if a.select = 4 then reHomingSelect a iface rehomeMnCoaEntryWeight2
  else if a.expMr ≠ 0 then reHomingRefer a iface
  else reHomingDefault a iface

/-! ### Events at a mobile router -/

/-- The events that change the bindings: a REGISTER arrives, an external interface gets the
address `addr` under the prefix `pre`, an external interface goes down. -/
inductive MrEvent
  | register (p : Packet)
  | up (pre : Addr) (iface : NodeId) (addr : Addr)
  | down (iface : NodeId)

/-- One event at a mobile router. -/
def mrStep (a : UdpmysipAgent) : MrEvent → Act UdpmysipAgent
  | .register p => (recvMr a p).map (·.1)
  | .up pre iface addr =>
    (sendRegMsg { a with address := Function.update a.address iface addr } pre iface).map (·.1)
  | .down iface => (reHoming a iface).map (·.1)

end SipNemo.Sip
