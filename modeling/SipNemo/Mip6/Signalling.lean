import SipNemo.Mip6.Agent

/-!
# Binding updates: what the agents send and how they receive it

`send_bu_msg`, `send_bu_ack`, `re_homing` and `mn_send_bu_cn` build the NEMO messages;
`recv_nemo` handles them, with one branch for each node type.  Every function returns the agent
and what it sends.
-/

namespace SipNemo.Mip6

open FirstMatch Runs

/-- The agent after an operation, and what it has sent. -/
abbrev Handled := MIPV6Agent × List Out

/-- A fresh NEMO message of the size of a binding update, to this agent's port. -/
def buMessage (a : MIPV6Agent) (nh : HdrNemo) (saddr daddr : Addr) : Packet :=
  { allocpkt a.addr a.port with
    cmn := { ptype := .nemo, size := ipv6HeaderSize + buSize }
    iph := { saddr := saddr, sport := a.port, daddr := daddr, dport := a.port }
    nh := nh }

/-- The NEMO header of a binding update: flags `H` and `A` set. -/
def buHeader (type : RegType) (haddr coa nemoPrefix : Addr) : HdrNemo :=
  { type := type, A := ON, H := ON, nemoPrefix := nemoPrefix, haddr := haddr, coa := coa }

/-! ### Messages an agent sends on its own -/

/-- `send_bu_msg(prefix, iface)`. -/
def sendBuMsg (a : MIPV6Agent) (pre : Addr) (iface : NodeId) : Act Handled := do
  let bu ← assertNonNull (getEntryByIface a.bulist iface)
  let coa := a.address iface
  let a := { a with bulist := updateFirst (onIface iface) (·.setCaddr coa) a.bulist }
  if a.nodeType = .mr then
    let p := buMessage a (buHeader .bu bu.haddr coa bu.nemoPrefix) coa bu.addr
    pure (a, [.entry iface (addTunnel p)])
  else
    let p := buMessage a (buHeader .bu bu.haddr coa 0) coa bu.addr
    let p := toMrBs a.mrBsDaddr none ((addTunnel p).setDaddr pre)
    let f ← deref bu.eface
    pure (a, [.via f p])

/-- `mn_send_bu_cn`: a node tells its first correspondent where it is. -/
def mnSendBuCn (a : MIPV6Agent) : Act Handled :=
  match getEntryByType a.bulist .mn with
  | none => .ok (a, [])
  | some cn => do
    let bu ← deref (getEntryByType a.bulist .mnHa)
    let p := buMessage a (buHeader .buMn bu.haddr bu.caddr 0) bu.caddr cn.caddr
    let p := toMrBs a.mrBsDaddr none ((addTunnel p).setDaddr (prefixOf bu.caddr))
    let f ← deref bu.eface
    pure (a, [.via f p])

/-- The message `BU_MR` to the neighbour router `mr`. -/
def buMrMessage (a : MIPV6Agent) (mr : BUEntry) : Packet :=
  buMessage a { type := .buMr } mr.nemoPrefix mr.haddr

/-- `re_homing` with several routers (`exp_mr_ != 0`): the nodes go through the neighbour. -/
def reHomingNeighbour (a : MIPV6Agent) (iface : NodeId) : Act Handled := do
  let brk ← assertNonNull (getMrHaEntryByIface a.bulist iface)
  let _ ← assertNonNull (getEntryByType a.bulist .mn)
  if brk.caddr = noAddr then pure (a, [])
  else
    let mr ← deref (getMrEntry a.bulist)
    let l := updateFirst (isMrHaOnIface iface) (·.setCaddr noAddr) a.bulist
    let l := updateFirst (hasType .mn) (·.setCaddr mr.addr) l
    let a := { a with bulist := l }
    if a.expMr = 3 ∨ a.expMr = 4 then
      let p := buMessage a (buHeader .rehomeMrHa brk.haddr mr.addr 0) mr.addr brk.addr
      let p := (addTunnel p).setDaddr mr.addr
      let p := (addTunnel p).setDaddr a.mrBsDaddr
      let f ← deref mr.iface
      pure (a, [.via f p])
    else if a.expMr = 5 ∨ a.expMr = 6 ∨ a.expMr = 7 ∨ a.expMr = 8 then
      let f ← deref mr.iface
      pure (a, [.via f (buMrMessage a mr)])
    else pure (a, [])

/-- The REHOME message of `re_homing` (`exp_` 4): the home agent of `brk` learns the home address
of `new` and, as the source inside the tunnel, the home agent of `new`. -/
def rehomeMessage (a : MIPV6Agent) (brk new : BUEntry) : Packet :=
  ((addTunnel (buMessage a (buHeader .rehome brk.haddr new.haddr 0) new.addr brk.addr)).setSaddr
    new.caddr)

/-- `re_homing` with one router (`exp_mr_ == 0`). -/
def reHomingHomeAgent (a : MIPV6Agent) (iface : NodeId) : Act Handled := do
  let brk ← assertNonNull (getMrHaEntryByIface a.bulist iface)
  let new ← assertNonNull (getMrHaEntryWithoutIface a.bulist iface)
  let _ ← assertNonNull (getEntryByType a.bulist .mn)
  let a := { a with bulist := updateFirst (hasType .mn) (·.setCaddr new.caddr) a.bulist }
  let f ← deref new.eface
  if a.exp = 4 then pure (a, [.via f (rehomeMessage a brk new)])
  else
    let p := buMessage a (buHeader .bu brk.haddr new.caddr 0) new.caddr brk.addr
    pure (a, [.via f (addTunnel p)])

/-- `re_homing(iface)`. -/
def reHoming (a : MIPV6Agent) (iface : NodeId) : Act Handled :=
  if a.expMr ≠ 0 then reHomingNeighbour a iface else reHomingHomeAgent a iface

/-! ### Acknowledgements -/

/-- The packet `send_bu_ack` sends: back to the care-of address, inside a tunnel to where the
update came from if that is another address. -/
def buAck (a : MIPV6Agent) (p : Packet) : Packet :=
  let ack := { p with
    nh.type := .back
    iph.saddr := a.addr
    iph.daddr := p.nh.coa
    iph.dport := a.port
    cmn := { ptype := .nemo, size := ipv6HeaderSize + backSize } }
  if p.iph.saddr ≠ p.nh.coa then (addTunnel ack).setDaddr p.iph.saddr else ack

/-- `NEMOAgent::send_bu_ack`. -/
def nemoBuAck (f : NEMOAgent) (p : Packet) : Packet :=
  { allocpkt f.addr f.port with
    cmn := { ptype := .nemo, size := ipv6HeaderSize + backSize }
    iph := { saddr := f.addr, sport := f.port, daddr := p.iph.saddr, dport := p.iph.sport }
    nh := { type := .back, seqno := p.nh.seqno } }

/-- The acknowledgement of an update whose `A` flag is set. -/
def ackIfAsked (a : MIPV6Agent) (p : Packet) : List Out :=
  if p.nh.A = ON then [.send (buAck a p)] else []

/-! ### `recv_nemo` of a mobile router -/

/-- Send `p` to a node in the mobile network, through the interface of the prefix of its
destination and, if there is one, the mobile base station. -/
def sendInside (a : MIPV6Agent) (p : Packet) : Act (List Out) := do
  let f ← deref (getIfaceAgentByPrefix a.bulist (prefixOf p.iph.daddr))
  pure [.via f (toMrBs a.mrBsDaddr none p)]

/-- Bind the node with the home address of `p` to the interface of the nemo prefix it comes from,
and return the home agent entry of that interface. -/
def followPrefix (l : List BUEntry) (p : Packet) : Act (List BUEntry × BUEntry) := do
  let ha ← assertNonNull (getMrHaEntryByPrefix l (prefixOf p.iph.saddr))
  pure (updateFirst (hasHaddr p.nh.haddr) ha.follow l, ha)

/-- Tunnel `p` to the home agent `ha` of this router. -/
def toMrHa (ha : BUEntry) (p : Packet) : Act (List Out) := do
  let f ← deref ha.eface
  pure [.via f ((addTunnel p).setDaddr ha.addr)]

/-- Register a mobile node unless its home address is known. -/
def ensureMn (l : List BUEntry) (p : Packet) : List BUEntry :=
  match getEntryByHaddr l p.nh.haddr with
  | none => registration l p .mn
  | some _ => l

/-- `BU` at a mobile router. -/
def mrRecvBu (a : MIPV6Agent) (p : Packet) : Act Handled := do
  let p ← deleteTunnel p
  match getEntryByAddr a.bulist p.iph.daddr with
  | none =>
    if p.nh.H = ON then
      let (l, ha) ← followPrefix (ensureMn a.bulist p) p
      let outs ← toMrHa ha p
      pure ({ a with bulist := l }, outs)
    else
      let a := { a with bulist := registration a.bulist p .mn }
      if p.nh.A = ON then
        let f ← deref (getIfaceAgentByPrefix a.bulist (prefixOf p.iph.saddr))
        pure (a, [.via f (nemoBuAck f p)])
      else pure (a, [])
  | some _ =>
    let outs ← sendInside a p
    pure (a, outs)

/-- `BACK` at a mobile router. -/
def mrRecvBack (a : MIPV6Agent) (p : Packet) : Act Handled :=
  match getEntryByCaddr a.bulist p.iph.daddr with
  | none => do
    let bu ← deref (getEntryByAddr a.bulist p.iph.saddr)
    let f ← deref bu.eface
    pure (a, [.via f p])
  | some _ =>
    if sizeTunnel p = 0 then .ok (a, [])
    else do
      let p ← deleteTunnel p
      let outs ← sendInside a p
      pure (a, outs)

/-- `BU_MR` at a mobile router: a neighbour router has come into reach. -/
def mrRecvBuMr (a : MIPV6Agent) (p : Packet) : Act Handled := do
  let mr ← deref (getMrEntry a.bulist)
  let mr' := if mr.addr = noAddr then mr.setAddr p.iph.saddr else mr
  let greet ←
    if mr.addr = noAddr then do
      let f ← deref mr.iface
      pure [Out.via f (buMrMessage a mr)]
    else pure []
  let a := { a with bulist := updateFirst isNeighbourMr (fun _ => mr') a.bulist }
  match getMrHaEntryOff a.bulist with
  | none => pure (a, greet)
  | some brk =>
    let q := buMessage a (buHeader .buMrHa brk.haddr mr'.addr 0) mr'.addr brk.addr
    let f ← deref mr'.iface
    pure (a, greet ++ [.via f ((addTunnel q).setDaddr mr'.addr)])

/-- `REHOME_MR_HA` at a mobile router: passed on to its own home agent. -/
def mrRecvRehomeMrHa (a : MIPV6Agent) (p : Packet) : Act Handled := do
  let p ← deleteTunnel p
  let (l, ha) ← followPrefix (registration a.bulist p .mn) p
  let p := { p with
    nh.coa := ha.haddr
    iph.saddr := if a.expMr = 4 then ha.addr else ha.caddr }
  let outs ← toMrHa ha p
  pure ({ a with bulist := l }, outs)

/-- `BU_MR_HA` at a mobile router: becomes a `REHOME_MR_HA`. -/
def mrRecvBuMrHa (a : MIPV6Agent) (p : Packet) : Act Handled := do
  let p ← deleteTunnel p
  let ha ← assertNonNull (getMrHaEntryOn a.bulist)
  let p := { p with
    nh.type := .rehomeMrHa
    nh.coa := ha.haddr
    iph.saddr := if a.expMr = 8 then ha.addr else ha.caddr }
  let outs ← toMrHa ha p
  pure (a, outs)

/-- `BU_MN` at a mobile router: the node's correspondent gets an entry that holds only its
address. -/
def mrRecvBuMn (a : MIPV6Agent) (p : Packet) : Act Handled := do
  let p ← deleteTunnel p
  let l := { type := .mn, addr := p.iph.daddr : BUEntry } :: ensureMn a.bulist p
  let ha ← deref (getMrHaEntryOn l)
  let outs ← toMrHa ha (p.setSaddr ha.addr)
  pure ({ a with bulist := l }, outs)

def recvNemoMr (a : MIPV6Agent) (p : Packet) : Act Handled :=
  match p.nh.type with
  | .bu => mrRecvBu a p
  | .back => mrRecvBack a p
  | .buMr => mrRecvBuMr a p
  | .rehomeMrHa => mrRecvRehomeMrHa a p
  | .buMrHa => mrRecvBuMrHa a p
  | .buMn => mrRecvBuMn a p
  | _ => .ok (a, [])

/-! ### `recv_nemo` of a router's home agent -/

/-- The address that `recv_nemo` ignores for the time being. -/
def ignoredAddr : Addr := str2addr 8 0 1

/-- `BU` at a router's home agent, not for the agent itself: on to the mobile network of the
destination, or on with this agent as the source. -/
def forwardBu (a : MIPV6Agent) (p : Packet) : Act Packet :=
  match getEntryByPrefix a.bulist (prefixOf p.iph.daddr) with
  | none =>
    if sizeTunnel p = 0 then .ok (p.setSaddr a.addr)
    else do
      let q ← deleteTunnel p
      pure ((addTunnel (q.setSaddr a.addr)).setDaddr p.iph.daddr)
  | some bu => .ok ((addTunnel p).setDaddr bu.caddr)

/-- `BU` at a router's home agent. -/
def mrHaRecvBu (a : MIPV6Agent) (p : Packet) : Act Handled := do
  let p ← deleteTunnel p
  if p.iph.daddr = a.addr then
    let a := { a with bulist := registration a.bulist p .mr }
    pure (a, ackIfAsked a p)
  else
    let p ← forwardBu a p
    pure (a, if p.iph.daddr = ignoredAddr then [] else [.send p])

/-- `BACK` at a router's home agent. -/
def mrHaRecvBack (a : MIPV6Agent) (p : Packet) : Act Handled :=
  if p.iph.daddr = a.addr then
    if sizeTunnel p = 0 then .ok (a, [])
    else do
      let p ← deleteTunnel p
      let bu ← deref (getEntryByPrefix a.bulist (prefixOf p.iph.daddr))
      pure (a, [.send ((addTunnel p).setDaddr bu.caddr)])
  else .ok (a, [.send p])

/-- A re-homing message for this agent: the entry of the lost home address points to the new home
address, and that one to the sender. -/
def rehome (l : List BUEntry) (p : Packet) : Act (List BUEntry) := do
  let _ ← assertNonNull (getEntryByHaddr l p.nh.haddr)
  let l := updateFirst (hasHaddr p.nh.haddr) (·.setCaddr p.nh.coa) l
  pure (registration l { p with nh.haddr := p.nh.coa, nh.coa := p.iph.saddr } .mr)

/-- `REHOME` at a router's home agent. -/
def mrHaRecvRehome (a : MIPV6Agent) (p : Packet) : Act Handled := do
  let p ← deleteTunnel p
  let l ← rehome a.bulist p
  pure ({ a with bulist := l }, [])

/-- `REHOME_MR_HA` at a router's home agent. -/
def mrHaRecvRehomeMrHa (a : MIPV6Agent) (p : Packet) : Act Handled := do
  let p ← deleteTunnel p
  if p.iph.daddr = a.addr then
    let l ← rehome a.bulist p
    pure ({ a with bulist := l }, [])
  else pure (a, [.send (addTunnel p)])

def recvNemoMrHa (a : MIPV6Agent) (p : Packet) : Act Handled :=
  match p.nh.type with
  | .bu => mrHaRecvBu a p
  | .back => mrHaRecvBack a p
  | .rehome => mrHaRecvRehome a p
  | .rehomeMrHa => mrHaRecvRehomeMrHa a p
  | .buMn => do
    let p ← deleteTunnel p
    pure (a, [.send p])
  | _ => .ok (a, [])

/-! ### `recv_nemo` of the other node types -/

/-- The list after a binding update of a mobile node. -/
def registerIfHome (l : List BUEntry) (p : Packet) : List BUEntry :=
  if p.nh.H = ON then registration l p .mn else l

def recvNemoMnHa (a : MIPV6Agent) (p : Packet) : Act Handled :=
  match p.nh.type with
  | .bu =>
    let a := { a with bulist := registerIfHome a.bulist p }
    .ok (a, ackIfAsked a p)
  | _ => .ok (a, [])

def recvNemoMn (a : MIPV6Agent) (p : Packet) : Act Handled :=
  match p.nh.type with
  | .bu => .ok ({ a with bulist := registerIfHome a.bulist p }, [])
  | _ => .ok (a, [])

/-- A correspondent; `BU_MN` rewrites address and care-of address of its first mobile node. -/
def recvNemoCn (a : MIPV6Agent) (p : Packet) : Act Handled :=
  match p.nh.type with
  | .bu =>
    let a := { a with bulist := registerIfHome a.bulist p }
    .ok (a, ackIfAsked a p)
  | .buMn => do
    let _ ← deref (getEntryByType a.bulist .mn)
    let l := updateFirst (hasType .mn)
      (fun e => { e with addr := p.iph.saddr, caddr := p.nh.coa }) a.bulist
    pure ({ a with bulist := l }, [])
  | _ => .ok (a, [])

/-- A mobile base station hands everything on, to the side its destination is on. -/
def relayMrBs (a : MIPV6Agent) (p : Packet) : Act Handled := do
  let p ← deleteTunnel p
  let bu ← deref (getMrBsEntry a.bulist)
  let f ← deref (if isDaddrMrBsPrefix a p.iph.daddr then bu.eface else bu.iface)
  pure (a, [.via f p])

/-- `recv_nemo`. -/
def recvNemo (a : MIPV6Agent) (p : Packet) : Act Handled :=
  match a.nodeType with
  | .mr => recvNemoMr a p
  | .mrHa => recvNemoMrHa a p
  | .mnHa => recvNemoMnHa a p
  | .mn => recvNemoMn a p
  | .cn => recvNemoCn a p
  | .mrBs => relayMrBs a p

end SipNemo.Mip6
