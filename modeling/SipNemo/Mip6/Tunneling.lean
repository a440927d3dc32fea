import SipNemo.Mip6.Signalling

/-!
# Data packets

`tunneling` takes a data packet one hop further.  Each node type closes the tunnels that end at
it, looks the inner addresses up in its list, and opens the tunnels for the rest of the way.
-/

namespace SipNemo.Mip6

open FirstMatch Runs

/-- Address `p` to the agent at `daddr`, on this agent's port. -/
def toAgent (a : MIPV6Agent) (daddr : Addr) (p : Packet) : Packet :=
  (p.setDaddr daddr).setDport a.port

/-! ### A mobile router -/

/-- The address of the interface behind `f`, `f->get_iface()->address()`. -/
def ifaceAddress (a : MIPV6Agent) (f : NEMOAgent) : Addr := a.address f.iface

/-- Out through the external interface with care-of address `caddr`: the source becomes the
router's home address there, and the packet is tunnelled to its home agent. -/
def outByCaddr (a : MIPV6Agent) (caddr : Addr) (setCoa : Bool) (p : Packet) : Act (List Out) := do
  let out ← deref (getMrHaEntryByCaddr a.bulist caddr)
  let p := p.setSaddr out.haddr
  let p := if setCoa then { p with nh.coa := out.haddr } else p
  let f ← deref out.eface
  pure [.via f (toAgent a out.addr (addTunnel p))]

/-- From a neighbour router (`exp_mr_` 1, 3, 4, 6 to 9, and with `again` 2 and 5): out through the
first external interface that is up. -/
def outForNeighbour (a : MIPV6Agent) (again : Bool) (p : Packet) : Act (List Out) := do
  let out ← deref (getMrHaEntryOn a.bulist)
  let p := p.setSaddr out.haddr
  let p := if again then addTunnel p else p
  let f ← deref out.eface
  pure [.via f (toAgent a out.addr p)]

/-- A node of a broken interface, tunnel in tunnel (`exp_mr_` 1, 3, 4, 6 to 9): through the
neighbour router to the home agent of the broken interface. -/
def throughNeighbour (a : MIPV6Agent) (p : Packet) : Act (List Out) := do
  let mr ← deref (getMrEntry a.bulist)
  if mr.addr = noAddr then pure []
  else
    let old ← deref (getMrHaEntryOff a.bulist)
    let p := addTunnel (toAgent a old.addr (addTunnel p))
    let p := addTunnel ((toAgent a mr.addr p).setSaddr mr.nemoPrefix)
    let f ← deref mr.iface
    pure [.via f p]

/-- The same with two tunnels (`exp_mr_` 2 and 5). -/
def throughNeighbourTwo (a : MIPV6Agent) (p : Packet) : Act (List Out) := do
  let mr ← deref (getMrEntry a.bulist)
  if mr.addr = noAddr then pure []
  else
    let f ← deref mr.iface
    pure [.via f (toAgent a mr.addr (addTunnel (p.setSaddr mr.nemoPrefix)))]

/-- Out from the node with entry `bu`, with several routers. -/
def mrOutMultiple (a : MIPV6Agent) (bu : BUEntry) (p : Packet) : Act (List Out) := do
  if bu.type = .mr then outForNeighbour a false p
  else
    let f ← deref bu.eface
    if bu.caddr ≠ ifaceAddress a f then throughNeighbour a p
    else outByCaddr a bu.caddr (a.expMr = 3 ∨ a.expMr = 4) p

/-- Out from the node with entry `bu`, with two tunnels. -/
def mrOutTwoTunnels (a : MIPV6Agent) (bu : BUEntry) (p : Packet) : Act (List Out) := do
  if bu.type = .mr then outForNeighbour a true p
  else
    let f ← deref bu.eface
    if bu.caddr ≠ ifaceAddress a f then throughNeighbourTwo a p
    else outByCaddr a bu.caddr false p

/-- Out from the node with entry `bu`, with one router: when the node has been moved away from the
interface it registered over, first in a tunnel to the home agent of that interface. -/
def mrOutSingle (a : MIPV6Agent) (bu : BUEntry) (p : Packet) : Act (List Out) := do
  let f ← deref bu.eface
  if bu.caddr ≠ ifaceAddress a f then
    let old ← deref (getMrHaEntryByCaddr a.bulist (ifaceAddress a f))
    outByCaddr a bu.caddr false (toAgent a old.addr (addTunnel p))
  else outByCaddr a bu.caddr false p

/-- A packet whose destination is not in the list goes out from the entry of its source, or is
dropped. -/
def mrOut (a : MIPV6Agent) (p : Packet) : Act (List Out) :=
  match getEntryByAddr a.bulist p.iph.saddr with
  | none => .ok []
  | some bu =>
    if a.expMr ∈ ([1, 3, 4, 6, 7, 8, 9] : List ℤ) then mrOutMultiple a bu p
    else if a.expMr = 2 ∨ a.expMr = 5 then mrOutTwoTunnels a bu p
    else mrOutSingle a bu p

/-- A packet whose destination is the neighbour router's network. -/
def mrOutOrNeighbour (a : MIPV6Agent) (p : Packet) : Act (List Out) := do
  if a.expMr ∈ ([3, 4, 7, 8] : List ℤ) then
    let mr ← deref (getMrEntry a.bulist)
    if mr.addr = prefixOf p.iph.daddr then
      let f ← deref mr.iface
      pure [.via f (toAgent a mr.addr (addTunnel p))]
    else mrOut a p
  else mrOut a p

/-- `tunneling` at a mobile router. -/
def tunnelingMr (a : MIPV6Agent) (p : Packet) : Act Handled := do
  let p ← deleteTunnel p
  match getEntryByAddr a.bulist p.iph.daddr with
  | none =>
    let outs ← mrOutOrNeighbour a p
    pure (a, outs)
  | some bu =>
    if bu.type = .mr then pure (a, [])
    else
      let f ← deref (getIfaceAgentByPrefix a.bulist (prefixOf p.iph.daddr))
      pure (a, [.via f (toMrBs a.mrBsDaddr none ((addTunnel p).setDport a.port))])

/-! ### A mobile node -/

/-- A packet of the node itself: tunnelled to the correspondent's router or to the node's home
agent, and inside a second tunnel to the router the node is behind. -/
def mnSend (a : MIPV6Agent) (bu : BUEntry) (f : NEMOAgent) (p : Packet) : Handled :=
  let q := addTunnel p
  let q :=
    match getEntryByCaddr a.bulist p.iph.daddr with
    | none => toAgent a bu.addr { q with nh := { q.nh with haddr := bu.haddr, coa := bu.caddr } }
    | some dest => toAgent a dest.addr q
  let q := toMrBs a.mrBsDaddr none (toAgent a (prefixOf q.iph.saddr) (addTunnel q))
  (a, [.via f { q with cmn.size := q.cmn.size - 20 }])

/-- The update a mobile node sends to a correspondent it did not know. -/
def mnBuToCn (a : MIPV6Agent) (bu : BUEntry) (my mnAddr mrHaAddr : Addr) : Packet :=
  let q := buMessage a (buHeader .bu bu.haddr my 0) my mnAddr
  let q := (addTunnel q).setDaddr mrHaAddr
  toMrBs a.mrBsDaddr none ((addTunnel q).setDaddr (prefixOf my))

/-- Close one tunnel, and a second if there is one. -/
def closeTunnels (p : Packet) : Act Packet := do
  let p ← deleteTunnel p
  if sizeTunnel p > 0 then deleteTunnel p else pure p

/-- A packet for the node. -/
def mnReceive (a : MIPV6Agent) (p : Packet) : Act Handled := do
  let mrHaAddr := p.iph.saddr
  let p ← closeTunnels p
  let mnAddr := p.iph.saddr
  let p := p.setSaddr mrHaAddr
  let deliver := Out.send (p.setDaddr a.addr)
  match getEntryByCaddr a.bulist mnAddr with
  | some _ => pure (a, [deliver])
  | none =>
    let l := registration a.bulist p .mn
    let bu ← deref (getEntryByType l .mnHa)
    let f ← deref bu.eface
    let my := ifaceAddress a f
    pure ({ a with bulist := l }, [.via f (mnBuToCn a bu my mnAddr mrHaAddr), deliver])

/-- `tunneling` at a mobile node. -/
def tunnelingMn (a : MIPV6Agent) (p : Packet) : Act Handled := do
  let bu ← deref (getEntryByType a.bulist .mnHa)
  let f ← deref bu.eface
  if p.iph.saddr = ifaceAddress a f then pure (mnSend a bu f p)
  else mnReceive a p

/-! ### Home agents -/

/-- A packet for a registered nemo prefix, at a router's home agent.  The source of the outer
header is kept if it is not that of the inner one. -/
def toMobileNetwork (a : MIPV6Agent) (outer : Addr) (bu : BUEntry) (p : Packet) : Packet :=
  let p := if p.iph.saddr ≠ outer then (addTunnel p).setSaddr outer else p
  match getEntryByHaddr a.bulist bu.caddr with
  | none => toAgent a bu.caddr (addTunnel p)
  | some other =>
    -- the router has moved to another home agent, which finds it by this home address
    toAgent a other.caddr (addTunnel { p with nh.haddr := other.haddr })

/-- `tunneling` at a router's home agent. -/
def tunnelingMrHa (a : MIPV6Agent) (p : Packet) : Act Handled := do
  let outer := p.iph.saddr
  let p ← deleteTunnel p
  match getEntryByPrefix a.bulist (prefixOf p.iph.daddr) with
  | none =>
    let q :=
      match getEntryByHaddr a.bulist p.nh.haddr with
      | none => (if p.iph.daddr ≠ a.addr then addTunnel p else p).setDport a.port
      | some bu => toAgent a bu.caddr (addTunnel p)
    pure (a, [.send (q.setSaddr a.addr)])
  | some bu => pure (a, [.send (toMobileNetwork a outer bu p)])

/-- `tunneling` at a node's home agent. -/
def tunnelingMnHa (a : MIPV6Agent) (p : Packet) : Act Handled := do
  let outer := p.iph.saddr
  let q ← deleteTunnel p
  let nested := sizeTunnel q > 0
  let q ← if nested then deleteTunnel q else pure q
  let bu ← assertNonNull (getEntryByHaddr a.bulist q.iph.daddr)
  let q := toAgent a bu.addr (addTunnel (q.setDaddr bu.caddr))
  pure (a, [.send (if nested then q.setSaddr outer else q)])

/-! ### A correspondent -/

/-- The update a correspondent sends to a node it did not know. -/
def cnBuToMn (a : MIPV6Agent) (haddr mnAddr mrHaAddr : Addr) : Packet :=
  (addTunnel (buMessage a (buHeader .bu haddr a.addr 0) a.addr mnAddr)).setDaddr mrHaAddr

/-- A packet for the correspondent. -/
def cnReceive (a : MIPV6Agent) (p : Packet) : Act Handled := do
  let mrHaAddr := p.iph.saddr
  let p ← closeTunnels p
  let mnAddr := p.iph.saddr
  let p := p.setSaddr mrHaAddr
  let p :=
    if a.expMr = 3 ∨ a.expMr = 4 ∨ a.expMr = 6 then
      { p with nh := { p.nh with haddr := p.nh.coa, coa := mnAddr } }
    else p
  let deliver := Out.send (p.setDaddr a.addr)
  match getEntryByAddr a.bulist mrHaAddr, getEntryByCaddr a.bulist mnAddr with
  | none, none =>
    let l := registration a.bulist p .mn
    let bu ← deref (getEntryByType l .mnHa)
    pure ({ a with bulist := l }, [.send (cnBuToMn a bu.haddr mnAddr mrHaAddr), deliver])
  | _, _ => pure (a, [deliver])

/-- Tunnel a packet of the correspondent to where `bu` is reached. -/
def cnTunnel (a : MIPV6Agent) (bu : BUEntry) (p : Packet) : Out :=
  .send (toAgent a bu.addr { p with nh := { p.nh with haddr := bu.haddr, coa := a.addr } })

/-- A packet of the correspondent. -/
def cnSend (a : MIPV6Agent) (p : Packet) : Act Handled := do
  let bu := getEntryByCaddr a.bulist p.iph.daddr
  if bu = none ∧ a.mnFlag = 0 then
    let ha ← deref (getEntryByType a.bulist .mnHa)
    let a' := if a.expMr = 9 then { a with mnFlag := 1 } else a
    pure (a', [cnTunnel a ha (addTunnel p)])
  else if a.expMr = 9 then
    let mn ← deref (getEntryByType a.bulist .mn)
    pure (a, [cnTunnel a mn (addTunnel (p.setDaddr mn.caddr))])
  else
    let bu ← deref bu
    pure (a, [cnTunnel a bu (addTunnel p)])

/-- `tunneling` at a correspondent. -/
def tunnelingCn (a : MIPV6Agent) (p : Packet) : Act Handled :=
  if p.iph.daddr = a.addr then cnReceive a p else cnSend a p

/-! ### Dispatch -/

/-- `tunneling`. -/
def tunneling (a : MIPV6Agent) (p : Packet) : Act Handled :=
  match a.nodeType with
  | .mr => tunnelingMr a p
  | .mn => tunnelingMn a p
  | .mrHa => tunnelingMrHa a p
  | .mnHa => tunnelingMnHa a p
  | .cn => tunnelingCn a p
  | .mrBs => relayMrBs a p

/-- `recv`: NEMO messages and everything else. -/
def recv (a : MIPV6Agent) (p : Packet) : Act Handled :=
  match p.cmn.ptype with
  | .nemo => recvNemo a p
  | .udp => tunneling a p

end SipNemo.Mip6
