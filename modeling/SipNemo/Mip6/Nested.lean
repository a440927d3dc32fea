import SipNemo.Lib.Network
import SipNemo.Mip6.Tunneling

/-!
# A mobile node in a mobile network

A mobile node behind a mobile router, the home agents of both, and a correspondent, with one
router and no mobile base station.  Each agent pushes and pops tunnel records on the packet it
hands on, and what a packet is when it arrives depends on all of them.

`bu_round_trip` follows the binding update of the node to its home agent, and the acknowledgement
back to the node.  A tunnel that is closed on an empty stack aborts, so that a route from end to
end says that there is none.
-/

namespace SipNemo.Mip6

open FirstMatch Runs Network

/-! ### The network -/

/-- The nodes. -/
inductive Role
  | mn | mr | mrHa | mnHa | cn
  deriving DecidableEq, Repr

/-- What an operation hands to the network, as packets in flight. -/
def packets (r : Act Handled) : Act (MIPV6Agent × List Packet) :=
  r.map fun r => (r.1, r.2.map Out.packet)

/-- A packet is received by the agent of the node it is addressed to. -/
def receive (a : MIPV6Agent) (p : Packet) : Act (MIPV6Agent × List Packet) := packets (recv a p)

/-- The node a packet is for, when the network routes addresses by `owner`. -/
def destNode {ι : Type} (owner : Addr → Option ι) (p : Packet) : Option ι := owner p.iph.daddr

/-- The entries that tie the nodes together: the node's for its home agent, the router's for its
home agent, and that home agent's for the router; with the prefix of the mobile network and the
interface of the node. -/
structure Nesting where
  pre : Addr
  iface : NodeId
  home : BUEntry
  ha : BUEntry
  reg : BUEntry

variable (c : Nesting) (owner : Addr → Option Role) (node : Role → MIPV6Agent)

/-- The care-of address of the node. -/
def Nesting.coa : Addr := (node .mn).address c.iface

/-- The configuration: every agent has its part, and the addresses in the entries are those of the
agents. -/
structure Nesting.Configured : Prop where
  type_mn : (node .mn).nodeType = .mn
  type_mr : (node .mr).nodeType = .mr
  type_mrHa : (node .mrHa).nodeType = .mrHa
  type_mnHa : (node .mnHa).nodeType = .mnHa
  expMr : ∀ r, (node r).expMr = 0
  mrBsDaddr : ∀ r, (node r).mrBsDaddr = noAddr
  owner_pre : owner c.pre = some .mr
  owner_caddr : owner c.ha.caddr = some .mr
  owner_mrHa : owner (node .mrHa).addr = some .mrHa
  owner_mnHa : owner (node .mnHa).addr = some .mnHa
  owner_coa : owner (c.coa node) = some .mn
  coa_prefix : prefixOf (c.coa node) = c.pre
  home_iface : getEntryByIface (node .mn).bulist c.iface = some c.home
  home_addr : c.home.addr = (node .mnHa).addr
  home_prefix : prefixOf c.home.addr ≠ c.pre
  home_unknown : getEntryByAddr (node .mr).bulist c.home.addr = none
  ha_mem : c.ha ∈ (node .mr).bulist
  ha_type : c.ha.type = .mrHa
  ha_addr : c.ha.addr = (node .mrHa).addr
  ha_prefix : c.ha.nemoPrefix = c.pre
  ha_live : ∃ f, c.ha.eface = some f ∧ c.ha.caddr = ifaceAddress (node .mr) f
  ha_iface : c.ha.iface ≠ none
  reg_mem : c.reg ∈ (node .mrHa).bulist
  reg_prefix : c.reg.nemoPrefix = c.pre
  reg_caddr : c.reg.caddr = c.ha.caddr

/-! ### The binding update -/

/-- Neither the router nor the node's home agent knows the node. -/
structure Nesting.Unknown : Prop where
  mr : getEntryByHaddr (node .mr).bulist c.home.haddr = none
  mnHa : getEntryByHaddr (node .mnHa).bulist c.home.haddr = none

/-- The lookups for the prefix find the entries of the configuration, and the router's home agent
sends on what is for the node's home agent. -/
structure Nesting.BuForwarded : Prop where
  ha_first : getEntryByPrefix (node .mr).bulist c.pre = some c.ha
  reg_first : getEntryByPrefix (node .mrHa).bulist c.pre = some c.reg
  home_outside : getEntryByPrefix (node .mrHa).bulist (prefixOf c.home.addr) = none
  home_used : c.home.addr ≠ ignoredAddr

/-- The round trip: `send_bu_msg` at the node, the update through the router and its home agent to
the node's home agent, where it arrives outside of any tunnel and leaves one entry, and the
acknowledgement back to the node. -/
def BuRoundTrip : Prop :=
  ∃ sent p₁ p₂ bu registered p₄ p₅ back done e,
    operate (fun a => packets (sendBuMsg a c.pre c.iface)) .mn ⟨node, []⟩ = .ok sent ∧
    Route (destNode owner) receive sent [(.mr, p₁), (.mrHa, p₂), (.mnHa, bu)] registered ∧
    bu.nh.type = .bu ∧ bu.tunnels = [] ∧
    (registered.node .mnHa).bulist = e :: (node .mnHa).bulist ∧
    (registered.node .mnHa).bulist.filter (hasHaddr c.home.haddr) = [e] ∧
    e.caddr = c.coa node ∧ e.addr = (node .mrHa).addr ∧
    Route (destNode owner) receive registered [(.mrHa, p₄), (.mr, p₅), (.mn, back)] done ∧
    back.nh.type = .back ∧ back.iph.daddr = c.coa node ∧ back.tunnels = []

/-- The update of the node. -/
def nodeBu (a : MIPV6Agent) (home : BUEntry) (coa : Addr) : Packet :=
  buMessage a (buHeader .bu home.haddr coa 0) coa home.addr

theorem eface_of_onIface {iface : NodeId} {e : BUEntry} (h : onIface iface e = true) :
    ∃ f, e.eface = some f ∧ f.iface = iface := by
  cases hef : e.eface with
  | none => simp [onIface, hef] at h
  | some f => exact ⟨f, rfl, by simpa [onIface, hef] using h⟩

/-- A node's update leaves it in a tunnel to its router. -/
theorem sendBuMsg_mn {a : MIPV6Agent} {iface : NodeId} {home : BUEntry} (pre : Addr)
    (htype : a.nodeType = .mn) (hbs : a.mrBsDaddr = noAddr)
    (hhome : getEntryByIface a.bulist iface = some home) :
    ∃ l, packets (sendBuMsg a pre iface) =
      .ok ({ a with bulist := l },
        [(addTunnel (nodeBu a home (a.address iface))).setDaddr pre]) := by
  obtain ⟨f, hf, -⟩ := eface_of_onIface (List.find?_some hhome)
  refine ⟨updateFirst (onIface iface) (·.setCaddr (a.address iface)) a.bulist, ?_⟩
  simp [packets, sendBuMsg, hhome, htype, hbs, hf, Out.packet, nodeBu, buMessage]

/-- A mobile router tunnels the update of a new node to its home agent, and the node gets an
entry on the interface of its prefix. -/
theorem receive_mr_bu {a : MIPV6Agent} {bu : Packet} {ha : BUEntry} {f : NEMOAgent} {d : Addr}
    (htype : a.nodeType = .mr) (hp : bu.cmn.ptype = .nemo) (hty : bu.nh.type = .bu)
    (hH : bu.nh.H = ON) (hdest : getEntryByAddr a.bulist bu.iph.daddr = none)
    (hnew : getEntryByHaddr a.bulist bu.nh.haddr = none)
    (hha : getMrHaEntryByPrefix a.bulist (prefixOf bu.iph.saddr) = some ha)
    (hf : ha.eface = some f) :
    receive a ((addTunnel bu).setDaddr d) =
      .ok ({ a with bulist := ha.follow (BUEntry.newMn bu) :: a.bulist },
        [(addTunnel bu).setDaddr ha.addr]) := by
  have hfind : getMrHaEntryByPrefix (BUEntry.newMn bu :: a.bulist) (prefixOf bu.iph.saddr) =
      some ha := by
    simpa [getMrHaEntryByPrefix, isMrHaWithPrefix, hasType, BUEntry.newMn] using hha
  have hfollow : updateFirst (hasHaddr bu.nh.haddr) ha.follow (BUEntry.newMn bu :: a.bulist) =
      ha.follow (BUEntry.newMn bu) :: a.bulist := by
    simp [updateFirst, hasHaddr, BUEntry.newMn]
  have hrecv : recv a ((addTunnel bu).setDaddr d) = mrRecvBu a ((addTunnel bu).setDaddr d) := by
    simp [recv, recvNemo, recvNemoMr, addTunnel, Packet.setDaddr, hp, htype, hty]
  simp [receive, hrecv, packets, mrRecvBu, hdest, hH, ensureMn, hnew, registration, followPrefix,
    hfind, hfollow, toMrHa, hf, Out.packet]

/-- A router's home agent sends the update on with itself as the source. -/
theorem receive_mrHa_bu {a : MIPV6Agent} {bu : Packet} {d : Addr} (htype : a.nodeType = .mrHa)
    (hp : bu.cmn.ptype = .nemo) (hty : bu.nh.type = .bu) (hts : bu.tunnels = [])
    (hother : bu.iph.daddr ≠ a.addr)
    (hpre : getEntryByPrefix a.bulist (prefixOf bu.iph.daddr) = none)
    (hused : bu.iph.daddr ≠ ignoredAddr) :
    receive a ((addTunnel bu).setDaddr d) = .ok (a, [bu.setSaddr a.addr]) := by
  have hrecv : recv a ((addTunnel bu).setDaddr d) = mrHaRecvBu a ((addTunnel bu).setDaddr d) := by
    simp [recv, recvNemo, recvNemoMrHa, addTunnel, Packet.setDaddr, hp, htype, hty]
  have hforward : forwardBu a bu = .ok (bu.setSaddr a.addr) := by
    simp [forwardBu, hpre, sizeTunnel, hts]
  have hdaddr : (bu.setSaddr a.addr).iph.daddr ≠ ignoredAddr := hused
  simp [receive, hrecv, packets, mrHaRecvBu, hother, hforward, hdaddr, Out.packet]

/-- A node's home agent registers a new home address and acknowledges the update. -/
theorem receive_mnHa_bu {a : MIPV6Agent} {bu : Packet} (htype : a.nodeType = .mnHa)
    (hp : bu.cmn.ptype = .nemo) (hty : bu.nh.type = .bu) (hH : bu.nh.H = ON) (hA : bu.nh.A = ON)
    (hnew : getEntryByHaddr a.bulist bu.nh.haddr = none) :
    receive a bu =
      .ok ({ a with bulist := BUEntry.newMn bu :: a.bulist }, [buAck a bu]) := by
  have hrecv : recv a bu = recvNemoMnHa a bu := by simp [recv, recvNemo, hp, htype]
  simp [receive, hrecv, packets, recvNemoMnHa, hty, registerIfHome, hH, registration, hnew,
    ackIfAsked, hA, buAck, Out.packet]

/-- A router's home agent sends an acknowledgement for a node in the mobile network to the
router. -/
theorem receive_mrHa_back {a : MIPV6Agent} {back : Packet} {reg : BUEntry}
    (htype : a.nodeType = .mrHa) (hp : back.cmn.ptype = .nemo) (hty : back.nh.type = .back)
    (hreg : getEntryByPrefix a.bulist (prefixOf back.iph.daddr) = some reg) :
    receive a ((addTunnel back).setDaddr a.addr) =
      .ok (a, [(addTunnel back).setDaddr reg.caddr]) := by
  have hrecv : recv a ((addTunnel back).setDaddr a.addr) =
      mrHaRecvBack a ((addTunnel back).setDaddr a.addr) := by
    simp [recv, recvNemo, recvNemoMrHa, addTunnel, Packet.setDaddr, hp, htype, hty]
  have hdaddr : ((addTunnel back).setDaddr a.addr).iph.daddr = a.addr := rfl
  have hsize : sizeTunnel ((addTunnel back).setDaddr a.addr) ≠ 0 := by
    simp [sizeTunnel, addTunnel, Packet.setDaddr]
  simp [receive, hrecv, packets, mrHaRecvBack, hdaddr, hsize, hreg, Out.packet]

/-- A mobile router hands an acknowledgement that came to its care-of address to the node. -/
theorem receive_mr_back {a : MIPV6Agent} {back : Packet} {d : Addr} {e : BUEntry} {f : NEMOAgent}
    (htype : a.nodeType = .mr) (hbs : a.mrBsDaddr = noAddr) (hp : back.cmn.ptype = .nemo)
    (hty : back.nh.type = .back) (hd : getEntryByCaddr a.bulist d = some e)
    (hf : getIfaceAgentByPrefix a.bulist (prefixOf back.iph.daddr) = some f) :
    receive a ((addTunnel back).setDaddr d) = .ok (a, [back]) := by
  have hrecv : recv a ((addTunnel back).setDaddr d) =
      mrRecvBack a ((addTunnel back).setDaddr d) := by
    simp [recv, recvNemo, recvNemoMr, addTunnel, Packet.setDaddr, hp, htype, hty]
  have hdaddr : ((addTunnel back).setDaddr d).iph.daddr = d := rfl
  have hsize : sizeTunnel ((addTunnel back).setDaddr d) ≠ 0 := by
    simp [sizeTunnel, addTunnel, Packet.setDaddr]
  simp [receive, hrecv, packets, mrRecvBack, hdaddr, hd, hsize, sendInside, hf, hbs, Out.packet]

/-- A node does nothing with an acknowledgement. -/
theorem receive_mn_back {a : MIPV6Agent} {back : Packet} (htype : a.nodeType = .mn)
    (hp : back.cmn.ptype = .nemo) (hty : back.nh.type = .back) :
    receive a back = .ok (a, []) := by
  simp [receive, packets, recv, recvNemo, recvNemoMn, hp, htype, hty]

/-- The acknowledgement of an update, outside of its tunnel. -/
def back (a : MIPV6Agent) (bu : Packet) : Packet :=
  { bu with
    nh.type := .back
    iph.saddr := a.addr
    iph.daddr := bu.nh.coa
    iph.dport := a.port
    cmn := { ptype := .nemo, size := ipv6HeaderSize + backSize } }

/-- An update that another agent has passed on is acknowledged through that agent. -/
theorem buAck_of_ne {a : MIPV6Agent} {bu : Packet} (h : bu.iph.saddr ≠ bu.nh.coa) :
    buAck a bu = (addTunnel (back a bu)).setDaddr bu.iph.saddr := by
  simp only [buAck, if_pos h, back]

/-- The update of the node of the configuration. -/
def Nesting.bu : Packet := nodeBu (node .mn) c.home (c.coa node)

/-- The router with the entry of the new node. -/
def Nesting.boundMr : MIPV6Agent :=
  { node .mr with
    bulist := c.ha.follow (BUEntry.newMn (c.bu node)) :: (node .mr).bulist }

/-- The update as the router's home agent sends it. -/
def Nesting.forwardedBu : Packet := (c.bu node).setSaddr (node .mrHa).addr

/-- The node's home agent with the entry of the new node. -/
def Nesting.boundMnHa : MIPV6Agent :=
  { node .mnHa with
    bulist := BUEntry.newMn (c.forwardedBu node) :: (node .mnHa).bulist }

/-- The acknowledgement of the forwarded update. -/
def Nesting.ack : Packet := back (node .mnHa) (c.forwardedBu node)

variable {c owner node}

section Hops

variable (hc : c.Configured owner node) (hu : c.Unknown node) (hf : c.BuForwarded node)

include hc

/-- The addresses of different nodes differ. -/
theorem Nesting.Configured.mrHa_ne_coa : (node .mrHa).addr ≠ c.coa node := by
  intro h
  have hown := hc.owner_mrHa
  rw [h, hc.owner_coa] at hown
  cases hown

theorem Nesting.Configured.home_ne_mrHa : c.home.addr ≠ (node .mrHa).addr := by
  intro h
  have hown := hc.owner_mnHa
  rw [← hc.home_addr, h, hc.owner_mrHa] at hown
  cases hown

theorem Nesting.Configured.pre_ne_noAddr : c.pre ≠ noAddr := by
  rw [← hc.coa_prefix]
  exact prefixOf_ne_noAddr _

include hf

/-- The first entry of the prefix is also the first of a home agent. -/
theorem getMrHaEntryByPrefix_pre : getMrHaEntryByPrefix (node .mr).bulist c.pre = some c.ha := by
  obtain ⟨hpre, l₁, l₂, hl, hne⟩ := List.find?_eq_some_iff_append.1 hf.ha_first
  refine List.find?_eq_some_iff_append.2 ⟨?_, l₁, l₂, hl, ?_⟩
  · simp [isMrHaWithPrefix, hasType, hc.ha_type, hpre]
  · intro e he
    have hno : hasPrefix c.pre e = false := by simpa using hne e he
    simp [isMrHaWithPrefix, hno]

theorem hop_mrHa_bu (d : Addr) :
    receive (node .mrHa) ((addTunnel (c.bu node)).setDaddr d) =
      .ok (node .mrHa, [c.forwardedBu node]) :=
  receive_mrHa_bu hc.type_mrHa rfl rfl rfl hc.home_ne_mrHa hf.home_outside hf.home_used

theorem hop_mrHa_back :
    receive (node .mrHa) ((addTunnel (c.ack node)).setDaddr (node .mrHa).addr) =
      .ok (node .mrHa, [(addTunnel (c.ack node)).setDaddr c.reg.caddr]) := by
  have hpre : prefixOf (c.ack node).iph.daddr = c.pre := hc.coa_prefix
  refine receive_mrHa_back hc.type_mrHa rfl rfl ?_
  rw [hpre]
  exact hf.reg_first

/-- The acknowledgement comes to the care-of address of the new entry and goes out through the
interface of the prefix, which the new entry does not hide. -/
theorem hop_mr_back :
    receive (c.boundMr node) ((addTunnel (c.ack node)).setDaddr c.reg.caddr) =
      .ok (c.boundMr node, [c.ack node]) := by
  obtain ⟨g, hg⟩ := Option.ne_none_iff_exists'.1 hc.ha_iface
  have hpre : prefixOf (c.ack node).iph.daddr = c.pre := hc.coa_prefix
  have hnew : getEntryByCaddr (c.boundMr node).bulist c.reg.caddr =
      some (c.ha.follow (BUEntry.newMn (c.bu node))) := by
    simp [getEntryByCaddr, hasCaddr, Nesting.boundMr, hc.reg_caddr]
  have hskip : getEntryByPrefix (c.boundMr node).bulist c.pre = some c.ha := by
    rw [← hf.ha_first]
    simp [getEntryByPrefix, hasPrefix, Nesting.boundMr, BUEntry.newMn, hc.pre_ne_noAddr.symm]
  have hiface : getIfaceAgentByPrefix (c.boundMr node).bulist (prefixOf (c.ack node).iph.daddr) =
      some g := by
    rw [hpre]
    simp [getIfaceAgentByPrefix, hskip, hg]
  exact receive_mr_back hc.type_mr (hc.mrBsDaddr .mr) rfl rfl hnew hiface

include hu

theorem hop_mr_bu :
    receive (node .mr) ((addTunnel (c.bu node)).setDaddr c.pre) =
      .ok (c.boundMr node, [(addTunnel (c.bu node)).setDaddr c.ha.addr]) := by
  obtain ⟨f, hface, -⟩ := hc.ha_live
  have hpre : prefixOf (c.bu node).iph.saddr = c.pre := hc.coa_prefix
  refine receive_mr_bu hc.type_mr rfl rfl rfl hc.home_unknown hu.mr ?_ hface
  rw [hpre]
  exact getMrHaEntryByPrefix_pre hc hf

omit hf

theorem hop_mnHa_bu :
    receive (node .mnHa) (c.forwardedBu node) =
      .ok (c.boundMnHa node, [(addTunnel (c.ack node)).setDaddr (node .mrHa).addr]) := by
  have hack : buAck (node .mnHa) (c.forwardedBu node) =
      (addTunnel (c.ack node)).setDaddr (node .mrHa).addr := buAck_of_ne hc.mrHa_ne_coa
  rw [← hack]
  exact receive_mnHa_bu hc.type_mnHa rfl rfl rfl rfl hu.mnHa

end Hops

/-- The round trip of a binding update. -/
theorem bu_round_trip (hc : c.Configured owner node) (hu : c.Unknown node)
    (hf : c.BuForwarded node) : BuRoundTrip c owner node := by
  obtain ⟨l, hsend⟩ := sendBuMsg_mn c.pre hc.type_mn (hc.mrBsDaddr .mn) hc.home_iface
  have hto_mrHa : owner c.ha.addr = some .mrHa := by rw [hc.ha_addr, hc.owner_mrHa]
  have hto_mnHa : owner c.home.addr = some .mnHa := by rw [hc.home_addr, hc.owner_mnHa]
  have hto_mr : owner c.reg.caddr = some .mr := by rw [hc.reg_caddr, hc.owner_caddr]
  have hmn : receive { node .mn with bulist := l } (c.ack node) = .ok (_, []) :=
    receive_mn_back hc.type_mn rfl rfl
  have hone : (c.boundMnHa node).bulist.filter (hasHaddr c.home.haddr) =
      [BUEntry.newMn (c.forwardedBu node)] := by
    have hself : hasHaddr c.home.haddr (BUEntry.newMn (c.forwardedBu node)) = true :=
      beq_self_eq_true c.home.haddr
    have hnone : (node .mnHa).bulist.filter (hasHaddr c.home.haddr) = [] := by
      have hall := List.find?_eq_none.1 hu.mnHa
      exact List.filter_eq_nil_iff.2 hall
    simp [Nesting.boundMnHa, hself, hnone]
  have h₁ := hop_mr_bu hc hu hf
  have h₂ := hop_mrHa_bu hc hf c.ha.addr
  have h₃ := hop_mnHa_bu hc hu
  have h₄ := hop_mrHa_back hc hf
  have h₅ := hop_mr_back hc hf
  exact ⟨_, _, _, c.forwardedBu node, _, _, _, c.ack node, _, _, operate_ok hsend,
    Route.cons hc.owner_pre h₁ (Route.cons hto_mrHa h₂ (Route.cons hto_mnHa h₃ rfl)),
    rfl, rfl, rfl, hone, rfl, rfl,
    Route.cons hc.owner_mrHa h₄ (Route.cons hto_mr h₅ (Route.cons hc.owner_coa hmn rfl)),
    rfl, rfl, rfl⟩

/-! ### A sample configuration -/

/-- The node `6.0.2` with home address `5.0.1`, the router of the prefix `6.0.0` with care-of
address `2.0.1`, and its home agent `4.0.0`. -/
def sampleNesting (homeAgent : Addr) : Nesting where
  pre := str2addr 6 0 0
  iface := 3
  home :=
    { type := .mnHa, addr := homeAgent, haddr := str2addr 5 0 1, caddr := str2addr 6 0 2
      eface := some { iface := 3, addr := str2addr 6 0 2, port := 2 } }
  ha :=
    { type := .mrHa, addr := str2addr 4 0 0, haddr := str2addr 4 0 1, caddr := str2addr 2 0 1
      nemoPrefix := str2addr 6 0 0
      eface := some { iface := 1, addr := str2addr 6 0 0, port := 2 }
      iface := some { iface := 2, addr := str2addr 6 0 0, port := 3 } }
  reg :=
    { type := .mr, haddr := str2addr 4 0 1, caddr := str2addr 2 0 1, nemoPrefix := str2addr 6 0 0 }

/-- The agents: the lists of the router and of its home agent with entries in front, those of the
node's home agent and of a correspondent as given. -/
def sampleNode (homeAgent : Addr) (mrFront mrHaFront mnHa cn : List BUEntry) : Role → MIPV6Agent
  | .mn =>
    { nodeType := .mn, addr := str2addr 6 0 2, port := 1
      bulist := [(sampleNesting homeAgent).home]
      address := fun _ => str2addr 6 0 2 }
  | .mr =>
    { nodeType := .mr, addr := str2addr 6 0 0, port := 1
      bulist := mrFront ++ [(sampleNesting homeAgent).ha]
      address := fun n => if n = 1 then str2addr 2 0 1 else str2addr 6 0 0 }
  | .mrHa =>
    { nodeType := .mrHa, addr := str2addr 4 0 0, port := 1
      bulist := mrHaFront ++ [(sampleNesting homeAgent).reg] }
  | .mnHa => { nodeType := .mnHa, addr := homeAgent, port := 1, bulist := mnHa }
  | .cn => { nodeType := .cn, addr := str2addr 1 0 0, port := 1, bulist := cn }

/-- The routes to the nodes. -/
def sampleOwner (homeAgent : Addr) (a : Addr) : Option Role :=
  if a = str2addr 6 0 0 ∨ a = str2addr 2 0 1 then some .mr
  else if a = str2addr 4 0 0 then some .mrHa
  else if a = homeAgent then some .mnHa
  else if a = str2addr 6 0 2 then some .mn
  else if a = str2addr 1 0 0 then some .cn
  else none

/-- The sample is a configuration for every home agent address that no other node has, whatever
stands in front of the lists. -/
theorem sampleNesting_configured {homeAgent : Addr} {mrFront mrHaFront mnHa cn : List BUEntry}
    (hown : sampleOwner homeAgent homeAgent = some .mnHa)
    (hcoa : str2addr 6 0 2 ≠ homeAgent) (hpre : prefixOf homeAgent ≠ str2addr 6 0 0)
    (hmr : getEntryByAddr (mrFront ++ [(sampleNesting homeAgent).ha]) homeAgent = none) :
    (sampleNesting homeAgent).Configured (sampleOwner homeAgent)
      (sampleNode homeAgent mrFront mrHaFront mnHa cn) where
  type_mn := rfl
  type_mr := rfl
  type_mrHa := rfl
  type_mnHa := rfl
  expMr r := by cases r <;> rfl
  mrBsDaddr r := by cases r <;> rfl
  owner_pre := rfl
  owner_caddr := rfl
  owner_mrHa := rfl
  owner_mnHa := hown
  owner_coa := by
    show sampleOwner homeAgent (str2addr 6 0 2) = some .mn
    rw [sampleOwner, if_neg (by decide), if_neg (by decide), if_neg hcoa, if_pos rfl]
  coa_prefix := show prefixOf (str2addr 6 0 2) = str2addr 6 0 0 by decide
  home_iface := rfl
  home_addr := rfl
  home_prefix := hpre
  home_unknown := hmr
  ha_mem := List.mem_append_right _ List.mem_cons_self
  ha_type := rfl
  ha_addr := rfl
  ha_prefix := rfl
  ha_live := ⟨_, rfl, rfl⟩
  ha_iface := by simp [sampleNesting]
  reg_mem := List.mem_append_right _ List.mem_cons_self
  reg_prefix := rfl
  reg_caddr := rfl

theorem bu_round_trip_sample :
    BuRoundTrip (sampleNesting (str2addr 5 0 0)) (sampleOwner (str2addr 5 0 0))
      (sampleNode (str2addr 5 0 0) [] [] [] []) := by
  refine bu_round_trip (sampleNesting_configured rfl (by decide) (by decide) rfl) ⟨rfl, rfl⟩ ?_
  exact ⟨rfl, rfl, rfl, by decide⟩

/-- The destinations of what is in flight `k` hops after the node has performed `op`. -/
def destinations (op : MIPV6Agent → Act Handled) (owner : Addr → Option Role)
    (node : Role → MIPV6Agent) (k : ℕ) : Act (List (Option Role)) := do
  let sent ← operate (fun a => packets (op a)) .mn ⟨node, []⟩
  let n ← runSteps (deliver (destNode owner) receive) sent (List.replicate k 0)
  pure (n.flight.map (destNode owner))

/-- The stations of a route. -/
theorem destinations_of_route {op : MIPV6Agent → Act Handled} {owner : Addr → Option Role}
    {node : Role → MIPV6Agent} {sent done : Net Role MIPV6Agent Packet}
    {hops : List (Role × Packet)} {k : ℕ} {r : Role}
    (hsend : operate (fun a => packets (op a)) .mn ⟨node, []⟩ = .ok sent)
    (hroute : Route (destNode owner) receive sent hops done)
    (hk : (hops.map Prod.fst)[k]? = some r) : destinations op owner node k = .ok [some r] := by
  rw [List.getElem?_map, Option.map_eq_some_iff] at hk
  obtain ⟨⟨i, m⟩, hm, rfl⟩ := hk
  obtain ⟨n, hrun, hn⟩ := hroute.in_flight hm
  simp only [destinations, hsend, ok_bind, hrun]
  exact congrArg Except.ok hn

/-- The update or its acknowledgement is lost in a configuration. -/
def BuFails (homeAgent : Addr) (mrFront mrHaFront : List BUEntry) : Prop :=
  (sampleNesting homeAgent).Configured (sampleOwner homeAgent)
      (sampleNode homeAgent mrFront mrHaFront [] []) ∧
    (sampleNesting homeAgent).Unknown (sampleNode homeAgent mrFront mrHaFront [] []) ∧
    ¬ BuRoundTrip (sampleNesting homeAgent) (sampleOwner homeAgent)
      (sampleNode homeAgent mrFront mrHaFront [] [])

/-- What is in flight after `k` hops is not for the next station of the round trip. -/
theorem not_buRoundTrip {c : Nesting} {owner : Addr → Option Role} {node : Role → MIPV6Agent}
    (k : ℕ) (r : Role) (hk : [Role.mr, .mrHa, .mnHa, .mrHa, .mr, .mn][k]? = some r)
    (hne : destinations (sendBuMsg · c.pre c.iface) owner node k ≠ .ok [some r]) :
    ¬ BuRoundTrip c owner node := by
  rintro ⟨sent, p₁, p₂, bu, t, p₄, p₅, back, done, e, hsend, hto, -, -, -, -, -, -, hback, -⟩
  exact hne (destinations_of_route hsend (hto.append hback) hk)

/-- Another router registered at `4.0.0`, with care-of address `3.0.1`. -/
def sampleOtherMr (haddr pre : Addr) : BUEntry :=
  { type := .mr, haddr := haddr, caddr := str2addr 3 0 1, nemoPrefix := pre }

/-- Another home agent of the router for the prefix `6.0.0`. -/
def sampleOtherHa (caddr : Addr) : BUEntry :=
  { (sampleNesting (str2addr 5 0 0)).ha with
    addr := str2addr 9 0 0, haddr := str2addr 9 0 1, caddr := caddr }

/-- The update is not sent to `8.0.1`, goes to the router of a mobile network when the node's home
agent is inside of one, and to another home agent when that has the first entry for the prefix;
the acknowledgement goes to another router when that has the first registration of the prefix. -/
theorem bu_lost :
    BuFails (str2addr 8 0 1) [] [] ∧
    BuFails (str2addr 7 0 5) [] [sampleOtherMr (str2addr 4 0 2) (str2addr 7 0 0)] ∧
    BuFails (str2addr 5 0 0) [sampleOtherHa (str2addr 2 0 1)] [] ∧
    BuFails (str2addr 5 0 0) [] [sampleOtherMr (str2addr 4 0 2) (str2addr 6 0 0)] := by
  refine ⟨⟨sampleNesting_configured rfl (by decide) (by decide) rfl, ⟨rfl, rfl⟩, ?_⟩,
    ⟨sampleNesting_configured rfl (by decide) (by decide) rfl, ⟨rfl, rfl⟩, ?_⟩,
    ⟨sampleNesting_configured rfl (by decide) (by decide) rfl, ⟨rfl, rfl⟩, ?_⟩,
    ⟨sampleNesting_configured rfl (by decide) (by decide) rfl, ⟨rfl, rfl⟩, ?_⟩⟩
  · exact not_buRoundTrip 2 .mnHa rfl (by decide)
  · exact not_buRoundTrip 2 .mnHa rfl (by decide)
  · exact not_buRoundTrip 1 .mrHa rfl (by decide)
  · exact not_buRoundTrip 4 .mr rfl (by decide)

end SipNemo.Mip6
