import SipNemo.Mip6.Nested

/-!
# Data of a mobile node in a mobile network

A data packet of the node goes to its home agent in two tunnels, and from there to the
correspondent.  On the way only its addresses, ports, size, NEMO header and tunnel stack change
(`carried`), so that each hop is an operation on these, and `data_delivered` composes them.
-/

namespace SipNemo.Mip6

open FirstMatch Runs Network

/-! ### Packets on the way -/

/-- The packet `p` on its way: `extra` bytes longer, from `s` to the port `q` of `d`, with the
given NEMO header and tunnel stack. -/
def carried (p : Packet) (nh : HdrNemo) (extra : ℤ) (s d : Addr) (q : ℤ) (ts : List Tunnel) :
    Packet :=
  { p with
    cmn.size := p.cmn.size + extra
    iph.saddr := s
    iph.daddr := d
    iph.dport := q
    nh := nh
    tunnels := ts }

section Carried

variable {p : Packet} {nh : HdrNemo} {extra : ℤ} {s d : Addr} {q : ℤ} {ts : List Tunnel}

@[simp] theorem carried_saddr : (carried p nh extra s d q ts).iph.saddr = s := rfl

@[simp] theorem carried_daddr : (carried p nh extra s d q ts).iph.daddr = d := rfl

@[simp] theorem carried_nh : (carried p nh extra s d q ts).nh = nh := rfl

@[simp] theorem sizeTunnel_carried : sizeTunnel (carried p nh extra s d q ts) = ts.length := rfl

@[simp] theorem setSaddr_carried (s' : Addr) :
    (carried p nh extra s d q ts).setSaddr s' = carried p nh extra s' d q ts := rfl

@[simp] theorem setDaddr_carried (d' : Addr) :
    (carried p nh extra s d q ts).setDaddr d' = carried p nh extra s d' q ts := rfl

@[simp] theorem setDport_carried (q' : ℤ) :
    (carried p nh extra s d q ts).setDport q' = carried p nh extra s d q' ts := rfl

@[simp] theorem toAgent_carried (a : MIPV6Agent) (d' : Addr) :
    toAgent a d' (carried p nh extra s d q ts) = carried p nh extra s d' a.port ts := rfl

@[simp] theorem addTunnel_carried :
    addTunnel (carried p nh extra s d q ts) =
      carried p nh (extra + ipv6HeaderSize) s d q (⟨s, p.iph.sport, d, q⟩ :: ts) := by
  simp [addTunnel, carried, add_assoc]

@[simp] theorem deleteTunnel_carried {s' d' : Addr} {q' : ℤ} :
    deleteTunnel (carried p nh extra s d q (⟨s', p.iph.sport, d', q'⟩ :: ts)) =
      .ok (carried p nh (extra - ipv6HeaderSize) s' d' q' ts) := by
  simp [deleteTunnel, carried, Packet.closed, add_sub_assoc]

/-- A packet in one tunnel has no other to close. -/
@[simp] theorem closeTunnels_carried {s' d' : Addr} {q' : ℤ} :
    closeTunnels (carried p nh extra s d q [⟨s', p.iph.sport, d', q'⟩]) =
      .ok (carried p nh (extra - ipv6HeaderSize) s' d' q' []) := by
  simp [closeTunnels]

theorem receive_carried (a : MIPV6Agent) (h : p.cmn.ptype = .udp) :
    receive a (carried p nh extra s d q ts) =
      packets (tunneling a (carried p nh extra s d q ts)) := by
  simp [receive, recv, carried, h]

end Carried

/-! ### The hops -/

section Hops

variable {a : MIPV6Agent} {p : Packet} {nh : HdrNemo} {extra : ℤ} {s d m dest : Addr} {q q' : ℤ}
  {ts : List Tunnel}

/-- A node sends to a destination it does not know: in a tunnel to its home agent, inside one to
its router. -/
theorem tunneling_mn {home : BUEntry} {f : NEMOAgent} (htype : a.nodeType = .mn)
    (hbs : a.mrBsDaddr = noAddr) (hhome : getEntryByType a.bulist .mnHa = some home)
    (hf : home.eface = some f) (hsrc : p.iph.saddr = ifaceAddress a f)
    (hdest : getEntryByCaddr a.bulist p.iph.daddr = none) (hts : p.tunnels = []) :
    packets (tunneling a p) =
      .ok (a, [carried p { p.nh with haddr := home.haddr, coa := home.caddr }
        (2 * ipv6HeaderSize - 20) p.iph.saddr (prefixOf p.iph.saddr) a.port
        [⟨p.iph.saddr, p.iph.sport, home.addr, a.port⟩,
          ⟨p.iph.saddr, p.iph.sport, p.iph.daddr, p.iph.dport⟩]]) := by
  have htun : tunneling a p = .ok (mnSend a home f p) := by
    simp [tunneling, htype, tunnelingMn, hhome, hf, hsrc]
  have hsize : p.cmn.size + ipv6HeaderSize + ipv6HeaderSize - 20 =
      p.cmn.size + (2 * ipv6HeaderSize - 20) := by ring
  rw [htun]
  simp [packets, mnSend, hdest, hbs, toAgent, addTunnel, carried, Packet.setDaddr, Packet.setDport,
    Out.packet, hts, hsize]

/-- A mobile router sends what comes from a bound node to its home agent, with its home address
there as the source. -/
theorem tunneling_mr {b out : BUEntry} {f g : NEMOAgent} (htype : a.nodeType = .mr)
    (hexp : a.expMr = 0) (hdest : getEntryByAddr a.bulist dest = none)
    (hb : getEntryByAddr a.bulist m = some b) (hf : b.eface = some f)
    (hcaddr : b.caddr = ifaceAddress a f) (hout : getMrHaEntryByCaddr a.bulist b.caddr = some out)
    (hg : out.eface = some g) :
    packets (tunneling a (carried p nh extra s d q (⟨m, p.iph.sport, dest, q'⟩ :: ts))) =
      .ok (a, [carried p nh extra out.haddr out.addr a.port
        (⟨out.haddr, p.iph.sport, dest, q'⟩ :: ts)]) := by
  simp [packets, tunneling, htype, tunnelingMr, hdest, mrOutOrNeighbour, hexp, mrOut, hb,
    mrOutSingle, hf, ← hcaddr, outByCaddr, hout, hg, Out.packet]

/-- A router's home agent sends what is for a place it knows nothing of on, with itself as the
source. -/
theorem tunneling_mrHa (htype : a.nodeType = .mrHa)
    (hpre : getEntryByPrefix a.bulist (prefixOf dest) = none)
    (hhaddr : getEntryByHaddr a.bulist nh.haddr = none) (hne : dest ≠ a.addr) :
    packets (tunneling a (carried p nh extra s d q (⟨m, p.iph.sport, dest, q'⟩ :: ts))) =
      .ok (a, [carried p nh extra a.addr dest a.port (⟨m, p.iph.sport, dest, q'⟩ :: ts)]) := by
  simp [packets, tunneling, htype, tunnelingMrHa, hpre, hhaddr, hne, Out.packet]

/-- A node's home agent closes both tunnels and sends the packet to the agent of its destination,
with the source of the outer header. -/
theorem tunneling_mnHa {s' d' : Addr} {q'' : ℤ} {dst : BUEntry} (htype : a.nodeType = .mnHa)
    (hdst : getEntryByHaddr a.bulist dest = some dst) :
    packets (tunneling a (carried p nh extra s d q
        [⟨s', p.iph.sport, d', q''⟩, ⟨m, p.iph.sport, dest, q'⟩])) =
      .ok (a, [carried p nh (extra - ipv6HeaderSize) s dst.addr a.port
        [⟨m, p.iph.sport, dst.caddr, q'⟩]]) := by
  simp [packets, tunneling, htype, tunnelingMnHa, hdst, Out.packet]

/-- What a correspondent hands to its node. -/
def cnDelivered (a : MIPV6Agent) (p : Packet) (nh : HdrNemo) (extra : ℤ) (s : Addr) (q : ℤ) :
    Packet :=
  carried p nh (extra - ipv6HeaderSize) s a.addr q []

/-- A correspondent that knows the agent or the node delivers the packet. -/
theorem tunneling_cn_known (htype : a.nodeType = .cn) (hexp : a.expMr = 0)
    (hknown : getEntryByAddr a.bulist s ≠ none ∨ getEntryByCaddr a.bulist m ≠ none) :
    packets (tunneling a (carried p nh extra s a.addr q [⟨m, p.iph.sport, dest, q'⟩])) =
      .ok (a, [cnDelivered a p nh extra s q']) := by
  cases hs : getEntryByAddr a.bulist s with
  | some e => simp [packets, tunneling, htype, tunnelingCn, cnReceive, hexp, hs, Out.packet,
      cnDelivered]
  | none =>
    cases hm : getEntryByCaddr a.bulist m with
    | some e => simp [packets, tunneling, htype, tunnelingCn, cnReceive, hexp, hs, hm, Out.packet,
        cnDelivered]
    | none => simp [hs, hm] at hknown

/-- A correspondent that knows neither registers the node and tells it where it is itself. -/
theorem tunneling_cn_new {l : List BUEntry} {ha : BUEntry} (htype : a.nodeType = .cn)
    (hexp : a.expMr = 0) (hs : getEntryByAddr a.bulist s = none)
    (hm : getEntryByCaddr a.bulist m = none)
    (hl : registration a.bulist (carried p nh (extra - ipv6HeaderSize) s dest q' []) .mn = l)
    (hha : getEntryByType l .mnHa = some ha) :
    packets (tunneling a (carried p nh extra s a.addr q [⟨m, p.iph.sport, dest, q'⟩])) =
      .ok ({ a with bulist := l }, [cnBuToMn a ha.haddr m s, cnDelivered a p nh extra s q']) := by
  simp [packets, tunneling, htype, tunnelingCn, cnReceive, hexp, hs, hm, hl, hha, Out.packet,
    cnDelivered]

end Hops

/-! ### The way of a data packet -/

variable (c : Nesting) (owner : Addr → Option Role) (node : Role → MIPV6Agent) (p : Packet)

/-- The node is bound at its router, and the correspondent at the node's home agent. -/
structure Nesting.Bound : Prop where
  type_cn : (node .cn).nodeType = .cn
  owner_cn : owner (node .cn).addr = some .cn
  home_first : getEntryByType (node .mn).bulist .mnHa = some c.home
  home_caddr : c.home.caddr = c.coa node
  bound : ∃ b ∈ (node .mr).bulist,
    b.addr = c.coa node ∧ b.eface = c.ha.eface ∧ b.caddr = c.ha.caddr
  dst : ∃ e ∈ (node .mnHa).bulist, e.haddr = p.iph.daddr ∧ e.addr = (node .cn).addr

/-- A data packet of the node, to a destination it does not know. -/
structure Nesting.Data : Prop where
  ptype : p.cmn.ptype = .udp
  tunnels : p.tunnels = []
  source : p.iph.saddr = c.coa node
  unknown : getEntryByCaddr (node .mn).bulist p.iph.daddr = none

/-- The lookups on the way find the entries of the configuration, and the router's home agent knows
neither the prefix of the node's home agent nor the node's home address. -/
structure Nesting.DataForwarded : Prop where
  bound_first : ∃ b, getEntryByAddr (node .mr).bulist (c.coa node) = some b ∧
    b.eface = c.ha.eface ∧ b.caddr = c.ha.caddr
  out_first : getMrHaEntryByCaddr (node .mr).bulist c.ha.caddr = some c.ha
  home_outside : getEntryByPrefix (node .mrHa).bulist (prefixOf c.home.addr) = none
  haddr_outside : getEntryByHaddr (node .mrHa).bulist c.home.haddr = none
  dst_first : ∃ e, getEntryByHaddr (node .mnHa).bulist p.iph.daddr = some e ∧
    e.addr = (node .cn).addr
  cn_home : getEntryByType (node .cn).bulist .mnHa ≠ none

/-- `tunneling` at the node, the router, the two home agents and the correspondent, which hands
the packet to its node as it was sent, less 20 bytes. -/
def DataRoute (done : Net Role MIPV6Agent Packet) : Prop :=
  ∃ sent p₁ p₂ p₃ p₄ data,
    operate (fun a => packets (tunneling a p)) .mn ⟨node, []⟩ = .ok sent ∧
    Route (destNode owner) receive sent [(.mr, p₁), (.mrHa, p₂), (.mnHa, p₃), (.cn, p₄)] done ∧
    data ∈ done.flight ∧ data.iph.daddr = (node .cn).addr ∧ data.iph.dport = p.iph.dport ∧
    data.tunnels = [] ∧ data.cmn.size = p.cmn.size - 20 ∧ data.cmn.ptype = .udp ∧ data.mh = p.mh

/-- The correspondent has no entry for the router's home agent, nor for the care-of address. -/
def CnUnknown : Prop :=
  getEntryByAddr (node .cn).bulist (node .mrHa).addr = none ∧
    getEntryByCaddr (node .cn).bulist (c.coa node) = none

def isBu (p : Packet) : Bool := p.cmn.ptype == .nemo && p.nh.type == .bu

/-- The correspondent has a new entry for the node, and has sent one update, in a tunnel, to
it. -/
def Announced (done : Net Role MIPV6Agent Packet) : Prop :=
  ∃ e bu t, (done.node .cn).bulist = e :: (node .cn).bulist ∧ e.addr = (node .mrHa).addr ∧
    e.caddr = c.coa node ∧ done.flight.filter isBu = [bu] ∧ bu.tunnels = [t] ∧
    t.daddr = c.coa node

/-- The packet is delivered, and if `new` holds the correspondent announces itself to the node. -/
def DataTransparent (new : Prop) : Prop :=
  ∃ done, DataRoute owner node p done ∧ (new → Announced c node done)

/-- Registering a node leaves the entries of home agents. -/
theorem getEntryByType_registration {l : List BUEntry} (p : Packet)
    (h : getEntryByType l .mnHa ≠ none) :
    ∃ ha, getEntryByType (registration l p .mn) .mnHa = some ha := by
  refine Option.ne_none_iff_exists'.1 ?_
  unfold registration
  cases getEntryByHaddr l p.nh.haddr with
  | none => simpa [getEntryByType, hasType, BUEntry.newMn] using h
  | some e =>
    intro hnone
    refine h ((find?_updateFirst_eq_none ?_ l).1 hnone)
    intro e
    rfl

/-- The NEMO header of the packet on its way: home address and care-of address of the node. -/
def Nesting.dataNh : HdrNemo := { p.nh with haddr := c.home.haddr, coa := c.home.caddr }

/-- The packet as the correspondent receives it. -/
def Nesting.atCn (dst : BUEntry) : Packet :=
  carried p (c.dataNh p) (2 * ipv6HeaderSize - 20 - ipv6HeaderSize) (node .mrHa).addr
    (node .cn).addr (node .mnHa).port [⟨c.coa node, p.iph.sport, dst.caddr, p.iph.dport⟩]

variable {c owner node p}

/-- The way to the correspondent. -/
theorem data_to_cn (hc : c.Configured owner node) (hbound : c.Bound owner node p)
    (hp : c.Data node p) (hf : c.DataForwarded node p) {dst : BUEntry}
    (hdst : getEntryByHaddr (node .mnHa).bulist p.iph.daddr = some dst)
    (haddr : dst.addr = (node .cn).addr) :
    ∃ sent p₁ p₂ p₃,
      operate (fun a => packets (tunneling a p)) .mn ⟨node, []⟩ = .ok sent ∧
      ∀ cn out, receive (node .cn) (c.atCn node p dst) = .ok (cn, out) →
        ∃ done, Route (destNode owner) receive sent
          [(.mr, p₁), (.mrHa, p₂), (.mnHa, p₃), (.cn, c.atCn node p dst)] done ∧
          done.node .cn = cn ∧ done.flight = out := by
  obtain ⟨f, hface, hlive⟩ := hc.ha_live
  obtain ⟨b, hb, hbface, hbcaddr⟩ := hf.bound_first
  obtain ⟨g, hg, hgiface⟩ := eface_of_onIface (List.find?_some hc.home_iface)
  have hsrc : p.iph.saddr = ifaceAddress (node .mn) g := by
    rw [hp.source, ifaceAddress, hgiface, Nesting.coa]
  have h₀ := tunneling_mn hc.type_mn (hc.mrBsDaddr .mn) hbound.home_first hg hsrc hp.unknown
    hp.tunnels
  rw [hp.source, hc.coa_prefix] at h₀
  let inner : Tunnel := ⟨c.coa node, p.iph.sport, p.iph.daddr, p.iph.dport⟩
  let extra : ℤ := 2 * ipv6HeaderSize - 20
  let p₁ := carried p (c.dataNh p) extra (c.coa node) c.pre (node .mn).port
    [⟨c.coa node, p.iph.sport, c.home.addr, (node .mn).port⟩, inner]
  let p₂ := carried p (c.dataNh p) extra c.ha.haddr c.ha.addr (node .mr).port
    [⟨c.ha.haddr, p.iph.sport, c.home.addr, (node .mn).port⟩, inner]
  let p₃ := carried p (c.dataNh p) extra (node .mrHa).addr c.home.addr (node .mrHa).port
    [⟨c.ha.haddr, p.iph.sport, c.home.addr, (node .mn).port⟩, inner]
  have h₁ : receive (node .mr) p₁ = .ok (node .mr, [p₂]) := by
    rw [receive_carried _ hp.ptype]
    refine tunneling_mr hc.type_mr (hc.expMr .mr) hc.home_unknown hb (hbface.trans hface) ?_ ?_
      hface
    · rw [hbcaddr, hlive]
    · rw [hbcaddr, hf.out_first]
  have h₂ : receive (node .mrHa) p₂ = .ok (node .mrHa, [p₃]) := by
    rw [receive_carried _ hp.ptype]
    exact tunneling_mrHa hc.type_mrHa hf.home_outside hf.haddr_outside hc.home_ne_mrHa
  have h₃ : receive (node .mnHa) p₃ = .ok (node .mnHa, [c.atCn node p dst]) := by
    rw [receive_carried _ hp.ptype, Nesting.atCn, ← haddr]
    exact tunneling_mnHa hc.type_mnHa hdst
  have hto_mrHa : owner c.ha.addr = some .mrHa := by rw [hc.ha_addr, hc.owner_mrHa]
  have hto_mnHa : owner c.home.addr = some .mnHa := by rw [hc.home_addr, hc.owner_mnHa]
  refine ⟨_, p₁, p₂, p₃, operate_ok h₀, ?_⟩
  intro cn out h₄
  exact ⟨_, Route.cons hc.owner_pre h₁ (Route.cons hto_mrHa h₂ (Route.cons hto_mnHa h₃
    (Route.cons hbound.owner_cn h₄ rfl))), rfl, rfl⟩

/-- The packet as the correspondent delivers it. -/
def Nesting.delivered (c : Nesting) (node : Role → MIPV6Agent) (p : Packet) : Packet :=
  cnDelivered (node .cn) p (c.dataNh p) (2 * ipv6HeaderSize - 20 - ipv6HeaderSize)
    (node .mrHa).addr p.iph.dport

theorem Nesting.delivered_size : (c.delivered node p).cmn.size = p.cmn.size - 20 := by
  simp only [Nesting.delivered, cnDelivered, carried]
  ring

/-- The correspondent knows the node or the router's home agent. -/
theorem hop_cn_known (hc : c.Configured owner node) (hb : c.Bound owner node p)
    (hp : c.Data node p) (dst : BUEntry) (hknown : ¬ CnUnknown c node) :
    receive (node .cn) (c.atCn node p dst) = .ok (node .cn, [c.delivered node p]) := by
  rw [CnUnknown, not_and_or] at hknown
  rw [Nesting.atCn, receive_carried _ hp.ptype]
  exact tunneling_cn_known hb.type_cn (hc.expMr .cn) hknown

/-- The correspondent knows neither. -/
theorem hop_cn_new (hc : c.Configured owner node) (hb : c.Bound owner node p)
    (hp : c.Data node p) (hf : c.DataForwarded node p) (dst : BUEntry)
    (hnew : CnUnknown c node) :
    ∃ l haddr, receive (node .cn) (c.atCn node p dst) =
        .ok ({ node .cn with bulist := l },
          [cnBuToMn (node .cn) haddr (c.coa node) (node .mrHa).addr, c.delivered node p]) ∧
      (getEntryByHaddr (node .cn).bulist c.home.haddr = none →
        ∃ e, l = e :: (node .cn).bulist ∧ e.addr = (node .mrHa).addr ∧ e.caddr = c.coa node) := by
  let inner := carried p (c.dataNh p)
    (2 * ipv6HeaderSize - 20 - ipv6HeaderSize - ipv6HeaderSize) (node .mrHa).addr dst.caddr
    p.iph.dport []
  obtain ⟨ha, hha⟩ := getEntryByType_registration inner hf.cn_home
  refine ⟨registration (node .cn).bulist inner .mn, ha.haddr, ?_, ?_⟩
  · rw [Nesting.atCn, receive_carried _ hp.ptype]
    exact tunneling_cn_new hb.type_cn (hc.expMr .cn) hnew.1 hnew.2 rfl hha
  · intro hhaddr
    have hreg : registration (node .cn).bulist inner .mn =
        BUEntry.newMn inner :: (node .cn).bulist := by
      have hnone : getEntryByHaddr (node .cn).bulist inner.nh.haddr = none := hhaddr
      simp only [registration, hnone]
    exact ⟨_, hreg, rfl, hb.home_caddr⟩

/-- Data of a nested mobile node is delivered as it was sent, and a correspondent that does not
know the node learns where it is. -/
theorem data_delivered (hc : c.Configured owner node) (hb : c.Bound owner node p)
    (hp : c.Data node p) (hf : c.DataForwarded node p) :
    DataTransparent c owner node p
      (CnUnknown c node ∧ getEntryByHaddr (node .cn).bulist c.home.haddr = none) := by
  obtain ⟨dst, hdst, haddr⟩ := hf.dst_first
  obtain ⟨sent, p₁, p₂, p₃, hsent, hroute⟩ := data_to_cn hc hb hp hf hdst haddr
  by_cases hnew : CnUnknown c node
  · obtain ⟨l, h, hcn, hentry⟩ := hop_cn_new hc hb hp hf dst hnew
    obtain ⟨done, hdone, hnode, hflight⟩ := hroute _ _ hcn
    refine ⟨done, ⟨sent, p₁, p₂, p₃, _, c.delivered node p, hsent, hdone, ?_, rfl, rfl, rfl,
      Nesting.delivered_size, hp.ptype, rfl⟩, ?_⟩
    · simp [hflight]
    · rintro ⟨-, hhaddr⟩
      obtain ⟨e, rfl, he, he'⟩ := hentry hhaddr
      have hdata : isBu (c.delivered node p) = false := by
        simp [isBu, Nesting.delivered, cnDelivered, carried, hp.ptype]
      refine ⟨e, cnBuToMn (node .cn) h (c.coa node) (node .mrHa).addr, _, by rw [hnode], he, he',
        ?_, rfl, rfl⟩
      rw [hflight, List.filter_cons_of_pos rfl]
      simp [hdata]
  · obtain ⟨done, hdone, -, hflight⟩ := hroute _ _ (hop_cn_known hc hb hp dst hnew)
    refine ⟨done, ⟨sent, p₁, p₂, p₃, _, c.delivered node p, hsent, hdone, ?_, rfl, rfl, rfl,
      Nesting.delivered_size, hp.ptype, rfl⟩, ?_⟩
    · simp [hflight]
    · rintro ⟨hnew', -⟩
      exact absurd hnew' hnew

/-! ### A sample of the data path -/

/-- The entry of the node at the router, bound to the care-of address `2.0.1`. -/
def sampleBoundNode : BUEntry :=
  { type := .mn, addr := str2addr 6 0 2, haddr := str2addr 5 0 1, caddr := str2addr 2 0 1
    eface := some { iface := 1, addr := str2addr 6 0 0, port := 2 } }

/-- The entry of the correspondent `1.0.0` at the node's home agent. -/
def sampleCnEntry : BUEntry :=
  { type := .mn, addr := str2addr 1 0 0, haddr := str2addr 1 0 0, caddr := str2addr 1 0 0 }

/-- The entry of the correspondent for its own home agent. -/
def sampleCnHome : BUEntry :=
  { type := .mnHa, addr := str2addr 5 0 0, haddr := str2addr 1 0 0, caddr := str2addr 1 0 0 }

/-- The agents with the node bound at its router. -/
def sampleDataNode (homeAgent : Addr) (mrFront mrHaFront mnHaFront cn : List BUEntry) :
    Role → MIPV6Agent :=
  sampleNode homeAgent (mrFront ++ [sampleBoundNode]) mrHaFront (mnHaFront ++ [sampleCnEntry]) cn

/-- Data of the node for port 9 of `1.0.0`. -/
def sampleNodePacket : Packet :=
  { cmn := { ptype := .udp, size := 100 }
    iph := { saddr := str2addr 6 0 2, sport := 7, daddr := str2addr 1 0 0, dport := 9 } }

theorem sampleDataNode_bound {homeAgent : Addr} {mrFront mrHaFront mnHaFront cn : List BUEntry}
    (hcn : str2addr 1 0 0 ≠ homeAgent) :
    (sampleNesting homeAgent).Bound (sampleOwner homeAgent)
      (sampleDataNode homeAgent mrFront mrHaFront mnHaFront cn) sampleNodePacket where
  type_cn := rfl
  owner_cn := by
    show sampleOwner homeAgent (str2addr 1 0 0) = some .cn
    rw [sampleOwner, if_neg (by decide), if_neg (by decide), if_neg hcn, if_neg (by decide),
      if_pos rfl]
  home_first := rfl
  home_caddr := rfl
  bound := ⟨sampleBoundNode, by simp [sampleDataNode, sampleNode], rfl, rfl, rfl⟩
  dst := ⟨sampleCnEntry, by simp [sampleDataNode, sampleNode], rfl, rfl⟩

theorem sampleNodePacket_data {homeAgent : Addr} {mrFront mrHaFront mnHaFront cn : List BUEntry} :
    (sampleNesting homeAgent).Data (sampleDataNode homeAgent mrFront mrHaFront mnHaFront cn)
      sampleNodePacket :=
  ⟨rfl, rfl, rfl, rfl⟩

theorem data_delivered_sample :
    DataTransparent (sampleNesting (str2addr 5 0 0)) (sampleOwner (str2addr 5 0 0))
      (sampleDataNode (str2addr 5 0 0) [] [] [] [sampleCnHome]) sampleNodePacket
      (CnUnknown (sampleNesting (str2addr 5 0 0))
          (sampleDataNode (str2addr 5 0 0) [] [] [] [sampleCnHome]) ∧
        getEntryByHaddr [sampleCnHome] (str2addr 5 0 1) = none) := by
  refine data_delivered (sampleNesting_configured rfl (by decide) (by decide) rfl)
    (sampleDataNode_bound (by decide)) sampleNodePacket_data ?_
  exact ⟨⟨_, rfl, rfl, rfl⟩, rfl, rfl, rfl, ⟨_, rfl, rfl⟩, by decide⟩

/-- Data of the node is lost in a configuration. -/
def DataFails (homeAgent : Addr) (mrFront mrHaFront mnHaFront cn : List BUEntry) : Prop :=
  let c := sampleNesting homeAgent
  let owner := sampleOwner homeAgent
  let node := sampleDataNode homeAgent mrFront mrHaFront mnHaFront cn
  c.Configured owner node ∧ c.Bound owner node sampleNodePacket ∧ c.Data node sampleNodePacket ∧
    ¬ DataTransparent c owner node sampleNodePacket (CnUnknown c node)

/-- What is in flight after `k` hops is not for the next station of the data path. -/
theorem not_dataTransparent {c : Nesting} {owner : Addr → Option Role} {node : Role → MIPV6Agent}
    {p : Packet} {new : Prop} (k : ℕ) (r : Role) (hk : [Role.mr, .mrHa, .mnHa, .cn][k]? = some r)
    (hne : destinations (tunneling · p) owner node k ≠ .ok [some r]) :
    ¬ DataTransparent c owner node p new := by
  rintro ⟨done, ⟨sent, p₁, p₂, p₃, p₄, data, hsend, hroute, -⟩, -⟩
  exact hne (destinations_of_route hsend hroute hk)

/-- The last hop aborts. -/
theorem not_dataTransparent_of_abort {c : Nesting} {owner : Addr → Option Role}
    {node : Role → MIPV6Agent} {p : Packet} {new : Prop} {e : Abort}
    (h : destinations (tunneling · p) owner node 4 = .error e) :
    ¬ DataTransparent c owner node p new := by
  rintro ⟨done, ⟨sent, p₁, p₂, p₃, p₄, data, hsend, hroute, -⟩, -⟩
  have hrun : runSteps (deliver (destNode owner) receive) sent [0, 0, 0, 0] = .ok done :=
    hroute.run
  simp only [destinations, hsend, ok_bind, List.replicate, hrun] at h
  cases h

/-- The packet goes to the router of a mobile network when the node's home agent is inside of one
or the node's home address is that of a router, and elsewhere when another entry comes first: at
the router for the care-of address or for the node, or at the node's home agent for the
destination.  A correspondent without an entry for its home agent aborts. -/
theorem data_lost :
    DataFails (str2addr 7 0 5) [] [sampleOtherMr (str2addr 4 0 2) (str2addr 7 0 0)] []
      [sampleCnHome] ∧
    DataFails (str2addr 5 0 0) [] [sampleOtherMr (str2addr 5 0 1) (str2addr 7 0 0)] []
      [sampleCnHome] ∧
    DataFails (str2addr 5 0 0) [sampleOtherHa (str2addr 2 0 1)] [] [] [sampleCnHome] ∧
    DataFails (str2addr 5 0 0)
      [sampleBoundNode.setCaddr (str2addr 3 0 1), sampleOtherHa (str2addr 3 0 1)] [] []
      [sampleCnHome] ∧
    DataFails (str2addr 5 0 0) [] [] [sampleCnEntry.setAddr (str2addr 3 0 0)] [sampleCnHome] ∧
    DataFails (str2addr 5 0 0) [] [] [] [] := by
  refine ⟨⟨sampleNesting_configured rfl (by decide) (by decide) rfl,
      sampleDataNode_bound (by decide), sampleNodePacket_data, ?_⟩,
    ⟨sampleNesting_configured rfl (by decide) (by decide) rfl,
      sampleDataNode_bound (by decide), sampleNodePacket_data, ?_⟩,
    ⟨sampleNesting_configured rfl (by decide) (by decide) rfl,
      sampleDataNode_bound (by decide), sampleNodePacket_data, ?_⟩,
    ⟨sampleNesting_configured rfl (by decide) (by decide) rfl,
      sampleDataNode_bound (by decide), sampleNodePacket_data, ?_⟩,
    ⟨sampleNesting_configured rfl (by decide) (by decide) rfl,
      sampleDataNode_bound (by decide), sampleNodePacket_data, ?_⟩,
    ⟨sampleNesting_configured rfl (by decide) (by decide) rfl,
      sampleDataNode_bound (by decide), sampleNodePacket_data, ?_⟩⟩
  · exact not_dataTransparent 2 .mnHa rfl (by decide)
  · exact not_dataTransparent 2 .mnHa rfl (by decide)
  · exact not_dataTransparent 1 .mrHa rfl (by decide)
  · exact not_dataTransparent 1 .mrHa rfl (by decide)
  · exact not_dataTransparent 3 .cn rfl (by decide)
  · exact not_dataTransparent_of_abort (e := .nullPointer) (by decide)

end SipNemo.Mip6
