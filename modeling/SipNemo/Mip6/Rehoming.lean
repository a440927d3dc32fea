import SipNemo.Mip6.HomeAgent

/-!
# Re-homing between home agents

When a mobile router loses the interface of one home agent, `re_homing` (`exp_` 4) tells that agent
the router's other home address and, as the source of the message, the other home agent.  The
first agent then finds a packet for the mobile network in three lookups: the prefix gives an entry
whose care-of address is the other home address, that gives the other agent, and the other agent
gets the home address in the NEMO header.

The entry for the other home address has the prefix of the message, which is never set; with the
nemo prefix `0` it hides the entry the first lookup is for, and `rehoming_reaches_iff` says when
packets arrive all the same.
-/

namespace SipNemo.Mip6

open FirstMatch Runs

/-! ### What a router's home agent does with data -/

section Forwarding

variable {a : MIPV6Agent} {p : Packet} {t : Tunnel} {ts : List Tunnel}

/-- Where a router's home agent sends a packet for the network of `bu`. -/
def nextHop (l : List BUEntry) (bu : BUEntry) : Addr :=
  match getEntryByHaddr l bu.caddr with
  | none => bu.caddr
  | some other => other.caddr

/-- The home address that goes with it in the NEMO header, where there was `g`. -/
def nextKey (l : List BUEntry) (bu : BUEntry) (g : Addr) : Addr :=
  match getEntryByHaddr l bu.caddr with
  | none => g
  | some other => other.haddr

/-- The packet that leaves for the network of `bu`. -/
theorem toMobileNetwork_spec (a : MIPV6Agent) (outer : Addr) (bu : BUEntry) (p : Packet) :
    (toMobileNetwork a outer bu p).cmn.ptype = p.cmn.ptype ∧
      (toMobileNetwork a outer bu p).iph.daddr = nextHop a.bulist bu ∧
      (toMobileNetwork a outer bu p).nh.haddr = nextKey a.bulist bu p.nh.haddr ∧
      ∃ t ts, (toMobileNetwork a outer bu p).tunnels = t :: ts ∧ t.daddr = p.iph.daddr := by
  unfold toMobileNetwork nextHop nextKey
  by_cases hsrc : p.iph.saddr ≠ outer
  · cases getEntryByHaddr a.bulist bu.caddr with
    | none => simp [hsrc, toAgent, addTunnel, Packet.setDaddr, Packet.setDport, Packet.setSaddr]
    | some other =>
      simp [hsrc, toAgent, addTunnel, Packet.setDaddr, Packet.setDport, Packet.setSaddr]
  · cases getEntryByHaddr a.bulist bu.caddr with
    | none => simp [hsrc, toAgent, addTunnel, Packet.setDaddr, Packet.setDport]
    | some other => simp [hsrc, toAgent, addTunnel, Packet.setDaddr, Packet.setDport]

/-- A packet for a registered prefix, at the home agent of a router. -/
theorem recv_mrHa_prefix {bu : BUEntry} (htype : a.nodeType = .mrHa) (hudp : p.cmn.ptype = .udp)
    (hts : p.tunnels = t :: ts) (hbu : getEntryByPrefix a.bulist (prefixOf t.daddr) = some bu) :
    ∃ q t' ts', recv a p = .ok (a, [.send q]) ∧ q.cmn.ptype = .udp ∧
      q.iph.daddr = nextHop a.bulist bu ∧ q.nh.haddr = nextKey a.bulist bu p.nh.haddr ∧
      q.tunnels = t' :: ts' ∧ t'.daddr = t.daddr := by
  have hrecv : recv a p =
      .ok (a, [.send (toMobileNetwork a p.iph.saddr bu (p.closed t ts))]) := by
    have hpre : getEntryByPrefix a.bulist (prefixOf (p.closed t ts).iph.daddr) = some bu := hbu
    simp [recv, hudp, tunneling, htype, tunnelingMrHa, deleteTunnel_of_cons hts, hpre]
  obtain ⟨hptype, hdaddr, hkey, t', ts', htunnels, ht'⟩ :=
    toMobileNetwork_spec a p.iph.saddr bu (p.closed t ts)
  exact ⟨_, t', ts', hrecv, hptype.trans hudp, hdaddr, hkey, htunnels, ht'⟩

/-- A packet for no registered prefix goes to the care-of address of the home address in its NEMO
header, if there is one. -/
theorem recv_mrHa_haddr {b : BUEntry} (htype : a.nodeType = .mrHa) (hudp : p.cmn.ptype = .udp)
    (hts : p.tunnels = t :: ts) (hpre : getEntryByPrefix a.bulist (prefixOf t.daddr) = none)
    (hb : getEntryByHaddr a.bulist p.nh.haddr = some b) :
    ∃ q r, recv a p = .ok (a, [.send q]) ∧ q.iph.daddr = b.caddr ∧ deleteTunnel q = .ok r ∧
      r.iph.daddr = t.daddr := by
  have hpre' : getEntryByPrefix a.bulist (prefixOf (p.closed t ts).iph.daddr) = none := hpre
  have hb' : getEntryByHaddr a.bulist (p.closed t ts).nh.haddr = some b := hb
  refine ⟨(toAgent a b.caddr (addTunnel (p.closed t ts))).setSaddr a.addr, p.closed t ts, ?_, rfl,
    deleteTunnel_addTunnel _ _, rfl⟩
  simp [recv, hudp, tunneling, htype, tunnelingMrHa, deleteTunnel_of_cons hts, hpre', hb']

/-- Without one it goes where it was going. -/
theorem recv_mrHa_unknown (htype : a.nodeType = .mrHa) (hudp : p.cmn.ptype = .udp)
    (hts : p.tunnels = t :: ts) (hpre : getEntryByPrefix a.bulist (prefixOf t.daddr) = none)
    (hnone : getEntryByHaddr a.bulist p.nh.haddr = none) :
    ∃ q, recv a p = .ok (a, [.send q]) ∧ q.iph.daddr = t.daddr := by
  have hpre' : getEntryByPrefix a.bulist (prefixOf (p.closed t ts).iph.daddr) = none := hpre
  have hnone' : getEntryByHaddr a.bulist (p.closed t ts).nh.haddr = none := hnone
  refine ⟨((if (p.closed t ts).iph.daddr ≠ a.addr then addTunnel (p.closed t ts)
    else p.closed t ts).setDport a.port).setSaddr a.addr, ?_, ?_⟩
  · simp [recv, hudp, tunneling, htype, tunnelingMrHa, deleteTunnel_of_cons hts, hpre', hnone']
  · split_ifs <;> rfl

end Forwarding

/-! ### Forwarding through two home agents -/

/-- The home address `h` is bound to the care-of address `c`. -/
def BoundTo (l : List BUEntry) (h c : Addr) : Prop := (getEntryByHaddr l h).map (·.caddr) = some c

/-- `h₁` sends the packet to `h₂`, which sends it to `c`, where its destination is `d` again. -/
def ReachesVia (h₁ h₂ : MIPV6Agent) (c : Addr) (p : Packet) (d : Addr) : Prop :=
  ∃ q₁ q₂ r, recv h₁ p = .ok (h₁, [.send q₁]) ∧ q₁.iph.daddr = h₂.addr ∧
    recv h₂ q₁ = .ok (h₂, [.send q₂]) ∧ q₂.iph.daddr = c ∧
    deleteTunnel q₂ = .ok r ∧ r.iph.daddr = d

section Via

variable {h₁ h₂ : MIPV6Agent} {c : Addr} {p : Packet} {t : Tunnel} {ts : List Tunnel} {bu : BUEntry}
  (htype₁ : h₁.nodeType = .mrHa) (htype₂ : h₂.nodeType = .mrHa) (hudp : p.cmn.ptype = .udp)
  (hts : p.tunnels = t :: ts) (hbu : getEntryByPrefix h₁.bulist (prefixOf t.daddr) = some bu)
  (hpre : getEntryByPrefix h₂.bulist (prefixOf t.daddr) = none)

include htype₁ htype₂ hudp hts hbu hpre

/-- The first agent finds the second, and that the router. -/
theorem reachesVia_of_boundTo (hhop : nextHop h₁.bulist bu = h₂.addr)
    (hkey : BoundTo h₂.bulist (nextKey h₁.bulist bu p.nh.haddr) c) :
    ReachesVia h₁ h₂ c p t.daddr := by
  obtain ⟨q₁, t', ts', hrecv₁, hudp₁, hdaddr₁, hkey₁, hts₁, ht'⟩ :=
    recv_mrHa_prefix htype₁ hudp hts hbu
  obtain ⟨b, hb, rfl⟩ := Option.map_eq_some_iff.1 hkey
  rw [← hkey₁] at hb
  rw [← ht'] at hpre
  obtain ⟨q₂, r, hrecv₂, hdaddr₂, hdel, hr⟩ := recv_mrHa_haddr htype₂ hudp₁ hts₁ hpre hb
  exact ⟨q₁, q₂, r, hrecv₁, hdaddr₁.trans hhop, hrecv₂, hdaddr₂, hdel, hr.trans ht'⟩

/-- There is no other way, except for a packet to the care-of address itself. -/
theorem boundTo_of_reachesVia (hne : t.daddr ≠ c) (h : ReachesVia h₁ h₂ c p t.daddr) :
    nextHop h₁.bulist bu = h₂.addr ∧
      BoundTo h₂.bulist (nextKey h₁.bulist bu p.nh.haddr) c := by
  obtain ⟨q, t', ts', hrecv, hudp₁, hdaddr₁, hkey₁, hts₁, ht'⟩ :=
    recv_mrHa_prefix htype₁ hudp hts hbu
  obtain ⟨q₁, q₂, r, hrecv₁, hhop, hrecv₂, hcaddr, -, -⟩ := h
  rw [hrecv] at hrecv₁
  cases hrecv₁
  refine ⟨hdaddr₁.symm.trans hhop, ?_⟩
  rw [← ht'] at hpre
  rw [← hkey₁]
  cases hb : getEntryByHaddr h₂.bulist q.nh.haddr with
  | none =>
    obtain ⟨q', hq', hdaddr'⟩ := recv_mrHa_unknown htype₂ hudp₁ hts₁ hpre hb
    rw [hq'] at hrecv₂
    cases hrecv₂
    exact absurd (ht'.symm.trans (hdaddr'.symm.trans hcaddr)) hne
  | some b =>
    obtain ⟨q', r', hq', hdaddr', -⟩ := recv_mrHa_haddr htype₂ hudp₁ hts₁ hpre hb
    rw [hq'] at hrecv₂
    cases hrecv₂
    rw [BoundTo, hb, Option.map_some, ← hdaddr', hcaddr]

end Via

/-! ### Re-homing -/

/-- A router with two home agents that loses the interface of `lost`: its entries `lost` and `new`
are registered as `reg₁` at the home agent `h₁` and as `reg₂` at `h₂`. -/
structure RehomingSetup (mr h₁ h₂ : MIPV6Agent) (iface : NodeId) (lost new reg₁ reg₂ : BUEntry) :
    Prop where
  exp : mr.exp = 4
  expMr : mr.expMr = 0
  type₁ : h₁.nodeType = .mrHa
  type₂ : h₂.nodeType = .mrHa
  lost_iface : getMrHaEntryByIface mr.bulist iface = some lost
  new_iface : getMrHaEntryWithoutIface mr.bulist iface = some new
  -- `re_homing` asserts that there is a node to re-home
  node : getEntryByType mr.bulist .mn ≠ none
  addr₁ : lost.addr = h₁.addr
  addr₂ : new.addr = h₂.addr
  haddr_ne : lost.haddr ≠ new.haddr
  reg₁_haddr : getEntryByHaddr h₁.bulist lost.haddr = some reg₁
  reg₁_prefix : getEntryByPrefix h₁.bulist lost.nemoPrefix = some reg₁
  unknown₁ : getEntryByHaddr h₁.bulist new.haddr = none
  reg₂_haddr : getEntryByHaddr h₂.bulist new.haddr = some reg₂
  reg₂_caddr : reg₂.caddr = new.caddr
  unknown₂ : getEntryByPrefix h₂.bulist lost.nemoPrefix = none

/-- After `re_homing` at the router and the delivery of its message, every data packet that comes
to `h₁` for the mobile network of `lost` reaches the care-of address of `new` through `h₂`. -/
def RehomingReaches (mr h₁ h₂ : MIPV6Agent) (iface : NodeId) (lost new : BUEntry) : Prop :=
  ∃ mr' f r h₁', reHoming mr iface = .ok (mr', [.via f r]) ∧ r.iph.daddr = h₁.addr ∧
    recv h₁ r = .ok (h₁', []) ∧
    ∀ p t ts, p.cmn.ptype = .udp → p.iph.daddr = h₁.addr → p.tunnels = t :: ts →
      prefixOf t.daddr = lost.nemoPrefix → ReachesVia h₁' h₂ new.caddr p t.daddr

/-- The entry that the re-homing message creates. -/
def rehomedEntry (new : BUEntry) : BUEntry :=
  { type := .mr, haddr := new.haddr, caddr := new.addr, nemoPrefix := 0 }

/-- The list of the home agent after the re-homing message. -/
def rehomedTo (l : List BUEntry) (lost new : BUEntry) : List BUEntry :=
  rehomedEntry new :: updateFirst (hasHaddr lost.haddr) (·.setCaddr new.haddr) l

section Lookups

variable (l : List BUEntry) (lost new : BUEntry)

theorem rehomedTo_new :
    getEntryByHaddr (rehomedTo l lost new) new.haddr = some (rehomedEntry new) :=
  getEntryByHaddr_cons_self (rehomedEntry new) _

theorem rehomedTo_lost (hne : new.haddr ≠ lost.haddr) :
    getEntryByHaddr (rehomedTo l lost new) lost.haddr =
      (getEntryByHaddr l lost.haddr).map (·.setCaddr new.haddr) := by
  rw [rehomedTo, getEntryByHaddr_cons_of_ne (e := rehomedEntry new) hne,
    getEntryByHaddr_setCaddr_self]

theorem rehomedTo_other {h : Addr} (hnew : new.haddr ≠ h) (hlost : lost.haddr ≠ h) :
    getEntryByHaddr (rehomedTo l lost new) h = getEntryByHaddr l h := by
  rw [rehomedTo, getEntryByHaddr_cons_of_ne (e := rehomedEntry new) hnew]
  refine getEntryByHaddr_updateFirst_of_ne hlost ?_ l
  intro e
  rfl

end Lookups

section Setup

variable {mr h₁ h₂ : MIPV6Agent} {iface : NodeId} {lost new reg₁ reg₂ : BUEntry}
  (hs : RehomingSetup mr h₁ h₂ iface lost new reg₁ reg₂)

include hs

/-- What the router sends. -/
theorem RehomingSetup.reHoming_eq :
    ∃ mr' f, reHoming mr iface = .ok (mr', [.via f (rehomeMessage mr lost new)]) := by
  obtain ⟨mn, hmn⟩ := Option.ne_none_iff_exists'.1 hs.node
  have hoff : isMrHaOffIface iface new = true := List.find?_some hs.new_iface
  obtain ⟨f, hf⟩ : ∃ f, new.eface = some f := by
    cases hef : new.eface with
    | none => simp [isMrHaOffIface, offIface, hef] at hoff
    | some f => exact ⟨f, rfl⟩
  refine ⟨{ mr with bulist := updateFirst (hasType .mn) (·.setCaddr new.caddr) mr.bulist }, f, ?_⟩
  simp [reHoming, hs.expMr, reHomingHomeAgent, hs.lost_iface, hs.new_iface, hmn, hf, hs.exp,
    rehomeMessage, buMessage]

/-- What the home agent makes of it. -/
theorem RehomingSetup.recv_eq :
    recv h₁ (rehomeMessage mr lost new) =
      .ok ({ h₁ with bulist := rehomedTo h₁.bulist lost new }, []) := by
  let message := buMessage mr (buHeader .rehome lost.haddr new.haddr 0) new.addr lost.addr
  have hdel : deleteTunnel (rehomeMessage mr lost new) = .ok message :=
    deleteTunnel_addTunnel message { message.iph with saddr := new.caddr }
  have hunknown : getEntryByHaddr
      (updateFirst (hasHaddr lost.haddr) (·.setCaddr new.haddr) h₁.bulist) new.haddr = none := by
    rw [getEntryByHaddr_updateFirst_of_ne hs.haddr_ne, hs.unknown₁]
    intro e
    rfl
  have hrehome : rehome h₁.bulist message = .ok (rehomedTo h₁.bulist lost new) := by
    simp [rehome, message, buMessage, buHeader, hs.reg₁_haddr, registration, hunknown, rehomedTo,
      rehomedEntry, BUEntry.newMr]
  have hrecv : recv h₁ (rehomeMessage mr lost new) =
      mrHaRecvRehome h₁ (rehomeMessage mr lost new) := by
    simp [recv, recvNemo, recvNemoMrHa, hs.type₁, rehomeMessage, addTunnel, Packet.setSaddr,
      buMessage, buHeader]
  rw [hrecv, mrHaRecvRehome, hdel, ok_bind, hrehome]
  rfl

/-- The property is one of the list after the re-homing message. -/
theorem RehomingSetup.reaches_iff :
    RehomingReaches mr h₁ h₂ iface lost new ↔
      ∀ p t ts, p.cmn.ptype = .udp → p.iph.daddr = h₁.addr → p.tunnels = t :: ts →
        prefixOf t.daddr = lost.nemoPrefix →
        ReachesVia { h₁ with bulist := rehomedTo h₁.bulist lost new } h₂ new.caddr p t.daddr := by
  obtain ⟨mr', f, hsend⟩ := hs.reHoming_eq
  constructor
  · rintro ⟨mr'', f', r, h₁', hsend', -, hrecv, hall⟩
    rw [hsend] at hsend'
    cases hsend'
    rw [hs.recv_eq] at hrecv
    cases hrecv
    exact hall
  · intro hall
    exact ⟨mr', f, _, _, hsend, hs.addr₁, hs.recv_eq, hall⟩

/-- With another prefix than `0` the first lookup gives the entry of the router. -/
theorem RehomingSetup.prefix_ne_zero (hpre : lost.nemoPrefix ≠ 0) :
    getEntryByPrefix (rehomedTo h₁.bulist lost new) lost.nemoPrefix =
      some (reg₁.setCaddr new.haddr) := by
  have hskip : getEntryByPrefix (rehomedTo h₁.bulist lost new) lost.nemoPrefix =
      (updateFirst (hasHaddr lost.haddr) (·.setCaddr new.haddr) h₁.bulist).find?
        (hasPrefix lost.nemoPrefix) := by
    have hfirst : hasPrefix lost.nemoPrefix (rehomedEntry new) = false :=
      beq_eq_false_iff_ne.2 (Ne.symm hpre)
    rw [getEntryByPrefix, rehomedTo, List.find?_cons, hfirst]
  rw [hskip]
  refine find?_updateFirst_of_same ?_ hs.reg₁_haddr hs.reg₁_prefix
  intro e
  rfl

/-- The second lookup gives the entry of the other home address. -/
theorem RehomingSetup.other_found :
    nextHop (rehomedTo h₁.bulist lost new) (reg₁.setCaddr new.haddr) = h₂.addr ∧
      ∀ g, nextKey (rehomedTo h₁.bulist lost new) (reg₁.setCaddr new.haddr) g = new.haddr := by
  constructor
  · simp [nextHop, rehomedTo_new, rehomedEntry, hs.addr₂]
  · intro g
    simp [nextKey, rehomedTo_new, rehomedEntry]

/-- The other home agent knows its home address. -/
theorem RehomingSetup.boundTo : BoundTo h₂.bulist new.haddr new.caddr := by
  rw [BoundTo, hs.reg₂_haddr, Option.map_some, hs.reg₂_caddr]

/-- When the first lookup gives the new entry, the second looks for the address of the other home
agent as if it were a home address. -/
theorem RehomingSetup.address_found (g : Addr) :
    (nextHop (rehomedTo h₁.bulist lost new) (rehomedEntry new) = h₂.addr ∧
        BoundTo h₂.bulist (nextKey (rehomedTo h₁.bulist lost new) (rehomedEntry new) g)
          new.caddr) ↔
      new.haddr = h₂.addr ∨
      (lost.haddr ≠ h₂.addr ∧ BoundTo h₁.bulist h₂.addr h₂.addr ∧
        BoundTo h₂.bulist h₂.addr new.caddr) ∨
      (getEntryByHaddr h₁.bulist h₂.addr = none ∧ BoundTo h₂.bulist g new.caddr) := by
  have hcaddr : (rehomedEntry new).caddr = h₂.addr := hs.addr₂
  unfold nextHop nextKey
  rw [hcaddr]
  by_cases hnew : new.haddr = h₂.addr
  · have hbound := hs.boundTo
    have hfound := rehomedTo_new h₁.bulist lost new
    rw [hnew] at hfound hbound
    simp [hfound, hnew, rehomedEntry, hbound, hs.addr₂]
  · by_cases hlost : lost.haddr = h₂.addr
    · -- the entry of the lost home address now has the other one as its care-of address
      have hknown := hs.reg₁_haddr
      have hfound := rehomedTo_lost h₁.bulist lost new hs.haddr_ne.symm
      rw [hknown, hlost] at hfound
      rw [hlost] at hknown
      simp [hfound, hnew, hlost, hknown]
    · rw [rehomedTo_other h₁.bulist lost new hnew hlost]
      cases ho : getEntryByHaddr h₁.bulist h₂.addr with
      | none => simp [hnew, BoundTo, ho]
      | some o =>
        have hhaddr : o.haddr = h₂.addr := by simpa [hasHaddr] using List.find?_some ho
        simp [hnew, hlost, BoundTo, ho, hhaddr]

end Setup

/-- The address of the other home agent, looked up as a home address, leads to the router: because
it is the router's home address there, or because both agents have an entry for it that does, or
because nothing is found at the first agent and every home address leads there at the second. -/
def FoundByAddress (h₁ h₂ : MIPV6Agent) (lost new : BUEntry) : Prop :=
  new.haddr = h₂.addr ∨
  (lost.haddr ≠ h₂.addr ∧ BoundTo h₁.bulist h₂.addr h₂.addr ∧
    BoundTo h₂.bulist h₂.addr new.caddr) ∨
  (getEntryByHaddr h₁.bulist h₂.addr = none ∧ ∀ g, BoundTo h₂.bulist g new.caddr)

/-- A data packet at `h₁` for the destination `d` with the home address `g` in its header. -/
def tunnelled (h₁ : MIPV6Agent) (d g : Addr) : Packet :=
  { iph := { daddr := h₁.addr }, nh := { haddr := g }, tunnels := [⟨0, 0, d, 0⟩] }

/-- The prefix `0` has two addresses, so one that is not `c`. -/
theorem exists_prefix_zero_ne (c : Addr) : ∃ d, prefixOf d = 0 ∧ d ≠ c := by
  by_cases hc : c = 0
  · refine ⟨1, by decide, ?_⟩
    rw [hc]
    decide
  · exact ⟨0, by decide, Ne.symm hc⟩

/-- Packets with the prefix `0` arrive exactly when the address of the other home agent leads to
the router. -/
theorem RehomingSetup.reaches_zero {mr h₁ h₂ : MIPV6Agent} {iface : NodeId}
    {lost new reg₁ reg₂ : BUEntry} (hs : RehomingSetup mr h₁ h₂ iface lost new reg₁ reg₂)
    (hzero : lost.nemoPrefix = 0) :
    RehomingReaches mr h₁ h₂ iface lost new ↔ FoundByAddress h₁ h₂ lost new := by
  have hfirst : getEntryByPrefix (rehomedTo h₁.bulist lost new) 0 = some (rehomedEntry new) := rfl
  have hunknown := hs.unknown₂
  rw [hzero] at hunknown
  have hall : RehomingReaches mr h₁ h₂ iface lost new ↔
      ∀ g, nextHop (rehomedTo h₁.bulist lost new) (rehomedEntry new) = h₂.addr ∧
        BoundTo h₂.bulist (nextKey (rehomedTo h₁.bulist lost new) (rehomedEntry new) g)
          new.caddr := by
    rw [hs.reaches_iff, hzero]
    constructor
    · intro h g
      obtain ⟨d, hd, hne⟩ := exists_prefix_zero_ne new.caddr
      have hreach := h (tunnelled h₁ d g) _ _ rfl rfl rfl hd
      have htype : ({ h₁ with bulist := rehomedTo h₁.bulist lost new } : MIPV6Agent).nodeType =
        .mrHa := hs.type₁
      exact boundTo_of_reachesVia htype hs.type₂ rfl rfl (hd ▸ hfirst) (hd ▸ hunknown) hne hreach
    · intro h p t ts hudp _ hts ht
      obtain ⟨hhop, hkey⟩ := h p.nh.haddr
      exact reachesVia_of_boundTo hs.type₁ hs.type₂ hudp hts (ht ▸ hfirst) (ht ▸ hunknown) hhop
        hkey
  rw [hall]
  simp only [hs.address_found, FoundByAddress, forall_or_left, forall_and, forall_const]

/-- With another prefix packets always arrive. -/
theorem RehomingSetup.reaches_of_ne_zero {mr h₁ h₂ : MIPV6Agent} {iface : NodeId}
    {lost new reg₁ reg₂ : BUEntry} (hs : RehomingSetup mr h₁ h₂ iface lost new reg₁ reg₂)
    (hpre : lost.nemoPrefix ≠ 0) : RehomingReaches mr h₁ h₂ iface lost new := by
  rw [hs.reaches_iff]
  intro p t ts hudp _ hts ht
  have hfirst := hs.prefix_ne_zero hpre
  have hunknown := hs.unknown₂
  rw [← ht] at hfirst hunknown
  obtain ⟨hhop, hkey⟩ := hs.other_found
  refine reachesVia_of_boundTo hs.type₁ hs.type₂ hudp hts hfirst hunknown hhop ?_
  rw [hkey]
  exact hs.boundTo

/-- Re-homing keeps the mobile network reachable for every nemo prefix but `0`, and for that one
when the address of the other home agent happens to lead to the router. -/
theorem rehoming_reaches_iff {mr h₁ h₂ : MIPV6Agent} {iface : NodeId}
    {lost new reg₁ reg₂ : BUEntry} (hs : RehomingSetup mr h₁ h₂ iface lost new reg₁ reg₂) :
    RehomingReaches mr h₁ h₂ iface lost new ↔
      lost.nemoPrefix ≠ 0 ∨ FoundByAddress h₁ h₂ lost new := by
  by_cases hzero : lost.nemoPrefix = 0
  · rw [hs.reaches_zero hzero]
    simp [hzero]
  · exact ⟨fun _ => Or.inl hzero, fun _ => hs.reaches_of_ne_zero hzero⟩

/-! ### A sample -/

/-- The entry of a router for its home agent `d.0.0` and the external interface `d`. -/
def sampleRouterHa (d : ℕ) (pre caddr : Addr) : BUEntry :=
  { type := .mrHa, addr := str2addr d 0 0, haddr := str2addr d 0 1, caddr := caddr
    nemoPrefix := pre
    eface := some { iface := d, addr := caddr, port := 1 }
    iface := some { iface := 0, addr := pre, port := 2 } }

/-- The registration of that entry. -/
def sampleRegistered (d : ℕ) (pre caddr : Addr) : BUEntry :=
  { type := .mr, haddr := str2addr d 0 1, caddr := caddr, nemoPrefix := pre }

/-- A router with the home agents `4.0.0` and `7.0.0` and a node in the network `pre` of the
first. -/
def sampleTwoHomed (pre : Addr) : MIPV6Agent :=
  { nodeType := .mr, exp := 4
    bulist :=
      [{ type := .mn, haddr := str2addr 5 0 1 }, sampleRouterHa 4 pre (str2addr 2 0 1),
        sampleRouterHa 7 (str2addr 8 0 0) (str2addr 3 0 1)] }

/-- The home agent `d.0.0` with that registration. -/
def sampleHomeOf (d : ℕ) (pre caddr : Addr) : MIPV6Agent :=
  { nodeType := .mrHa, addr := str2addr d 0 0, bulist := [sampleRegistered d pre caddr] }

theorem sampleTwoHomed_setup {pre : Addr} (hpre : str2addr 8 0 0 ≠ pre) :
    RehomingSetup (sampleTwoHomed pre) (sampleHomeOf 4 pre (str2addr 2 0 1))
      (sampleHomeOf 7 (str2addr 8 0 0) (str2addr 3 0 1)) 4 (sampleRouterHa 4 pre (str2addr 2 0 1))
      (sampleRouterHa 7 (str2addr 8 0 0) (str2addr 3 0 1)) (sampleRegistered 4 pre (str2addr 2 0 1))
      (sampleRegistered 7 (str2addr 8 0 0) (str2addr 3 0 1)) where
  exp := rfl
  expMr := rfl
  type₁ := rfl
  type₂ := rfl
  lost_iface := rfl
  new_iface := rfl
  node := by simp [getEntryByType, sampleTwoHomed, hasType]
  addr₁ := rfl
  addr₂ := rfl
  haddr_ne := show str2addr 4 0 1 ≠ str2addr 7 0 1 by decide
  reg₁_haddr := rfl
  reg₁_prefix := by
    simp [getEntryByPrefix, sampleHomeOf, sampleRegistered, sampleRouterHa, hasPrefix]
  unknown₁ := rfl
  reg₂_haddr := rfl
  reg₂_caddr := rfl
  unknown₂ := by
    simp [getEntryByPrefix, sampleHomeOf, sampleRegistered, sampleRouterHa, hasPrefix, hpre]

theorem rehoming_reaches_iff_sample :
    RehomingReaches (sampleTwoHomed (str2addr 6 0 0))
      (sampleHomeOf 4 (str2addr 6 0 0) (str2addr 2 0 1))
      (sampleHomeOf 7 (str2addr 8 0 0) (str2addr 3 0 1)) 4
      (sampleRouterHa 4 (str2addr 6 0 0) (str2addr 2 0 1))
      (sampleRouterHa 7 (str2addr 8 0 0) (str2addr 3 0 1)) :=
  (rehoming_reaches_iff (sampleTwoHomed_setup (by decide))).2 (Or.inl (by decide))

/-- With the nemo prefix `0.0.0` the second home agent does not find the router. -/
theorem rehoming_loses_prefix_zero :
    ∃ reg₁ reg₂, RehomingSetup (sampleTwoHomed 0) (sampleHomeOf 4 0 (str2addr 2 0 1))
        (sampleHomeOf 7 (str2addr 8 0 0) (str2addr 3 0 1)) 4
        (sampleRouterHa 4 0 (str2addr 2 0 1))
        (sampleRouterHa 7 (str2addr 8 0 0) (str2addr 3 0 1)) reg₁ reg₂ ∧
      ¬ RehomingReaches (sampleTwoHomed 0) (sampleHomeOf 4 0 (str2addr 2 0 1))
        (sampleHomeOf 7 (str2addr 8 0 0) (str2addr 3 0 1)) 4
        (sampleRouterHa 4 0 (str2addr 2 0 1))
        (sampleRouterHa 7 (str2addr 8 0 0) (str2addr 3 0 1)) := by
  have hs := sampleTwoHomed_setup (show str2addr 8 0 0 ≠ 0 by decide)
  refine ⟨_, _, hs, ?_⟩
  rw [hs.reaches_zero rfl]
  rintro (haddr | ⟨-, hbound, -⟩ | ⟨-, hall⟩)
  · exact absurd haddr (show str2addr 7 0 1 ≠ str2addr 7 0 0 by decide)
  · cases hbound
  · cases hall (str2addr 5 0 1)

end SipNemo.Mip6
