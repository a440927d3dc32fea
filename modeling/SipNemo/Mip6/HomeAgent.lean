import SipNemo.Lib.Registry
import SipNemo.Mip6.Tunneling

/-!
# Home agents

Two questions about what a home agent remembers of the messages it has received.

* A node's home agent serves a home address from one entry, of which `registration` writes the
  address once and the care-of address every time.  The list is a registry that keeps the first
  source (`bindings_registration`), and `homeAgent_uses_latest_iff` says for which packets that is
  the latest binding.
* A router's home agent looks nemo prefixes up.  Re-homing messages carry none, so that the
  entries they create have the prefix `0` (`prefix_unknown_iff`).
-/

namespace SipNemo.Mip6

open FirstMatch Runs Registry

/-- One packet received. -/
def agentStep (a : MIPV6Agent) (p : Packet) : Act MIPV6Agent := (recv a p).map (·.1)

/-! ### The bindings of a node's home agent -/

/-- The bindings that a list of entries holds: where a home address is reached, and its care-of
address. -/
def bindings (l : List BUEntry) (h : Addr) : Option (Addr × Addr) :=
  (getEntryByHaddr l h).map fun e => (e.addr, e.caddr)

/-- A binding update as an update of the registry. -/
def buUpdate (p : Packet) : Update Addr Addr Addr :=
  { key := p.nh.haddr, source := p.iph.saddr, target := p.nh.coa }

/-- A binding update for a home agent. -/
def IsHomeBu (p : Packet) : Prop := p.cmn.ptype = .nemo ∧ p.nh.type = .bu ∧ p.nh.H = ON

theorem getEntryByHaddr_cons_self (e : BUEntry) (l : List BUEntry) :
    getEntryByHaddr (e :: l) e.haddr = some e := by
  simp [getEntryByHaddr, hasHaddr]

theorem getEntryByHaddr_cons_of_ne {e : BUEntry} {h : Addr} (hne : e.haddr ≠ h)
    (l : List BUEntry) : getEntryByHaddr (e :: l) h = getEntryByHaddr l h := by
  simp [getEntryByHaddr, hasHaddr, hne]

/-- Writing the care-of address of a home address is seen under that address. -/
theorem getEntryByHaddr_setCaddr_self (l : List BUEntry) (h c : Addr) :
    getEntryByHaddr (updateFirst (hasHaddr h) (·.setCaddr c) l) h =
      (getEntryByHaddr l h).map (·.setCaddr c) := by
  refine find?_updateFirst_self ?_ l
  intro e
  rfl

/-- Writing to the entry of a home address is not seen under another. -/
theorem getEntryByHaddr_updateFirst_of_ne {h g : Addr} (hne : h ≠ g) {f : BUEntry → BUEntry}
    (hf : ∀ e, (f e).haddr = e.haddr) (l : List BUEntry) :
    getEntryByHaddr (updateFirst (hasHaddr h) f l) g = getEntryByHaddr l g := by
  refine find?_updateFirst_of_disjoint ?_
  intro e _ he
  have heq : e.haddr = h := by simpa [hasHaddr] using he
  simp [hasHaddr, hf, heq, hne]

/-- `registration` of a mobile node keeps the address of a known home address. -/
theorem bindings_registration (l : List BUEntry) (p : Packet) :
    bindings (registration l p .mn) = keepFirst (bindings l) (buUpdate p) := by
  funext h
  by_cases hkey : p.nh.haddr = h
  · subst hkey
    have hself : keepFirst (bindings l) (buUpdate p) p.nh.haddr = _ := keepFirst_self
    rw [hself]
    unfold bindings registration
    cases hfind : getEntryByHaddr l p.nh.haddr with
    | none =>
      have hnew : getEntryByHaddr (BUEntry.newMn p :: l) p.nh.haddr = some (BUEntry.newMn p) :=
        getEntryByHaddr_cons_self (BUEntry.newMn p) l
      simp only [hnew]
      simp [buUpdate, hfind, BUEntry.newMn]
    | some e =>
      simp only [getEntryByHaddr_setCaddr_self, hfind]
      simp [buUpdate, hfind]
  · rw [keepFirst_of_ne (show (buUpdate p).key ≠ h from hkey)]
    unfold bindings registration
    cases hfind : getEntryByHaddr l p.nh.haddr with
    | none =>
      have hne : (BUEntry.newMn p).haddr ≠ h := hkey
      simp only [getEntryByHaddr_cons_of_ne hne]
    | some e =>
      dsimp only
      rw [getEntryByHaddr_updateFirst_of_ne hkey]
      intro e
      rfl

/-- A node's home agent after one binding update. -/
theorem agentStep_homeBu {a a' : MIPV6Agent} {p : Packet} (h : agentStep a p = .ok a')
    (hty : a.nodeType = .mnHa) (hp : IsHomeBu p) :
    a' = { a with bulist := registration a.bulist p .mn } := by
  obtain ⟨hnemo, hbu, hH⟩ := hp
  have hrecv : recv a p = recvNemoMnHa a p := by rw [recv, hnemo, recvNemo, hty]
  unfold agentStep at h
  rw [hrecv, recvNemoMnHa, hbu] at h
  rw [registerIfHome, if_pos hH] at h
  exact (Except.ok.inj h).symm

/-- The list of a node's home agent refines the registry of the updates it has received. -/
theorem bindings_run {a a' : MIPV6Agent} {bus : List Packet}
    (h : runSteps agentStep a bus = .ok a') (hty : a.nodeType = .mnHa)
    (hbus : ∀ b ∈ bus, IsHomeBu b) :
    a'.nodeType = .mnHa ∧
      bindings a'.bulist = (bus.map buUpdate).foldl keepFirst (bindings a.bulist) := by
  induction bus generalizing a with
  | nil =>
    obtain rfl : a = a' := by simpa using h
    exact ⟨hty, rfl⟩
  | cons b bus ih =>
    obtain ⟨a₁, hstep, hrest⟩ := runSteps_cons_ok.1 h
    have ha₁ := agentStep_homeBu hstep hty (hbus b List.mem_cons_self)
    subst ha₁
    obtain ⟨hty', hview⟩ := ih hrest hty fun b' hb' => hbus b' (List.mem_cons_of_mem _ hb')
    refine ⟨hty', ?_⟩
    rw [hview, List.map_cons, List.foldl_cons, bindings_registration]

/-! ### Data packets at a node's home agent -/

/-- The destination a node's home agent looks up: it closes one tunnel, and a second if there is
one. -/
def lookedUp : List Tunnel → Option Addr
  | [] => none
  | [t] => some t.daddr
  | _ :: t :: _ => some t.daddr

/-- The agent sends the packet to `s`, with `c` as the destination inside the tunnel. -/
def SentTo (a : MIPV6Agent) (p : Packet) (s c : Addr) : Prop :=
  ∃ q, recv a p = .ok (a, [.send q]) ∧ q.iph.daddr = s ∧
    q.tunnels.head?.map (·.daddr) = some c

/-- After closing the tunnels the packet has the destination that is looked up. -/
theorem closed_daddr {p : Packet} {g : Addr} (h : lookedUp p.tunnels = some g) :
    ∃ q₁ q, deleteTunnel p = .ok q₁ ∧
      (if sizeTunnel q₁ > 0 then deleteTunnel q₁ else .ok q₁) = .ok q ∧ q.iph.daddr = g := by
  rcases hts : p.tunnels with _ | ⟨t₁, _ | ⟨t₂, ts⟩⟩
  · rw [hts] at h
    cases h
  · rw [hts] at h
    cases h
    refine ⟨p.closed t₁ [], p.closed t₁ [], deleteTunnel_of_cons hts, ?_, rfl⟩
    exact if_neg (Nat.not_lt_zero 0)
  · rw [hts] at h
    cases h
    refine ⟨p.closed t₁ (t₂ :: ts), (p.closed t₁ (t₂ :: ts)).closed t₂ ts,
      deleteTunnel_of_cons hts, ?_, rfl⟩
    rw [if_pos (show sizeTunnel (p.closed t₁ (t₂ :: ts)) > 0 from Nat.succ_pos _)]
    exact deleteTunnel_of_cons rfl

/-- A node's home agent serves a packet from the binding of the destination it looks up. -/
theorem sentTo_iff {a : MIPV6Agent} (hty : a.nodeType = .mnHa) {p : Packet}
    (hdata : p.cmn.ptype = .udp) {g : Addr} (hg : lookedUp p.tunnels = some g) {s c : Addr} :
    SentTo a p s c ↔ bindings a.bulist g = some (s, c) := by
  obtain ⟨q₁, q, hq₁, hq, hqg⟩ := closed_daddr hg
  have hrecv : recv a p = tunnelingMnHa a p := by rw [recv, hdata, tunneling, hty]
  have htunnel : tunnelingMnHa a p = assertNonNull (getEntryByHaddr a.bulist g) >>= fun bu =>
      .ok (a, [.send (if sizeTunnel q₁ > 0
        then (toAgent a bu.addr (addTunnel (q.setDaddr bu.caddr))).setSaddr p.iph.saddr
        else toAgent a bu.addr (addTunnel (q.setDaddr bu.caddr)))]) := by
    rw [← hqg]
    unfold tunnelingMnHa
    rw [hq₁, ok_bind]
    dsimp only
    by_cases hsize : sizeTunnel q₁ > 0
    · simp only [hsize, if_true] at hq ⊢
      rw [hq, ok_bind]
      rfl
    · simp only [hsize, if_false] at hq ⊢
      cases hq
      rfl
  rw [SentTo, hrecv, htunnel, bindings]
  cases hfind : getEntryByHaddr a.bulist g with
  | none =>
    simp [assertNonNull]
    rintro q' h
    cases h
  | some bu =>
    rw [assertNonNull_some, ok_bind]
    constructor
    · rintro ⟨q', hsend, rfl, hc⟩
      cases hsend
      split_ifs at hc ⊢ <;> simpa [toAgent, addTunnel, Packet.setDaddr, Packet.setDport,
        Packet.setSaddr] using hc
    · intro h
      obtain ⟨rfl, rfl⟩ : bu.addr = s ∧ bu.caddr = c := by simpa using h
      refine ⟨_, rfl, ?_, ?_⟩
      · split_ifs <;> rfl
      · split_ifs <;> rfl

/-- With at most two tunnels the innermost destination is the one looked up. -/
theorem lookedUp_of_length_le_two {ts : List Tunnel} {h g : Addr} (hlen : ts.length ≤ 2)
    (hinner : ts.getLast?.map (·.daddr) = some h) (hg : lookedUp ts = some g) : g = h := by
  match ts, hlen with
  | [], _ => cases hg
  | [t], _ =>
    rw [lookedUp] at hg
    simpa using hg.symm.trans hinner
  | [t₁, t₂], _ =>
    rw [lookedUp] at hg
    simpa using hg.symm.trans hinner

/-- After any sequence of binding updates, a data packet for `h` follows the latest binding of `h`
exactly when the home address `g` that is looked up for it was first bound from the source of that
update, and, for a packet in more than two tunnels, was last bound to the same care-of address. -/
theorem homeAgent_uses_latest_iff {a a' : MIPV6Agent} {bus : List Packet}
    (hrun : runSteps agentStep a bus = .ok a') (hty : a.nodeType = .mnHa)
    (hbus : ∀ b ∈ bus, IsHomeBu b) {h g : Addr} {u : Update Addr Addr Addr}
    (hlast : lastFor (bus.map buUpdate) h = some u) {p : Packet} (hdata : p.cmn.ptype = .udp)
    (hinner : p.tunnels.getLast?.map (·.daddr) = some h) (hg : lookedUp p.tunnels = some g) :
    SentTo a' p u.source u.target ↔
      firstSource (bindings a.bulist) (bus.map buUpdate) g = some u.source ∧
      (p.tunnels.length ≤ 2 ∨
        lastTarget (bindings a.bulist) (bus.map buUpdate) g = some u.target) := by
  obtain ⟨hty', hview⟩ := bindings_run hrun hty hbus
  rw [sentTo_iff hty' hdata hg, hview, foldl_keepFirst_eq_some]
  refine and_congr_right fun _ => ?_
  constructor
  · exact Or.inr
  · rintro (hlen | htarget)
    · obtain rfl : g = h := lookedUp_of_length_le_two hlen hinner hg
      rw [lastTarget, hlast]
      rfl
    · exact htarget

/-- A node's home agent at `5.0.0`. -/
def sampleMnHa : MIPV6Agent := { nodeType := .mnHa, addr := str2addr 5 0 0, port := 1 }

/-- A binding update for the home address `5.0.1`, sent by the home agent `s` of a router. -/
def sampleBu (s c : Addr) : Packet :=
  { cmn := { ptype := .nemo }
    iph := { saddr := s, daddr := str2addr 5 0 0 }
    nh := { type := .bu, H := ON, haddr := str2addr 5 0 1, coa := c } }

/-- A data packet for `5.0.1`. -/
def sampleData : Packet := { tunnels := [⟨str2addr 1 0 0, 0, str2addr 5 0 1, 0⟩] }

theorem homeAgent_uses_latest_iff_sample :
    ∃ a', runSteps agentStep sampleMnHa
        [sampleBu (str2addr 4 0 0) (str2addr 6 0 2), sampleBu (str2addr 4 0 0) (str2addr 6 0 3)] =
          .ok a' ∧
      SentTo a' sampleData (str2addr 4 0 0) (str2addr 6 0 3) := by
  obtain ⟨a', ha'⟩ : ∃ a', runSteps agentStep sampleMnHa
      [sampleBu (str2addr 4 0 0) (str2addr 6 0 2), sampleBu (str2addr 4 0 0) (str2addr 6 0 3)] =
        .ok a' := ⟨_, rfl⟩
  have hbus : ∀ b ∈ [sampleBu (str2addr 4 0 0) (str2addr 6 0 2),
      sampleBu (str2addr 4 0 0) (str2addr 6 0 3)], IsHomeBu b := by
    intro b hb
    rcases List.mem_pair.1 hb with rfl | rfl <;> exact ⟨rfl, rfl, rfl⟩
  have hiff := homeAgent_uses_latest_iff ha' rfl hbus (h := str2addr 5 0 1) rfl
    (p := sampleData) rfl rfl rfl
  exact ⟨a', ha', hiff.2 ⟨rfl, Or.inl (by decide)⟩⟩

/-- The node moves behind another router: its packets still go to the home agent of the first. -/
theorem homeAgent_keeps_first_source :
    ¬ ∀ (a a' : MIPV6Agent) (bus : List Packet) (h : Addr) (u : Update Addr Addr Addr) (p : Packet),
      a.nodeType = .mnHa → runSteps agentStep a bus = .ok a' → (∀ b ∈ bus, IsHomeBu b) →
      lastFor (bus.map buUpdate) h = some u → p.cmn.ptype = .udp →
      p.tunnels.getLast?.map (·.daddr) = some h → SentTo a' p u.source u.target := by
  intro hall
  have hbus : ∀ b ∈ [sampleBu (str2addr 4 0 0) (str2addr 6 0 2),
      sampleBu (str2addr 7 0 0) (str2addr 9 0 2)], IsHomeBu b := by
    intro b hb
    rcases List.mem_pair.1 hb with rfl | rfl <;> exact ⟨rfl, rfl, rfl⟩
  obtain ⟨q, hq, hs, -⟩ :=
    hall sampleMnHa _ _ (str2addr 5 0 1) _ sampleData rfl rfl hbus rfl rfl rfl
  cases hq
  exact absurd hs (by decide)

/-! ### The nemo prefixes of a router's home agent -/

/-- The message inside the outer tunnel is for the agent at `addr`. -/
def AddressedTo (addr : Addr) (p : Packet) : Prop := p.tunnels.head?.map (·.daddr) = some addr

/-- A router's own binding update: it announces its home address and its nemo prefix. -/
def Announces (addr : Addr) (p : Packet) : Prop := p.nh.type = .bu ∧ AddressedTo addr p

/-- A re-homing message that the agent at `addr` acts on. -/
def Rehomes (addr : Addr) (p : Packet) : Prop :=
  p.nh.type = .rehome ∨ (p.nh.type = .rehomeMrHa ∧ AddressedTo addr p)

/-- A message that a mobile router sends to a home agent.  Headers are zeroed when a packet is
allocated, and `re_homing` does not set the nemo prefix. -/
def FromRouter (p : Packet) : Prop :=
  p.cmn.ptype = .nemo ∧
    (p.nh.type = .bu ∨ ((p.nh.type = .rehome ∨ p.nh.type = .rehomeMrHa) ∧ p.nh.nemoPrefix = 0))

section SetCaddr

variable (l : List BUEntry) (h c x : Addr)

/-- Writing a care-of address does not change which home addresses are known. -/
theorem haddr_setCaddr_eq_none :
    getEntryByHaddr (updateFirst (hasHaddr h) (·.setCaddr c) l) x = none ↔
      getEntryByHaddr l x = none := by
  refine find?_updateFirst_eq_none ?_ l
  intro e
  rfl

/-- Nor which nemo prefixes are. -/
theorem prefix_setCaddr_eq_none :
    getEntryByPrefix (updateFirst (hasHaddr h) (·.setCaddr c) l) x = none ↔
      getEntryByPrefix l x = none := by
  refine find?_updateFirst_eq_none ?_ l
  intro e
  rfl

end SetCaddr

/-- Home addresses after the registration of a router. -/
theorem haddr_registration_mr (l : List BUEntry) (p : Packet) (h : Addr) :
    getEntryByHaddr (registration l p .mr) h = none ↔
      getEntryByHaddr l h = none ∧ p.nh.haddr ≠ h := by
  unfold registration
  cases hfind : getEntryByHaddr l p.nh.haddr with
  | none =>
    dsimp only
    by_cases hkey : p.nh.haddr = h
    · subst hkey
      have hself := getEntryByHaddr_cons_self (BUEntry.newMr p.nh) l
      simp [show (BUEntry.newMr p.nh).haddr = p.nh.haddr from rfl] at hself
      simp [hself]
    · have hne : (BUEntry.newMr p.nh).haddr ≠ h := hkey
      simp [getEntryByHaddr_cons_of_ne hne, hkey]
  | some e =>
    dsimp only
    rw [haddr_setCaddr_eq_none]
    constructor
    · intro hnone
      refine ⟨hnone, ?_⟩
      rintro rfl
      rw [hfind] at hnone
      cases hnone
    · exact And.left

/-- Nemo prefixes after the registration of a router. -/
theorem prefix_registration_mr (l : List BUEntry) (p : Packet) (x : Addr) :
    getEntryByPrefix (registration l p .mr) x = none ↔
      getEntryByPrefix l x = none ∧
        (getEntryByHaddr l p.nh.haddr = none → p.nh.nemoPrefix ≠ x) := by
  unfold registration
  cases hfind : getEntryByHaddr l p.nh.haddr with
  | none =>
    dsimp only
    unfold getEntryByPrefix
    by_cases hx : p.nh.nemoPrefix = x
    · simp [hasPrefix, BUEntry.newMr, hx]
    · simp [hasPrefix, BUEntry.newMr, hx]
  | some e =>
    dsimp only
    rw [prefix_setCaddr_eq_none]
    simp

/-- A re-homing message that is acted on: the old home address gets the new one as its care-of
address, and the new one an entry of its own. -/
theorem rehome_handled {a a' : MIPV6Agent} {p : Packet} {t : Tunnel} {ts : List Tunnel}
    {outs : List Out}
    (h : (rehome a.bulist (p.closed t ts) >>= fun l => .ok ({ a with bulist := l }, [])) =
      (.ok (a', outs) : Act Handled)) :
    ∃ q : Packet, q.nh.haddr = p.nh.coa ∧ q.nh.nemoPrefix = p.nh.nemoPrefix ∧
      a' = { a with
        bulist := registration (updateFirst (hasHaddr p.nh.haddr) (·.setCaddr p.nh.coa) a.bulist)
          q .mr } := by
  obtain ⟨l, hl, hpure⟩ := bind_ok_iff.1 h
  obtain ⟨e, -, hl⟩ := bind_ok_iff.1 hl
  cases hpure
  cases hl
  exact ⟨{ p.closed t ts with nh.haddr := p.nh.coa, nh.coa := t.saddr }, rfl, rfl, rfl⟩

/-- What a message from a router does to the list of a home agent. -/
theorem agentStep_fromRouter {a a' : MIPV6Agent} {p : Packet} (h : agentStep a p = .ok a')
    (hty : a.nodeType = .mrHa) (hp : FromRouter p) :
    (Announces a.addr p ∧ ¬ Rehomes a.addr p ∧
      a' = { a with bulist := registration a.bulist p .mr }) ∨
    (Rehomes a.addr p ∧ ¬ Announces a.addr p ∧ p.nh.nemoPrefix = 0 ∧ ∃ q : Packet,
      q.nh.haddr = p.nh.coa ∧ q.nh.nemoPrefix = p.nh.nemoPrefix ∧
      a' = { a with
        bulist := registration (updateFirst (hasHaddr p.nh.haddr) (·.setCaddr p.nh.coa) a.bulist)
          q .mr }) ∨
    (¬ Announces a.addr p ∧ ¬ Rehomes a.addr p ∧ a' = a) := by
  have hrecv : recv a p = recvNemoMrHa a p := by rw [recv, hp.1, recvNemo, hty]
  obtain ⟨⟨a₁, outs⟩, hok, rfl⟩ := map_ok_iff.1 h
  rw [hrecv] at hok
  rcases hp.2 with hbu | ⟨hrehomes | hrehomes, hzero⟩
  · -- an update is recorded at its destination, and relayed elsewhere
    have hno : ¬ Rehomes a.addr p := by simp [Rehomes, hbu]
    rw [recvNemoMrHa, hbu] at hok
    obtain ⟨q, hq, hok⟩ := bind_ok_iff.1 hok
    obtain ⟨t, ts, hts, rfl⟩ := deleteTunnel_ok hq
    by_cases hme : t.daddr = a.addr
    · rw [if_pos (show (p.closed t ts).iph.daddr = a.addr from hme)] at hok
      cases hok
      exact Or.inl ⟨⟨hbu, by simp [AddressedTo, hts, hme]⟩, hno, rfl⟩
    · rw [if_neg (show (p.closed t ts).iph.daddr ≠ a.addr from hme)] at hok
      obtain ⟨q, -, hpure⟩ := bind_ok_iff.1 hok
      cases hpure
      exact Or.inr (Or.inr ⟨by simp [Announces, AddressedTo, hts, hme], hno, rfl⟩)
  · -- `REHOME` is acted on whatever its destination
    have hno : ¬ Announces a.addr p := by simp [Announces, hrehomes]
    rw [recvNemoMrHa, hrehomes] at hok
    obtain ⟨q, hq, hok⟩ := bind_ok_iff.1 hok
    obtain ⟨t, ts, hts, rfl⟩ := deleteTunnel_ok hq
    exact Or.inr (Or.inl ⟨Or.inl hrehomes, hno, hzero, rehome_handled hok⟩)
  · -- `REHOME_MR_HA` only at its destination
    have hno : ¬ Announces a.addr p := by simp [Announces, hrehomes]
    rw [recvNemoMrHa, hrehomes] at hok
    obtain ⟨q, hq, hok⟩ := bind_ok_iff.1 hok
    obtain ⟨t, ts, hts, rfl⟩ := deleteTunnel_ok hq
    by_cases hme : t.daddr = a.addr
    · rw [if_pos (show (p.closed t ts).iph.daddr = a.addr from hme)] at hok
      have hto : AddressedTo a.addr p := by simp [AddressedTo, hts, hme]
      exact Or.inr (Or.inl ⟨Or.inr ⟨hrehomes, hto⟩, hno, hzero, rehome_handled hok⟩)
    · rw [if_neg (show (p.closed t ts).iph.daddr ≠ a.addr from hme)] at hok
      cases hok
      refine Or.inr (Or.inr ⟨hno, ?_, rfl⟩)
      simp [Rehomes, AddressedTo, hrehomes, hts, hme]

/-- Every re-homing message of `ps` that the agent acts on names a home address that is known, or
that an earlier update has announced. -/
def RehomesAnnounced (addr : Addr) (known : Addr → Prop) (ps : List Packet) : Prop :=
  ∀ pre r post, ps = pre ++ r :: post → Rehomes addr r →
    known r.nh.coa ∨ ∃ b ∈ pre, Announces addr b ∧ b.nh.haddr = r.nh.coa

/-- The first message decides for itself, and adds to what is known. -/
theorem rehomesAnnounced_cons {addr : Addr} {known : Addr → Prop} {p : Packet}
    {ps : List Packet} :
    RehomesAnnounced addr known (p :: ps) ↔
      (Rehomes addr p → known p.nh.coa) ∧
        RehomesAnnounced addr
          (fun h => known h ∨ (Announces addr p ∧ p.nh.haddr = h) ∨
            (Rehomes addr p ∧ p.nh.coa = h)) ps := by
  constructor
  · intro hall
    constructor
    · intro hre
      rcases hall [] p ps rfl hre with hk | ⟨b, hb, -⟩
      · exact hk
      · cases hb
    · intro pre r post hps hre
      rcases hall (p :: pre) r post (by rw [hps]; rfl) hre with hk | ⟨b, hb, hann, heq⟩
      · exact Or.inl (Or.inl hk)
      · rcases List.mem_cons.1 hb with rfl | hb
        · exact Or.inl (Or.inr (Or.inl ⟨hann, heq⟩))
        · exact Or.inr ⟨b, hb, hann, heq⟩
  · rintro ⟨hfirst, hrest⟩ pre r post hps hre
    cases pre with
    | nil =>
      obtain ⟨rfl, -⟩ : p = r ∧ ps = post := by simpa using hps
      exact Or.inl (hfirst hre)
    | cons p' pre =>
      obtain ⟨rfl, htail⟩ : p = p' ∧ ps = pre ++ r :: post := by simpa using hps
      rcases hrest pre r post htail hre with (hk | ⟨hann, heq⟩ | ⟨hp, heq⟩) | ⟨b, hb, hann, heq⟩
      · exact Or.inl hk
      · exact Or.inr ⟨p, List.mem_cons_self, hann, heq⟩
      · exact Or.inl (heq ▸ hfirst hp)
      · exact Or.inr ⟨b, List.mem_cons_of_mem _ hb, hann, heq⟩

/-- One message: the home addresses known after it, and whether it makes the prefix `x` known, when
`x` is not the prefix of an update. -/
theorem agentStep_known {a a' : MIPV6Agent} {p : Packet} (h : agentStep a p = .ok a')
    (hty : a.nodeType = .mrHa) (hp : FromRouter p) {x : Addr}
    (hx : p.nh.type = .bu → p.nh.nemoPrefix ≠ x) :
    a'.nodeType = .mrHa ∧ a'.addr = a.addr ∧
      (∀ g, getEntryByHaddr a'.bulist g ≠ none ↔ getEntryByHaddr a.bulist g ≠ none ∨
        (Announces a.addr p ∧ p.nh.haddr = g) ∨ (Rehomes a.addr p ∧ p.nh.coa = g)) ∧
      (getEntryByPrefix a'.bulist x = none ↔ getEntryByPrefix a.bulist x = none ∧
        (x ≠ 0 ∨ (Rehomes a.addr p → getEntryByHaddr a.bulist p.nh.coa ≠ none))) := by
  rcases agentStep_fromRouter h hty hp with
    ⟨hann, hno, rfl⟩ | ⟨hre, hno, hzero, q, hq, hqpre, rfl⟩ | ⟨hno, hno', rfl⟩
  · refine ⟨hty, rfl, ?_, ?_⟩
    · intro g
      rw [Ne, haddr_registration_mr]
      simp only [hann, hno, true_and, false_and, or_false]
      tauto
    · rw [prefix_registration_mr]
      simp only [hno, false_imp_iff, or_true, and_true]
      exact and_iff_left fun _ => hx hann.1
  · refine ⟨hty, rfl, ?_, ?_⟩
    · intro g
      rw [Ne, haddr_registration_mr, haddr_setCaddr_eq_none, hq]
      simp only [hre, hno, true_and, false_and, false_or]
      tauto
    · rw [prefix_registration_mr, prefix_setCaddr_eq_none, haddr_setCaddr_eq_none, hq, hqpre,
        hzero]
      refine and_congr_right fun _ => ?_
      constructor
      · intro himp
        by_cases hx0 : x = 0
        · exact Or.inr fun _ hnone => himp hnone hx0.symm
        · exact Or.inl hx0
      · rintro (hx0 | hknown) hnone
        · exact Ne.symm hx0
        · exact absurd hnone (hknown hre)
  · refine ⟨hty, rfl, ?_, ?_⟩
    · intro g
      simp only [hno, hno', false_and, or_false]
    · simp only [hno', false_imp_iff, or_true, and_true]

/-- The same for any sequence of messages. -/
theorem run_known {a a' : MIPV6Agent} {ps : List Packet} (h : runSteps agentStep a ps = .ok a')
    (hty : a.nodeType = .mrHa) (hps : ∀ p ∈ ps, FromRouter p) {x : Addr}
    (hx : ∀ p ∈ ps, p.nh.type = .bu → p.nh.nemoPrefix ≠ x) :
    getEntryByPrefix a'.bulist x = none ↔ getEntryByPrefix a.bulist x = none ∧
      (x ≠ 0 ∨ RehomesAnnounced a.addr (fun g => getEntryByHaddr a.bulist g ≠ none) ps) := by
  induction ps generalizing a with
  | nil =>
    obtain rfl : a = a' := by simpa using h
    have hnil : RehomesAnnounced a.addr (fun g => getEntryByHaddr a.bulist g ≠ none) [] := by
      intro pre r post hps
      simp at hps
    simp [hnil]
  | cons p ps ih =>
    obtain ⟨a₁, hstep, hrest⟩ := runSteps_cons_ok.1 h
    obtain ⟨hty₁, haddr, hknown, hpre⟩ := agentStep_known hstep hty (hps p List.mem_cons_self)
      (hx p List.mem_cons_self)
    have ih' := ih hrest hty₁ (fun p' hp' => hps p' (List.mem_cons_of_mem _ hp'))
      fun p' hp' => hx p' (List.mem_cons_of_mem _ hp')
    have hset : (fun g => getEntryByHaddr a₁.bulist g ≠ none) =
        fun g => getEntryByHaddr a.bulist g ≠ none ∨
          (Announces a.addr p ∧ p.nh.haddr = g) ∨ (Rehomes a.addr p ∧ p.nh.coa = g) :=
      funext fun g => propext (hknown g)
    rw [ih', hpre, haddr, hset, rehomesAnnounced_cons, and_assoc, ← or_and_left]

/-- A home agent that starts with an empty list knows a prefix that no update has carried exactly
when that prefix is `0` and some re-homing message has named a home address that no earlier update
had announced. -/
theorem prefix_unknown_iff {a a' : MIPV6Agent} {ps : List Packet}
    (hrun : runSteps agentStep a ps = .ok a') (hty : a.nodeType = .mrHa) (hempty : a.bulist = [])
    (hps : ∀ p ∈ ps, FromRouter p) {d : Addr}
    (hd : ∀ p ∈ ps, p.nh.type = .bu → p.nh.nemoPrefix ≠ prefixOf d) :
    getEntryByPrefix a'.bulist (prefixOf d) = none ↔
      prefixOf d ≠ 0 ∨ RehomesAnnounced a.addr (fun _ => False) ps := by
  have hknown : (fun g => getEntryByHaddr a.bulist g ≠ none) = fun _ => False := by
    funext g
    simp [hempty, getEntryByHaddr]
  rw [run_known hrun hty hps hd, hknown, hempty]
  exact and_iff_right rfl

/-- A router's home agent at `4.0.0`. -/
def sampleMrHaAgent : MIPV6Agent := { nodeType := .mrHa, addr := str2addr 4 0 0, port := 1 }

/-- A message to `4.0.0`, in a tunnel to it. -/
def sampleMessage (nh : HdrNemo) : Packet :=
  { cmn := { ptype := .nemo }
    iph := { saddr := str2addr 2 0 1, daddr := str2addr 4 0 0 }
    nh := nh
    tunnels := [⟨str2addr 7 0 0, 1, str2addr 4 0 0, 1⟩] }

/-- A router with home address `4.0.1` announces the prefix `6.0.0`, and then re-homes to the home
address `7.0.1`, which it has not announced here. -/
def sampleRehoming : List Packet :=
  [sampleMessage (buHeader .bu (str2addr 4 0 1) (str2addr 2 0 1) (str2addr 6 0 0)),
    sampleMessage (buHeader .rehome (str2addr 4 0 1) (str2addr 7 0 1) 0)]

theorem sampleRehoming_fromRouter : ∀ p ∈ sampleRehoming, FromRouter p := by
  intro p hp
  rcases List.mem_pair.1 hp with rfl | rfl
  · exact ⟨rfl, Or.inl rfl⟩
  · exact ⟨rfl, Or.inr ⟨Or.inl rfl, rfl⟩⟩

theorem prefix_unknown_iff_sample :
    ∃ a', runSteps agentStep sampleMrHaAgent sampleRehoming = .ok a' ∧
      getEntryByPrefix a'.bulist (prefixOf (str2addr 1 0 1)) = none := by
  obtain ⟨a', ha'⟩ : ∃ a', runSteps agentStep sampleMrHaAgent sampleRehoming = .ok a' := ⟨_, rfl⟩
  have hcarried : ∀ p ∈ sampleRehoming, p.nh.type = .bu →
      p.nh.nemoPrefix ≠ prefixOf (str2addr 1 0 1) := by decide
  exact ⟨a', ha',
    (prefix_unknown_iff ha' rfl rfl sampleRehoming_fromRouter hcarried).2 (Or.inl (by decide))⟩

/-- Traffic for `0.0.1` is taken for traffic into the mobile network. -/
theorem prefix_zero_known :
    ¬ ∀ (a a' : MIPV6Agent) (ps : List Packet) (d : Addr), a.nodeType = .mrHa → a.bulist = [] →
      (∀ p ∈ ps, FromRouter p) → runSteps agentStep a ps = .ok a' →
      (∀ p ∈ ps, p.nh.type = .bu → p.nh.nemoPrefix ≠ prefixOf d) →
      getEntryByPrefix a'.bulist (prefixOf d) = none := by
  intro h
  have hnone := h sampleMrHaAgent _ sampleRehoming (str2addr 0 0 1) rfl rfl
    sampleRehoming_fromRouter rfl (by decide)
  exact absurd hnone (by decide)

end SipNemo.Mip6
