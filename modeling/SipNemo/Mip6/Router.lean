import SipNemo.Mip6.Tunneling

/-!
# A mobile router and the messages of its nodes

A router learns of a mobile node from two messages.  `BU` makes an entry and gives it an external
interface; `BU_MN` makes one too, without an interface, and a second one for the correspondent, of
which it knows the address only.  `tunneling` follows the interface of whatever entry has the
source address of a data packet.

`router_forwards` says in which runs it always finds one: entries without an interface are only
those of addresses that a `BU_MN` has named as its destination, and no data comes from these.
`router_null_interface` is a run of two packets in which it does not.
-/

namespace SipNemo.Mip6

open FirstMatch Runs

/-- A router with the history of its nodes' messages: the sources of all of them, and the
destinations of those that were `BU_MN`. -/
structure RouterRun where
  agent : MIPV6Agent
  sources : List Addr := []
  named : List Addr := []

/-- The source inside the outer tunnel. -/
def innerSource (p : Packet) : Option Addr := p.tunnels.head?.map (·.saddr)

/-- The destination inside the outer tunnel. -/
def innerDestination (p : Packet) : Option Addr := p.tunnels.head?.map (·.daddr)

/-- One packet received by the router. -/
def routerStep (s : RouterRun) (p : Packet) : Act RouterRun :=
  (recv s.agent p).map fun r =>
    { agent := r.1
      sources := if p.cmn.ptype = .nemo then (innerSource p).toList ++ s.sources else s.sources
      named :=
        if p.cmn.ptype = .nemo ∧ p.nh.type = .buMn then (innerDestination p).toList ++ s.named
        else s.named }

/-- The traffic of the mobile nodes: `BU`, `BU_MN`, and data from the source of an earlier
message. -/
def FromNode (s : RouterRun) (p : Packet) : Prop :=
  match p.cmn.ptype with
  | .nemo => p.nh.type = .bu ∨ p.nh.type = .buMn
  | .udp => ∃ x ∈ s.sources, innerSource p = some x

/-- The packets that leave the router with what it needs.

* A `BU` for a destination outside the list has the home flag and a home address that is not the
  router's own.
* A `BU_MN` has a home address that is registered.
* Data does not come from an address that an earlier `BU_MN` has named as its destination. -/
def InOrder (s : RouterRun) (p : Packet) : Prop :=
  match p.cmn.ptype with
  | .nemo =>
    (p.nh.type = .bu → ∀ d ∈ innerDestination p, getEntryByAddr s.agent.bulist d = none →
      p.nh.H = ON ∧ ∀ e ∈ getEntryByHaddr s.agent.bulist p.nh.haddr, e.type ≠ .mrHa) ∧
    (p.nh.type = .buMn → getEntryByHaddr s.agent.bulist p.nh.haddr ≠ none)
  | .udp => ∀ x ∈ s.named, innerSource p ≠ some x

/-- What `set-mr` makes, with both interfaces. -/
def IsSetMr (e : BUEntry) : Prop := e.type = .mrHa ∧ e.eface ≠ none ∧ e.iface ≠ none

/-- An entry with an external interface is bound to the address that the interface has. -/
def Bound (a : MIPV6Agent) (e : BUEntry) : Prop := ∀ f ∈ e.eface, e.caddr = ifaceAddress a f

/-- A data packet for a destination outside the list: the entry of its source has an external
interface, and `tunneling` returns, so that every lookup it dereferences has found something. -/
def ForwardsFromNode (a : MIPV6Agent) (p : Packet) : Prop :=
  ∀ t ts, p.tunnels = t :: ts → getEntryByAddr a.bulist t.daddr = none →
    (∀ bu ∈ getEntryByAddr a.bulist t.saddr, bu.eface ≠ none) ∧
      ∃ outs, recv a p = .ok (a, outs)

/-- What the runs keep. -/
structure RouterInv (s : RouterRun) : Prop where
  isMr : s.agent.nodeType = .mr
  exp : s.agent.expMr = 0 ∨ s.agent.expMr = 9
  types : ∀ e ∈ s.agent.bulist, e.type = .mrHa ∨ e.type = .mn
  homeAgents : ∀ e ∈ s.agent.bulist, e.type = .mrHa → e.eface ≠ none
  bound : ∀ e ∈ s.agent.bulist, Bound s.agent e
  bare : ∀ e ∈ s.agent.bulist, e.eface = none → e.addr ∈ s.named
  followed : ∀ e ∈ s.agent.bulist, e.eface ≠ none →
    ∃ ha ∈ s.agent.bulist, ha.type = .mrHa ∧ ha.caddr = e.caddr

/-! ### Data packets -/

theorem type_of_isMrHaWithCaddr {c : Addr} {e : BUEntry} (h : isMrHaWithCaddr c e = true) :
    e.type = .mrHa := by
  simp only [isMrHaWithCaddr, hasType, Bool.and_eq_true, beq_iff_eq] at h
  exact h.1

theorem type_of_isMrHaWithPrefix {pre : Addr} {e : BUEntry} (h : isMrHaWithPrefix pre e = true) :
    e.type = .mrHa := by
  simp only [isMrHaWithPrefix, hasType, Bool.and_eq_true, beq_iff_eq] at h
  exact h.1

/-- The router finds the way out of an entry that is bound to an interface of its own. -/
theorem outByCaddr_ok {s : RouterRun} (hinv : RouterInv s) {bu : BUEntry}
    (hbu : bu ∈ s.agent.bulist) (hface : bu.eface ≠ none) (setCoa : Bool) (p : Packet) :
    ∃ outs, outByCaddr s.agent bu.caddr setCoa p = .ok outs := by
  obtain ⟨ha, hha, hty, hcaddr⟩ := hinv.followed bu hbu hface
  obtain ⟨out, hout⟩ : ∃ out, getMrHaEntryByCaddr s.agent.bulist bu.caddr = some out := by
    rw [← Option.isSome_iff_exists, getMrHaEntryByCaddr, List.find?_isSome]
    exact ⟨ha, hha, by simp [isMrHaWithCaddr, hasType, hasCaddr, hty, hcaddr]⟩
  have hout' : out.type = .mrHa := type_of_isMrHaWithCaddr (List.find?_some hout)
  obtain ⟨f, hf⟩ := Option.ne_none_iff_exists'.1
    (hinv.homeAgents out (List.mem_of_find?_eq_some hout) hout')
  unfold outByCaddr
  simp only [hout, deref_some, ok_bind, hf]
  exact ⟨_, rfl⟩

/-- A data packet of a node goes out. -/
theorem mrOut_ok {s : RouterRun} (hinv : RouterInv s) {p : Packet}
    (hp : p.iph.saddr ∉ s.named) : ∃ outs, mrOut s.agent p = .ok outs := by
  unfold mrOut
  cases hfind : getEntryByAddr s.agent.bulist p.iph.saddr with
  | none => exact ⟨[], rfl⟩
  | some bu =>
    have hbu := List.mem_of_find?_eq_some hfind
    have haddr : bu.addr = p.iph.saddr := by simpa [hasAddr] using List.find?_some hfind
    have hface : bu.eface ≠ none := fun hnone => hp (haddr ▸ hinv.bare bu hbu hnone)
    obtain ⟨f, hf⟩ := Option.ne_none_iff_exists'.1 hface
    have hcaddr : bu.caddr = ifaceAddress s.agent f := hinv.bound bu hbu f hf
    have hmr : bu.type ≠ .mr := by
      rcases hinv.types bu hbu with hty | hty <;> simp [hty]
    dsimp only
    rcases hinv.exp with hexp | hexp
    · rw [if_neg (by simp [hexp]), if_neg (by simp [hexp])]
      unfold mrOutSingle
      rw [hf, deref_some, ok_bind, if_neg (not_not.2 hcaddr)]
      exact outByCaddr_ok hinv hbu hface _ _
    · rw [if_pos (by simp [hexp])]
      unfold mrOutMultiple
      rw [if_neg hmr, hf, deref_some, ok_bind, if_neg (not_not.2 hcaddr)]
      exact outByCaddr_ok hinv hbu hface _ _

theorem RouterInv.forwards {s : RouterRun} (hinv : RouterInv s) {p : Packet}
    (hdata : p.cmn.ptype = .udp) (hsource : ∀ x ∈ s.named, innerSource p ≠ some x) :
    ForwardsFromNode s.agent p := by
  intro t ts hts hdest
  have hnamed : t.saddr ∉ s.named := fun hx => hsource _ hx (by simp [innerSource, hts])
  constructor
  · intro bu hbu hnone
    have haddr : bu.addr = t.saddr := by simpa [hasAddr] using List.find?_some hbu
    exact hnamed (haddr ▸ hinv.bare bu (List.mem_of_find?_eq_some hbu) hnone)
  · have hrecv : recv s.agent p = tunnelingMr s.agent p := by
      rw [recv, hdata, tunneling, hinv.isMr]
    have hone : ¬ s.agent.expMr ∈ ([3, 4, 7, 8] : List ℤ) := by
      rcases hinv.exp with hexp | hexp <;> simp [hexp]
    obtain ⟨outs, houts⟩ := mrOut_ok hinv (p := p.closed t ts) hnamed
    refine ⟨outs, ?_⟩
    rw [hrecv, tunnelingMr, deleteTunnel_of_cons hts, ok_bind]
    have hnone : getEntryByAddr s.agent.bulist (p.closed t ts).iph.daddr = none := hdest
    simp only [hnone]
    rw [mrOutOrNeighbour, if_neg hone, houts, ok_bind]
    rfl

/-! ### Binding updates -/

theorem ensureMn_cases (l : List BUEntry) (p : Packet) :
    (∃ e, getEntryByHaddr l p.nh.haddr = some e ∧ ensureMn l p = l) ∨
    (getEntryByHaddr l p.nh.haddr = none ∧ ensureMn l p = BUEntry.newMn p :: l) := by
  cases h : getEntryByHaddr l p.nh.haddr with
  | some e => exact Or.inl ⟨e, rfl, by simp [ensureMn, h]⟩
  | none => exact Or.inr ⟨rfl, by simp [ensureMn, h, registration]⟩

/-- A `BU` for a destination outside the list, with the home flag set. -/
theorem mrRecvBu_ok {a a' : MIPV6Agent} {p : Packet} {outs : List Out} {t : Tunnel}
    {ts : List Tunnel} (h : mrRecvBu a p = .ok (a', outs)) (hts : p.tunnels = t :: ts)
    (hdest : getEntryByAddr a.bulist t.daddr = none) (hH : p.nh.H = ON) :
    ∃ ha, getMrHaEntryByPrefix (ensureMn a.bulist (p.closed t ts)) (prefixOf t.saddr) = some ha ∧
      a' = { a with
        bulist := updateFirst (hasHaddr p.nh.haddr) ha.follow
          (ensureMn a.bulist (p.closed t ts)) } := by
  unfold mrRecvBu at h
  rw [deleteTunnel_of_cons hts, ok_bind] at h
  have hnone : getEntryByAddr a.bulist (p.closed t ts).iph.daddr = none := hdest
  simp only [hnone] at h
  rw [if_pos (show (p.closed t ts).nh.H = ON from hH)] at h
  obtain ⟨⟨l, ha⟩, hfollow, h⟩ := bind_ok_iff.1 h
  obtain ⟨outs', -, hpure⟩ := bind_ok_iff.1 h
  obtain ⟨ha', hha, hl⟩ := bind_ok_iff.1 hfollow
  cases hpure
  cases hl
  exact ⟨ha, assertNonNull_eq_ok.1 hha, rfl⟩

/-- A `BU` for a destination in the list is only passed on. -/
theorem mrRecvBu_inside {a a' : MIPV6Agent} {p : Packet} {outs : List Out} {t : Tunnel}
    {ts : List Tunnel} (h : mrRecvBu a p = .ok (a', outs)) (hts : p.tunnels = t :: ts)
    {e : BUEntry} (hdest : getEntryByAddr a.bulist t.daddr = some e) : a' = a := by
  unfold mrRecvBu at h
  rw [deleteTunnel_of_cons hts, ok_bind] at h
  have hsome : getEntryByAddr a.bulist (p.closed t ts).iph.daddr = some e := hdest
  simp only [hsome] at h
  obtain ⟨outs', -, hpure⟩ := bind_ok_iff.1 h
  cases hpure
  rfl

/-- What is in the list after the node of `p` has been made to follow `ha`, in place or as a new
entry: old entries, and one that follows `ha`. -/
theorem mem_followed {l : List BUEntry} {p : Packet} {ha e : BUEntry}
    (he : e ∈ updateFirst (hasHaddr p.nh.haddr) ha.follow (ensureMn l p)) :
    e ∈ l ∨ ((e.type = .mn ∨ ∃ e' ∈ getEntryByHaddr l p.nh.haddr, e' ∈ l ∧ e.type = e'.type) ∧
      e.eface = ha.eface ∧ e.caddr = ha.caddr) := by
  rcases ensureMn_cases l p with ⟨e₀, -, heq⟩ | ⟨-, heq⟩
  · rw [heq] at he
    rcases mem_updateFirst he with he | ⟨e₁, he₁, rfl⟩
    · exact Or.inl he
    · exact Or.inr ⟨Or.inr ⟨e₁, he₁, List.mem_of_find?_eq_some he₁, rfl⟩, rfl, rfl⟩
  · rw [heq, updateFirst_cons_pos (by simp [hasHaddr, BUEntry.newMn])] at he
    rcases List.mem_cons.1 he with rfl | he
    · exact Or.inr ⟨Or.inl rfl, rfl, rfl⟩
    · exact Or.inl he

/-- The home agent entries are all still there, unless the node has the home address of one. -/
theorem mem_followed_of_mrHa {l : List BUEntry} {p : Packet} {e : BUEntry} (ha : BUEntry)
    (hown : ∀ e ∈ getEntryByHaddr l p.nh.haddr, e.type ≠ .mrHa) (he : e ∈ l)
    (hmr : e.type = .mrHa) :
    e ∈ updateFirst (hasHaddr p.nh.haddr) ha.follow (ensureMn l p) := by
  rcases ensureMn_cases l p with ⟨e₀, -, heq⟩ | ⟨-, heq⟩
  · rw [heq]
    rcases mem_or_find?_of_mem (hasHaddr p.nh.haddr) ha.follow he with he | hfirst
    · exact he
    · exact absurd hmr (hown e hfirst)
  · rw [heq, updateFirst_cons_pos (by simp [hasHaddr, BUEntry.newMn])]
    exact List.mem_cons_of_mem _ he

/-- The invariant after one of the entries, not a home agent's, has been made to follow a home
agent entry. -/
theorem RouterInv.follow {s : RouterRun} (hinv : RouterInv s) {p : Packet} {ha : BUEntry}
    (hha : ha ∈ s.agent.bulist) (hty : ha.type = .mrHa)
    (hown : ∀ e ∈ getEntryByHaddr s.agent.bulist p.nh.haddr, e.type ≠ .mrHa) (sources : List Addr) :
    RouterInv
      { agent := { s.agent with
          bulist := updateFirst (hasHaddr p.nh.haddr) ha.follow (ensureMn s.agent.bulist p) }
        sources := sources
        named := s.named } := by
  have hmem : ∀ e ∈ updateFirst (hasHaddr p.nh.haddr) ha.follow (ensureMn s.agent.bulist p),
      e ∈ s.agent.bulist ∨ (e.type = .mn ∧ e.eface = ha.eface ∧ e.caddr = ha.caddr) := by
    intro e he
    rcases mem_followed he with he | ⟨hmn | ⟨e', hfind, he', htype⟩, heface, hcaddr⟩
    · exact Or.inl he
    · exact Or.inr ⟨hmn, heface, hcaddr⟩
    · refine Or.inr ⟨?_, heface, hcaddr⟩
      rw [htype]
      exact (hinv.types e' he').resolve_left (hown e' hfind)
  have hkeep : ∀ e ∈ s.agent.bulist, e.type = .mrHa →
      e ∈ updateFirst (hasHaddr p.nh.haddr) ha.follow (ensureMn s.agent.bulist p) :=
    fun e he hmr => mem_followed_of_mrHa ha hown he hmr
  have hface := hinv.homeAgents ha hha hty
  constructor
  case isMr => exact hinv.isMr
  case exp => exact hinv.exp
  case types =>
    intro e he
    rcases hmem e he with he | ⟨hmn, -⟩
    · exact hinv.types e he
    · exact Or.inr hmn
  case homeAgents =>
    intro e he hmr
    rcases hmem e he with he | ⟨hmn, -⟩
    · exact hinv.homeAgents e he hmr
    · rw [hmn] at hmr
      cases hmr
  case bound =>
    intro e he
    rcases hmem e he with he | ⟨-, heface, hcaddr⟩
    · exact hinv.bound e he
    · intro f hf
      rw [heface] at hf
      rw [hcaddr]
      exact hinv.bound ha hha f hf
  case bare =>
    intro e he hnone
    rcases hmem e he with he | ⟨-, heface, -⟩
    · exact hinv.bare e he hnone
    · exact absurd (heface ▸ hnone) hface
  case followed =>
    intro e he hsome
    rcases hmem e he with he | ⟨-, -, hcaddr⟩
    · obtain ⟨ha', hha', hty', hcaddr'⟩ := hinv.followed e he hsome
      exact ⟨ha', hkeep ha' hha' hty', hty', hcaddr'⟩
    · exact ⟨ha, hkeep ha hha hty, hty, hcaddr.symm⟩

/-- A `BU_MN` of a registered node adds an entry for its correspondent. -/
theorem mrRecvBuMn_ok {a a' : MIPV6Agent} {p : Packet} {outs : List Out}
    (h : mrRecvBuMn a p = .ok (a', outs)) (hknown : getEntryByHaddr a.bulist p.nh.haddr ≠ none) :
    ∃ t ts, p.tunnels = t :: ts ∧
      a' = { a with bulist := { type := .mn, addr := t.daddr : BUEntry } :: a.bulist } := by
  obtain ⟨q, hq, h⟩ := bind_ok_iff.1 h
  obtain ⟨t, ts, hts, rfl⟩ := deleteTunnel_ok hq
  obtain ⟨ha, -, h⟩ := bind_ok_iff.1 h
  obtain ⟨outs', -, hpure⟩ := bind_ok_iff.1 h
  cases hpure
  refine ⟨t, ts, hts, ?_⟩
  rcases ensureMn_cases a.bulist (p.closed t ts) with ⟨e, -, heq⟩ | ⟨hnone, -⟩
  · rw [heq]
    rfl
  · exact absurd hnone hknown

theorem RouterInv.addBare {s : RouterRun} (hinv : RouterInv s) (d : Addr) (sources : List Addr) :
    RouterInv
      { agent := { s.agent with
          bulist := { type := .mn, addr := d : BUEntry } :: s.agent.bulist }
        sources := sources
        named := d :: s.named } := by
  constructor
  case isMr => exact hinv.isMr
  case exp => exact hinv.exp
  case types =>
    intro e he
    rcases List.mem_cons.1 he with rfl | he
    · exact Or.inr rfl
    · exact hinv.types e he
  case homeAgents =>
    intro e he hmr
    rcases List.mem_cons.1 he with rfl | he
    · cases hmr
    · exact hinv.homeAgents e he hmr
  case bound =>
    intro e he
    rcases List.mem_cons.1 he with rfl | he
    · rintro f ⟨⟩
    · exact hinv.bound e he
  case bare =>
    intro e he hnone
    rcases List.mem_cons.1 he with rfl | he
    · exact List.mem_cons_self
    · exact List.mem_cons_of_mem _ (hinv.bare e he hnone)
  case followed =>
    intro e he hsome
    rcases List.mem_cons.1 he with rfl | he
    · exact absurd rfl hsome
    · obtain ⟨ha, hha, hty, hcaddr⟩ := hinv.followed e he hsome
      exact ⟨ha, List.mem_cons_of_mem _ hha, hty, hcaddr⟩

/-! ### Runs -/

/-- Data packets leave a router as it is. -/
theorem tunnelingMr_fst {a a' : MIPV6Agent} {p : Packet} {outs : List Out}
    (h : tunnelingMr a p = .ok (a', outs)) : a' = a := by
  obtain ⟨q, -, h⟩ := bind_ok_iff.1 h
  split at h
  · obtain ⟨outs', -, hpure⟩ := bind_ok_iff.1 h
    cases hpure
    rfl
  · split_ifs at h
    · cases h
      rfl
    · obtain ⟨f, -, hpure⟩ := bind_ok_iff.1 h
      cases hpure
      rfl

/-- A change of the recorded sources alone. -/
theorem RouterInv.setSources {s : RouterRun} (hinv : RouterInv s) (sources : List Addr) :
    RouterInv { s with sources := sources } :=
  ⟨hinv.isMr, hinv.exp, hinv.types, hinv.homeAgents, hinv.bound, hinv.bare, hinv.followed⟩

theorem router_step {s s' : RouterRun} {p : Packet} (hinv : RouterInv s)
    (hp : FromNode s p ∧ InOrder s p) (h : routerStep s p = .ok s') : RouterInv s' := by
  obtain ⟨⟨a, outs⟩, hrecv, rfl⟩ := map_ok_iff.1 h
  obtain ⟨hfrom, horder⟩ := hp
  cases hptype : p.cmn.ptype with
  | udp =>
    rw [recv, hptype] at hrecv
    rw [tunneling, hinv.isMr] at hrecv
    obtain rfl := tunnelingMr_fst hrecv
    simpa [hptype] using hinv
  | nemo =>
    rw [recv, hptype] at hrecv
    rw [recvNemo, hinv.isMr] at hrecv
    simp only [FromNode, hptype] at hfrom
    simp only [InOrder, hptype] at horder
    rcases hfrom with hty | hty
    · rw [recvNemoMr, hty] at hrecv
      obtain ⟨t, ts, hts⟩ : ∃ t ts, p.tunnels = t :: ts := by
        obtain ⟨q, hq, -⟩ := bind_ok_iff.1 hrecv
        obtain ⟨t, ts, hts, -⟩ := deleteTunnel_ok hq
        exact ⟨t, ts, hts⟩
      simp only [hty, reduceCtorEq, and_false, if_false]
      cases hdest : getEntryByAddr s.agent.bulist t.daddr with
      | some e =>
        obtain rfl := mrRecvBu_inside hrecv hts hdest
        exact hinv.setSources _
      | none =>
        obtain ⟨hH, hown⟩ := horder.1 hty t.daddr (by simp [innerDestination, hts]) hdest
        obtain ⟨ha, hha, rfl⟩ := mrRecvBu_ok hrecv hts hdest hH
        have hmr : ha.type = .mrHa := type_of_isMrHaWithPrefix (List.find?_some hha)
        have hin : ha ∈ s.agent.bulist := by
          have hin := List.mem_of_find?_eq_some hha
          rcases ensureMn_cases s.agent.bulist (p.closed t ts) with ⟨e, -, heq⟩ | ⟨-, heq⟩
          · rwa [heq] at hin
          · rw [heq] at hin
            rcases List.mem_cons.1 hin with rfl | hin
            · cases hmr
            · exact hin
        exact hinv.follow (p := p.closed t ts) hin hmr hown _
    · rw [recvNemoMr, hty] at hrecv
      obtain ⟨t, ts, hts, rfl⟩ := mrRecvBuMn_ok hrecv (horder.2 hty)
      simp only [hty, and_self, if_true, innerDestination, hts, List.head?_cons, Option.map_some,
        Option.toList_some, List.singleton_append]
      exact hinv.addBare t.daddr _

/-- A router configured with complete and bound `set-mr` entries can always forward the data of
its nodes, in every run whose packets are in order. -/
theorem router_forwards {a : MIPV6Agent} {s : RouterRun} {ps : List Packet}
    (hrun : runSteps routerStep { agent := a } ps = .ok s) (hmr : a.nodeType = .mr)
    (hexp : a.expMr = 0 ∨ a.expMr = 9) (hcfg : ∀ e ∈ a.bulist, IsSetMr e)
    (hbound : ∀ e ∈ a.bulist, Bound a e)
    (hmeet : StepsMeet routerStep (fun s p => FromNode s p ∧ InOrder s p) { agent := a } ps)
    {p : Packet} (hdata : p.cmn.ptype = .udp) (horder : InOrder s p) :
    ForwardsFromNode s.agent p := by
  have hinv : RouterInv { agent := a } :=
    { isMr := hmr
      exp := hexp
      types := fun e he => Or.inl (hcfg e he).1
      homeAgents := fun e he _ => (hcfg e he).2.1
      bound := hbound
      bare := fun e he hnone => absurd hnone (hcfg e he).2.1
      followed := fun e he _ => ⟨e, he, (hcfg e he).1, rfl⟩ }
  have hinv' := runSteps_invariant (fun s p s' => router_step) hinv hmeet hrun
  refine hinv'.forwards hdata ?_
  simpa only [InOrder, hdata] using horder

/-- The entry `set-mr` makes for the home agent `4.0.0` and the external interface 1, bound to
`2.0.1`. -/
def sampleSetMr : BUEntry :=
  { type := .mrHa, addr := str2addr 4 0 0, haddr := str2addr 4 0 1, caddr := str2addr 2 0 1
    nemoPrefix := str2addr 6 0 0
    eface := some { iface := 1, addr := str2addr 6 0 0, port := 2 }
    iface := some { iface := 2, addr := str2addr 6 0 0, port := 3 } }

/-- A mobile router with that entry. -/
def sampleMr : MIPV6Agent :=
  { nodeType := .mr, addr := str2addr 6 0 0, port := 1, bulist := [sampleSetMr]
    address := fun n => if n = 1 then str2addr 2 0 1 else str2addr 6 0 0 }

/-- A message of the node `6.0.2` with home address `5.0.1` to the node `d.0.0`. -/
def sampleFromNode (type : RegType) (d : ℕ) : Packet :=
  { cmn := { ptype := .nemo }
    nh := buHeader type (str2addr 5 0 1) (str2addr 6 0 2) 0
    tunnels := [⟨str2addr 6 0 2, 1, str2addr d 0 0, 1⟩] }

/-- Data of the node `6.0.2`, in a tunnel to its home agent. -/
def sampleNodeData : Packet := { tunnels := [⟨str2addr 6 0 2, 1, str2addr 5 0 0, 1⟩] }

theorem sampleMr_isSetMr : ∀ e ∈ sampleMr.bulist, IsSetMr e := by
  intro e he
  rw [List.mem_singleton.1 he]
  exact ⟨rfl, by decide, by decide⟩

theorem sampleMr_bound : ∀ e ∈ sampleMr.bulist, Bound sampleMr e := by
  intro e he
  rw [List.mem_singleton.1 he]
  rintro f ⟨⟩
  rfl

/-- The router after a `BU` of the node: the new entry follows that of the home agent. -/
def sampleBound : RouterRun :=
  { agent := { sampleMr with
      bulist :=
        [{ type := .mn, addr := str2addr 6 0 2, haddr := str2addr 5 0 1, caddr := str2addr 2 0 1
           eface := some { iface := 1, addr := str2addr 6 0 0, port := 2 } }, sampleSetMr] }
    sources := [str2addr 6 0 2] }

theorem sampleBound_eq :
    routerStep { agent := sampleMr } (sampleFromNode .bu 5) = .ok sampleBound := rfl

/-- The router after a `BU_MN` of the node to the correspondent `1.0.0`. -/
def sampleNamed : RouterRun :=
  { agent := { sampleBound.agent with
      bulist := { type := .mn, addr := str2addr 1 0 0 } :: sampleBound.agent.bulist }
    sources := [str2addr 6 0 2, str2addr 6 0 2]
    named := [str2addr 1 0 0] }

theorem sampleNamed_eq : routerStep sampleBound (sampleFromNode .buMn 1) = .ok sampleNamed := rfl

theorem router_forwards_sample :
    getEntryByAddr sampleNamed.agent.bulist (str2addr 6 0 2) ≠ none ∧
      ForwardsFromNode sampleNamed.agent sampleNodeData := by
  have hrun : runSteps routerStep { agent := sampleMr }
      [sampleFromNode .bu 5, sampleFromNode .buMn 1] = .ok sampleNamed :=
    runSteps_cons_ok.2 ⟨sampleBound, sampleBound_eq, runSteps_cons_ok.2 ⟨_, sampleNamed_eq, rfl⟩⟩
  have hmeet : StepsMeet routerStep (fun s p => FromNode s p ∧ InOrder s p) { agent := sampleMr }
      [sampleFromNode .bu 5, sampleFromNode .buMn 1] := by
    refine .cons ⟨Or.inl rfl, ?_, ?_⟩ sampleBound_eq ?_
    · rintro - d ⟨⟩ -
      refine ⟨rfl, ?_⟩
      rintro e ⟨⟩
    · intro h
      cases h
    refine .cons ⟨Or.inr rfl, ?_, ?_⟩ sampleNamed_eq trivial
    · intro h
      cases h
    · intro _
      decide
  refine ⟨by decide, ?_⟩
  refine router_forwards hrun rfl (Or.inl rfl) sampleMr_isSetMr sampleMr_bound hmeet rfl ?_
  intro x hx hsource
  have hne : str2addr 6 0 2 ≠ str2addr 1 0 0 := by decide
  exact hne ((Option.some.inj hsource).trans (List.mem_singleton.1 hx))

/-- A `BU_MN` that comes before the `BU` leaves the node's entry without an interface. -/
theorem router_null_interface :
    ¬ ∀ (a : MIPV6Agent) (s : RouterRun) (ps : List Packet) (p : Packet), a.nodeType = .mr →
      (a.expMr = 0 ∨ a.expMr = 9) → (∀ e ∈ a.bulist, IsSetMr e) →
      StepsMeet routerStep FromNode { agent := a } ps →
      runSteps routerStep { agent := a } ps = .ok s → p.cmn.ptype = .udp → FromNode s p →
      ForwardsFromNode s.agent p := by
  intro h
  have hmeet : StepsMeet routerStep FromNode { agent := sampleMr } [sampleFromNode .buMn 1] :=
    .cons (Or.inr rfl) rfl trivial
  obtain ⟨hface, -⟩ := h sampleMr _ _ sampleNodeData rfl (Or.inl rfl) sampleMr_isSetMr hmeet rfl rfl
    ⟨str2addr 6 0 2, List.mem_cons_self, rfl⟩ _ _ rfl rfl
  exact hface _ rfl rfl

end SipNemo.Mip6
