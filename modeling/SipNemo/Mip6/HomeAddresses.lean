import SipNemo.Lib.Outcome
import SipNemo.Mip6.Router

/-!
# Home addresses in the binding list

Every branch that learns of a home address goes through `registration`, which looks it up before it
inserts an entry; the two branches that insert entries by themselves leave the home address unset;
and what is written to an entry later is never its home address.  So a home address is in the list
once (`homeAddresses_unique`), and `get_entry_by_haddr` finds its only entry.
-/

namespace SipNemo.Mip6

open FirstMatch Outcome Runs

/-- `process_mr(data)` of an agent without SIP: the router whose prefix is the address of `iface`
has come into reach, at the address `pre`. -/
def processMr (a : MIPV6Agent) (pre : Addr) (iface : NodeId) : Act Handled :=
  let address := a.address iface
  match getMrEntryByPrefix a.bulist address with
  | none =>
    .ok ({ a with bulist := { type := .mr, addr := pre, nemoPrefix := address } :: a.bulist }, [])
  | some bu =>
    let a := { a with bulist := updateFirst (isMrWithPrefix address) (·.setAddr pre) a.bulist }
    match bu.iface with
    | none => .ok (a, [])
    | some f => .ok (a, [.via f (buMessage a { type := .buMr } address pre)])

/-- The events of a run: a packet arrives, a router comes into reach, or an interface gets an
address. -/
inductive AgentEvent
  | packet (p : Packet)
  | router (pre : Addr) (iface : NodeId)
  | address (iface : NodeId) (addr : Addr)

def agentEventStep (a : MIPV6Agent) : AgentEvent → Act MIPV6Agent
  | .packet p => (recv a p).map (·.1)
  | .router pre iface => (processMr a pre iface).map (·.1)
  | .address iface addr => .ok { a with address := Function.update a.address iface addr }

/-! ### Lists of home addresses -/

/-- The home addresses of the entries, in list order. -/
def haddrs (l : List BUEntry) : List Addr := l.map (·.haddr)

/-- No address but `-1` occurs twice. -/
def UniqueHaddrs (hs : List Addr) : Prop := hs.Pairwise fun h h' => h ≠ noAddr → h ≠ h'

/-- New addresses in front, each of them unset or not there before. -/
inductive HaddrsGrow (hs : List Addr) : List Addr → Prop
  | refl : HaddrsGrow hs hs
  | cons {hs' : List Addr} {h : Addr} (hnew : h ≠ noAddr → h ∉ hs')
    (hgrow : HaddrsGrow hs hs') : HaddrsGrow hs (h :: hs')

section Grow

variable {hs hs' hs'' : List Addr} {l : List BUEntry} {a : MIPV6Agent}

theorem HaddrsGrow.trans (h : HaddrsGrow hs hs') (h' : HaddrsGrow hs' hs'') :
    HaddrsGrow hs hs'' := by
  induction h' with
  | refl => exact h
  | cons hnew _ ih => exact .cons hnew ih

theorem HaddrsGrow.of_eq (h : hs' = hs) : HaddrsGrow hs hs' := h ▸ .refl

theorem HaddrsGrow.unique (h : HaddrsGrow hs hs') (hu : UniqueHaddrs hs) : UniqueHaddrs hs' := by
  induction h with
  | refl => exact hu
  | cons hnew _ ih =>
    refine List.pairwise_cons.2 ⟨fun g hg hset heq => ?_, ih⟩
    exact hnew hset (heq ▸ hg)

theorem haddrs_updateFirst {p : BUEntry → Bool} {f : BUEntry → BUEntry}
    (hf : ∀ e, (f e).haddr = e.haddr) (l : List BUEntry) :
    haddrs (updateFirst p f l) = haddrs l := map_updateFirst hf l

theorem notMem_haddrs {h : Addr} (hnone : getEntryByHaddr l h = none) : h ∉ haddrs l := by
  intro hmem
  obtain ⟨e, he, rfl⟩ := List.mem_map.1 hmem
  exact List.find?_eq_none.1 hnone e he (beq_self_eq_true _)

/-- Where the home addresses are unique, an address is found with its only entry. -/
theorem getEntryByHaddr_of_mem (hu : UniqueHaddrs (haddrs l)) {e : BUEntry} (he : e ∈ l)
    (hset : e.haddr ≠ noAddr) : getEntryByHaddr l e.haddr = some e := by
  obtain ⟨as, bs, rfl⟩ := List.append_of_mem he
  rw [haddrs, UniqueHaddrs, List.map_append, List.pairwise_append] at hu
  rw [getEntryByHaddr, List.find?_eq_some_iff_append]
  refine ⟨beq_self_eq_true _, as, bs, rfl, fun b hb => ?_⟩
  have hne := hu.2.2 b.haddr (List.mem_map_of_mem hb) e.haddr List.mem_cons_self
  have hbe : b.haddr ≠ e.haddr := fun heq => hne (heq ▸ hset) heq
  simpa [hasHaddr] using hbe

/-- `registration` looks the home address up before it inserts an entry. -/
theorem registration_grow (l : List BUEntry) (p : Packet) (t : Mipv6NodeType) :
    HaddrsGrow (haddrs l) (haddrs (registration l p t)) := by
  have hcase : ∀ new : BUEntry, new.haddr = p.nh.haddr → HaddrsGrow (haddrs l)
      (haddrs (match getEntryByHaddr l p.nh.haddr with
        | none => new :: l
        | some _ => updateFirst (hasHaddr p.nh.haddr) (·.setCaddr p.nh.coa) l)) := by
    intro new hnew
    cases hfind : getEntryByHaddr l p.nh.haddr with
    | none =>
      refine .cons (fun _ => ?_) .refl
      show new.haddr ∉ haddrs l
      rw [hnew]
      exact notMem_haddrs hfind
    | some e => exact .of_eq (haddrs_updateFirst (by intro e; rfl) l)
  cases t with
  | mr => exact hcase (BUEntry.newMr p.nh) rfl
  | mn => exact hcase (BUEntry.newMn p) rfl
  | mnHa => exact .refl
  | mrHa => exact .refl
  | cn => exact .refl
  | mrBs => exact .refl

theorem ensureMn_grow (l : List BUEntry) (p : Packet) :
    HaddrsGrow (haddrs l) (haddrs (ensureMn l p)) := by
  unfold ensureMn
  cases getEntryByHaddr l p.nh.haddr with
  | none => exact registration_grow l p .mn
  | some e => exact .refl

theorem registerIfHome_grow (l : List BUEntry) (p : Packet) :
    HaddrsGrow (haddrs l) (haddrs (registerIfHome l p)) := by
  unfold registerIfHome
  split_ifs
  · exact registration_grow l p .mn
  · exact .refl

end Grow

/-! ### The handlers -/

/-- What the operation returns has the home addresses of `a` behind new ones. -/
def Extends (a : MIPV6Agent) (x : Act Handled) : Prop :=
  Meets x (fun _ => True) fun r => HaddrsGrow (haddrs a.bulist) (haddrs r.1.bulist)

section Handlers

variable (a : MIPV6Agent) (p : Packet)

theorem extends_same {a' : MIPV6Agent} (outs : List Out) (h : a'.bulist = a.bulist) :
    Extends a (.ok (a', outs)) := HaddrsGrow.of_eq (by rw [h])

theorem extends_ok {l : List BUEntry} (outs : List Out)
    (h : HaddrsGrow (haddrs a.bulist) (haddrs l)) :
    Extends a (.ok ({ a with bulist := l }, outs)) := h

theorem Extends.bind {a : MIPV6Agent} {β : Type} {x : Act β} {f : β → Act Handled}
    (h : ∀ b, x = .ok b → Extends a (f b)) : Extends a (x >>= f) := by
  cases x with
  | error e => exact trivial
  | ok b => exact h b rfl

theorem followPrefix_haddrs {l l' : List BUEntry} {ha : BUEntry}
    (h : followPrefix l p = .ok (l', ha)) : haddrs l' = haddrs l := by
  obtain ⟨ha', -, hpure⟩ := bind_ok_iff.1 h
  cases hpure
  exact haddrs_updateFirst (by intro e; rfl) l

theorem mrRecvBu_extends : Extends a (mrRecvBu a p) := by
  refine Extends.bind fun p _ => ?_
  cases getEntryByAddr a.bulist p.iph.daddr with
  | some e => exact Extends.bind fun outs _ => extends_same a outs rfl
  | none =>
    by_cases hH : p.nh.H = ON
    · simp only [if_pos hH]
      refine Extends.bind fun r hr => Extends.bind fun outs _ => extends_ok a outs ?_
      rw [followPrefix_haddrs p hr]
      exact ensureMn_grow a.bulist p
    · simp only [if_neg hH]
      by_cases hA : p.nh.A = ON
      · rw [if_pos hA]
        exact Extends.bind fun f _ => extends_ok a _ (registration_grow a.bulist p .mn)
      · rw [if_neg hA]
        exact extends_ok a _ (registration_grow a.bulist p .mn)

theorem mrRecvBack_extends : Extends a (mrRecvBack a p) := by
  unfold mrRecvBack
  cases getEntryByCaddr a.bulist p.iph.daddr with
  | none => exact Extends.bind fun bu _ => Extends.bind fun f _ => extends_same a _ rfl
  | some e =>
    by_cases htunnel : sizeTunnel p = 0
    · simp only [if_pos htunnel]
      exact extends_same a _ rfl
    · simp only [if_neg htunnel]
      exact Extends.bind fun q _ => Extends.bind fun outs _ => extends_same a outs rfl

/-- The neighbour router's entry gets an address and nothing else. -/
theorem mrRecvBuMr_extends : Extends a (mrRecvBuMr a p) := by
  refine Extends.bind fun mr hmr => ?_
  have hfind : a.bulist.find? isNeighbourMr = some mr := deref_eq_ok.1 hmr
  set mr' := if mr.addr = noAddr then mr.setAddr p.iph.saddr else mr with hmr'
  have hsame : haddrs (updateFirst isNeighbourMr (fun _ => mr') a.bulist) = haddrs a.bulist := by
    refine map_updateFirst_of_find? hfind ?_
    rw [hmr']
    split_ifs <;> rfl
  dsimp only
  split_ifs with hunset
  · refine Extends.bind fun f _ => Extends.bind fun greet _ => ?_
    split
    · exact extends_ok a _ (.of_eq hsame)
    · exact Extends.bind fun f _ => extends_ok a _ (.of_eq hsame)
  · refine Extends.bind fun greet _ => ?_
    split
    · exact extends_ok a _ (.of_eq hsame)
    · exact Extends.bind fun f _ => extends_ok a _ (.of_eq hsame)

theorem mrRecvRehomeMrHa_extends : Extends a (mrRecvRehomeMrHa a p) := by
  refine Extends.bind fun p _ => Extends.bind fun r hr => Extends.bind fun outs _ => ?_
  refine extends_ok a outs ?_
  rw [followPrefix_haddrs p hr]
  exact registration_grow a.bulist p .mn

theorem mrRecvBuMrHa_extends : Extends a (mrRecvBuMrHa a p) :=
  Extends.bind fun _ _ => Extends.bind fun _ _ => Extends.bind fun outs _ =>
    extends_same a outs rfl

/-- The entry of the correspondent has no home address. -/
theorem mrRecvBuMn_extends : Extends a (mrRecvBuMn a p) := by
  refine Extends.bind fun p _ => Extends.bind fun ha _ => Extends.bind fun outs _ => ?_
  exact extends_ok a outs (.cons (fun hset => absurd rfl hset) (ensureMn_grow a.bulist p))

theorem recvNemoMr_extends : Extends a (recvNemoMr a p) := by
  unfold recvNemoMr
  split
  · exact mrRecvBu_extends a p
  · exact mrRecvBack_extends a p
  · exact mrRecvBuMr_extends a p
  · exact mrRecvRehomeMrHa_extends a p
  · exact mrRecvBuMrHa_extends a p
  · exact mrRecvBuMn_extends a p
  · exact extends_same a _ rfl

/-- The second registration of a re-homing has a header of its own. -/
theorem rehome_grow {l l' : List BUEntry} (h : rehome l p = .ok l') :
    HaddrsGrow (haddrs l) (haddrs l') := by
  obtain ⟨e, -, hpure⟩ := bind_ok_iff.1 h
  cases hpure
  refine .trans (.of_eq ?_) (registration_grow _ _ .mr)
  exact haddrs_updateFirst (by intro e; rfl) l

theorem recvNemoMrHa_extends : Extends a (recvNemoMrHa a p) := by
  unfold recvNemoMrHa
  split
  · -- `BU`
    refine Extends.bind fun p _ => ?_
    by_cases hself : p.iph.daddr = a.addr
    · simp only [if_pos hself]
      exact extends_ok a _ (registration_grow a.bulist p .mr)
    · simp only [if_neg hself]
      exact Extends.bind fun q _ => extends_same a _ rfl
  · -- `BACK`
    unfold mrHaRecvBack
    by_cases hself : p.iph.daddr = a.addr
    · by_cases htunnel : sizeTunnel p = 0
      · rw [if_pos hself, if_pos htunnel]
        exact extends_same a _ rfl
      · rw [if_pos hself, if_neg htunnel]
        exact Extends.bind fun q _ => Extends.bind fun bu _ => extends_same a _ rfl
    · rw [if_neg hself]
      exact extends_same a _ rfl
  · -- `REHOME`
    exact Extends.bind fun p _ => Extends.bind fun l hl => extends_ok a _ (rehome_grow p hl)
  · -- `REHOME_MR_HA`
    refine Extends.bind fun p _ => ?_
    by_cases hself : p.iph.daddr = a.addr
    · simp only [if_pos hself]
      exact Extends.bind fun l hl => extends_ok a _ (rehome_grow p hl)
    · simp only [if_neg hself]
      exact extends_same a _ rfl
  · exact Extends.bind fun q _ => extends_same a _ rfl
  · exact extends_same a _ rfl

theorem recvNemoMnHa_extends : Extends a (recvNemoMnHa a p) := by
  unfold recvNemoMnHa
  split
  · exact extends_ok a _ (registerIfHome_grow a.bulist p)
  · exact extends_same a _ rfl

theorem recvNemoMn_extends : Extends a (recvNemoMn a p) := by
  unfold recvNemoMn
  split
  · exact extends_ok a _ (registerIfHome_grow a.bulist p)
  · exact extends_same a _ rfl

theorem recvNemoCn_extends : Extends a (recvNemoCn a p) := by
  unfold recvNemoCn
  split
  · exact extends_ok a _ (registerIfHome_grow a.bulist p)
  · refine Extends.bind fun bu _ => extends_ok a _ (.of_eq ?_)
    exact haddrs_updateFirst (by intro e; rfl) a.bulist
  · exact extends_same a _ rfl

theorem relayMrBs_extends : Extends a (relayMrBs a p) :=
  Extends.bind fun _ _ => Extends.bind fun _ _ => Extends.bind fun _ _ => extends_same a _ rfl

theorem recvNemo_extends : Extends a (recvNemo a p) := by
  unfold recvNemo
  cases a.nodeType with
  | mr => exact recvNemoMr_extends a p
  | mrHa => exact recvNemoMrHa_extends a p
  | mnHa => exact recvNemoMnHa_extends a p
  | mn => exact recvNemoMn_extends a p
  | cn => exact recvNemoCn_extends a p
  | mrBs => exact relayMrBs_extends a p

/-! Of the data packets only those for a node or a correspondent register anything. -/

theorem tunnelingMr_extends : Extends a (tunnelingMr a p) := by
  refine Extends.bind fun p _ => ?_
  cases getEntryByAddr a.bulist p.iph.daddr with
  | none => exact Extends.bind fun outs _ => extends_same a outs rfl
  | some bu =>
    by_cases hmr : bu.type = .mr
    · simp only [if_pos hmr]
      exact extends_same a _ rfl
    · simp only [if_neg hmr]
      exact Extends.bind fun f _ => extends_same a _ rfl

theorem tunnelingMn_extends : Extends a (tunnelingMn a p) := by
  refine Extends.bind fun bu _ => Extends.bind fun f _ => ?_
  by_cases hown : p.iph.saddr = ifaceAddress a f
  · simp only [if_pos hown]
    exact extends_same a _ rfl
  · simp only [if_neg hown]
    refine Extends.bind fun q _ => ?_
    dsimp only
    split
    · exact extends_same a _ rfl
    · exact Extends.bind fun bu _ => Extends.bind fun f _ =>
        extends_ok a _ (registration_grow a.bulist _ .mn)

theorem tunnelingMrHa_extends : Extends a (tunnelingMrHa a p) := by
  refine Extends.bind fun q _ => ?_
  dsimp only
  split
  · exact extends_same a _ rfl
  · exact extends_same a _ rfl

theorem tunnelingMnHa_extends : Extends a (tunnelingMnHa a p) := by
  refine Extends.bind fun q _ => ?_
  dsimp only
  split_ifs
  · exact Extends.bind fun q _ => Extends.bind fun bu _ => extends_same a _ rfl
  · exact Extends.bind fun q _ => Extends.bind fun bu _ => extends_same a _ rfl

theorem cnReceive_extends : Extends a (cnReceive a p) := by
  refine Extends.bind fun q _ => ?_
  dsimp only
  split
  · exact Extends.bind fun bu _ => extends_ok a _ (registration_grow a.bulist _ .mn)
  · exact extends_same a _ rfl

theorem cnSend_extends : Extends a (cnSend a p) := by
  unfold cnSend
  dsimp only
  split_ifs
  · exact Extends.bind fun ha _ => extends_same a _ rfl
  · exact Extends.bind fun ha _ => extends_same a _ rfl
  · exact Extends.bind fun mn _ => extends_same a _ rfl
  · exact Extends.bind fun bu _ => extends_same a _ rfl

theorem tunnelingCn_extends : Extends a (tunnelingCn a p) := by
  unfold tunnelingCn
  split_ifs
  · exact cnReceive_extends a p
  · exact cnSend_extends a p

theorem tunneling_extends : Extends a (tunneling a p) := by
  unfold tunneling
  cases a.nodeType with
  | mr => exact tunnelingMr_extends a p
  | mn => exact tunnelingMn_extends a p
  | mrHa => exact tunnelingMrHa_extends a p
  | mnHa => exact tunnelingMnHa_extends a p
  | cn => exact tunnelingCn_extends a p
  | mrBs => exact relayMrBs_extends a p

theorem recv_extends : Extends a (recv a p) := by
  unfold recv
  cases p.cmn.ptype with
  | nemo => exact recvNemo_extends a p
  | udp => exact tunneling_extends a p

/-- A new entry for a router in reach has no home address. -/
theorem processMr_extends (pre : Addr) (iface : NodeId) : Extends a (processMr a pre iface) := by
  unfold processMr
  dsimp only
  split
  · exact extends_ok a _ (.cons (fun hset => absurd rfl hset) .refl)
  · split
    · exact extends_ok a _ (.of_eq (haddrs_updateFirst (by intro e; rfl) a.bulist))
    · exact extends_ok a _ (.of_eq (haddrs_updateFirst (by intro e; rfl) a.bulist))

end Handlers

/-! ### Runs -/

theorem agentEventStep_grow {a a' : MIPV6Agent} {ev : AgentEvent}
    (h : agentEventStep a ev = .ok a') : HaddrsGrow (haddrs a.bulist) (haddrs a'.bulist) := by
  cases ev with
  | packet p =>
    obtain ⟨r, hr, rfl⟩ := map_ok_iff.1 h
    exact (recv_extends a p).of_ok hr
  | router pre iface =>
    obtain ⟨r, hr, rfl⟩ := map_ok_iff.1 h
    exact (processMr_extends a pre iface).of_ok hr
  | address iface addr =>
    cases h
    exact .refl

/-- Whatever its type and configuration, an agent that starts with pairwise distinct home addresses
never has two entries with the same one, and finds each entry by its own. -/
theorem homeAddresses_unique {a : MIPV6Agent} {evs : List AgentEvent}
    (hstart : UniqueHaddrs (haddrs a.bulist)) :
    Throughout agentEventStep (fun a => UniqueHaddrs (haddrs a.bulist) ∧
      ∀ e ∈ a.bulist, e.haddr ≠ noAddr → getEntryByHaddr a.bulist e.haddr = some e) a evs := by
  refine throughout_of_any (I := fun a => UniqueHaddrs (haddrs a.bulist))
    (fun a ev a' hu h => (agentEventStep_grow h).unique hu) ?_ hstart evs
  exact fun a hu => ⟨hu, fun e he hset => getEntryByHaddr_of_mem hu he hset⟩

/-- A router comes into reach, a node registers and names its correspondent. -/
theorem homeAddresses_unique_sample :
    Throughout agentEventStep (fun a => UniqueHaddrs (haddrs a.bulist) ∧
        ∀ e ∈ a.bulist, e.haddr ≠ noAddr → getEntryByHaddr a.bulist e.haddr = some e) sampleMr
      [.router (str2addr 7 0 0) 1, .packet (sampleFromNode .bu 5),
        .packet (sampleFromNode .buMn 9)] := by
  refine homeAddresses_unique ?_
  unfold UniqueHaddrs
  decide

end SipNemo.Mip6
