import SipNemo.Sip.Bindings

/-!
# Runs of a mobile router with a selection policy

A run is any sequence of REGISTERs, interfaces that come up or change their address, and
interfaces that go down.  The question is whether every mobile node stays at the contact of an
interface that is up.

With weights (`select_` 3) it does, except that a REGISTER under the url id of one of the
router's own home agent entries overwrites that entry (`weighted_keeps_nodes_live` and
`weighted_url_id_clash`).
-/

namespace SipNemo.Sip

open FirstMatch Runs

/-! ### What one event does -/

theorem recvRegister_ok {a a' : UdpmysipAgent} {p p' : Packet} {outs : List Out}
    (h : recvRegister a p = .ok (a', outs, p')) :
    ∃ bu sel, chooseMrHa a.select (ensureMn a.siplist p.mh) a.sel (prefixOf p.iph.saddr) =
        .ok (some bu, sel) ∧
      (∃ mn, getEntryByUrlId (ensureMn a.siplist p.mh) p.mh.contactId = some mn) ∧
      a' = { a with
        siplist := updateFirst (hasUrlId p.mh.contactId) (·.setCon bu.con)
          (ensureMn a.siplist p.mh)
        sel := sel } := by
  obtain ⟨⟨bu, sel⟩, hchoose, h⟩ := bind_ok_iff.1 h
  obtain ⟨bu, hbu, h⟩ := bind_ok_iff.1 h
  obtain ⟨mn, hmn, h⟩ := bind_ok_iff.1 h
  obtain ⟨f, -, hpure⟩ := bind_ok_iff.1 h
  cases hpure
  rw [assertNonNull_eq_ok] at hbu
  rw [deref_eq_ok] at hmn
  subst hbu
  exact ⟨bu, sel, hchoose, ⟨mn, hmn⟩, rfl⟩

theorem sendRegMsg_ok {a a' : UdpmysipAgent} {pre : Addr} {iface : NodeId} {outs : List Out}
    (h : sendRegMsg a pre iface = .ok (a', outs)) (hmr : a.nodeType = .sipMr) :
    ∃ sip l sel, getEntryByIface a.siplist iface = some sip ∧
      renewMnCoa a.select (a.address iface)
        (updateFirst (onIface iface) (·.setCon (a.address iface)) a.siplist) a.sel =
          .ok (l, sel) ∧
      a' = { a with siplist := l, sel := sel } := by
  obtain ⟨sip, hsip, h⟩ := bind_ok_iff.1 h
  rw [if_pos hmr] at h
  obtain ⟨⟨l, sel⟩, hrenew, hpure⟩ := bind_ok_iff.1 h
  cases hpure
  exact ⟨sip, l, sel, assertNonNull_eq_ok.1 hsip, hrenew, rfl⟩

theorem reHomingSelect_ok {a a' : UdpmysipAgent} {iface : NodeId} {outs : List Out}
    {rehome : Addr → List SIPEntry → Selector → Act (List SIPEntry × Selector)}
    (h : reHomingSelect a iface rehome = .ok (a', outs)) :
    ∃ brk l sel, getEntryByIface a.siplist iface = some brk ∧
      rehome brk.con (updateFirst (onIface iface) (·.setCon noAddr) a.siplist) a.sel =
        .ok (l, sel) ∧
      a' = { a with siplist := l, sel := sel } := by
  obtain ⟨brk, hbrk, h⟩ := bind_ok_iff.1 h
  obtain ⟨new, -, h⟩ := bind_ok_iff.1 h
  obtain ⟨⟨l, sel⟩, hrehome, hpure⟩ := bind_ok_iff.1 h
  cases hpure
  exact ⟨brk, l, sel, assertNonNull_eq_ok.1 hbrk, hrehome, rfl⟩

/-- Registering leaves the list alone or puts a fresh mobile node in front of it. -/
theorem ensureMn_cases (l : List SIPEntry) (mh : HdrMysip) :
    (∃ e, getEntryByUrlId l mh.contactId = some e ∧ ensureMn l mh = l) ∨
    (getEntryByUrlId l mh.contactId = none ∧ ensureMn l mh = SIPEntry.newMn mh :: l) := by
  cases h : getEntryByUrlId l mh.contactId with
  | some e => exact Or.inl ⟨e, rfl, by simp [ensureMn, h]⟩
  | none => exact Or.inr ⟨rfl, by simp [ensureMn, h, registration]⟩

theorem RouterConfig.ensureMn {l : List SIPEntry} (hcfg : RouterConfig l) (mh : HdrMysip) :
    RouterConfig (ensureMn l mh) := by
  rcases ensureMn_cases l mh with ⟨e, -, heq⟩ | ⟨-, heq⟩
  · rw [heq]
    exact hcfg
  · rw [heq]
    exact hcfg.cons_mn rfl rfl

theorem liveMrHa_ensureMn (l : List SIPEntry) (mh : HdrMysip) :
    liveMrHa (ensureMn l mh) = liveMrHa l := by
  rcases ensureMn_cases l mh with ⟨e, -, heq⟩ | ⟨-, heq⟩
  · rw [heq]
  · have hne : (SipNodeType.sipMn == SipNodeType.sipMrHa) = false := by decide
    simp [heq, liveMrHa, isLive, hne]

/-- A REGISTER that gives its node a live contact. -/
theorem BoundToLive.register {l : List SIPEntry} (hb : BoundToLive l) {mh : HdrMysip} {c : Addr}
    (hurl : ∀ e, getEntryByUrlId l mh.contactId = some e → e.type ≠ .sipMrHa)
    (hc : LiveContact l c)
    (hmn : ∃ mn, getEntryByUrlId (ensureMn l mh) mh.contactId = some mn) :
    BoundToLive
      (updateFirst (hasUrlId mh.contactId) (·.setCon c) (ensureMn l mh)) := by
  rcases ensureMn_cases l mh with ⟨e, -, heq⟩ | ⟨hnone, heq⟩
  · rw [heq]
    exact hb.updateFirst_setCon hurl hc
  · rw [heq] at hmn ⊢
    -- the entry looked up can only be the new one
    have hid : hasUrlId mh.contactId (SIPEntry.newMn mh) = true := by
      obtain ⟨mn, hmn⟩ := hmn
      by_contra hne
      rw [getEntryByUrlId, List.find?_cons_of_neg hne, ← getEntryByUrlId, hnone] at hmn
      cases hmn
    rw [updateFirst_cons_pos hid]
    exact hb.cons_mn rfl hc

/-! ### Legal events and the router's start -/

/-- The events of a run: a REGISTER arrives while some interface is up; an interface gets an
address, which no other external interface has; an interface goes down. -/
def MrEvent.Legal (a : UdpmysipAgent) : MrEvent → Prop
  | .register p => p.mh.method = 5 ∧ SomeLive a.siplist
  | .up _ iface x => x ≠ noAddr ∧ ∀ e ∈ a.siplist, e.type = .sipMrHa →
      ∀ f ∈ e.eface, f.iface ≠ iface → a.address f.iface ≠ x
  | .down _ => True

/-- A REGISTER as `send_reg_msg` builds it, with the same `From` and contact ids. -/
def MrEvent.OwnContact : MrEvent → Prop
  | .register p => p.mh.fromId = p.mh.contactId
  | _ => True

/-- A REGISTER does not come under the url id of one of the router's home agent entries. -/
def MrEvent.NodeUrl (a : UdpmysipAgent) : MrEvent → Prop
  | .register p => ∀ e ∈ getEntryByUrlId a.siplist p.mh.contactId, e.type ≠ .sipMrHa
  | _ => True

/-- A mobile router before any node has registered: the home agent entries have interfaces of
their own, with addresses of their own. -/
structure RouterStart (a : UdpmysipAgent) : Prop where
  isMr : a.nodeType = .sipMr
  cfg : RouterConfig a.siplist
  ifaces : DistinctIfaces a.siplist
  addresses : (a.siplist.filter (hasType .sipMrHa)).Pairwise
    fun e e' => e.eface.map (fun f => a.address f.iface) ≠ e'.eface.map (fun f => a.address f.iface)
  noMn : ∀ e ∈ a.siplist, e.type ≠ .sipMn

theorem boundToLive_of_no_mn {l : List SIPEntry} (h : ∀ e ∈ l, e.type ≠ .sipMn) :
    BoundToLive l where
  bound := fun _ e he hmn => absurd hmn (h e he)
  unbound := fun _ e he hmn => absurd hmn (h e he)

/-- What the runs of a router with selection policy `select` keep. -/
structure SelectInv (select : ℤ) (a : UdpmysipAgent) : Prop where
  isMr : a.nodeType = .sipMr
  select_eq : a.select = select
  cfg : RouterConfig a.siplist
  bound : BoundToLive a.siplist

theorem RouterStart.selectInv {a : UdpmysipAgent} (h : RouterStart a) :
    SelectInv a.select a where
  isMr := h.isMr
  select_eq := rfl
  cfg := h.cfg
  bound := boundToLive_of_no_mn h.noMn

/-! ### A router to run -/

/-- The home agent entry `set-sip-mr` makes for the external interface `n` and the nemo prefix
`d.0.0`. -/
def sampleMrHa (urlId : ℤ) (d n : ℕ) : SIPEntry :=
  { type := .sipMrHa, addrId := 88, addr := str2addr 8 0 0, urlId := urlId, url := str2addr 8 0 0
    nemoPrefix := str2addr d 0 0
    eface := some { iface := n, addr := 0, port := 0 }
    iface := some { iface := 0, addr := 0, port := 0 } }

/-- A mobile router with the external interfaces 1 and 2. -/
def sampleRouter (select : ℤ) : UdpmysipAgent :=
  { nodeType := .sipMr, addr := str2addr 6 0 0, port := 3, select := select
    siplist := [sampleMrHa 9999 6 1, sampleMrHa 9998 7 2]
    address := fun n => if n = 1 then str2addr 2 0 1 else if n = 2 then str2addr 3 0 1 else 0 }

/-- A REGISTER for the url id `u` from the node `d.0.k`. -/
def sampleRegister (u : ℤ) (d k : ℕ) : Packet :=
  { iph := { saddr := str2addr d 0 k }
    mh := { method := 5, fromId := u, toId := u, contactId := u, contact := str2addr d 0 k
            requestURL := str2addr 5 0 0 } }

theorem sampleRouter_start (select : ℤ) : RouterStart (sampleRouter select) where
  isMr := rfl
  cfg := by
    constructor
    · show ∀ e ∈ [sampleMrHa 9999 6 1, sampleMrHa 9998 7 2], _
      decide
    · show ∀ e ∈ [sampleMrHa 9999 6 1, sampleMrHa 9998 7 2], _
      decide
  ifaces := by
    show DistinctIfaces [sampleMrHa 9999 6 1, sampleMrHa 9998 7 2]
    decide
  addresses := by
    show List.Pairwise (fun e e' => e.eface.map (fun f => (sampleRouter 0).address f.iface) ≠
      e'.eface.map fun f => (sampleRouter 0).address f.iface)
      [sampleMrHa 9999 6 1, sampleMrHa 9998 7 2]
    decide
  noMn := by
    show ∀ e ∈ [sampleMrHa 9999 6 1, sampleMrHa 9998 7 2], _
    decide

/-! ### The steps common to both policies -/

/-- A REGISTER keeps the nodes live. -/
theorem SelectInv.register {select : ℤ} (hsel : select = 2 ∨ select = 3) {a a' : UdpmysipAgent}
    (hinv : SelectInv select a) {p : Packet} (hlegal : (MrEvent.register p).Legal a)
    (hurl : (MrEvent.register p).NodeUrl a) (h : mrStep a (.register p) = .ok a') :
    SelectInv select a' := by
  obtain ⟨⟨a₁, outs, p'⟩, hrecv, rfl⟩ := map_ok_iff.1 h
  rw [recvMr, if_pos hlegal.1] at hrecv
  obtain ⟨bu, sel, hchoose, hmn, rfl⟩ := recvRegister_ok hrecv
  rw [hinv.select_eq] at hchoose
  have hlive : LiveContact a.siplist bu.con :=
    (liveContact_congr (liveMrHa_ensureMn _ _) _).1 (chooseMrHa_live hsel hchoose)
  exact
    { isMr := hinv.isMr
      select_eq := hinv.select_eq
      cfg := (hinv.cfg.ensureMn p.mh).updateFirst_setCon _ _
      bound := hinv.bound.register hurl hlive hmn }

/-- An interface that goes down keeps the nodes live. -/
theorem SelectInv.down {select : ℤ} (hsel : select = 2 ∨ select = 3) {a a' : UdpmysipAgent}
    (hinv : SelectInv select a) {iface : NodeId} (h : mrStep a (.down iface) = .ok a') :
    SelectInv select a' := by
  obtain ⟨⟨a₁, outs⟩, hre, rfl⟩ := map_ok_iff.1 h
  -- both policies rewrite the list by a loop that meets the same specification
  have hspec : ∃ brk l sel, getEntryByIface a.siplist iface = some brk ∧
      List.Forall₂ (Recontacted
        (Rehomed (updateFirst (onIface iface) (·.setCon noAddr) a.siplist) brk.con))
        (updateFirst (onIface iface) (·.setCon noAddr) a.siplist) l ∧
      a₁ = { a with siplist := l, sel := sel } := by
    rcases hsel with rfl | rfl
    · have hre' : reHomingSelect a iface rehomeMnCoaEntryRoundRobin = .ok (a₁, outs) := by
        simpa [reHoming, hinv.select_eq] using hre
      obtain ⟨brk, l, sel, hbrk, hl, ha⟩ := reHomingSelect_ok hre'
      exact ⟨brk, l, sel, hbrk, rehomeRoundRobin_spec hl, ha⟩
    · have hre' : reHomingSelect a iface rehomeMnCoaEntryWeight = .ok (a₁, outs) := by
        simpa [reHoming, hinv.select_eq] using hre
      obtain ⟨brk, l, sel, hbrk, hl, ha⟩ := reHomingSelect_ok hre'
      exact ⟨brk, l, sel, hbrk, rehomeWeight_spec hl, ha⟩
  obtain ⟨brk, l, sel, hbrk, hl, rfl⟩ := hspec
  exact
    { isMr := hinv.isMr
      select_eq := hinv.select_eq
      cfg := (hinv.cfg.updateFirst_setCon _ _).recontacted hl
      bound := hinv.bound.rehome hbrk (type_of_onIface hinv.cfg hbrk) hl }

/-- An interface that gets an address keeps the nodes live when the renewal moves every node that
was at the interface's old contact. -/
theorem SelectInv.up {select : ℤ} {a a' : UdpmysipAgent} (hinv : SelectInv select a) {pre x : Addr}
    {iface : NodeId} (hx : x ≠ noAddr)
    (hrenew : ∀ sip l sel, getEntryByIface a.siplist iface = some sip →
      renewMnCoa select x (updateFirst (onIface iface) (·.setCon x) a.siplist) a.sel =
        .ok (l, sel) →
      List.Forall₂ (Recontacted (Renewed sip.con x))
        (updateFirst (onIface iface) (·.setCon x) a.siplist) l)
    (h : mrStep a (.up pre iface x) = .ok a') : SelectInv select a' := by
  obtain ⟨⟨a₁, outs⟩, hreg, rfl⟩ := map_ok_iff.1 h
  obtain ⟨sip, l, sel, hsip, hl, rfl⟩ := sendRegMsg_ok hreg hinv.isMr
  simp only [Function.update_self, hinv.select_eq] at hl
  have hspec := hrenew sip l sel hsip hl
  exact
    { isMr := hinv.isMr
      select_eq := hinv.select_eq
      cfg := (hinv.cfg.updateFirst_setCon _ _).recontacted hspec
      bound := hinv.bound.renew hsip (type_of_onIface hinv.cfg hsip) hx hspec }

/-! ### Weights -/

theorem renewWeight_spec {x : Addr} {l l' : List SIPEntry} {s s' : Selector}
    (h : renewMnCoa 3 x l s = .ok (l', s')) :
    List.Forall₂ (Recontacted fun _ c' => c' = x) l l' := by
  have h' : (renewMnCoaEntryWeight x l).map (·, s) = .ok (l', s') := by
    simpa [renewMnCoa] using h
  obtain ⟨l₁, hl₁, heq⟩ := map_ok_iff.1 h'
  cases heq
  obtain ⟨r, hr, rfl⟩ := map_ok_iff.1 hl₁
  refine forEachMn_spec ?_ hr
  intro _ c c' _ hc
  cases hc
  rfl

theorem weighted_step {a a' : UdpmysipAgent} {ev : MrEvent} (hinv : SelectInv 3 a)
    (hev : (ev.Legal a ∧ ev.OwnContact) ∧ ev.NodeUrl a) (h : mrStep a ev = .ok a') :
    SelectInv 3 a' := by
  cases ev with
  | register p => exact hinv.register (Or.inr rfl) hev.1.1 hev.2 h
  | down iface => exact hinv.down (Or.inr rfl) h
  | up pre iface x =>
    refine hinv.up hev.1.1.1 ?_ h
    intro sip l sel _ hl
    refine (renewWeight_spec hl).imp ?_
    intro e e' he
    by_cases ht : e.type = .sipMn
    · obtain ⟨c, rfl, rfl⟩ := he.of_mn ht
      simpa [Recontacted, ht] using ⟨c, rfl, Or.inl rfl⟩
    · simpa [Recontacted, ht] using he.of_ne ht

/-- With weights every mobile node stays at a live contact while there is one, and at none
otherwise, in every run whose REGISTERs do not use the url id of a home agent entry. -/
theorem weighted_keeps_nodes_live {a a' : UdpmysipAgent} {evs : List MrEvent}
    (hstart : RouterStart a) (hselect : a.select = 3)
    (hmeet : StepsMeet mrStep (fun a ev => (ev.Legal a ∧ ev.OwnContact) ∧ ev.NodeUrl a) a evs)
    (hrun : runSteps mrStep a evs = .ok a') : BoundToLive a'.siplist := by
  have hinv : SelectInv 3 a := hselect ▸ hstart.selectInv
  exact (runSteps_invariant (fun s i s' => weighted_step) hinv hmeet hrun).bound

/-- The first interface comes up after a node has registered over the second, and goes down. -/
def weightedRun : List MrEvent :=
  [.up (str2addr 3 0 0) 2 (str2addr 3 0 1), .register (sampleRegister 8888 6 1),
    .up (str2addr 2 0 0) 1 (str2addr 2 0 1), .down 1]

theorem weightedRun_meets :
    StepsMeet mrStep (fun a ev => (ev.Legal a ∧ ev.OwnContact) ∧ ev.NodeUrl a)
      (sampleRouter 3) weightedRun := by
  unfold weightedRun
  refine .cons ⟨⟨⟨by decide, by decide⟩, trivial⟩, trivial⟩ rfl ?_
  refine .cons ⟨⟨⟨rfl, by decide⟩, rfl⟩, ?_⟩ rfl ?_
  · exact fun e he => by cases he
  refine .cons ⟨⟨⟨by decide, by decide⟩, trivial⟩, trivial⟩ rfl ?_
  exact .cons ⟨⟨trivial, trivial⟩, trivial⟩ rfl trivial

theorem weighted_keeps_nodes_live_sample :
    ∃ a', runSteps mrStep (sampleRouter 3) weightedRun = .ok a' ∧
      (∃ e ∈ a'.siplist, e.type = .sipMn) ∧ BoundToLive a'.siplist := by
  obtain ⟨a', ha', hmn⟩ : ∃ a', runSteps mrStep (sampleRouter 3) weightedRun = .ok a' ∧
      ∃ e ∈ a'.siplist, e.type = .sipMn := ⟨_, rfl, by decide⟩
  exact ⟨a', ha', hmn, weighted_keeps_nodes_live (sampleRouter_start 3) rfl weightedRun_meets ha'⟩

/-- A node registers, and then a REGISTER comes under the url id of the first home agent entry. -/
def clashRun : List MrEvent :=
  [.up (str2addr 3 0 0) 2 (str2addr 3 0 1), .register (sampleRegister 8888 6 1),
    .up (str2addr 2 0 0) 1 (str2addr 2 0 1), .register (sampleRegister 9999 6 1)]

theorem clashRun_legal :
    StepsMeet mrStep (fun a ev => ev.Legal a ∧ ev.OwnContact) (sampleRouter 3) clashRun := by
  unfold clashRun
  refine .cons ⟨⟨by decide, by decide⟩, trivial⟩ rfl ?_
  refine .cons ⟨⟨rfl, by decide⟩, rfl⟩ rfl ?_
  refine .cons ⟨⟨by decide, by decide⟩, trivial⟩ rfl ?_
  exact .cons ⟨⟨rfl, by decide⟩, rfl⟩ rfl trivial

theorem weighted_url_id_clash :
    ¬ ∀ (a a' : UdpmysipAgent) (evs : List MrEvent), RouterStart a → a.select = 3 → a.expMr = 0 →
      (∀ e ∈ a.siplist, e.type = .sipMrHa → e.con = noAddr) →
      StepsMeet mrStep (fun a ev => ev.Legal a ∧ ev.OwnContact) a evs →
      runSteps mrStep a evs = .ok a' → BoundToLive a'.siplist := by
  intro h
  obtain ⟨a', ha', hlive, hstale⟩ : ∃ a', runSteps mrStep (sampleRouter 3) clashRun = .ok a' ∧
      SomeLive a'.siplist ∧ ∃ e ∈ a'.siplist, e.type = .sipMn ∧ ¬ LiveContact a'.siplist e.con :=
    ⟨_, rfl, by decide, by decide⟩
  have hcon : ∀ e ∈ (sampleRouter 3).siplist, e.type = .sipMrHa → e.con = noAddr := by decide
  have hbound := h _ a' _ (sampleRouter_start 3) rfl rfl hcon clashRun_legal ha'
  obtain ⟨e, he, hmn, hdead⟩ := hstale
  exact hdead (hbound.bound hlive e he hmn)

end SipNemo.Sip
