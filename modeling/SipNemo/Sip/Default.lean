import SipNemo.Sip.Selection

/-!
# A mobile router without a selection policy

With `select_` 0 and `exp_mr_` 0 a node is bound to the interface of its own prefix, an interface
that comes up renews nobody, and `re_homing` works with single representatives: the first entry on
another interface, the first mobile node, the first correspondent.

* `reHoming_rescues_iff` says exactly when one `re_homing` rescues every node of the broken
  interface;
* `default_forwards` says in which runs the router can always pass on what a registered node
  sends: the `assert` of `recv` holds and the interface used is up.
-/

namespace SipNemo.Sip

open FirstMatch Runs

/-- `c` is the contact of an interface other than `iface` that is up. -/
def LiveElsewhere (iface : NodeId) (l : List SIPEntry) (c : Addr) : Prop :=
  ∃ e ∈ l, isLive e = true ∧ offIface iface e = true ∧ e.con = c

instance (iface : NodeId) (l : List SIPEntry) (c : Addr) : Decidable (LiveElsewhere iface l c) :=
  inferInstanceAs (Decidable (∃ e ∈ l, isLive e = true ∧ offIface iface e = true ∧ e.con = c))

section Lists

variable {iface : NodeId} {l : List SIPEntry}

theorem onIface_iff {e : SIPEntry} :
    onIface iface e = true ↔ ∃ f, e.eface = some f ∧ f.iface = iface := by
  unfold onIface
  cases e.eface <;> simp

theorem offIface_iff {e : SIPEntry} :
    offIface iface e = true ↔ ∃ f, e.eface = some f ∧ f.iface ≠ iface := by
  unfold offIface
  cases e.eface <;> simp

@[simp] theorem onIface_setCon (e : SIPEntry) (c : Addr) :
    onIface iface (e.setCon c) = onIface iface e := rfl

@[simp] theorem offIface_setCon (e : SIPEntry) (c : Addr) :
    offIface iface (e.setCon c) = offIface iface e := rfl

/-- An entry on another interface is not on this one. -/
theorem onIface_eq_false_of_offIface {e : SIPEntry} (h : offIface iface e = true) :
    onIface iface e = false := by
  obtain ⟨f, hf, hne⟩ := offIface_iff.1 h
  simp [onIface, hf, hne]

/-- A home agent entry is on the given interface or on another one. -/
theorem RouterConfig.offIface_of_not_onIface (hcfg : RouterConfig l) {e : SIPEntry} (he : e ∈ l)
    (ht : e.type = .sipMrHa) (h : onIface iface e = false) : offIface iface e = true := by
  cases hf : e.eface with
  | none => exact absurd hf (hcfg.has_eface e he ht)
  | some f =>
    have hne : f.iface ≠ iface := by simpa [onIface, hf] using h
    simp [offIface, hf, hne]

theorem RouterConfig.type_of_offIface (hcfg : RouterConfig l) {e : SIPEntry} (he : e ∈ l)
    (h : offIface iface e = true) : e.type = .sipMrHa := by
  obtain ⟨f, hf, -⟩ := offIface_iff.1 h
  exact hcfg.eface_type e he (by simp [hf])

/-- A mobile node is on no interface. -/
theorem RouterConfig.onIface_mn (hcfg : RouterConfig l) {e : SIPEntry} (he : e ∈ l)
    (ht : e.type = .sipMn) : onIface iface e = false := by
  by_contra h
  rw [Bool.not_eq_false] at h
  obtain ⟨f, hf, -⟩ := onIface_iff.1 h
  have htype := hcfg.eface_type e he (by simp [hf])
  rw [ht] at htype
  cases htype

theorem RouterConfig.of_cons {e : SIPEntry} (hcfg : RouterConfig (e :: l)) : RouterConfig l :=
  ⟨fun e' he' => hcfg.eface_type e' (List.mem_cons_of_mem _ he'),
    fun e' he' => hcfg.has_eface e' (List.mem_cons_of_mem _ he')⟩

theorem DistinctIfaces.of_cons {e : SIPEntry} (hdist : DistinctIfaces (e :: l)) :
    DistinctIfaces l :=
  List.Pairwise.sublist ((List.sublist_cons_self e l).filter _) hdist

/-- Behind the entry of an interface, the home agent entries are on others. -/
theorem DistinctIfaces.offIface_of_onIface {e e' : SIPEntry} (hdist : DistinctIfaces (e :: l))
    (hcfg : RouterConfig (e :: l)) (hon : onIface iface e = true) (he' : e' ∈ l)
    (ht' : e'.type = .sipMrHa) : offIface iface e' = true := by
  obtain ⟨f, hf, hfi⟩ := onIface_iff.1 hon
  have ht : e.type = .sipMrHa := hcfg.eface_type e List.mem_cons_self (by simp [hf])
  refine hcfg.of_cons.offIface_of_not_onIface he' ht' ?_
  by_contra hon'
  rw [Bool.not_eq_false] at hon'
  obtain ⟨f', hf', hfi'⟩ := onIface_iff.1 hon'
  have hfirst : hasType .sipMrHa e = true := by simp [hasType, ht]
  unfold DistinctIfaces at hdist
  rw [List.filter_cons_of_pos hfirst, List.pairwise_cons] at hdist
  refine hdist.1 e' (by simp [hasType, he', ht']) ?_
  simp [hf, hf', hfi, hfi']

/-- After the only entry on `iface` has lost its contact, the live contacts are those of the other
interfaces. -/
theorem liveContact_broken_iff (hcfg : RouterConfig l) (hdist : DistinctIfaces l) {c : Addr} :
    LiveContact (updateFirst (onIface iface) (·.setCon noAddr) l) c ↔ LiveElsewhere iface l c := by
  induction l with
  | nil => simp [LiveContact, LiveElsewhere]
  | cons e l ih =>
    cases hon : onIface iface e with
    | true =>
      -- the broken entry itself is no longer live, and no other entry is on its interface
      rw [updateFirst_cons_pos hon]
      have hoff : offIface iface e = false := by
        obtain ⟨f, hf, hfi⟩ := onIface_iff.1 hon
        simp [offIface, hf, hfi]
      constructor
      · rintro ⟨e', he', hlive, rfl⟩
        rcases List.mem_cons.1 he' with rfl | he'
        · exact absurd rfl (isLive_iff.1 hlive).2
        · have hother := hdist.offIface_of_onIface hcfg hon he' (isLive_iff.1 hlive).1
          exact ⟨e', List.mem_cons_of_mem _ he', hlive, hother, rfl⟩
      · rintro ⟨e', he', hlive, hoff', rfl⟩
        rcases List.mem_cons.1 he' with rfl | he'
        · rw [hoff] at hoff'
          cases hoff'
        · exact ⟨e', List.mem_cons_of_mem _ he', hlive, rfl⟩
    | false =>
      rw [updateFirst_cons_neg hon]
      have hhead : isLive e = true → offIface iface e = true := fun hlive =>
        hcfg.offIface_of_not_onIface List.mem_cons_self (isLive_iff.1 hlive).1 hon
      have ih' := ih hcfg.of_cons hdist.of_cons
      constructor
      · rintro ⟨e', he', hlive, rfl⟩
        rcases List.mem_cons.1 he' with rfl | he'
        · exact ⟨e', List.mem_cons_self, hlive, hhead hlive, rfl⟩
        · obtain ⟨e₁, he₁, hl₁, hoff₁, heq⟩ := ih'.1 ⟨e', he', hlive, rfl⟩
          exact ⟨e₁, List.mem_cons_of_mem _ he₁, hl₁, hoff₁, heq⟩
      · rintro ⟨e', he', hlive, hoff', rfl⟩
        rcases List.mem_cons.1 he' with rfl | he'
        · exact ⟨e', List.mem_cons_self, hlive, rfl⟩
        · obtain ⟨e₁, he₁, hl₁, heq⟩ := ih'.2 ⟨e', he', hlive, hoff', rfl⟩
          exact ⟨e₁, List.mem_cons_of_mem _ he₁, hl₁, heq⟩

end Lists

/-! ### One `re_homing` -/

theorem reHomingDefault_ok {a a' : UdpmysipAgent} {iface : NodeId} {outs : List Out}
    (h : reHoming a iface = .ok (a', outs)) (hselect : a.select = 0) (hexp : a.expMr = 0) :
    ∃ brk new mn, getEntryByIface a.siplist iface = some brk ∧
      getEntryWithoutIface a.siplist iface = some new ∧
      getEntryByType a.siplist .sipMn = some mn ∧
      a' = { a with siplist := rehomedList iface new.con a.siplist } := by
  have h' : reHomingDefault a iface = .ok (a', outs) := by
    simpa [reHoming, hselect, hexp] using h
  obtain ⟨brk, hbrk, h'⟩ := bind_ok_iff.1 h'
  obtain ⟨new, hnew, h'⟩ := bind_ok_iff.1 h'
  obtain ⟨mn, hmn, h'⟩ := bind_ok_iff.1 h'
  obtain ⟨f, -, hpure⟩ := bind_ok_iff.1 h'
  cases hpure
  rw [assertNonNull_eq_ok] at hbrk hnew hmn
  exact ⟨brk, new, mn, hbrk, hnew, hmn, rfl⟩

section Rehomed

variable {iface : NodeId} {l : List SIPEntry} {brk mn : SIPEntry} {c : Addr}

/-- The first mobile node is still the first once an interface entry was written. -/
theorem getEntryByType_broken (hcfg : RouterConfig l) (iface : NodeId) :
    getEntryByType (updateFirst (onIface iface) (·.setCon noAddr) l) .sipMn =
      getEntryByType l .sipMn := by
  refine find?_updateFirst_of_disjoint ?_
  intro e he hon
  have ht : hasType .sipMn e = false := by
    obtain ⟨f, hf, -⟩ := onIface_iff.1 hon
    simp [hasType, hcfg.eface_type e he (by simp [hf])]
  exact ⟨ht, ht⟩

/-- The mobile nodes after `re_homing`: the first has the contact `c`, the others are as before. -/
theorem mobileNodes_rehomedList (hcfg : RouterConfig l) (hbrk : getEntryByIface l iface = some brk)
    (hmn : getEntryByType l .sipMn = some mn) :
    ∃ rest, mobileNodes l = mn :: rest ∧
      mobileNodes (rehomedList iface c l) = mn.setCon c :: rest := by
  have hne : brk.type ≠ .sipMn := by
    rw [type_of_onIface hcfg hbrk]
    decide
  rw [← getEntryByType_broken hcfg iface] at hmn
  obtain ⟨rest, hl, hl'⟩ := mobileNodes_updateFirst_first hmn c
  rw [mobileNodes_updateFirst_of_ne hbrk hne] at hl
  exact ⟨rest, hl, hl'⟩

/-- The live entries after `re_homing` are those after the loss of the broken contact. -/
theorem liveMrHa_rehomedList (iface : NodeId) (c : Addr) (l : List SIPEntry) :
    liveMrHa (rehomedList iface c l) =
      liveMrHa (updateFirst (onIface iface) (·.setCon noAddr) l) := by
  refine liveMrHa_updateFirst ?_ c
  intro e he
  have ht := List.find?_some he
  simp only [hasType, beq_iff_eq] at ht
  rw [ht]
  decide

/-- The broken entry has lost its contact. -/
theorem getEntryByIface_rehomedList (hcfg : RouterConfig l)
    (hbrk : getEntryByIface l iface = some brk) :
    getEntryByIface (rehomedList iface c l) iface = some (brk.setCon noAddr) := by
  have hself : getEntryByIface (updateFirst (onIface iface) (·.setCon noAddr) l) iface =
      some (brk.setCon noAddr) := by
    unfold getEntryByIface at hbrk ⊢
    rw [find?_updateFirst_self (fun e => onIface_setCon e noAddr), hbrk]
    rfl
  rw [← hself]
  unfold getEntryByIface rehomedList
  refine find?_updateFirst_of_disjoint ?_
  intro e he ht
  have hon : onIface iface e = false :=
    (hcfg.updateFirst_setCon _ _).onIface_mn he (by simpa [hasType] using ht)
  exact ⟨hon, hon⟩

end Rehomed

/-- What `re_homing` is for, when the interface `iface` with the contact `old` breaks: its entry
has no contact any more, every node that was at `old` is at a live contact, and no node at another
live interface has moved. -/
structure Rescued (iface : NodeId) (old : Addr) (l l' : List SIPEntry) : Prop where
  broken : (getEntryByIface l' iface).map (·.con) = some noAddr
  nodes : List.Forall₂
    (fun e e' => (e.con = old → LiveContact l' e'.con) ∧
      (LiveElsewhere iface l e.con → e'.con = e.con))
    (mobileNodes l) (mobileNodes l')

/-- The replacement is live exactly when it has a contact. -/
theorem liveElsewhere_new_iff {l : List SIPEntry} {iface : NodeId} {new : SIPEntry}
    (hcfg : RouterConfig l) (hnew : getEntryWithoutIface l iface = some new) :
    LiveElsewhere iface l new.con ↔ new.con ≠ noAddr := by
  have hmem := List.mem_of_find?_eq_some hnew
  have hoff : offIface iface new = true := List.find?_some hnew
  constructor
  · rintro ⟨e, -, hlive, -, hcon⟩
    exact hcon ▸ (isLive_iff.1 hlive).2
  · intro hne
    exact ⟨new, hmem, isLive_iff.2 ⟨hcfg.type_of_offIface hmem hoff, hne⟩, hoff, rfl⟩

/-- The default `re_homing` rescues the nodes of the broken interface exactly when the first
mobile node is well served by the first other entry, and every further node at the broken contact
has the same contact over another live interface anyway. -/
theorem reHoming_rescues_iff {a a' : UdpmysipAgent} {iface : NodeId} {outs : List Out}
    {brk new mn : SIPEntry} {rest : List SIPEntry} (h : reHoming a iface = .ok (a', outs))
    (hselect : a.select = 0) (hexp : a.expMr = 0) (hcfg : RouterConfig a.siplist)
    (hdist : DistinctIfaces a.siplist) (hbrk : getEntryByIface a.siplist iface = some brk)
    (hnew : getEntryWithoutIface a.siplist iface = some new)
    (hmns : mobileNodes a.siplist = mn :: rest) :
    Rescued iface brk.con a.siplist a'.siplist ↔
      (mn.con = brk.con → new.con ≠ noAddr) ∧
      (LiveElsewhere iface a.siplist mn.con → new.con = mn.con) ∧
      (∀ e ∈ rest, e.con = brk.con → LiveElsewhere iface a.siplist brk.con) := by
  obtain ⟨brk', new', mn', hbrk', hnew', hmn', rfl⟩ := reHomingDefault_ok h hselect hexp
  obtain rfl : brk' = brk := Option.some.inj (hbrk'.symm.trans hbrk)
  obtain rfl : new' = new := Option.some.inj (hnew'.symm.trans hnew)
  obtain ⟨rest', hl, hl'⟩ := mobileNodes_rehomedList (c := new'.con) hcfg hbrk hmn'
  obtain ⟨rfl, rfl⟩ : mn' = mn ∧ rest' = rest := List.cons.inj (hl.symm.trans hmns)
  have hlive : ∀ c, LiveContact (rehomedList iface new'.con a.siplist) c ↔
      LiveElsewhere iface a.siplist c := fun c =>
    (liveContact_congr (liveMrHa_rehomedList iface new'.con a.siplist) c).trans
      (liveContact_broken_iff hcfg hdist)
  have hnewLive := liveElsewhere_new_iff hcfg hnew
  have hbroken := getEntryByIface_rehomedList (c := new'.con) hcfg hbrk
  constructor
  · rintro ⟨-, hnodes⟩
    dsimp only at hnodes
    rw [hl, hl', List.forall₂_cons, List.forall₂_same] at hnodes
    obtain ⟨⟨hfirst, hkeep⟩, hrest⟩ := hnodes
    refine ⟨?_, ?_, ?_⟩
    · intro hcon
      exact hnewLive.1 ((hlive _).1 (hfirst hcon))
    · intro hcon
      exact hkeep hcon
    · intro e he hcon
      have helse := (hlive _).1 ((hrest e he).1 hcon)
      rwa [hcon] at helse
  · rintro ⟨hfirst, hkeep, hrest⟩
    refine ⟨by simp [hbroken], ?_⟩
    dsimp only
    rw [hl, hl', List.forall₂_cons, List.forall₂_same]
    refine ⟨⟨?_, ?_⟩, ?_⟩
    · intro hcon
      exact (hlive _).2 (hnewLive.2 (hfirst hcon))
    · intro hcon
      exact hkeep hcon
    · intro e he
      refine ⟨?_, fun _ => rfl⟩
      intro hcon
      rw [hlive, hcon]
      exact hrest e he hcon

/-- A mobile node with the contact `c`. -/
def sampleMn (c : Addr) : SIPEntry := { type := .sipMn, urlId := 8888, con := c }

/-- The router with both interfaces up, on `2.0.1` and `3.0.1`, and nodes at the given contacts. -/
def rehomingRouter (mns : List Addr) : UdpmysipAgent :=
  { sampleRouter 0 with
    siplist := mns.map sampleMn ++
      [(sampleMrHa 9999 6 1).setCon (str2addr 2 0 1),
        (sampleMrHa 9998 7 2).setCon (str2addr 3 0 1)] }

theorem reHoming_rescues_iff_sample :
    ∃ a' outs, reHoming (rehomingRouter [str2addr 2 0 1, str2addr 3 0 1]) 1 = .ok (a', outs) ∧
      Rescued 1 (str2addr 2 0 1)
        (rehomingRouter [str2addr 2 0 1, str2addr 3 0 1]).siplist a'.siplist := by
  obtain ⟨a', outs, h⟩ :
      ∃ a' outs, reHoming (rehomingRouter [str2addr 2 0 1, str2addr 3 0 1]) 1 = .ok (a', outs) :=
    ⟨_, _, rfl⟩
  refine ⟨a', outs, h, ?_⟩
  have hiff := reHoming_rescues_iff h rfl rfl ⟨by decide, by decide⟩ (by decide) rfl rfl rfl
  exact hiff.2 (by decide)

/-- Of two nodes at the broken contact the second is left there. -/
theorem reHoming_strands_second_node :
    ¬ ∀ (a a' : UdpmysipAgent) (iface : NodeId) (outs : List Out) (brk : SIPEntry),
      a.nodeType = .sipMr → a.select = 0 → a.expMr = 0 → RouterConfig a.siplist →
      DistinctIfaces a.siplist → getEntryByIface a.siplist iface = some brk →
      (∃ e ∈ a.siplist, isLive e = true ∧ offIface iface e = true) →
      reHoming a iface = .ok (a', outs) → Rescued iface brk.con a.siplist a'.siplist := by
  intro h
  have hres := h (rehomingRouter [str2addr 2 0 1, str2addr 2 0 1]) _ 1 _ _ rfl rfl rfl
    ⟨by decide, by decide⟩ (by decide) rfl (by decide) rfl
  have hnodes : List.Forall₂ _ [sampleMn (str2addr 2 0 1), sampleMn (str2addr 2 0 1)]
    [sampleMn (str2addr 3 0 1), sampleMn (str2addr 2 0 1)] := hres.nodes
  rw [List.forall₂_cons, List.forall₂_cons] at hnodes
  exact absurd (hnodes.2.1.1 rfl) (by decide)

/-! ### Runs -/

/-- What a registered node sends is passed on: the `assert` of `recv` holds, and the packet leaves
through an interface that is up and carries its contact. -/
def Forwards (a : UdpmysipAgent) : Prop :=
  ∀ p : Packet, p.mh.method = 0 ∨ p.mh.method = 7 →
    (∃ e ∈ a.siplist, e.type = .sipMn ∧ e.urlId = p.mh.fromId) →
    ∃ mn ha f q p', getMnEntryByUrlId a.siplist p.mh.fromId = some mn ∧
      getMrHaEntryByCaddr a.siplist mn.con = some ha ∧ ha.con ≠ noAddr ∧
      recvMr a p = .ok (a, [.via f q], p') ∧ q.mh.contact = ha.con ∧ q.mh.cip = ha.con

/-- A packet of a registered node leaves through the interface whose contact the node has. -/
theorem recvInvite_registered {a : UdpmysipAgent} {p : Packet} {mn ha : SIPEntry} {f : NEMOAgent}
    (hmethod : p.mh.method = 0 ∨ p.mh.method = 7)
    (hmn : getMnEntryByUrlId a.siplist p.mh.fromId = some mn)
    (hha : getMrHaEntryByCaddr a.siplist mn.con = some ha) (hf : ha.eface = some f) :
    ∃ q p', recvMr a p = .ok (a, [.via f q], p') ∧ q.mh.contact = mn.con ∧ q.mh.cip = mn.con := by
  have h5 : p.mh.method ≠ 5 := by omega
  rw [recvMr, if_neg h5, if_pos hmethod, recvInvite, hmn]
  simp only [hha, assertNonNull_some, ok_bind, hf, deref_some]
  exact ⟨_, _, rfl, rfl, rfl⟩

/-- A router whose nodes are at live contacts forwards. -/
theorem forwards_of_live {a : UdpmysipAgent} (hcfg : RouterConfig a.siplist)
    (hlive : ∀ e ∈ a.siplist, e.type = .sipMn → LiveContact a.siplist e.con) : Forwards a := by
  rintro p hmethod ⟨e, he, ht, hurl⟩
  obtain ⟨mn, hmn⟩ : ∃ mn, getMnEntryByUrlId a.siplist p.mh.fromId = some mn := by
    rw [← Option.isSome_iff_exists, getMnEntryByUrlId, List.find?_isSome]
    exact ⟨e, he, by simp [ht, hurl]⟩
  have hmn' := List.find?_some hmn
  simp only [Bool.and_eq_true, beq_iff_eq] at hmn'
  have hcon := hlive mn (List.mem_of_find?_eq_some hmn) hmn'.1
  obtain ⟨ha, hha⟩ : ∃ ha, getMrHaEntryByCaddr a.siplist mn.con = some ha := by
    obtain ⟨e', he', hl', heq⟩ := hcon
    rw [← Option.isSome_iff_exists, getMrHaEntryByCaddr, List.find?_isSome]
    exact ⟨e', he', by simp [(isLive_iff.1 hl').1, heq]⟩
  have hha' := List.find?_some hha
  simp only [Bool.and_eq_true, beq_iff_eq] at hha'
  obtain ⟨f, hf⟩ : ∃ f, ha.eface = some f :=
    Option.ne_none_iff_exists'.1 (hcfg.has_eface ha (List.mem_of_find?_eq_some hha) hha'.1)
  obtain ⟨q, p', hrecv, hcontact, hcip⟩ := recvInvite_registered hmethod hmn hha hf
  refine ⟨mn, ha, f, q, p', hmn, hha, ?_, hrecv, ?_, ?_⟩
  · rw [hha'.2]
    exact hcon.ne_noAddr
  · rw [hcontact, hha'.2]
  · rw [hcip, hha'.2]

/-- The events of a run without policy: a REGISTER comes from a node whose address lies in the
nemo prefix of a home agent entry; an interface gets an address; an interface goes down. -/
def MrEvent.Admitted (a : UdpmysipAgent) : MrEvent → Prop
  | .register p => p.mh.method = 5 ∧
      ∃ e ∈ a.siplist, e.type = .sipMrHa ∧ e.nemoPrefix = prefixOf p.iph.saddr
  | .up _ _ x => x ≠ noAddr
  | .down _ => True

/-- The events that leave no node behind.

* A node registers over an interface that is up, unless none is, and not under the url id of a
  home agent entry.
* An interface changes its contact while no node is there; the first one comes up before any node
  has registered.
* When an interface goes down while another stays up, the first entry on another interface is one
  that is up, and no node but the first is at the broken contact. -/
def MrEvent.LeavesNone (a : UdpmysipAgent) : MrEvent → Prop
  | .register p => (MrEvent.register p).NodeUrl a ∧
      ∀ e ∈ getMrHaEntryByPrefix a.siplist (prefixOf p.iph.saddr),
        e.con ≠ noAddr ∨ ¬ SomeLive a.siplist
  | .up _ iface x => ∀ sip ∈ getEntryByIface a.siplist iface, ∀ e ∈ mobileNodes a.siplist,
      SomeLive a.siplist ∧ (e.con ≠ sip.con ∨ x = sip.con)
  | .down iface => SomeLive (updateFirst (onIface iface) (·.setCon noAddr) a.siplist) →
      ∀ brk ∈ getEntryByIface a.siplist iface, ∀ new ∈ getEntryWithoutIface a.siplist iface,
        new.con ≠ noAddr ∧ ∀ e ∈ (mobileNodes a.siplist).tail, e.con ≠ brk.con

/-- What the runs keep. -/
structure DefaultInv (a : UdpmysipAgent) : Prop where
  isMr : a.nodeType = .sipMr
  select_eq : a.select = 0
  expMr_eq : a.expMr = 0
  cfg : RouterConfig a.siplist
  live : SomeLive a.siplist → ∀ e ∈ a.siplist, e.type = .sipMn → LiveContact a.siplist e.con

theorem DefaultInv.boundToLive {a : UdpmysipAgent} (h : DefaultInv a)
    (hlive : SomeLive a.siplist) : BoundToLive a.siplist where
  bound := h.live
  unbound := fun hno => absurd hlive hno

theorem getMrHaEntryByPrefix_ensureMn (l : List SIPEntry) (mh : HdrMysip) (pre : Addr) :
    getMrHaEntryByPrefix (ensureMn l mh) pre = getMrHaEntryByPrefix l pre := by
  rcases ensureMn_cases l mh with ⟨e, -, heq⟩ | ⟨-, heq⟩
  · rw [heq]
  · rw [heq, getMrHaEntryByPrefix, List.find?_cons_of_neg (by simp), ← getMrHaEntryByPrefix]

theorem DefaultInv.register {a a' : UdpmysipAgent} (hinv : DefaultInv a) {p : Packet}
    (hadm : (MrEvent.register p).Admitted a) (hnone : (MrEvent.register p).LeavesNone a)
    (h : mrStep a (.register p) = .ok a') : DefaultInv a' := by
  obtain ⟨⟨a₁, outs, p'⟩, hrecv, rfl⟩ := map_ok_iff.1 h
  rw [recvMr, if_pos hadm.1] at hrecv
  obtain ⟨bu, sel, hchoose, hmn, rfl⟩ := recvRegister_ok hrecv
  have hbu : getMrHaEntryByPrefix a.siplist (prefixOf p.iph.saddr) = some bu := by
    rw [hinv.select_eq] at hchoose
    rw [← getMrHaEntryByPrefix_ensureMn a.siplist p.mh]
    exact congrArg Prod.fst (Except.ok.inj hchoose)
  refine
    { isMr := hinv.isMr
      select_eq := hinv.select_eq
      expMr_eq := hinv.expMr_eq
      cfg := (hinv.cfg.ensureMn p.mh).updateFirst_setCon _ _
      live := ?_ }
  -- the entry written to is a mobile node, so that the live interfaces are the same
  have hne : ∀ e, (ensureMn a.siplist p.mh).find? (hasUrlId p.mh.contactId) = some e →
      e.type ≠ .sipMrHa := by
    intro e he
    rcases ensureMn_cases a.siplist p.mh with ⟨e', he', heq⟩ | ⟨hnew, heq⟩
    · rw [heq] at he
      exact hnone.1 e he
    · rw [heq, List.find?_cons] at he
      split at he
      · cases he
        rw [SIPEntry.newMn_type]
        decide
      · rw [getEntryByUrlId] at hnew
        rw [hnew] at he
        cases he
  intro hlive
  have hlive' : SomeLive a.siplist :=
    (someLive_congr ((liveMrHa_updateFirst hne bu.con).trans (liveMrHa_ensureMn _ _))).1 hlive
  have hcon : LiveContact a.siplist bu.con := by
    have ht := List.find?_some hbu
    simp only [Bool.and_eq_true, beq_iff_eq] at ht
    rcases hnone.2 bu hbu with hcon | hno
    · exact ⟨bu, List.mem_of_find?_eq_some hbu, isLive_iff.2 ⟨ht.1, hcon⟩, rfl⟩
    · exact absurd hlive' hno
  exact ((hinv.boundToLive hlive').register hnone.1 hcon hmn).bound hlive

theorem DefaultInv.up {a a' : UdpmysipAgent} (hinv : DefaultInv a) {pre x : Addr} {iface : NodeId}
    (hx : x ≠ noAddr) (hnone : (MrEvent.up pre iface x).LeavesNone a)
    (h : mrStep a (.up pre iface x) = .ok a') : DefaultInv a' := by
  obtain ⟨⟨a₁, outs⟩, hreg, rfl⟩ := map_ok_iff.1 h
  obtain ⟨sip, l, sel, hsip, hl, rfl⟩ := sendRegMsg_ok hreg hinv.isMr
  simp only [Function.update_self, hinv.select_eq] at hl
  -- nobody is renewed
  obtain rfl : updateFirst (onIface iface) (·.setCon x) a.siplist = l :=
    congrArg Prod.fst (Except.ok.inj hl)
  have ht : sip.type = .sipMrHa := type_of_onIface hinv.cfg hsip
  refine
    { isMr := hinv.isMr
      select_eq := hinv.select_eq
      expMr_eq := hinv.expMr_eq
      cfg := hinv.cfg.updateFirst_setCon _ _
      live := ?_ }
  intro hlive e he hmn
  have he' : e ∈ mobileNodes a.siplist :=
    mem_mobileNodes.2 ⟨mem_of_mem_updateFirst_mrHa hsip ht he hmn, hmn⟩
  refine ((hinv.boundToLive (hnone sip hsip e he').1).renew hsip ht hx ?_).bound hlive e he hmn
  rw [List.forall₂_same]
  intro e₁ he₁
  by_cases hmn₁ : e₁.type = .sipMn
  · have hmem : e₁ ∈ mobileNodes a.siplist :=
      mem_mobileNodes.2 ⟨mem_of_mem_updateFirst_mrHa hsip ht he₁ hmn₁, hmn₁⟩
    simpa [Recontacted, hmn₁] using
      ⟨e₁.con, rfl, Or.inr ⟨rfl, (hnone sip hsip e₁ hmem).2⟩⟩
  · simp [Recontacted, hmn₁]

theorem DefaultInv.down {a a' : UdpmysipAgent} (hinv : DefaultInv a) {iface : NodeId}
    (hnone : (MrEvent.down iface).LeavesNone a) (h : mrStep a (.down iface) = .ok a') :
    DefaultInv a' := by
  obtain ⟨⟨a₁, outs⟩, hre, rfl⟩ := map_ok_iff.1 h
  obtain ⟨brk, new, mn, hbrk, hnew, hmn, rfl⟩ :=
    reHomingDefault_ok hre hinv.select_eq hinv.expMr_eq
  obtain ⟨rest, hl, hl'⟩ := mobileNodes_rehomedList (c := new.con) hinv.cfg hbrk hmn
  refine
    { isMr := hinv.isMr
      select_eq := hinv.select_eq
      expMr_eq := hinv.expMr_eq
      cfg := (hinv.cfg.updateFirst_setCon _ _).updateFirst_setCon _ _
      live := ?_ }
  intro hlive e he hmn'
  have hsame := liveMrHa_rehomedList iface new.con a.siplist
  have hlive₁ := (someLive_congr hsame).1 hlive
  obtain ⟨hcon, hrest⟩ := hnone hlive₁ brk hbrk new hnew
  rw [hl, List.tail_cons] at hrest
  rw [liveContact_congr hsame]
  have he' : e ∈ mn.setCon new.con :: rest := hl' ▸ mem_mobileNodes.2 ⟨he, hmn'⟩
  rcases List.mem_cons.1 he' with rfl | hin
  · -- the first node is where the replacement is
    have hmem := List.mem_of_find?_eq_some hnew
    have hoff : offIface iface new = true := List.find?_some hnew
    rcases mem_or_find?_of_mem (onIface iface) (·.setCon noAddr) hmem with hin | hfind
    · exact ⟨new, hin, isLive_iff.2 ⟨hinv.cfg.type_of_offIface hmem hoff, hcon⟩, rfl⟩
    · have hon : onIface iface new = true := List.find?_some hfind
      rw [onIface_eq_false_of_offIface hoff] at hon
      cases hon
  · have hold : e ∈ mobileNodes a.siplist := hl ▸ List.mem_cons_of_mem _ hin
    have hcon' := hinv.live hlive₁.of_broken e (mem_mobileNodes.1 hold).1 hmn'
    exact hcon'.updateFirst_of_ne hbrk (hrest e hin)

theorem default_step {a a' : UdpmysipAgent} {ev : MrEvent} (hinv : DefaultInv a)
    (hev : ev.Admitted a ∧ ev.LeavesNone a) (h : mrStep a ev = .ok a') : DefaultInv a' := by
  cases ev with
  | register p => exact hinv.register hev.1 hev.2 h
  | up pre iface x => exact hinv.up hev.1 hev.2 h
  | down iface => exact hinv.down hev.2 h

/-- Without a policy the router always forwards what a registered node sends, as long as an
interface is up, in every run whose events leave no node behind. -/
theorem default_forwards {a a' : UdpmysipAgent} {evs : List MrEvent} (hmr : a.nodeType = .sipMr)
    (hselect : a.select = 0) (hexp : a.expMr = 0) (hcfg : RouterConfig a.siplist)
    (hnoMn : ∀ e ∈ a.siplist, e.type ≠ .sipMn)
    (hmeet : StepsMeet mrStep (fun a ev => ev.Admitted a ∧ ev.LeavesNone a) a evs)
    (hrun : runSteps mrStep a evs = .ok a') (hlive : SomeLive a'.siplist) : Forwards a' := by
  have hinv : DefaultInv a :=
    { isMr := hmr
      select_eq := hselect
      expMr_eq := hexp
      cfg := hcfg
      live := fun _ e he hmn => absurd hmn (hnoMn e he) }
  have hinv' := runSteps_invariant (fun s i s' => default_step) hinv hmeet hrun
  exact forwards_of_live hinv'.cfg (hinv'.live hlive)

/-- Both interfaces come up, a node registers over the first, and the first goes down. -/
def defaultRun : List MrEvent :=
  [.up (str2addr 2 0 0) 1 (str2addr 2 0 1), .up (str2addr 3 0 0) 2 (str2addr 3 0 1),
    .register (sampleRegister 8888 6 1), .down 1]

theorem defaultRun_meets :
    StepsMeet mrStep (fun a ev => ev.Admitted a ∧ ev.LeavesNone a) (sampleRouter 0) defaultRun := by
  have h2 : str2addr 2 0 1 ≠ noAddr := by decide
  have h3 : str2addr 3 0 1 ≠ noAddr := by decide
  unfold defaultRun
  refine .cons ⟨h2, ?_⟩ rfl ?_
  · rintro sip - e ⟨⟩
  refine .cons ⟨h3, ?_⟩ rfl ?_
  · rintro sip - e ⟨⟩
  refine .cons ⟨⟨rfl, by decide⟩, ?_, ?_⟩ rfl ?_
  · rintro e ⟨⟩
  · rintro e ⟨⟩
    exact Or.inl (by decide)
  refine .cons ⟨trivial, ?_⟩ rfl trivial
  rintro - brk ⟨⟩ new ⟨⟩
  exact ⟨by decide, by decide⟩

theorem default_forwards_sample :
    ∃ a', runSteps mrStep (sampleRouter 0) defaultRun = .ok a' ∧ mnCount a'.siplist = 1 ∧
      Forwards a' := by
  obtain ⟨a', ha', hcount, hlive⟩ :
      ∃ a', runSteps mrStep (sampleRouter 0) defaultRun = .ok a' ∧ mnCount a'.siplist = 1 ∧
        SomeLive a'.siplist := ⟨_, rfl, by decide, by decide⟩
  have hstart := sampleRouter_start 0
  exact ⟨a', ha', hcount,
    default_forwards hstart.isMr rfl rfl hstart.cfg hstart.noMn defaultRun_meets ha' hlive⟩

/-- A node registers over the first interface, whose address then changes. -/
def readdressedRun : List MrEvent :=
  [.up (str2addr 2 0 0) 1 (str2addr 2 0 1), .register (sampleRegister 8888 6 1),
    .up (str2addr 4 0 0) 1 (str2addr 4 0 1)]

theorem readdressedRun_admitted :
    StepsMeet mrStep (fun a ev => ev.Admitted a) (sampleRouter 0) readdressedRun := by
  have h2 : str2addr 2 0 1 ≠ noAddr := by decide
  have h4 : str2addr 4 0 1 ≠ noAddr := by decide
  unfold readdressedRun
  refine .cons h2 rfl ?_
  refine .cons ⟨rfl, by decide⟩ rfl ?_
  exact .cons h4 rfl trivial

/-- The node keeps the old contact, and the `assert` fails for its next packet. -/
theorem default_assertion_fails :
    ¬ ∀ (a a' : UdpmysipAgent) (evs : List MrEvent), a.nodeType = .sipMr → a.select = 0 →
      a.expMr = 0 → RouterConfig a.siplist → (∀ e ∈ a.siplist, e.type ≠ .sipMn) →
      StepsMeet mrStep (fun a ev => ev.Admitted a) a evs → runSteps mrStep a evs = .ok a' →
      SomeLive a'.siplist → Forwards a' := by
  intro h
  have hstart := sampleRouter_start 0
  obtain ⟨a', ha', hlive, hnode, hlost⟩ :
      ∃ a', runSteps mrStep (sampleRouter 0) readdressedRun = .ok a' ∧ SomeLive a'.siplist ∧
        (∃ e ∈ a'.siplist, e.type = .sipMn ∧ e.urlId = 8888) ∧
        ∀ mn ∈ getMnEntryByUrlId a'.siplist 8888, getMrHaEntryByCaddr a'.siplist mn.con = none :=
    ⟨_, rfl, by decide, by decide, by decide⟩
  have hfwd := h _ a' _ hstart.isMr rfl rfl hstart.cfg hstart.noMn readdressedRun_admitted ha' hlive
  obtain ⟨mn, ha, f, q, p', hmn, hha, -⟩ :=
    hfwd { mh := { method := 7, fromId := 8888 } } (Or.inr rfl) hnode
  rw [hlost mn hmn] at hha
  cases hha

end SipNemo.Sip
