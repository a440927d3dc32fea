import SipNemo.Sip.MobileRouter

/-!
# What the operations of a mobile router do to its bindings

The invariants of the router relate two kinds of entries of one list: the contacts of the
mobile nodes and the contacts of the interfaces that are up (`LiveContact`).  This file says once
what each operation does to both; the results about the single policies use nothing else.

* `forEachMn_spec`: the loops over the mobile nodes rewrite contacts of `SIP_MN` entries only;
* `rehome*_spec`: re-homing moves exactly the nodes of the given contact, to live contacts;
* `chooseMrHa_live`: the policies choose live entries;
* `liveContact_*`: how the live contacts change when one entry is written.
-/

namespace SipNemo.Sip

open FirstMatch Runs

/-- `c` is the contact of an interface that is up. -/
def LiveContact (l : List SIPEntry) (c : Addr) : Prop := ∃ e ∈ l, isLive e = true ∧ e.con = c

/-- Some interface is up. -/
def SomeLive (l : List SIPEntry) : Prop := ∃ e ∈ l, isLive e = true

instance (l : List SIPEntry) (c : Addr) : Decidable (LiveContact l c) :=
  inferInstanceAs (Decidable (∃ e ∈ l, isLive e = true ∧ e.con = c))

instance (l : List SIPEntry) : Decidable (SomeLive l) :=
  inferInstanceAs (Decidable (∃ e ∈ l, isLive e = true))

/-- Every mobile node is at a live contact as long as there is one, and at none otherwise. -/
structure BoundToLive (l : List SIPEntry) : Prop where
  bound : SomeLive l → ∀ e ∈ l, e.type = .sipMn → LiveContact l e.con
  unbound : ¬ SomeLive l → ∀ e ∈ l, e.type = .sipMn → e.con = noAddr

/-- The binding list of a mobile router: the entries with an external interface are the
`SIP_MR_HA` entries, which `set-sip-mr` makes. -/
structure RouterConfig (l : List SIPEntry) : Prop where
  eface_type : ∀ e ∈ l, e.eface ≠ none → e.type = .sipMrHa
  has_eface : ∀ e ∈ l, e.type = .sipMrHa → e.eface ≠ none

/-- No two home agent entries are on the same interface. -/
def DistinctIfaces (l : List SIPEntry) : Prop :=
  (l.filter (hasType .sipMrHa)).Pairwise
    fun e e' => e.eface.map NEMOAgent.iface ≠ e'.eface.map NEMOAgent.iface

instance (l : List SIPEntry) : Decidable (DistinctIfaces l) :=
  inferInstanceAs (Decidable ((l.filter (hasType .sipMrHa)).Pairwise
    fun e e' => e.eface.map NEMOAgent.iface ≠ e'.eface.map NEMOAgent.iface))

theorem isLive_iff {e : SIPEntry} : isLive e = true ↔ e.type = .sipMrHa ∧ e.con ≠ noAddr := by
  simp [isLive]

theorem LiveContact.ne_noAddr {l : List SIPEntry} {c : Addr} (h : LiveContact l c) :
    c ≠ noAddr := by
  obtain ⟨e, -, hlive, rfl⟩ := h
  exact (isLive_iff.1 hlive).2

theorem liveContact_iff_mem_liveMrHa {l : List SIPEntry} {c : Addr} :
    LiveContact l c ↔ ∃ e ∈ liveMrHa l, e.con = c := by
  simp only [LiveContact, liveMrHa, List.mem_filter, and_assoc]

/-- The live contacts depend on the live entries only. -/
theorem liveContact_congr {l l' : List SIPEntry} (h : liveMrHa l' = liveMrHa l) (c : Addr) :
    LiveContact l' c ↔ LiveContact l c := by
  rw [liveContact_iff_mem_liveMrHa, liveContact_iff_mem_liveMrHa, h]

theorem LiveContact.someLive {l : List SIPEntry} {c : Addr} (h : LiveContact l c) :
    SomeLive l := by
  obtain ⟨e, he, hlive, -⟩ := h
  exact ⟨e, he, hlive⟩

theorem someLive_iff {l : List SIPEntry} : SomeLive l ↔ liveMrHa l ≠ [] := by
  simp [SomeLive, liveMrHa, List.filter_eq_nil_iff]

/-- Whether some interface is up depends on the live entries only. -/
theorem someLive_congr {l l' : List SIPEntry} (h : liveMrHa l' = liveMrHa l) :
    SomeLive l' ↔ SomeLive l := by
  rw [someLive_iff, someLive_iff, h]

/-- An entry found by its interface is a home agent entry. -/
theorem type_of_onIface {l : List SIPEntry} (hcfg : RouterConfig l) {iface : NodeId} {e : SIPEntry}
    (h : getEntryByIface l iface = some e) : e.type = .sipMrHa := by
  refine hcfg.eface_type e (List.mem_of_find?_eq_some h) ?_
  intro hnone
  have hon := List.find?_some h
  simp [onIface, hnone] at hon

/-! ### The loops over the mobile nodes -/

/-- `e'` is `e` with another contact, related to the old one by `Q`, if `e` is a mobile node, and
`e` itself otherwise. -/
def Recontacted (Q : Addr → Addr → Prop) (e e' : SIPEntry) : Prop :=
  if e.type = .sipMn then ∃ c, e' = e.setCon c ∧ Q e.con c else e' = e

/-- A loop whose body takes a contact `c` to a contact `c'` with `Q c c'` rewrites the contacts of
the mobile nodes so, and leaves every other entry as it is. -/
theorem forEachMn_spec {σ : Type} {f : σ → Addr → Act (Addr × σ)} {Q : Addr → Addr → Prop}
    (hf : ∀ s c c' s', f s c = .ok (c', s') → Q c c') {s s' : σ} {l l' : List SIPEntry}
    (h : forEachMn f s l = .ok (l', s')) : List.Forall₂ (Recontacted Q) l l' := by
  induction l generalizing s l' with
  | nil =>
    simp only [forEachMn, Except.ok.injEq, Prod.mk.injEq] at h
    obtain ⟨rfl, -⟩ := h
    exact .nil
  | cons e l ih =>
    by_cases ht : e.type = .sipMn
    · simp only [forEachMn, ht, if_true, bind_ok_iff] at h
      obtain ⟨⟨c, s₁⟩, hc, ⟨l₁, s₂⟩, hl, hpure⟩ := h
      cases hpure
      refine .cons ?_ (ih hl)
      simp only [Recontacted, ht, if_true]
      exact ⟨c, rfl, hf _ _ _ _ hc⟩
    · simp only [forEachMn, ht, if_false, bind_ok_iff] at h
      obtain ⟨⟨l₁, s₁⟩, hl, hpure⟩ := h
      cases hpure
      refine .cons ?_ (ih hl)
      simp [Recontacted, ht]

/-- Every entry of the rewritten list comes from one of the old list. -/
theorem exists_of_mem_forall₂ {α : Type} {R : α → α → Prop} {l l' : List α}
    (h : List.Forall₂ R l l') {b : α} (hb : b ∈ l') : ∃ a ∈ l, R a b := by
  induction h with
  | nil => simp at hb
  | cons hab _ ih =>
    rcases List.mem_cons.1 hb with rfl | hb
    · exact ⟨_, List.mem_cons_self, hab⟩
    · obtain ⟨a, ha, hR⟩ := ih hb
      exact ⟨a, List.mem_cons_of_mem _ ha, hR⟩

theorem Recontacted.of_ne {Q : Addr → Addr → Prop} {e e' : SIPEntry} (h : Recontacted Q e e')
    (ht : e.type ≠ .sipMn) : e' = e := by
  simpa [Recontacted, ht] using h

theorem Recontacted.of_mn {Q : Addr → Addr → Prop} {e e' : SIPEntry} (h : Recontacted Q e e')
    (ht : e.type = .sipMn) : ∃ c, e' = e.setCon c ∧ Q e.con c := by
  simpa [Recontacted, ht] using h

theorem Recontacted.type_eq {Q : Addr → Addr → Prop} {e e' : SIPEntry}
    (h : Recontacted Q e e') : e'.type = e.type := by
  by_cases ht : e.type = .sipMn
  · obtain ⟨c, rfl, -⟩ := h.of_mn ht
    rfl
  · rw [h.of_ne ht]

theorem Recontacted.isLive_eq {Q : Addr → Addr → Prop} {e e' : SIPEntry}
    (h : Recontacted Q e e') : isLive e' = isLive e := by
  by_cases ht : e.type = .sipMn
  · obtain ⟨c, rfl, -⟩ := h.of_mn ht
    have hne : (SipNodeType.sipMn == SipNodeType.sipMrHa) = false := by decide
    simp [isLive, ht, hne]
  · rw [h.of_ne ht]

/-- Rewriting the contacts of mobile nodes leaves the live entries as they are. -/
theorem liveMrHa_of_recontacted {Q : Addr → Addr → Prop} {l l' : List SIPEntry}
    (h : List.Forall₂ (Recontacted Q) l l') : liveMrHa l' = liveMrHa l := by
  induction h with
  | nil => rfl
  | @cons e e' l l' he _ ih =>
    unfold liveMrHa at ih ⊢
    rw [List.filter_cons, List.filter_cons, he.isLive_eq, ih]
    by_cases hlive : isLive e = true
    · have ht : e.type ≠ .sipMn := by
        rw [(isLive_iff.1 hlive).1]
        decide
      rw [he.of_ne ht]
    · simp [hlive]

/-! ### Re-homing -/

/-- What re-homing does to the contact of a mobile node: nothing to nodes elsewhere, and a node at
the broken contact gets a live one if there is any. -/
def Rehomed (l : List SIPEntry) (caddr c c' : Addr) : Prop :=
  (c ≠ caddr ∧ c' = c) ∨
    (c = caddr ∧ ((liveMrHa l = [] ∧ c' = noAddr) ∨ LiveContact l c'))

theorem liveContact_of_index {l : List SIPEntry} {i : ℕ} {e : SIPEntry}
    (h : index (liveMrHa l) i = .ok e) : LiveContact l e.con :=
  liveContact_iff_mem_liveMrHa.2 ⟨e, List.mem_of_getElem? (index_eq_ok.1 h), rfl⟩

/-- A re-homing loop whose choice is live, or `-1` when nothing is. -/
theorem rehomeMn_spec {l l' : List SIPEntry} {caddr : Addr} {s s' : Selector}
    {pick : Selector → Act (Addr × Selector)}
    (hpick : ∀ s c s', pick s = .ok (c, s') → (liveMrHa l = [] ∧ c = noAddr) ∨ LiveContact l c)
    (h : rehomeMn caddr pick l s = .ok (l', s')) :
    List.Forall₂ (Recontacted (Rehomed l caddr)) l l' := by
  refine forEachMn_spec ?_ h
  intro s c c' s' hc
  by_cases hcaddr : c = caddr
  · rw [if_pos hcaddr] at hc
    exact Or.inr ⟨hcaddr, hpick _ _ _ hc⟩
  · rw [if_neg hcaddr] at hc
    cases hc
    exact Or.inl ⟨hcaddr, rfl⟩

theorem rehomeWeight_spec {l l' : List SIPEntry} {caddr : Addr} {s s' : Selector}
    (h : rehomeMnCoaEntryWeight caddr l s = .ok (l', s')) :
    List.Forall₂ (Recontacted (Rehomed l caddr)) l l' := by
  refine rehomeMn_spec ?_ h
  intro s c s' hc
  split_ifs at hc with hempty
  · cases hc
    exact Or.inl ⟨List.isEmpty_iff.1 hempty, rfl⟩
  · obtain ⟨e, he, hpure⟩ := bind_ok_iff.1 hc
    cases hpure
    exact Or.inr (liveContact_of_index he)

/-- A policy that draws the next live entry: random, and round robin. -/
theorem rehomeDraw_spec (draw : Selector → ℕ × Selector) {l l' : List SIPEntry} {caddr : Addr}
    {s s' : Selector}
    (h : rehomeMn caddr (fun s =>
      if (liveMrHa l).isEmpty then .ok (noAddr, s)
      else do
        let (r, s) := draw s
        let i ← remainder r (liveMrHa l).length
        let e ← index (liveMrHa l) i
        pure (e.con, s)) l s = .ok (l', s')) :
    List.Forall₂ (Recontacted (Rehomed l caddr)) l l' := by
  refine rehomeMn_spec ?_ h
  intro s c s' hc
  split_ifs at hc with hempty
  · cases hc
    exact Or.inl ⟨List.isEmpty_iff.1 hempty, rfl⟩
  · obtain ⟨i, -, hc⟩ := bind_ok_iff.1 hc
    obtain ⟨e, he, hpure⟩ := bind_ok_iff.1 hc
    cases hpure
    exact Or.inr (liveContact_of_index he)

theorem rehomeRandom_spec {l l' : List SIPEntry} {caddr : Addr} {s s' : Selector}
    (h : rehomeMnCoaEntryRandom caddr l s = .ok (l', s')) :
    List.Forall₂ (Recontacted (Rehomed l caddr)) l l' :=
  rehomeDraw_spec Selector.random h

theorem rehomeRoundRobin_spec {l l' : List SIPEntry} {caddr : Addr} {s s' : Selector}
    (h : rehomeMnCoaEntryRoundRobin caddr l s = .ok (l', s')) :
    List.Forall₂ (Recontacted (Rehomed l caddr)) l l' :=
  rehomeDraw_spec Selector.nextRound h

/-! ### The choice for a REGISTER -/

theorem getMrHaEntryRoundRobin_live {l : List SIPEntry} {s s' : Selector} {e : SIPEntry}
    (h : getMrHaEntryRoundRobin l s = .ok (e, s')) : LiveContact l e.con := by
  obtain ⟨i, -, h⟩ := bind_ok_iff.1 h
  obtain ⟨e', he, hpure⟩ := bind_ok_iff.1 h
  cases hpure
  exact liveContact_of_index he

theorem getMrHaEntryWeight_live {l : List SIPEntry} {s s' : Selector} {e : SIPEntry}
    (h : getMrHaEntryWeight l s = .ok (e, s')) : LiveContact l e.con := by
  obtain ⟨e', he, hpure⟩ := bind_ok_iff.1 h
  cases hpure
  exact liveContact_of_index he

/-- Round robin and weight choose a live entry. -/
theorem chooseMrHa_live {select : ℤ} (hsel : select = 2 ∨ select = 3) {l : List SIPEntry}
    {s s' : Selector} {pre : Addr} {e : SIPEntry}
    (h : chooseMrHa select l s pre = .ok (some e, s')) : LiveContact l e.con := by
  rcases hsel with rfl | rfl
  · obtain ⟨r, hr, heq⟩ := map_ok_iff.1
      (show (getMrHaEntryRoundRobin l s).map (fun r => (some r.1, r.2)) = _ from h)
    cases heq
    exact getMrHaEntryRoundRobin_live hr
  · obtain ⟨r, hr, heq⟩ := map_ok_iff.1
      (show (getMrHaEntryWeight l s).map (fun r => (some r.1, r.2)) = _ from h)
    cases heq
    exact getMrHaEntryWeight_live hr

/-! ### Writing the contact of one entry -/

/-- Type and external interface of an entry: what `RouterConfig` speaks of. -/
def SIPEntry.kind (e : SIPEntry) : SipNodeType × Option NEMOAgent := (e.type, e.eface)

/-- A list with the same kinds of entries is configured alike. -/
theorem RouterConfig.of_map_kind {l l' : List SIPEntry}
    (h : l'.map SIPEntry.kind = l.map SIPEntry.kind) (hcfg : RouterConfig l) :
    RouterConfig l' := by
  have hold : ∀ e ∈ l', ∃ e₀ ∈ l, e₀.type = e.type ∧ e₀.eface = e.eface := by
    intro e he
    have hk : e.kind ∈ l.map SIPEntry.kind := h ▸ List.mem_map_of_mem he
    obtain ⟨e₀, he₀, hkind⟩ := List.mem_map.1 hk
    simp only [SIPEntry.kind, Prod.mk.injEq] at hkind
    exact ⟨e₀, he₀, hkind⟩
  constructor
  · intro e he hface
    obtain ⟨e₀, he₀, ht, hf⟩ := hold e he
    rw [← ht]
    exact hcfg.eface_type e₀ he₀ (hf ▸ hface)
  · intro e he htype
    obtain ⟨e₀, he₀, ht, hf⟩ := hold e he
    rw [← hf]
    exact hcfg.has_eface e₀ he₀ (ht.trans htype)

theorem RouterConfig.updateFirst_setCon {l : List SIPEntry} (hcfg : RouterConfig l)
    (p : SIPEntry → Bool) (c : Addr) : RouterConfig (updateFirst p (·.setCon c) l) := by
  refine hcfg.of_map_kind (map_updateFirst ?_ l)
  intro e
  rfl

theorem RouterConfig.recontacted {Q : Addr → Addr → Prop} {l l' : List SIPEntry}
    (hcfg : RouterConfig l) (h : List.Forall₂ (Recontacted Q) l l') : RouterConfig l' := by
  refine hcfg.of_map_kind ?_
  clear hcfg
  induction h with
  | nil => rfl
  | @cons e e' l l' he _ ih =>
    have hkind : e'.kind = e.kind := by
      by_cases ht : e.type = .sipMn
      · obtain ⟨c, rfl, -⟩ := he.of_mn ht
        rfl
      · rw [he.of_ne ht]
    rw [List.map_cons, List.map_cons, hkind, ih]

/-- A new mobile node has no external interface. -/
theorem RouterConfig.cons_mn {l : List SIPEntry} (hcfg : RouterConfig l) {e : SIPEntry}
    (ht : e.type = .sipMn) (hf : e.eface = none) : RouterConfig (e :: l) := by
  constructor
  · intro e' he' hface
    rcases List.mem_cons.1 he' with rfl | he'
    · exact absurd hf hface
    · exact hcfg.eface_type e' he' hface
  · intro e' he' htype
    rcases List.mem_cons.1 he' with rfl | he'
    · rw [ht] at htype
      cases htype
    · exact hcfg.has_eface e' he' htype

/-- Writing to an entry that is not a home agent's leaves the live entries as they are. -/
theorem liveMrHa_updateFirst {l : List SIPEntry} {p : SIPEntry → Bool}
    (hp : ∀ e, l.find? p = some e → e.type ≠ .sipMrHa) (c : Addr) :
    liveMrHa (updateFirst p (·.setCon c) l) = liveMrHa l := by
  induction l with
  | nil => rfl
  | cons e l ih =>
    unfold liveMrHa at ih ⊢
    cases hpe : p e with
    | true =>
      have ht : (e.type == SipNodeType.sipMrHa) = false := by
        simpa using hp e (by simp [hpe])
      simp [updateFirst_cons_pos hpe, isLive, ht]
    | false =>
      have ih' := ih fun e' he' => hp e' (by simp [hpe, he'])
      rw [updateFirst_cons_neg hpe, List.filter_cons, List.filter_cons, ih']

/-- A live contact survives the rewriting of an entry that has another contact. -/
theorem LiveContact.updateFirst_of_ne {l : List SIPEntry} {p : SIPEntry → Bool} {brk : SIPEntry}
    {c d : Addr} (hp : l.find? p = some brk) (h : LiveContact l d) (hne : d ≠ brk.con) :
    LiveContact (updateFirst p (·.setCon c) l) d := by
  obtain ⟨e, he, hlive, rfl⟩ := h
  rcases mem_or_find?_of_mem p (·.setCon c) he with he | he
  · exact ⟨e, he, hlive, rfl⟩
  · rw [hp] at he
    cases he
    exact absurd rfl hne

/-- An interface that is up after another has failed was up before. -/
theorem SomeLive.of_broken {l : List SIPEntry} {p : SIPEntry → Bool}
    (h : SomeLive (updateFirst p (·.setCon noAddr) l)) : SomeLive l := by
  obtain ⟨e, he, hlive⟩ := h
  rcases mem_updateFirst he with he | ⟨a, -, rfl⟩
  · exact ⟨e, he, hlive⟩
  · exact absurd rfl (isLive_iff.1 hlive).2

/-- A mobile node of the list after a home agent entry was written was there before. -/
theorem mem_of_mem_updateFirst_mrHa {l : List SIPEntry} {p : SIPEntry → Bool} {brk : SIPEntry}
    {c : Addr} (hp : l.find? p = some brk) (ht : brk.type = .sipMrHa) {e : SIPEntry}
    (he : e ∈ updateFirst p (·.setCon c) l) (hmn : e.type = .sipMn) : e ∈ l := by
  rcases mem_updateFirst he with he | ⟨a, ha, rfl⟩
  · exact he
  · rw [hp] at ha
    cases ha
    rw [SIPEntry.setCon_type, ht] at hmn
    cases hmn

/-! ### The mobile nodes of a list -/

theorem mem_mobileNodes {l : List SIPEntry} {e : SIPEntry} :
    e ∈ mobileNodes l ↔ e ∈ l ∧ e.type = .sipMn := by
  simp [mobileNodes, hasType]

theorem mobileNodes_cons_mn {e : SIPEntry} (ht : e.type = .sipMn) (l : List SIPEntry) :
    mobileNodes (e :: l) = e :: mobileNodes l := by
  simp [mobileNodes, hasType, ht]

theorem mobileNodes_cons_ne {e : SIPEntry} (ht : e.type ≠ .sipMn) (l : List SIPEntry) :
    mobileNodes (e :: l) = mobileNodes l := by
  simp [mobileNodes, hasType, ht]

/-- Writing to an entry of another kind leaves the mobile nodes alone. -/
theorem mobileNodes_updateFirst_of_ne {l : List SIPEntry} {p : SIPEntry → Bool} {sip : SIPEntry}
    (hp : l.find? p = some sip) (ht : sip.type ≠ .sipMn) (c : Addr) :
    mobileNodes (updateFirst p (·.setCon c) l) = mobileNodes l := by
  induction l with
  | nil => rfl
  | cons e l ih =>
    cases hpe : p e with
    | true =>
      obtain rfl : e = sip := by simpa [hpe] using hp
      rw [updateFirst_cons_pos hpe, mobileNodes_cons_ne ht,
        mobileNodes_cons_ne (by rwa [SIPEntry.setCon_type])]
    | false =>
      have ih' := ih (by simpa [hpe] using hp)
      rw [updateFirst_cons_neg hpe]
      by_cases hmn : e.type = .sipMn
      · rw [mobileNodes_cons_mn hmn, mobileNodes_cons_mn hmn, ih']
      · rw [mobileNodes_cons_ne hmn, mobileNodes_cons_ne hmn, ih']

/-- Writing to the first mobile node. -/
theorem mobileNodes_updateFirst_first {l : List SIPEntry} {mn : SIPEntry}
    (hp : getEntryByType l .sipMn = some mn) (c : Addr) :
    ∃ rest, mobileNodes l = mn :: rest ∧
      mobileNodes (updateFirst (hasType .sipMn) (·.setCon c) l) = mn.setCon c :: rest := by
  induction l with
  | nil => cases hp
  | cons e l ih =>
    unfold getEntryByType at hp ih
    by_cases hmn : e.type = .sipMn
    · have hpe : hasType .sipMn e = true := by simp [hasType, hmn]
      obtain rfl : e = mn := by simpa [hpe] using hp
      refine ⟨mobileNodes l, mobileNodes_cons_mn hmn l, ?_⟩
      rw [updateFirst_cons_pos hpe, mobileNodes_cons_mn (by rwa [SIPEntry.setCon_type])]
    · have hpe : hasType .sipMn e = false := by simp [hasType, hmn]
      obtain ⟨rest, hl, hl'⟩ := ih (by simpa [hpe] using hp)
      refine ⟨rest, by rw [mobileNodes_cons_ne hmn, hl], ?_⟩
      rw [updateFirst_cons_neg hpe, mobileNodes_cons_ne hmn, hl']

/-- When no interface is up, every home agent entry has contact `-1`. -/
theorem con_eq_noAddr_of_not_live {l : List SIPEntry} (h : ¬ SomeLive l) {e : SIPEntry}
    (he : e ∈ l) (ht : e.type = .sipMrHa) : e.con = noAddr := by
  by_contra hne
  exact h ⟨e, he, isLive_iff.2 ⟨ht, hne⟩⟩

/-! ### Steps that keep the nodes at live contacts -/

/-- Binding one mobile node, new or known, to a live contact. -/
theorem BoundToLive.updateFirst_setCon {l : List SIPEntry} (hb : BoundToLive l)
    {p : SIPEntry → Bool} (hp : ∀ e, l.find? p = some e → e.type ≠ .sipMrHa) {c : Addr}
    (hc : LiveContact l c) : BoundToLive (updateFirst p (·.setCon c) l) := by
  have hlive := liveContact_congr (liveMrHa_updateFirst hp c)
  constructor
  · intro _ e he hmn
    rw [hlive]
    rcases mem_updateFirst he with he | ⟨a, -, rfl⟩
    · exact hb.bound hc.someLive e he hmn
    · exact hc
  · intro hno
    exact absurd ((hlive c).2 hc).someLive hno

theorem BoundToLive.cons_mn {l : List SIPEntry} (hb : BoundToLive l) {e : SIPEntry}
    (ht : e.type = .sipMn) (hc : LiveContact l e.con) : BoundToLive (e :: l) := by
  have hlive : liveMrHa (e :: l) = liveMrHa l := by
    have hne : (SipNodeType.sipMn == SipNodeType.sipMrHa) = false := by decide
    simp [liveMrHa, isLive, ht, hne]
  constructor
  · intro _ e' he' hmn
    rw [liveContact_congr hlive]
    rcases List.mem_cons.1 he' with rfl | he'
    · exact hc
    · exact hb.bound hc.someLive e' he' hmn
  · intro hno
    exact absurd ((liveContact_congr hlive _).2 hc).someLive hno

/-- An interface goes down and its nodes are re-homed. -/
theorem BoundToLive.rehome {l l' : List SIPEntry} (hb : BoundToLive l) {p : SIPEntry → Bool}
    {brk : SIPEntry} (hp : l.find? p = some brk) (ht : brk.type = .sipMrHa)
    (h : List.Forall₂ (Recontacted (Rehomed (updateFirst p (·.setCon noAddr) l) brk.con))
      (updateFirst p (·.setCon noAddr) l) l') : BoundToLive l' := by
  set l₁ := updateFirst p (·.setCon noAddr) l with hl₁
  have hlive := liveContact_congr (liveMrHa_of_recontacted h)
  have hsome := someLive_congr (liveMrHa_of_recontacted h)
  -- where a node of the new list was, and what happened to it
  have hold : ∀ e ∈ l', e.type = .sipMn →
      ∃ e₁ ∈ l, e₁.type = .sipMn ∧ Rehomed l₁ brk.con e₁.con e.con := by
    intro e he hmn
    obtain ⟨e₁, he₁, hR⟩ := exists_of_mem_forall₂ h he
    have hmn₁ : e₁.type = .sipMn := hR.type_eq ▸ hmn
    obtain ⟨c, rfl, hQ⟩ := hR.of_mn hmn₁
    exact ⟨e₁, mem_of_mem_updateFirst_mrHa hp ht he₁ hmn₁, hmn₁, hQ⟩
  constructor
  · intro hup e he hmn
    rw [hsome] at hup
    rw [hlive]
    obtain ⟨e₁, he₁, hmn₁, ⟨hne, heq⟩ | ⟨-, ⟨hnil, -⟩ | hl⟩⟩ := hold e he hmn
    · rw [heq]
      exact (hb.bound hup.of_broken e₁ he₁ hmn₁).updateFirst_of_ne hp hne
    · exact absurd hnil (someLive_iff.1 hup)
    · exact hl
  · intro hno e he hmn
    rw [hsome] at hno
    obtain ⟨e₁, he₁, hmn₁, ⟨hne, heq⟩ | ⟨-, ⟨-, heq⟩ | hl⟩⟩ := hold e he hmn
    · rw [heq]
      by_cases hup : SomeLive l
      · exact absurd ((hb.bound hup e₁ he₁ hmn₁).updateFirst_of_ne hp hne).someLive hno
      · exact hb.unbound hup e₁ he₁ hmn₁
    · exact heq
    · exact absurd hl.someLive hno

/-- What a renewal must do to the contact of a mobile node when an interface leaves the contact
`old` for `x`: move the node to `x` or let it be, but not at an `old` that is gone. -/
def Renewed (old x c c' : Addr) : Prop := c' = x ∨ (c' = c ∧ (c ≠ old ∨ x = old))

/-- An interface gets the address `x`, and no node is left at the contact the interface had. -/
theorem BoundToLive.renew {l l' : List SIPEntry} (hb : BoundToLive l) {p : SIPEntry → Bool}
    {sip : SIPEntry} (hp : l.find? p = some sip) (ht : sip.type = .sipMrHa) {x : Addr}
    (hx : x ≠ noAddr)
    (h : List.Forall₂ (Recontacted (Renewed sip.con x)) (updateFirst p (·.setCon x) l) l') :
    BoundToLive l' := by
  set l₁ := updateFirst p (·.setCon x) l with hl₁
  have hlive := liveContact_congr (liveMrHa_of_recontacted h)
  have hxlive : LiveContact l₁ x :=
    ⟨sip.setCon x, mem_updateFirst_of_find? _ hp, isLive_iff.2 ⟨ht, hx⟩, rfl⟩
  constructor
  · intro _ e he hmn
    rw [hlive]
    obtain ⟨e₁, he₁, hR⟩ := exists_of_mem_forall₂ h he
    have hmn₁ : e₁.type = .sipMn := hR.type_eq ▸ hmn
    obtain ⟨c, rfl, hQ⟩ := hR.of_mn hmn₁
    have he₁' := mem_of_mem_updateFirst_mrHa hp ht he₁ hmn₁
    rw [SIPEntry.setCon_con]
    rcases hQ with rfl | ⟨rfl, hkeep⟩
    · exact hxlive
    · by_cases hsome : SomeLive l
      · by_cases hne : e₁.con = sip.con
        · rcases hkeep with hkeep | hkeep
          · exact absurd hne hkeep
          · rw [hne, ← hkeep]
            exact hxlive
        · exact (hb.bound hsome e₁ he₁' hmn₁).updateFirst_of_ne hp hne
      · -- nothing was up: node and interface were both at `-1`
        have hsip := con_eq_noAddr_of_not_live hsome (List.mem_of_find?_eq_some hp) ht
        have hmn := hb.unbound hsome e₁ he₁' hmn₁
        rcases hkeep with hkeep | hkeep
        · exact absurd (hmn.trans hsip.symm) hkeep
        · exact absurd (hkeep.trans hsip) hx
  · intro hno
    exact absurd ((hlive x).2 hxlive).someLive hno

end SipNemo.Sip
