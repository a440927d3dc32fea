import SipNemo.Sip.MobileNode

/-!
# What a table-driven re-homing leaves where it was

`re_homing` with the policies 1 to 3 marks the entry of the broken interface dead, collects the
live home agent entries after that, and moves the nodes at the broken contact over to them.
`MovedOff` says position by position what the list looks like afterwards: the broken entry and
the nodes at its contact change, in their contacts only, and nothing else does.

The entry of the interface is the first one on it, whatever its type.  When that is a home agent
entry of the router, as `set-sip-mr` makes them, no node stays at the broken contact
(`reHoming_moves`).  When `set-sip-mn` has put an entry in front of it, the home agent entry
behind it stays live at the broken contact, and nodes are moved to where they were
(`reHoming_moves_back`).
-/

namespace SipNemo.Sip

open FirstMatch Runs

/-! ### The policies return -/

/-- A loop whose body returns and keeps an invariant of the threaded state returns too. -/
theorem forEachMn_returns_of {σ : Type} {f : σ → Addr → Act (Addr × σ)} {I : σ → Prop}
    (hf : ∀ s c, I s → ∃ c' s', f s c = .ok (c', s') ∧ I s') {s : σ} (hs : I s)
    (l : List SIPEntry) : ∃ r, forEachMn f s l = .ok r := by
  induction l generalizing s with
  | nil => exact ⟨_, rfl⟩
  | cons e l ih =>
    by_cases ht : e.type = .sipMn
    · obtain ⟨c, s₁, hc, hs₁⟩ := hf s e.con hs
      obtain ⟨⟨l₁, s₂⟩, hl⟩ := ih hs₁
      refine ⟨(e.setCon c :: l₁, s₂), ?_⟩
      simp only [forEachMn, ht, if_true, bind_ok_iff]
      exact ⟨_, hc, _, hl, rfl⟩
    · obtain ⟨⟨l₁, s₁⟩, hl⟩ := ih hs
      refine ⟨(e :: l₁, s₁), ?_⟩
      simp only [forEachMn, ht, if_false, bind_ok_iff]
      exact ⟨_, hl, rfl⟩

/-- A loop whose body always returns does too. -/
theorem forEachMn_returns {σ : Type} {f : σ → Addr → Act (Addr × σ)}
    (hf : ∀ s c, ∃ r, f s c = .ok r) (s : σ) (l : List SIPEntry) :
    ∃ r, forEachMn f s l = .ok r := by
  refine forEachMn_returns_of (I := fun _ => True) (fun s c _ => ?_) trivial l
  obtain ⟨⟨c', s'⟩, hr⟩ := hf s c
  exact ⟨c', s', hr, trivial⟩

theorem rehomeMn_returns {pick : Selector → Act (Addr × Selector)}
    (hpick : ∀ s, ∃ r, pick s = .ok r) (caddr : Addr) (l : List SIPEntry) (s : Selector) :
    ∃ r, rehomeMn caddr pick l s = .ok r := by
  refine forEachMn_returns (fun s c => ?_) s l
  by_cases hc : c = caddr
  · obtain ⟨r, hr⟩ := hpick s
    exact ⟨r, by rw [if_pos hc, hr]⟩
  · exact ⟨(c, s), if_neg hc⟩

theorem index_returns {α : Type} {v : List α} {i : ℕ} (hi : i < v.length) :
    ∃ a, index v i = .ok a :=
  ⟨v[i], index_eq_ok.2 (List.getElem?_eq_getElem hi)⟩

/-- A drawn number is reduced to an index into the live entries, if there are any. -/
theorem rehomeDraw_returns (draw : Selector → ℕ × Selector) (caddr : Addr) (l : List SIPEntry)
    (s : Selector) :
    ∃ r, rehomeMn caddr (fun s =>
      if (liveMrHa l).isEmpty then .ok (noAddr, s)
      else do
        let (r, s) := draw s
        let i ← remainder r (liveMrHa l).length
        let e ← index (liveMrHa l) i
        pure (e.con, s)) l s = .ok r := by
  refine rehomeMn_returns (fun s => ?_) caddr l s
  by_cases hempty : (liveMrHa l).isEmpty = true
  · exact ⟨_, if_pos hempty⟩
  · have hne : (liveMrHa l).length ≠ 0 := by simpa using hempty
    have hi : (draw s).1 % (liveMrHa l).length < (liveMrHa l).length :=
      Nat.mod_lt _ (Nat.pos_of_ne_zero hne)
    obtain ⟨e, he⟩ := index_returns hi
    refine ⟨(e.con, (draw s).2), ?_⟩
    rw [if_neg hempty]
    simp only [bind_ok_iff]
    exact ⟨_, if_neg hne, e, he, rfl⟩

theorem rehomeWeight_returns (caddr : Addr) (l : List SIPEntry) (s : Selector) :
    ∃ r, rehomeMnCoaEntryWeight caddr l s = .ok r := by
  refine rehomeMn_returns (fun s => ?_) caddr l s
  by_cases hempty : (liveMrHa l).isEmpty = true
  · exact ⟨_, if_pos hempty⟩
  · have hne : (liveMrHa l).length ≠ 0 := by simpa using hempty
    obtain ⟨e, he⟩ := index_returns (Nat.pos_of_ne_zero hne)
    refine ⟨(e.con, s), ?_⟩
    rw [if_neg hempty]
    simp only [bind_ok_iff]
    exact ⟨e, he, rfl⟩

/-- `re_homing` returns when the interface has an entry and another one is on another interface;
the list it leaves is the one with the broken entry marked dead, re-homed. -/
theorem reHomingSelect_returns {a : UdpmysipAgent} {iface : NodeId} {brk : SIPEntry}
    {rehome : Addr → List SIPEntry → Selector → Act (List SIPEntry × Selector)}
    (hret : ∀ c l s, ∃ r, rehome c l s = .ok r)
    (hbrk : getEntryByIface a.siplist iface = some brk)
    (hnew : getEntryWithoutIface a.siplist iface ≠ none) :
    ∃ a' outs, reHomingSelect a iface rehome = .ok (a', outs) := by
  obtain ⟨new, hnew⟩ := Option.ne_none_iff_exists'.1 hnew
  obtain ⟨⟨l, sel⟩, hl⟩ :=
    hret brk.con (updateFirst (onIface iface) (·.setCon noAddr) a.siplist) a.sel
  refine ⟨{ a with siplist := l, sel := sel }, [], ?_⟩
  simp only [reHomingSelect, bind_ok_iff]
  exact ⟨brk, assertNonNull_eq_ok.2 hbrk, new, assertNonNull_eq_ok.2 hnew, _, hl, rfl⟩

/-- One run of `re_homing` with a policy 1 to 3. -/
theorem reHoming_spec {a : UdpmysipAgent} {iface : NodeId} {brk : SIPEntry}
    (hsel : a.select = 1 ∨ a.select = 2 ∨ a.select = 3)
    (hbrk : getEntryByIface a.siplist iface = some brk)
    (hnew : getEntryWithoutIface a.siplist iface ≠ none) :
    ∃ a' outs, reHoming a iface = .ok (a', outs) ∧
      List.Forall₂ (Recontacted
        (Rehomed (updateFirst (onIface iface) (·.setCon noAddr) a.siplist) brk.con))
        (updateFirst (onIface iface) (·.setCon noAddr) a.siplist) a'.siplist := by
  have hpolicy : ∃ rehome, reHoming a iface = reHomingSelect a iface rehome ∧
      (∀ c l s, ∃ r, rehome c l s = .ok r) ∧
      ∀ c l s l' s', rehome c l s = .ok (l', s') →
        List.Forall₂ (Recontacted (Rehomed l c)) l l' := by
    rcases hsel with h | h | h
    · refine ⟨rehomeMnCoaEntryRandom, by simp [reHoming, h], ?_, ?_⟩
      · exact rehomeDraw_returns Selector.random
      · exact fun _ _ _ _ _ => rehomeRandom_spec
    · refine ⟨rehomeMnCoaEntryRoundRobin, by simp [reHoming, h], ?_, ?_⟩
      · exact rehomeDraw_returns Selector.nextRound
      · exact fun _ _ _ _ _ => rehomeRoundRobin_spec
    · refine ⟨rehomeMnCoaEntryWeight, by simp [reHoming, h], ?_, ?_⟩
      · exact rehomeWeight_returns
      · exact fun _ _ _ _ _ => rehomeWeight_spec
  obtain ⟨rehome, heq, hret, hspec⟩ := hpolicy
  obtain ⟨a', outs, hrun⟩ := reHomingSelect_returns hret hbrk hnew
  obtain ⟨brk', l, sel, hbrk', hl, rfl⟩ := reHomingSelect_ok hrun
  obtain rfl : brk = brk' := Option.some_injective _ (hbrk.symm.trans hbrk')
  exact ⟨_, outs, heq.trans hrun, hspec _ _ _ _ _ hl⟩

/-! ### The list afterwards, position by position -/

/-- The list `l'` after the interface whose entry in `l` has the contact `c` went down: that entry
has no contact, the nodes at `c` have a live contact of `l'` if there is one and none otherwise,
and every other position is as it was. -/
structure MovedOff (iface : NodeId) (c : Addr) (l l' : List SIPEntry) : Prop where
  length_eq : l'.length = l.length
  broken : ∀ b, getEntryByIface l iface = some b →
    l'[l.findIdx (onIface iface)]? = some (b.setCon noAddr)
  moved : ∀ (i : ℕ) (e : SIPEntry), l[i]? = some e → e.type = .sipMn → e.con = c →
    ∃ c', l'[i]? = some (e.setCon c') ∧ (SomeLive l' → LiveContact l' c') ∧
      (¬ SomeLive l' → c' = noAddr)
  left : ∀ e ∈ l', e.type = .sipMn → e.con ≠ c
  others : ∀ (i : ℕ) (e : SIPEntry), i ≠ l.findIdx (onIface iface) → l[i]? = some e →
    ¬ (e.type = .sipMn ∧ e.con = c) → l'[i]? = some e

/-- No two home agent entries that are up have the same contact. -/
def DistinctContacts (l : List SIPEntry) : Prop :=
  (liveMrHa l).Pairwise fun e e' => e.con ≠ e'.con

instance (l : List SIPEntry) : Decidable (DistinctContacts l) :=
  inferInstanceAs (Decidable ((liveMrHa l).Pairwise fun e e' => e.con ≠ e'.con))

theorem getElem?_of_forall₂ {α : Type} {R : α → α → Prop} {l l' : List α}
    (h : List.Forall₂ R l l') {i : ℕ} {a : α} (ha : l[i]? = some a) :
    ∃ b, l'[i]? = some b ∧ R a b := by
  induction h generalizing i with
  | nil => simp at ha
  | @cons x y l l' hxy _ ih =>
    cases i with
    | zero =>
      obtain rfl : x = a := by simpa using ha
      exact ⟨y, rfl, hxy⟩
    | succ i => exact ih (by simpa using ha)

/-- Two positions with one live contact are the same position. -/
theorem DistinctContacts.eq_of_con_eq {l : List SIPEntry} (h : DistinctContacts l) {i j : ℕ}
    {e e' : SIPEntry} (hi : l[i]? = some e) (hj : l[j]? = some e') (he : isLive e = true)
    (he' : isLive e' = true) (hcon : e.con = e'.con) : i = j := by
  rw [DistinctContacts, liveMrHa, List.pairwise_filter, List.pairwise_iff_getElem] at h
  obtain ⟨hil, rfl⟩ := List.getElem?_eq_some_iff.1 hi
  obtain ⟨hjl, rfl⟩ := List.getElem?_eq_some_iff.1 hj
  rcases lt_trichotomy i j with hlt | heq | hgt
  · exact absurd hcon (h i j hil hjl hlt he he')
  · exact heq
  · exact absurd hcon.symm (h j i hjl hil hgt he' he)

/-- A node at the broken contact goes to a live one if there is one, and to none otherwise. -/
theorem Rehomed.of_broken {l : List SIPEntry} {caddr c' : Addr} (h : Rehomed l caddr caddr c') :
    (SomeLive l → LiveContact l c') ∧ (¬ SomeLive l → c' = noAddr) := by
  rcases h with ⟨hne, -⟩ | ⟨-, ⟨hnil, hto⟩ | hto⟩
  · exact absurd rfl hne
  · exact ⟨fun hup => absurd hnil (someLive_iff.1 hup), fun _ => hto⟩
  · exact ⟨fun _ => hto, fun hno => absurd hto.someLive hno⟩

/-- No node stays at the broken contact, nor comes to it, when nothing is live there. -/
theorem Rehomed.ne_broken {l : List SIPEntry} {caddr c c' : Addr} (h : Rehomed l caddr c c')
    (hcon : caddr ≠ noAddr) (hdead : ¬ LiveContact l caddr) : c' ≠ caddr := by
  rcases h with ⟨hne, rfl⟩ | ⟨-, ⟨-, rfl⟩ | hto⟩
  · exact hne
  · exact hcon.symm
  · rintro rfl
    exact hdead hto

/-- When the contact of the broken entry is not that of a home agent entry other than itself,
nothing is live at it once that entry is marked dead. -/
theorem not_liveContact_of_broken {l : List SIPEntry} {iface : NodeId} {brk : SIPEntry}
    (hbrk : getEntryByIface l iface = some brk) (hdist : DistinctContacts l)
    (hown : brk.type = .sipMrHa ∨ ∀ e ∈ l, e.type = .sipMrHa → e.con ≠ brk.con) :
    ¬ LiveContact (updateFirst (onIface iface) (·.setCon noAddr) l) brk.con := by
  rintro ⟨e, he, hlive, hcon⟩
  obtain ⟨i, hi⟩ := List.mem_iff_getElem?.1 he
  rw [getElem?_updateFirst] at hi
  have hk : l[l.findIdx (onIface iface)]? = some brk := getElem?_findIdx hbrk
  split_ifs at hi with hik
  · -- the broken entry itself is at `-1`
    subst hik
    rw [hk] at hi
    cases hi
    exact (isLive_iff.1 hlive).2 rfl
  · rcases hown with hmr | hno
    · have hbrkLive : isLive brk = true :=
        isLive_iff.2 ⟨hmr, hcon ▸ (isLive_iff.1 hlive).2⟩
      exact hik (hdist.eq_of_con_eq hi hk hlive hbrkLive hcon)
    · exact hno e (List.mem_of_getElem? hi) (isLive_iff.1 hlive).1 hcon

/-- The list a re-homing leaves, when the broken entry is not a mobile node's and no interface
that is still up has its contact. -/
theorem movedOff_of_rehomed {l l' : List SIPEntry} {iface : NodeId} {brk : SIPEntry}
    (hbrk : getEntryByIface l iface = some brk) (hcon : brk.con ≠ noAddr)
    (hmn : brk.type ≠ .sipMn)
    (hdead : ¬ LiveContact (updateFirst (onIface iface) (·.setCon noAddr) l) brk.con)
    (h : List.Forall₂ (Recontacted
      (Rehomed (updateFirst (onIface iface) (·.setCon noAddr) l) brk.con))
      (updateFirst (onIface iface) (·.setCon noAddr) l) l') :
    MovedOff iface brk.con l l' := by
  set l₁ := updateFirst (onIface iface) (·.setCon noAddr) l with hl₁
  have hlive := liveContact_congr (liveMrHa_of_recontacted h)
  have hsome := someLive_congr (liveMrHa_of_recontacted h)
  have hk : l[l.findIdx (onIface iface)]? = some brk := getElem?_findIdx hbrk
  have hbroken : l₁[l.findIdx (onIface iface)]? = some (brk.setCon noAddr) := by
    rw [hl₁, getElem?_updateFirst, if_pos rfl, hk, Option.map_some]
  have hother : ∀ i, i ≠ l.findIdx (onIface iface) → l₁[i]? = l[i]? := by
    intro i hi
    rw [hl₁, getElem?_updateFirst, if_neg hi]
  constructor
  · rw [← h.length_eq, hl₁]
    simpa using congrArg List.length (map_updateFirst (g := fun _ => ()) (fun _ => rfl) l)
  · intro b hb
    obtain rfl : brk = b := Option.some_injective _ (hbrk.symm.trans hb)
    obtain ⟨e', he', hR⟩ := getElem?_of_forall₂ h hbroken
    rw [he', hR.of_ne hmn]
  · intro i e hi ht hec
    have hne : i ≠ l.findIdx (onIface iface) := by
      rintro rfl
      rw [hk] at hi
      cases hi
      exact hmn ht
    obtain ⟨e', he', hR⟩ := getElem?_of_forall₂ h ((hother i hne).trans hi)
    obtain ⟨c', rfl, hQ⟩ := hR.of_mn ht
    rw [hec] at hQ
    refine ⟨c', he', fun hup => ?_, fun hno => ?_⟩
    · exact (hlive c').2 (hQ.of_broken.1 (hsome.1 hup))
    · exact hQ.of_broken.2 (mt hsome.2 hno)
  · intro e' he' ht
    obtain ⟨e, -, hR⟩ := exists_of_mem_forall₂ h he'
    have hte : e.type = .sipMn := hR.type_eq ▸ ht
    obtain ⟨c', rfl, hQ⟩ := hR.of_mn hte
    exact hQ.ne_broken hcon hdead
  · intro i e hne hi hnot
    obtain ⟨e', he', hR⟩ := getElem?_of_forall₂ h ((hother i hne).trans hi)
    by_cases ht : e.type = .sipMn
    · obtain ⟨c', rfl, ⟨-, rfl⟩ | ⟨hec, -⟩⟩ := hR.of_mn ht
      · exact he'
      · exact absurd ⟨ht, hec⟩ hnot
    · rw [he', hR.of_ne ht]

/-- With the policies 1 to 3, whatever is drawn and however often, `re_homing` takes exactly the
nodes of the broken interface to live ones.  Its entry is a home agent entry, or at least not a
mobile node's and not at the contact of a home agent entry. -/
theorem reHoming_moves {a : UdpmysipAgent} {iface : NodeId} {b : SIPEntry}
    (hsel : a.select = 1 ∨ a.select = 2 ∨ a.select = 3) (hdist : DistinctContacts a.siplist)
    (hb : getEntryByIface a.siplist iface = some b) (hcon : b.con ≠ noAddr)
    (hnew : getEntryWithoutIface a.siplist iface ≠ none)
    (hown : b.type = .sipMrHa ∨
      (b.type ≠ .sipMn ∧ ∀ e ∈ a.siplist, e.type = .sipMrHa → e.con ≠ b.con)) :
    ∃ a' outs, reHoming a iface = .ok (a', outs) ∧
      MovedOff iface b.con a.siplist a'.siplist := by
  obtain ⟨a', outs, hrun, hl⟩ := reHoming_spec hsel hb hnew
  have hmn : b.type ≠ .sipMn := by
    rcases hown with ht | ⟨ht, -⟩
    · rw [ht]
      decide
    · exact ht
  have hdead := not_liveContact_of_broken hb hdist (hown.imp_right And.right)
  exact ⟨a', outs, hrun, movedOff_of_rehomed hb hcon hmn hdead hl⟩

/-- Both interfaces of `sampleRouter` are up and there is a node at each. -/
def sharedRouter (select : ℤ) : UdpmysipAgent :=
  { sampleRouter select with
    siplist := [{ SIPEntry.newMn (sampleRegister 8888 6 1).mh with con := str2addr 2 0 1 },
      { SIPEntry.newMn (sampleRegister 8889 7 2).mh with con := str2addr 3 0 1 },
      { sampleMrHa 9999 6 1 with con := str2addr 2 0 1 },
      { sampleMrHa 9998 7 2 with con := str2addr 3 0 1 }] }

/-- A random choice among the interfaces left, when the first of two goes down. -/
theorem reHoming_moves_sample :
    ∃ a' outs, reHoming (sharedRouter 1) 1 = .ok (a', outs) ∧
      MovedOff 1 (str2addr 2 0 1) (sharedRouter 1).siplist a'.siplist :=
  reHoming_moves (b := { sampleMrHa 9999 6 1 with con := str2addr 2 0 1 }) (Or.inl rfl)
    (by decide) rfl (by decide) (by decide) (Or.inl rfl)

/-! ### An interface with a second entry -/

/-- A node registers over the first of two interfaces that are up; then `set-sip-mn` adds an entry
on that interface, and the interface gets its address again. -/
def crowdedRouter : Act UdpmysipAgent := do
  let a ← runSteps mrStep (sampleRouter 3)
    [.up (str2addr 2 0 0) 1 (str2addr 2 0 1), .register (sampleRegister 8888 6 1),
      .up (str2addr 3 0 0) 2 (str2addr 3 0 1)]
  let a := setSipMn a 88 (str2addr 8 0 0) 9997 (str2addr 8 0 0) { iface := 1, addr := 0, port := 0 }
  mrStep a (.up (str2addr 2 0 0) 1 (str2addr 2 0 1))

/-- The new entry is the one marked dead; the home agent entry behind it is live at the same
contact, and the node is moved back to it. -/
theorem reHoming_moves_back :
    ∃ a b a' outs, crowdedRouter = .ok a ∧ a.select = 3 ∧ DistinctContacts a.siplist ∧
      getEntryByIface a.siplist 1 = some b ∧ b.con ≠ noAddr ∧
      getEntryWithoutIface a.siplist 1 ≠ none ∧ reHoming a 1 = .ok (a', outs) ∧
      ¬ MovedOff 1 b.con a.siplist a'.siplist := by
  refine ⟨_, _, _, _, rfl, rfl, by decide, rfl, by decide, by decide, rfl, fun h => ?_⟩
  exact h.left _ (List.mem_cons_of_mem _ List.mem_cons_self) rfl rfl

end SipNemo.Sip
