import SipNemo.Sip.Rehome

/-!
# When choosing an interface is defined

The four policies index the vector of the live home agent entries without looking at its length.
Choosing an interface for a node that registers needs one live entry: with none, where a lookup
would return `NULL`, two policies take a remainder by zero and two read past the end of the vector
(`chooseMrHa_sound_iff`).  Re-homing tests the vector for being empty, and then only weight 2
reads at a fixed position that may not be there, the second one
(`rehomeMnCoaEntryWeight2_returns_iff`).
-/

namespace SipNemo.Sip

open FirstMatch Runs

/-- The `rehome_mn_coa_entry_*` of the policy `select_`. -/
def rehomeMnCoa (select : ℤ) (caddr : Addr) (l : List SIPEntry) (s : Selector) :
    Act (List SIPEntry × Selector) :=
  if select = 1 then rehomeMnCoaEntryRandom caddr l s
  else if select = 2 then rehomeMnCoaEntryRoundRobin caddr l s
  else if select = 3 then rehomeMnCoaEntryWeight caddr l s
  else if select = 4 then rehomeMnCoaEntryWeight2 caddr l s
  else .ok (l, s)

/-- The choice returns: a live entry of the list if there is one, and `NULL` otherwise. -/
def ChoosesLive (l : List SIPEntry) (x : Act (Option SIPEntry × Selector)) : Prop :=
  ∃ r s', x = .ok (r, s') ∧ (SomeLive l → ∃ e ∈ l, isLive e = true ∧ r = some e) ∧
    (¬ SomeLive l → r = none)

/-- Both operations of a policy are defined, and what is chosen is live. -/
def SelectionTotal (select : ℤ) (l : List SIPEntry) (s : Selector) (caddr pre : Addr) : Prop :=
  ChoosesLive l (chooseMrHa select l s pre) ∧
    ∃ l' s', rehomeMnCoa select caddr l s = .ok (l', s')

/-- Some interface is up; and when weight 2 re-homes for the first time there are two, unless no
node is at the contact. -/
def SelectionDefined (select : ℤ) (l : List SIPEntry) (s : Selector) (caddr : Addr) : Prop :=
  SomeLive l ∧ (select = 4 → s.weightCount2 = 0 → (liveMrHa l).length = 1 →
    ∀ e ∈ l, e.type = .sipMn → e.con ≠ caddr)

/-! ### Choosing -/

section Choose

variable {l : List SIPEntry} {s : Selector} {i : ℕ}

theorem someLive_iff_length : SomeLive l ↔ 0 < (liveMrHa l).length := by
  rw [someLive_iff, List.length_pos_iff]

/-- A position in the vector of live entries. -/
theorem index_live (hi : i < (liveMrHa l).length) :
    ∃ e ∈ l, isLive e = true ∧ index (liveMrHa l) i = .ok e := by
  obtain ⟨e, he⟩ := index_returns hi
  have hmem : e ∈ liveMrHa l := List.mem_of_getElem? (index_eq_ok.1 he)
  obtain ⟨hl, hlive⟩ := List.mem_filter.1 hmem
  exact ⟨e, hl, hlive, he⟩

/-- A choice that reads a position that is there. -/
theorem chooses_of_index (hi : i < (liveMrHa l).length) (s' : Selector) :
    ChoosesLive l ((do let e ← index (liveMrHa l) i; pure (e, s') : Act (SIPEntry × Selector)).map
      fun r => (some r.1, r.2)) := by
  obtain ⟨e, he, hlive, hok⟩ := index_live hi
  refine ⟨some e, s', ?_, fun _ => ⟨e, he, hlive, rfl⟩, fun hno => ?_⟩
  · rw [hok]
    rfl
  · exact absurd (someLive_iff_length.2 (Nat.zero_lt_of_lt hi)) hno

/-- The two policies that draw a number. -/
theorem chooses_of_draw (draw : Selector → ℕ × Selector) (h : SomeLive l) :
    ChoosesLive l ((do
      let (r, s) := draw s
      let i ← remainder r (liveMrHa l).length
      let e ← index (liveMrHa l) i
      pure (e, s) : Act (SIPEntry × Selector)).map fun r => (some r.1, r.2)) := by
  have hpos := someLive_iff_length.1 h
  have hi : (draw s).1 % (liveMrHa l).length < (liveMrHa l).length := Nat.mod_lt _ hpos
  have hrem : remainder (draw s).1 (liveMrHa l).length =
      .ok ((draw s).1 % (liveMrHa l).length) := if_neg hpos.ne'
  show ChoosesLive l ((remainder (draw s).1 (liveMrHa l).length >>= fun i => do
    let e ← index (liveMrHa l) i
    pure (e, (draw s).2) : Act (SIPEntry × Selector)).map fun r => (some r.1, r.2))
  rw [hrem]
  exact chooses_of_index hi _

theorem chooses_of_weight (h : SomeLive l) :
    ChoosesLive l ((getMrHaEntryWeight l s).map fun r => (some r.1, r.2)) := by
  have hpos := someLive_iff_length.1 h
  apply chooses_of_index
  split_ifs <;> omega

theorem chooses_of_weight2 (h : SomeLive l) :
    ChoosesLive l ((getMrHaEntryWeight2 l s).map fun r => (some r.1, r.2)) := by
  have hpos := someLive_iff_length.1 h
  unfold getMrHaEntryWeight2
  dsimp only
  split_ifs with hone hcount
  · exact chooses_of_index hpos _
  · exact chooses_of_index hpos _
  · apply chooses_of_index
    omega

/-- Without a live entry every policy leaves defined behaviour. -/
theorem chooseMrHa_fails {select : ℤ} (s : Selector) (pre : Addr)
    (hsel : select ∈ Set.Icc (1 : ℤ) 4) (h : ¬ SomeLive l) :
    ∃ err, chooseMrHa select l s pre = .error err := by
  have hnil : liveMrHa l = [] := by
    by_contra hne
    exact h (someLive_iff.2 hne)
  obtain ⟨h1, h4⟩ := hsel
  have hcases : select = 1 ∨ select = 2 ∨ select = 3 ∨ select = 4 := by omega
  rcases hcases with rfl | rfl | rfl | rfl
  · exact ⟨.divisionByZero, by simp [chooseMrHa, getMrHaEntryRandom, hnil, remainder]; rfl⟩
  · exact ⟨.divisionByZero, by simp [chooseMrHa, getMrHaEntryRoundRobin, hnil, remainder]; rfl⟩
  · exact ⟨.outOfRange, by simp [chooseMrHa, getMrHaEntryWeight, hnil, index]; rfl⟩
  · refine ⟨.outOfRange, ?_⟩
    by_cases hc : s.weightCount = 0
    · simp [chooseMrHa, getMrHaEntryWeight2, hnil, index, hc]
      rfl
    · simp [chooseMrHa, getMrHaEntryWeight2, hnil, index, hc]
      rfl

theorem chooseMrHa_sound_iff {select : ℤ} {pre : Addr} (hsel : select ∈ Set.Icc (1 : ℤ) 4) :
    ChoosesLive l (chooseMrHa select l s pre) ↔ SomeLive l := by
  constructor
  · rintro ⟨r, s', hok, -, -⟩
    by_contra hno
    obtain ⟨err, herr⟩ := chooseMrHa_fails s pre hsel hno
    rw [hok] at herr
    cases herr
  · intro h
    obtain ⟨h1, h4⟩ := hsel
    have hcases : select = 1 ∨ select = 2 ∨ select = 3 ∨ select = 4 := by omega
    rcases hcases with rfl | rfl | rfl | rfl
    · exact chooses_of_draw Selector.random h
    · exact chooses_of_draw Selector.nextRound h
    · exact chooses_of_weight h
    · exact chooses_of_weight2 h

end Choose

/-! ### Re-homing -/

section Rehome

variable {l : List SIPEntry} {s : Selector} {caddr : Addr}
  {pick : Selector → Act (Addr × Selector)}

/-- Without a node at the contact nothing is picked. -/
theorem rehomeMn_of_no_node (h : ∀ e ∈ l, e.type = .sipMn → e.con ≠ caddr) :
    rehomeMn caddr pick l s = .ok (l, s) := by
  unfold rehomeMn
  induction l with
  | nil => rfl
  | cons e l ih =>
    have hl := ih fun e he => h e (List.mem_cons_of_mem _ he)
    by_cases ht : e.type = .sipMn
    · have hne : e.con ≠ caddr := h e List.mem_cons_self ht
      simp only [forEachMn, ht, if_true, bind_ok_iff]
      exact ⟨_, if_neg hne, _, hl, rfl⟩
    · simp only [forEachMn, ht, if_false, bind_ok_iff]
      exact ⟨_, hl, rfl⟩

/-- With a node at the contact the loop fails where the first pick does. -/
theorem rehomeMn_fails {err : Abort} (hpick : pick s = .error err)
    (h : ∃ e ∈ l, e.type = .sipMn ∧ e.con = caddr) :
    rehomeMn caddr pick l s = .error err := by
  unfold rehomeMn
  induction l with
  | nil => simp at h
  | cons e l ih =>
    by_cases hat : e.type = .sipMn ∧ e.con = caddr
    · rw [forEachMn, if_pos hat.1, if_pos hat.2, hpick]
      rfl
    · obtain ⟨e', he', hnode⟩ := h
      rcases List.mem_cons.1 he' with rfl | he'
      · exact absurd hnode hat
      have hl := ih ⟨e', he', hnode⟩
      by_cases ht : e.type = .sipMn
      · have hne : e.con ≠ caddr := fun hc => hat ⟨ht, hc⟩
        rw [forEachMn, if_pos ht, if_neg hne]
        show (forEachMn _ s l >>= _) = _
        rw [hl]
        rfl
      · rw [forEachMn, if_neg ht, hl]
        rfl

/-- The contact weight 2 gives the next node. -/
def weight2Pick (mrHa : List SIPEntry) (s : Selector) : Act (Addr × Selector) :=
  if mrHa.isEmpty then .ok (noAddr, { s with weightCount2 := s.weightCount2 + 1 })
  else do
    let e ← index mrHa (if s.weightCount2 = 0 then 1 else 0)
    pure (e.con, { s with weightCount2 := s.weightCount2 + 1 })

/-- It fails for the first node when there is just one interface. -/
theorem weight2Pick_returns_iff (mrHa : List SIPEntry) (s : Selector) :
    (∃ r, weight2Pick mrHa s = .ok r) ↔ ¬ (s.weightCount2 = 0 ∧ mrHa.length = 1) := by
  unfold weight2Pick
  by_cases hempty : mrHa.isEmpty = true
  · have hlen : mrHa.length = 0 := by simpa using hempty
    simp [hempty, hlen]
  · have hlen : mrHa.length ≠ 0 := by simpa using hempty
    rw [if_neg hempty]
    constructor
    · rintro ⟨r, hr⟩ ⟨hcount, hone⟩
      obtain ⟨e, he, -⟩ := bind_ok_iff.1 hr
      have hlt := lt_length_of_index he
      rw [if_pos hcount] at hlt
      omega
    · intro hnot
      have hlt : (if s.weightCount2 = 0 then 1 else 0) < mrHa.length := by
        split_ifs <;> omega
      obtain ⟨e, he⟩ := index_returns hlt
      exact ⟨_, bind_ok_iff.2 ⟨e, he, rfl⟩⟩

theorem weight2Pick_count {mrHa : List SIPEntry} {s s' : Selector} {c : Addr}
    (h : weight2Pick mrHa s = .ok (c, s')) : s'.weightCount2 = s.weightCount2 + 1 := by
  unfold weight2Pick at h
  by_cases hempty : mrHa.isEmpty = true
  · rw [if_pos hempty] at h
    cases h
    rfl
  · rw [if_neg hempty] at h
    obtain ⟨e, -, hpure⟩ := bind_ok_iff.1 h
    cases hpure
    rfl

theorem rehomeMnCoaEntryWeight2_returns_iff :
    (∃ r, rehomeMnCoaEntryWeight2 caddr l s = .ok r) ↔
      (s.weightCount2 = 0 → (liveMrHa l).length = 1 →
        ∀ e ∈ l, e.type = .sipMn → e.con ≠ caddr) := by
  show (∃ r, rehomeMn caddr (weight2Pick (liveMrHa l)) l s = .ok r) ↔ _
  constructor
  · rintro ⟨r, hr⟩ hcount hone
    by_contra hnode
    push Not at hnode
    cases hpick : weight2Pick (liveMrHa l) s with
    | ok q => exact (weight2Pick_returns_iff _ _).1 ⟨q, hpick⟩ ⟨hcount, hone⟩
    | error err =>
      rw [rehomeMn_fails hpick hnode] at hr
      cases hr
  · intro h
    by_cases hcond : s.weightCount2 = 0 ∧ (liveMrHa l).length = 1
    · exact ⟨_, rehomeMn_of_no_node (h hcond.1 hcond.2)⟩
    · -- the counter never comes back to zero
      refine forEachMn_returns_of (I := fun s => ¬ (s.weightCount2 = 0 ∧
        (liveMrHa l).length = 1)) (fun s c hs => ?_) hcond l
      by_cases hc : c = caddr
      · obtain ⟨⟨c', s'⟩, hr⟩ := (weight2Pick_returns_iff _ _).2 hs
        refine ⟨c', s', by rw [if_pos hc, hr], ?_⟩
        rw [weight2Pick_count hr]
        exact fun hzero => Nat.succ_ne_zero _ hzero.1
      · exact ⟨c, s, if_neg hc, hs⟩

end Rehome

/-- For every policy, list and counters, both operations are defined and the choice is live
exactly under `SelectionDefined`. -/
theorem selectionTotal_iff (select : ℤ) (l : List SIPEntry) (s : Selector) (caddr pre : Addr)
    (hsel : select ∈ Set.Icc (1 : ℤ) 4) :
    SelectionTotal select l s caddr pre ↔ SelectionDefined select l s caddr := by
  unfold SelectionTotal SelectionDefined
  rw [chooseMrHa_sound_iff hsel]
  refine and_congr_right fun _ => ?_
  rw [← Prod.exists']
  obtain ⟨h1, h4⟩ := hsel
  have hcases : select = 1 ∨ select = 2 ∨ select = 3 ∨ select = 4 := by omega
  rcases hcases with rfl | rfl | rfl | rfl
  · exact iff_of_true (rehomeDraw_returns Selector.random caddr l s) fun h => by cases h
  · exact iff_of_true (rehomeDraw_returns Selector.nextRound caddr l s) fun h => by cases h
  · exact iff_of_true (rehomeWeight_returns caddr l s) fun h => by cases h
  · rw [show rehomeMnCoa 4 caddr l s = rehomeMnCoaEntryWeight2 caddr l s from rfl,
      rehomeMnCoaEntryWeight2_returns_iff]
    exact ⟨fun h _ => h, fun h => h rfl⟩

theorem selectionTotal_iff_sample :
    SelectionTotal 4 (sharedRouter 4).siplist {} (str2addr 2 0 1) 0 ↔
      SelectionDefined 4 (sharedRouter 4).siplist {} (str2addr 2 0 1) :=
  selectionTotal_iff 4 _ _ _ _ ⟨by decide, by decide⟩

/-- A REGISTER before any interface is up: the random policy takes a remainder by zero. -/
theorem selection_undefined :
    ¬ ∀ (a a' : UdpmysipAgent) (evs : List MrEvent) (caddr pre : Addr), RouterStart a →
      a.select ∈ Set.Icc (1 : ℤ) 4 → runSteps mrStep a evs = .ok a' →
        SelectionTotal a'.select a'.siplist a'.sel caddr pre := by
  intro h
  have htotal := h (sampleRouter 1) (sampleRouter 1) [] 0 0 (sampleRouter_start 1)
    ⟨by decide, by decide⟩ rfl
  obtain ⟨⟨r, s', hok, -⟩, -⟩ := htotal
  cases hok

end SipNemo.Sip
