import SipNemo.Sip.Selection

/-!
# Runs of a mobile router with round robin

With round robin (`select_` 2) an interface that comes up does not take over every node:
`renew_mn_coa_entry_round_robin` moves the first node, then the first node that was elsewhere, and
from there on compares counters to spread the nodes evenly.  It never asks whether a node sits at
the contact that the interface has just lost.

So the nodes stay live when no such node is left to the counters
(`roundRobin_keeps_nodes_live`); a second node at the lost contact already stays behind
(`roundRobin_leaves_stale_node`).
-/

namespace SipNemo.Sip

open FirstMatch Runs

/-- The contacts of the mobile nodes, in list order. -/
def mnContacts (l : List SIPEntry) : List Addr := (mobileNodes l).map (·.con)

theorem mnContacts_cons_mn {e : SIPEntry} (ht : e.type = .sipMn) (l : List SIPEntry) :
    mnContacts (e :: l) = e.con :: mnContacts l := by
  rw [mnContacts, mobileNodes_cons_mn ht, List.map_cons, mnContacts]

theorem mnContacts_cons_ne {e : SIPEntry} (ht : e.type ≠ .sipMn) (l : List SIPEntry) :
    mnContacts (e :: l) = mnContacts l := by
  rw [mnContacts, mobileNodes_cons_ne ht, mnContacts]

/-- A contact that the loop does not record as a second one after `d`; `0` stands for "none". -/
def isUnrecorded (d e : Addr) : Bool := decide (e = d ∨ e = 0)

/-- No node at `c` is left to the balancing counters, when the nodes have the given contacts: the
first node is the only one at `c`, or it is elsewhere, at `d`, and none after the first one
recorded at another contact is at `c`. -/
def MovedBeforeBalancing (c : Addr) : List Addr → Prop
  | [] => True
  | d :: cs => if d = c then c ∉ cs else c ∉ (cs.dropWhile (isUnrecorded d)).tail

instance (c : Addr) : (cs : List Addr) → Decidable (MovedBeforeBalancing c cs)
  | [] => inferInstanceAs (Decidable True)
  | d :: cs => inferInstanceAs
      (Decidable (if d = c then c ∉ cs else c ∉ (cs.dropWhile (isUnrecorded d)).tail))

/-! ### The renewal loop -/

section Loop

variable {c d x : Addr} {v v' : RenewState} {l l' : List SIPEntry}

/-- The loop of `renew_mn_coa_entry_round_robin` from the local state `v` on. -/
def renewLoop (x : Addr) (v : RenewState) (l : List SIPEntry) : Act (List SIPEntry × RenewState) :=
  forEachMn (fun v c => .ok (renewRoundRobinBody x v c)) v l

/-- A node moves to the new contact or stays. -/
theorem renewRoundRobinBody_fst (x : Addr) (v : RenewState) (con : Addr) :
    (renewRoundRobinBody x v con).1 = x ∨ (renewRoundRobinBody x v con).1 = con := by
  unfold renewRoundRobinBody
  split_ifs <;> simp

theorem renewLoop_cons_mn {e : SIPEntry} (h : renewLoop x v (e :: l) = .ok (l', v'))
    (ht : e.type = .sipMn) :
    ∃ l₁, renewLoop x (renewRoundRobinBody x v e.con).2 l = .ok (l₁, v') ∧
      l' = e.setCon (renewRoundRobinBody x v e.con).1 :: l₁ := by
  unfold renewLoop at h
  rw [forEachMn, if_pos ht] at h
  obtain ⟨r, hr, h⟩ := bind_ok_iff.1 h
  cases hr
  obtain ⟨⟨l₁, v₁⟩, hl, hpure⟩ := bind_ok_iff.1 h
  cases hpure
  exact ⟨l₁, hl, rfl⟩

theorem renewLoop_cons_ne {e : SIPEntry} (h : renewLoop x v (e :: l) = .ok (l', v'))
    (ht : e.type ≠ .sipMn) :
    ∃ l₁, renewLoop x v l = .ok (l₁, v') ∧ l' = e :: l₁ := by
  unfold renewLoop at h
  rw [forEachMn, if_neg ht] at h
  obtain ⟨⟨l₁, v₁⟩, hl, hpure⟩ := bind_ok_iff.1 h
  cases hpure
  exact ⟨l₁, hl, rfl⟩

theorem recontacted_refl_of_ne {Q : Addr → Addr → Prop} {e : SIPEntry} (ht : e.type ≠ .sipMn) :
    Recontacted Q e e := by
  simp [Recontacted, ht]

theorem recontacted_setCon {Q : Addr → Addr → Prop} {e : SIPEntry} (ht : e.type = .sipMn)
    {c : Addr} (h : Q e.con c) : Recontacted Q e (e.setCon c) := by
  simpa [Recontacted, ht] using ⟨c, rfl, h⟩

/-- Without a node at the lost contact it does not matter who moves. -/
theorem renewLoop_of_not_mem (hc : c ∉ mnContacts l) (h : renewLoop x v l = .ok (l', v')) :
    List.Forall₂ (Recontacted (Renewed c x)) l l' := by
  induction l generalizing v l' with
  | nil =>
    cases h
    exact .nil
  | cons e l ih =>
    by_cases ht : e.type = .sipMn
    · rw [mnContacts_cons_mn ht, List.mem_cons, not_or] at hc
      obtain ⟨l₁, hl, rfl⟩ := renewLoop_cons_mn h ht
      refine .cons (recontacted_setCon ht ?_) (ih hc.2 hl)
      rcases renewRoundRobinBody_fst x v e.con with hx | hstay
      · exact Or.inl hx
      · exact Or.inr ⟨hstay, Or.inl (Ne.symm hc.1)⟩
    · rw [mnContacts_cons_ne ht] at hc
      obtain ⟨l₁, hl, rfl⟩ := renewLoop_cons_ne h ht
      exact .cons (recontacted_refl_of_ne ht) (ih hc hl)

/-- The loop after a first node at `d`, as long as no second contact has been recorded. -/
theorem renewLoop_of_one_seen (hdc : d ≠ c) (hi : v.i ≠ 0) (hold1 : v.old1Addr = d)
    (hold2 : v.old2Addr = 0)
    (hc : c ∉ ((mnContacts l).dropWhile (isUnrecorded d)).tail)
    (h : renewLoop x v l = .ok (l', v')) : List.Forall₂ (Recontacted (Renewed c x)) l l' := by
  induction l generalizing v l' with
  | nil =>
    cases h
    exact .nil
  | cons e l ih =>
    by_cases ht : e.type = .sipMn
    · rw [mnContacts_cons_mn ht] at hc
      obtain ⟨l₁, hl, rfl⟩ := renewLoop_cons_mn h ht
      by_cases hd : e.con = d
      · -- another node at `d`: it may stay, as `d` is not the lost contact
        have hbody : (renewRoundRobinBody x v e.con).2.i ≠ 0 ∧
            (renewRoundRobinBody x v e.con).2.old1Addr = d ∧
            (renewRoundRobinBody x v e.con).2.old2Addr = 0 := by
          unfold renewRoundRobinBody
          split_ifs <;> simp_all
        have hskip : isUnrecorded d e.con = true := decide_eq_true (Or.inl hd)
        rw [List.dropWhile_cons_of_pos hskip] at hc
        refine .cons (recontacted_setCon ht ?_) (ih hbody.1 hbody.2.1 hbody.2.2 hc hl)
        rcases renewRoundRobinBody_fst x v e.con with hx | hstay
        · exact Or.inl hx
        · exact Or.inr ⟨hstay, Or.inl (hd ▸ hdc)⟩
      · -- the first node elsewhere moves, whatever its contact
        have hmove : renewRoundRobinBody x v e.con =
            (x, { v with i := v.i + 1, old2Addr := e.con, old2Count := v.old2Count + 1,
                         newCount := v.newCount + 1 }) := by
          simp [renewRoundRobinBody, hi, hold1, hold2, hd]
        rw [hmove] at hl ⊢
        refine .cons (recontacted_setCon ht (Or.inl rfl)) ?_
        by_cases hzero : e.con = 0
        · have hskip : isUnrecorded d e.con = true := decide_eq_true (Or.inr hzero)
          rw [List.dropWhile_cons_of_pos hskip] at hc
          refine ih ?_ ?_ ?_ hc hl
          · exact Nat.succ_ne_zero _
          · exact hold1
          · exact hzero
        · have hstop : ¬ isUnrecorded d e.con = true := by
            unfold isUnrecorded
            rw [decide_eq_true_eq]
            exact not_or.2 ⟨hd, hzero⟩
          rw [List.dropWhile_cons_of_neg hstop, List.tail_cons] at hc
          exact renewLoop_of_not_mem hc hl
    · rw [mnContacts_cons_ne ht] at hc
      obtain ⟨l₁, hl, rfl⟩ := renewLoop_cons_ne h ht
      exact .cons (recontacted_refl_of_ne ht) (ih hi hold1 hold2 hc hl)

/-- The whole loop, from its initial state. -/
theorem renewLoop_spec (hc : MovedBeforeBalancing c (mnContacts l))
    (h : renewLoop x {} l = .ok (l', v')) : List.Forall₂ (Recontacted (Renewed c x)) l l' := by
  induction l generalizing l' with
  | nil =>
    cases h
    exact .nil
  | cons e l ih =>
    by_cases ht : e.type = .sipMn
    · rw [mnContacts_cons_mn ht, MovedBeforeBalancing] at hc
      obtain ⟨l₁, hl, rfl⟩ := renewLoop_cons_mn h ht
      have hfirst : renewRoundRobinBody x {} e.con =
          (x, { i := 1, newCount := 1, old1Addr := e.con, old1Count := 1 }) := rfl
      rw [hfirst] at hl ⊢
      refine .cons (recontacted_setCon ht (Or.inl rfl)) ?_
      split_ifs at hc with hec
      · exact renewLoop_of_not_mem hc hl
      · exact renewLoop_of_one_seen hec Nat.one_ne_zero rfl rfl hc hl
    · rw [mnContacts_cons_ne ht] at hc
      obtain ⟨l₁, hl, rfl⟩ := renewLoop_cons_ne h ht
      exact .cons (recontacted_refl_of_ne ht) (ih hc hl)

end Loop

theorem renewRoundRobin_ok {x : Addr} {l l' : List SIPEntry} {s s' : Selector}
    (h : renewMnCoa 2 x l s = .ok (l', s')) : ∃ v', renewLoop x {} l = .ok (l', v') := by
  have h' : (renewMnCoaEntryRoundRobin x l).map (·, s) = .ok (l', s') := by
    simpa [renewMnCoa] using h
  obtain ⟨l₁, hl₁, heq⟩ := map_ok_iff.1 h'
  cases heq
  obtain ⟨r, hr, rfl⟩ := map_ok_iff.1 hl₁
  exact ⟨r.2, hr⟩

/-- A renewal that keeps the contact, or before which no node at the old one is left to the
counters, strands no node. -/
theorem renewRoundRobin_spec {c x : Addr} {l l' : List SIPEntry} {s s' : Selector}
    (hc : x = c ∨ MovedBeforeBalancing c (mnContacts l))
    (h : renewMnCoa 2 x l s = .ok (l', s')) :
    List.Forall₂ (Recontacted (Renewed c x)) l l' := by
  obtain ⟨v', hloop⟩ := renewRoundRobin_ok h
  rcases hc with rfl | hc
  · refine forEachMn_spec ?_ hloop
    intro v d d' v₁ hd
    have hd' : (renewRoundRobinBody x v d).1 = d' := congrArg Prod.fst (Except.ok.inj hd)
    rw [← hd']
    rcases renewRoundRobinBody_fst x v d with hx | hstay
    · exact Or.inl hx
    · exact Or.inr ⟨hstay, Or.inr rfl⟩
  · exact renewLoop_spec hc hloop

/-! ### Runs -/

/-- An interface changes its contact only when no node at the old one is left to the balancing
counters. -/
def MrEvent.MovesStale (a : UdpmysipAgent) : MrEvent → Prop
  | .up _ iface x => ∀ sip ∈ getEntryByIface a.siplist iface,
      x = sip.con ∨ MovedBeforeBalancing sip.con (mnContacts a.siplist)
  | _ => True

theorem roundRobin_step {a a' : UdpmysipAgent} {ev : MrEvent} (hinv : SelectInv 2 a)
    (hev : ev.Legal a ∧ ev.NodeUrl a ∧ ev.MovesStale a) (h : mrStep a ev = .ok a') :
    SelectInv 2 a' := by
  cases ev with
  | register p => exact hinv.register (Or.inl rfl) hev.1 hev.2.1 h
  | down iface => exact hinv.down (Or.inl rfl) h
  | up pre iface x =>
    refine hinv.up hev.1.1 ?_ h
    intro sip l sel hsip hl
    refine renewRoundRobin_spec ?_ hl
    have hne : sip.type ≠ .sipMn := by
      rw [type_of_onIface hinv.cfg hsip]
      decide
    rw [mnContacts, mobileNodes_updateFirst_of_ne hsip hne, ← mnContacts]
    exact hev.2.2 sip hsip

/-- With round robin every mobile node stays at a live contact while there is one, in every run
whose REGISTERs do not use the url id of a home agent entry and in which an interface changes its
contact only when no node at the old one is left to the balancing counters. -/
theorem roundRobin_keeps_nodes_live {a a' : UdpmysipAgent} {evs : List MrEvent}
    (hstart : RouterStart a) (hselect : a.select = 2)
    (hmeet : StepsMeet mrStep (fun a ev => ev.Legal a ∧ ev.NodeUrl a ∧ ev.MovesStale a) a evs)
    (hrun : runSteps mrStep a evs = .ok a') (hlive : SomeLive a'.siplist) :
    ∀ e ∈ a'.siplist, e.type = .sipMn → LiveContact a'.siplist e.con := by
  have hinv : SelectInv 2 a := hselect ▸ hstart.selectInv
  exact (runSteps_invariant (fun s i s' => roundRobin_step) hinv hmeet hrun).bound.bound hlive

/-- Two nodes register over the second interface; then the first comes up and goes down again. -/
def roundRobinRun : List MrEvent :=
  [.up (str2addr 3 0 0) 2 (str2addr 3 0 1), .register (sampleRegister 8888 6 1),
    .register (sampleRegister 8889 6 2), .up (str2addr 2 0 0) 1 (str2addr 2 0 1), .down 1]

theorem roundRobinRun_meets :
    StepsMeet mrStep (fun a ev => ev.Legal a ∧ ev.NodeUrl a ∧ ev.MovesStale a) (sampleRouter 2)
      roundRobinRun := by
  unfold roundRobinRun
  refine .cons ⟨⟨by decide, by decide⟩, trivial, ?_⟩ rfl ?_
  · rintro sip ⟨⟩
    exact Or.inr (by decide)
  refine .cons ⟨⟨rfl, by decide⟩, ?_, trivial⟩ rfl ?_
  · rintro e ⟨⟩
  refine .cons ⟨⟨rfl, by decide⟩, ?_, trivial⟩ rfl ?_
  · rintro e ⟨⟩
  refine .cons ⟨⟨by decide, by decide⟩, trivial, ?_⟩ rfl ?_
  · rintro sip ⟨⟩
    exact Or.inr (by decide)
  exact .cons ⟨trivial, trivial, trivial⟩ rfl trivial

theorem roundRobin_keeps_nodes_live_sample :
    ∃ a', runSteps mrStep (sampleRouter 2) roundRobinRun = .ok a' ∧ mnCount a'.siplist = 2 ∧
      ∀ e ∈ a'.siplist, e.type = .sipMn → LiveContact a'.siplist e.con := by
  obtain ⟨a', ha', hcount, hlive⟩ :
      ∃ a', runSteps mrStep (sampleRouter 2) roundRobinRun = .ok a' ∧ mnCount a'.siplist = 2 ∧
        SomeLive a'.siplist := ⟨_, rfl, by decide, by decide⟩
  exact ⟨a', ha', hcount,
    roundRobin_keeps_nodes_live (sampleRouter_start 2) rfl roundRobinRun_meets ha' hlive⟩

/-- Two nodes register over the second interface, whose address then changes. -/
def staleRun : List MrEvent :=
  [.up (str2addr 3 0 0) 2 (str2addr 3 0 1), .register (sampleRegister 8888 6 1),
    .register (sampleRegister 8889 6 2), .up (str2addr 4 0 0) 2 (str2addr 4 0 1)]

theorem staleRun_legal :
    StepsMeet mrStep (fun a ev => ev.Legal a) (sampleRouter 2) staleRun := by
  unfold staleRun
  refine .cons ⟨by decide, by decide⟩ rfl ?_
  refine .cons ⟨rfl, by decide⟩ rfl ?_
  refine .cons ⟨rfl, by decide⟩ rfl ?_
  exact .cons ⟨by decide, by decide⟩ rfl trivial

/-- The second node keeps the address that the router no longer has. -/
theorem roundRobin_leaves_stale_node :
    ¬ ∀ (a a' : UdpmysipAgent) (evs : List MrEvent), RouterStart a → a.select = 2 → a.expMr = 0 →
      StepsMeet mrStep (fun a ev => ev.Legal a) a evs → runSteps mrStep a evs = .ok a' →
      SomeLive a'.siplist →
        ∀ e ∈ a'.siplist, e.type = .sipMn → LiveContact a'.siplist e.con := by
  intro h
  obtain ⟨a', ha', hlive, e, he, hmn, hdead⟩ :
      ∃ a', runSteps mrStep (sampleRouter 2) staleRun = .ok a' ∧ SomeLive a'.siplist ∧
        ∃ e ∈ a'.siplist, e.type = .sipMn ∧ ¬ LiveContact a'.siplist e.con :=
    ⟨_, rfl, by decide, by decide⟩
  exact hdead (h _ a' _ (sampleRouter_start 2) rfl rfl staleRun_legal ha' hlive e he hmn)

end SipNemo.Sip
