import SipNemo.Sip.RoundRobin
import SipNemo.Sip.Rehome
import Mathlib.Data.Int.CardIntervalMod

/-!
# Fairness of the round-robin counter

`get_mr_ha_entry_round_robin` and the loop of `rehome_mn_coa_entry_round_robin` share one counter.
Either reads the vector of live entries at `round_count++ % mr_ha.size()`, the first once and the
second once for every node it moves.  As long as the live entries and the sign of the counter stay
what they are, the positions read in a run are consecutive modulo the number of live entries, in
whatever way the operations are mixed, so no entry is chosen more than once more often than another
(`roundRobin_fair`).
-/

namespace SipNemo.Sip

open FirstMatch Runs

/-- What can happen between two choices: a node registers, the nodes at `caddr` are re-homed, or
the list changes otherwise. -/
inductive RoundRobinOp
  | choose
  | rehome (caddr : Addr)
  | edit (l : List SIPEntry)

/-- The binding list, the counters, and the contacts handed out so far. -/
structure Assigning where
  siplist : List SIPEntry
  sel : Selector
  given : List Addr := []

/-- The new contacts of the nodes that were at `caddr`. -/
def movedContacts (caddr : Addr) (l l' : List SIPEntry) : List Addr :=
  ((mnContacts l).zip (mnContacts l')).filterMap fun c => if c.1 = caddr then some c.2 else none

def roundRobinStep (w : Assigning) : RoundRobinOp → Act Assigning
  | .choose => do
    let (e, s) ← getMrHaEntryRoundRobin w.siplist w.sel
    pure { w with sel := s, given := w.given ++ [e.con] }
  | .rehome caddr => do
    let (l, s) ← rehomeMnCoaEntryRoundRobin caddr w.siplist w.sel
    pure { siplist := l, sel := s, given := w.given ++ movedContacts caddr w.siplist l }
  | .edit l => .ok { w with siplist := l }

/-! ### The positions read -/

/-- The counters together with the positions read so far. -/
abbrev Trace := Selector × List ℕ

/-- `mr_ha[round_count++ % mr_ha.size()]`, with the position recorded. -/
def pickTraced (mrHa : List SIPEntry) (t : Trace) : Act (SIPEntry × Trace) := do
  let (r, s) := t.1.nextRound
  let i ← remainder r mrHa.length
  let e ← index mrHa i
  pure (e, (s, t.2 ++ [i]))

/-- The body of the loop of `rehome_mn_coa_entry_round_robin`, with the position recorded. -/
def retargetTraced (mrHa : List SIPEntry) (caddr : Addr) (t : Trace) (c : Addr) :
    Act (Addr × Trace) :=
  if c = caddr then
    if mrHa.isEmpty then .ok (noAddr, t)
    else do
      let (e, t) ← pickTraced mrHa t
      pure (e.con, t)
  else .ok (c, t)

/-- `rehome_mn_coa_entry_round_robin`, with the positions recorded. -/
def rehomeTraced (caddr : Addr) (l : List SIPEntry) (t : Trace) : Act (List SIPEntry × Trace) :=
  forEachMn (retargetTraced (liveMrHa l) caddr) t l

structure Traced extends Assigning where
  chosen : List ℕ := []

/-- `roundRobinStep`, with the positions recorded. -/
def tracedStep (w : Traced) : RoundRobinOp → Act Traced
  | .choose => do
    let (e, t) ← pickTraced (liveMrHa w.siplist) (w.sel, w.chosen)
    pure { siplist := w.siplist, sel := t.1, given := w.given ++ [e.con], chosen := t.2 }
  | .rehome caddr => do
    let (l, t) ← rehomeTraced caddr w.siplist (w.sel, w.chosen)
    pure
      { siplist := l, sel := t.1, given := w.given ++ movedContacts caddr w.siplist l
        chosen := t.2 }
  | .edit l => .ok { w with siplist := l }

/-! ### Consecutive positions -/

section Rounds

variable {k c : ℕ} {t : Trace} {mrHa : List SIPEntry}

/-- The positions recorded are those of consecutive counters from `c` on. -/
def Rounds (k c : ℕ) (t : Trace) : Prop :=
  c + t.2.length < 2 ^ 31 →
    t.1.roundCount = c + t.2.length ∧ t.2 = (List.range t.2.length).map fun j => (c + j) % k

/-- The contact `d` is that of the entry at position `i`. -/
def ContactAt (mrHa : List SIPEntry) (i : ℕ) (d : Addr) : Prop :=
  ∃ e, mrHa[i]? = some e ∧ e.con = d

theorem pickTraced_spec (hne : mrHa ≠ []) (h : Rounds mrHa.length c t) :
    ∃ e i, pickTraced mrHa t = .ok (e, (t.1.nextRound.2, t.2 ++ [i])) ∧ mrHa[i]? = some e ∧
      Rounds mrHa.length c (t.1.nextRound.2, t.2 ++ [i]) := by
  have hpos : 0 < mrHa.length := List.length_pos_iff.2 hne
  obtain ⟨e, he⟩ := index_returns (Nat.mod_lt t.1.nextRound.1 hpos)
  refine ⟨e, t.1.nextRound.1 % mrHa.length, ?_, index_eq_ok.1 he, fun hlt => ?_⟩
  · simp only [pickTraced, bind_ok_iff]
    exact ⟨_, if_neg hpos.ne', e, he, rfl⟩
  · simp only [List.length_append, List.length_singleton] at hlt ⊢
    obtain ⟨hcount, hchosen⟩ := h (by omega)
    have hround : t.1.nextRound.1 = c + t.2.length := by
      rw [Selector.nextRound, ← hcount]
      exact if_pos (by omega)
    constructor
    · show (t.1.roundCount + 1) % 2 ^ 32 = _
      rw [hcount, Nat.mod_eq_of_lt (by omega), Nat.add_assoc]
    · rw [List.range_succ, List.map_append, ← hchosen, hround]
      rfl

theorem movedContacts_cons_mn {e : SIPEntry} (ht : e.type = .sipMn) (caddr d : Addr)
    (l l' : List SIPEntry) :
    movedContacts caddr (e :: l) (e.setCon d :: l') =
      (if e.con = caddr then [d] else []) ++ movedContacts caddr l l' := by
  have ht' : (e.setCon d).type = .sipMn := ht
  rw [movedContacts, mnContacts_cons_mn ht, mnContacts_cons_mn ht', List.zip_cons_cons]
  by_cases hc : e.con = caddr
  · simp [movedContacts, hc]
  · simp [movedContacts, hc]

theorem movedContacts_cons_ne {e : SIPEntry} (ht : e.type ≠ .sipMn) (caddr : Addr)
    (l l' : List SIPEntry) :
    movedContacts caddr (e :: l) (e :: l') = movedContacts caddr l l' := by
  rw [movedContacts, mnContacts_cons_ne ht, mnContacts_cons_ne ht, movedContacts]

/-- The loop of the re-homing, over a part of the list. -/
theorem rehomeLoop_spec (hne : mrHa ≠ []) (caddr : Addr) (l : List SIPEntry)
    (h : Rounds mrHa.length c t) :
    ∃ l' s new, forEachMn (retargetTraced mrHa caddr) t l = .ok (l', (s, t.2 ++ new)) ∧
      List.Forall₂ (ContactAt mrHa) new (movedContacts caddr l l') ∧
      Rounds mrHa.length c (s, t.2 ++ new) := by
  induction l generalizing t with
  | nil => exact ⟨[], t.1, [], by rw [List.append_nil]; rfl, .nil, by rwa [List.append_nil]⟩
  | cons e l ih =>
    by_cases ht : e.type = .sipMn
    · by_cases hc : e.con = caddr
      · -- a node that moves reads one position
        have hempty : ¬ mrHa.isEmpty = true := by simpa using hne
        obtain ⟨f, i, hpick, hf, hround⟩ := pickTraced_spec hne h
        obtain ⟨l', s, new, hl, hnew, hrounds⟩ := ih hround
        refine ⟨e.setCon f.con :: l', s, i :: new, ?_, ?_, ?_⟩
        · rw [List.append_assoc, List.singleton_append] at hl
          have hbody : retargetTraced mrHa caddr t e.con =
              .ok (f.con, (t.1.nextRound.2, t.2 ++ [i])) := by
            rw [retargetTraced, if_pos hc, if_neg hempty, hpick]
            rfl
          rw [forEachMn, if_pos ht, bind_ok_iff]
          exact ⟨_, hbody, bind_ok_iff.2 ⟨_, hl, rfl⟩⟩
        · rw [movedContacts_cons_mn ht, if_pos hc]
          exact .cons ⟨f, hf, rfl⟩ hnew
        · rwa [List.append_assoc, List.singleton_append] at hrounds
      · obtain ⟨l', s, new, hl, hnew, hrounds⟩ := ih h
        refine ⟨e.setCon e.con :: l', s, new, ?_, ?_, hrounds⟩
        · rw [forEachMn, if_pos ht, bind_ok_iff]
          exact ⟨_, if_neg hc, bind_ok_iff.2 ⟨_, hl, rfl⟩⟩
        · rw [movedContacts_cons_mn ht, if_neg hc]
          exact hnew
    · obtain ⟨l', s, new, hl, hnew, hrounds⟩ := ih h
      refine ⟨e :: l', s, new, ?_, ?_, hrounds⟩
      · rw [forEachMn, if_neg ht, bind_ok_iff]
        exact ⟨_, hl, rfl⟩
      · rw [movedContacts_cons_ne ht]
        exact hnew

end Rounds

/-! ### Forgetting the positions -/

/-- A loop whose bodies agree up to a projection of the threaded state. -/
theorem forEachMn_map {σ τ : Type} {f : σ → Addr → Act (Addr × σ)} {g : τ → Addr → Act (Addr × τ)}
    {π : σ → τ} (hfg : ∀ s c, g (π s) c = (f s c).map fun r => (r.1, π r.2)) (s : σ)
    (l : List SIPEntry) :
    forEachMn g (π s) l = (forEachMn f s l).map fun r => (r.1, π r.2) := by
  induction l generalizing s with
  | nil => rfl
  | cons e l ih =>
    by_cases ht : e.type = .sipMn
    · rw [forEachMn, forEachMn, if_pos ht, if_pos ht, hfg]
      cases f s e.con with
      | error err => rfl
      | ok r =>
        show (forEachMn g (π r.2) l >>= _) = (forEachMn f r.2 l >>= _).map _
        rw [ih]
        cases forEachMn f r.2 l <;> rfl
    · rw [forEachMn, forEachMn, if_neg ht, if_neg ht, ih]
      cases forEachMn f s l <;> rfl

theorem getMrHaEntryRoundRobin_eq_traced (l : List SIPEntry) (t : Trace) :
    getMrHaEntryRoundRobin l t.1 =
      (pickTraced (liveMrHa l) t).map fun r => (r.1, r.2.1) := by
  unfold getMrHaEntryRoundRobin pickTraced
  dsimp only
  cases remainder t.1.nextRound.1 (liveMrHa l).length with
  | error err => rfl
  | ok i =>
    show (index (liveMrHa l) i >>= _) = (index (liveMrHa l) i >>= _).map _
    cases index (liveMrHa l) i <;> rfl

theorem rehomeRoundRobin_eq_traced (caddr : Addr) (l : List SIPEntry) (t : Trace) :
    rehomeMnCoaEntryRoundRobin caddr l t.1 =
      (rehomeTraced caddr l t).map fun r => (r.1, r.2.1) := by
  refine forEachMn_map (π := Prod.fst) (fun t c => ?_) t l
  by_cases hc : c = caddr
  · by_cases hempty : (liveMrHa l).isEmpty = true
    · simp only [retargetTraced, hc, hempty, if_true]
      rfl
    · simp only [retargetTraced, pickTraced, hc, hempty, if_true, if_false, Bool.false_eq_true]
      cases remainder t.1.nextRound.1 (liveMrHa l).length with
      | error err => rfl
      | ok i =>
        show (index (liveMrHa l) i >>= _) = ((index (liveMrHa l) i >>= _) >>= _).map _
        cases index (liveMrHa l) i <;> rfl
  · rw [retargetTraced, if_neg hc, if_neg hc]
    rfl

/-! ### Runs -/

/-- The run so far has read consecutive positions of `mrHa`, and handed out their contacts. -/
structure Assigned (mrHa : List SIPEntry) (c : ℕ) (w : Traced) : Prop where
  live_eq : liveMrHa w.siplist = mrHa
  contacts : List.Forall₂ (ContactAt mrHa) w.chosen w.given
  rounds : Rounds mrHa.length c (w.sel, w.chosen)

/-- An edit keeps the live entries. -/
def RoundRobinOp.KeepsLive (mrHa : List SIPEntry) : RoundRobinOp → Prop
  | .edit l => liveMrHa l = mrHa
  | _ => True

theorem Assigned.step {mrHa : List SIPEntry} {c : ℕ} {w : Traced} {op : RoundRobinOp}
    (hne : mrHa ≠ []) (h : Assigned mrHa c w) (hop : op.KeepsLive mrHa) :
    ∃ w', tracedStep w op = .ok w' ∧
      roundRobinStep w.toAssigning op = .ok w'.toAssigning ∧ Assigned mrHa c w' := by
  cases op with
  | edit l => exact ⟨{ w with siplist := l }, rfl, rfl, hop, h.contacts, h.rounds⟩
  | choose =>
    obtain ⟨e, i, hpick, he, hrounds⟩ := pickTraced_spec hne h.rounds
    rw [← h.live_eq] at hpick
    refine ⟨_, bind_ok_iff.2 ⟨_, hpick, rfl⟩, ?_, h.live_eq, ?_, hrounds⟩
    · have hcode : getMrHaEntryRoundRobin w.siplist w.sel = .ok (e, w.sel.nextRound.2) :=
        (getMrHaEntryRoundRobin_eq_traced _ (w.sel, w.chosen)).trans
          (map_ok_iff.2 ⟨_, hpick, rfl⟩)
      exact bind_ok_iff.2 ⟨_, hcode, rfl⟩
    · exact List.rel_append h.contacts (.cons ⟨e, he, rfl⟩ .nil)
  | rehome caddr =>
    obtain ⟨l', s, new, hl, hnew, hrounds⟩ := rehomeLoop_spec hne caddr w.siplist h.rounds
    rw [← h.live_eq] at hl
    have hcode : rehomeMnCoaEntryRoundRobin caddr w.siplist w.sel = .ok (l', s) :=
      (rehomeRoundRobin_eq_traced caddr _ (w.sel, w.chosen)).trans (map_ok_iff.2 ⟨_, hl, rfl⟩)
    refine ⟨_, bind_ok_iff.2 ⟨_, hl, rfl⟩, bind_ok_iff.2 ⟨_, hcode, rfl⟩, ?_, ?_, hrounds⟩
    · exact (liveMrHa_of_recontacted (rehomeRoundRobin_spec hcode)).trans h.live_eq
    · exact List.rel_append h.contacts hnew

theorem Assigned.run {mrHa : List SIPEntry} {c : ℕ} {w : Traced} {ops : List RoundRobinOp}
    (hne : mrHa ≠ []) (h : Assigned mrHa c w) (hops : ∀ op ∈ ops, op.KeepsLive mrHa) :
    ∃ w', runSteps tracedStep w ops = .ok w' ∧
      runSteps roundRobinStep w.toAssigning ops = .ok w'.toAssigning ∧ Assigned mrHa c w' := by
  induction ops generalizing w with
  | nil => exact ⟨w, rfl, rfl, h⟩
  | cons op ops ih =>
    obtain ⟨w₁, htraced, hcode, h₁⟩ := h.step hne (hops op List.mem_cons_self)
    obtain ⟨w', htraced', hcode', h'⟩ := ih h₁ fun op hop => hops op (List.mem_cons_of_mem _ hop)
    exact ⟨w', runSteps_cons_ok.2 ⟨_, htraced, htraced'⟩,
      runSteps_cons_ok.2 ⟨_, hcode, hcode'⟩, h'⟩

/-! ### Counting -/

section Count

variable {k c n p : ℕ}

theorem count_map_range (f : ℕ → ℕ) (n p : ℕ) :
    ((List.range n).map f).count p = Nat.count (fun j => f j = p) n := by
  induction n with
  | zero => rfl
  | succ n ih =>
    rw [List.range_succ, List.map_append, List.count_append, ih, Nat.count_succ]
    simp [List.count_singleton]

/-- The positions of consecutive counters are those of consecutive numbers from some `v` on. -/
theorem exists_mod_eq_iff (hp : p < k) (c : ℕ) :
    ∃ v, ∀ j, (c + j) % k = p ↔ j ≡ v [MOD k] := by
  have hk : 0 < k := Nat.zero_lt_of_lt hp
  refine ⟨p + (k - c % k), fun j => ?_⟩
  have hv : c + (p + (k - c % k)) ≡ p [MOD k] := by
    have hc : c % k + (k - c % k) = k := Nat.add_sub_cancel' (Nat.mod_lt c hk).le
    have hsum : c + (p + (k - c % k)) = p + k * (c / k + 1) := by
      have hdiv := Nat.div_add_mod c k
      rw [Nat.mul_add, Nat.mul_one]
      omega
    rw [hsum]
    exact Nat.add_modulus_mul_modEq_iff.2 rfl
  constructor
  · intro hj
    have hjp : c + j ≡ p [MOD k] := hj.trans (Nat.mod_eq_of_lt hp).symm
    exact Nat.ModEq.add_left_cancel' c (hjp.trans hv.symm)
  · intro hj
    have hjp : c + j ≡ p [MOD k] := (hj.add_left c).trans hv
    exact Eq.trans hjp (Nat.mod_eq_of_lt hp)

/-- Consecutive counters fall on every position equally often, up to one. -/
theorem count_consecutive (hp : p < k) (c n : ℕ) :
    ((List.range n).map fun j => (c + j) % k).count p = n / k ∨
      ((List.range n).map fun j => (c + j) % k).count p = (n + k - 1) / k := by
  have hk : 0 < k := Nat.zero_lt_of_lt hp
  obtain ⟨v, hv⟩ := exists_mod_eq_iff hp c
  have hcount : ((List.range n).map fun j => (c + j) % k).count p =
      n / k + if v % k < n % k then 1 else 0 := by
    rw [count_map_range, ← Nat.count_modEq_card n hk v]
    simp only [hv]
  rw [hcount]
  split_ifs with hlt
  · right
    have hdiv := Nat.div_add_mod n k
    have hsum : n + k - 1 = k * (n / k + 1) + (n % k - 1) := by
      rw [Nat.mul_add, Nat.mul_one]
      omega
    have hsmall : (n % k - 1) / k = 0 := Nat.div_eq_of_lt (by have := Nat.mod_lt n hk; omega)
    rw [hsum, Nat.mul_add_div hk, hsmall, Nat.add_zero]
  · exact Or.inl (Nat.add_zero _)

end Count

/-- While the live entries stay the same and the counter does not reach `2 ^ 31`, registrations and
re-homings together choose every live entry equally often, up to one. -/
theorem roundRobin_fair (l : List SIPEntry) (s : Selector) (ops : List RoundRobinOp)
    (hlive : 1 ≤ (liveMrHa l).length) (hops : ∀ op ∈ ops, op.KeepsLive (liveMrHa l)) :
    ∃ w, runSteps tracedStep { siplist := l, sel := s } ops = .ok w ∧
      runSteps roundRobinStep { siplist := l, sel := s } ops = .ok w.toAssigning ∧
      List.Forall₂ (ContactAt (liveMrHa l)) w.chosen w.given ∧
      (s.roundCount + w.chosen.length < 2 ^ 31 → ∀ i < (liveMrHa l).length,
        w.chosen.count i = w.chosen.length / (liveMrHa l).length ∨
        w.chosen.count i =
          (w.chosen.length + (liveMrHa l).length - 1) / (liveMrHa l).length) := by
  have hstart : Assigned (liveMrHa l) s.roundCount { siplist := l, sel := s } :=
    ⟨rfl, .nil, fun _ => ⟨rfl, rfl⟩⟩
  obtain ⟨w, htraced, hcode, hw⟩ := hstart.run (List.length_pos_iff.1 hlive) hops
  refine ⟨w, htraced, hcode, hw.contacts, fun hlt i hi => ?_⟩
  obtain ⟨-, hchosen⟩ := hw.rounds hlt
  have hcount := count_consecutive hi s.roundCount w.chosen.length
  rwa [← hchosen] at hcount

/-- Two registrations around the re-homing of one node, over two live entries. -/
theorem roundRobin_fair_sample :
    ∃ w : Traced, w.chosen.length = 3 ∧
      (w.chosen.count 0 = 1 ∨ w.chosen.count 0 = 2) ∧
      (w.chosen.count 1 = 1 ∨ w.chosen.count 1 = 2) := by
  have hlive : (liveMrHa (sharedRouter 2).siplist).length = 2 := rfl
  obtain ⟨w, hrun, -, -, hfair⟩ := roundRobin_fair (sharedRouter 2).siplist {}
    [.choose, .rehome (str2addr 2 0 1), .choose] (by rw [hlive]; decide)
    (by simp [RoundRobinOp.KeepsLive])
  have hlength : w.chosen.length = 3 := by
    cases hrun
    rfl
  rw [hlive, hlength] at hfair
  exact ⟨w, hlength, hfair (by decide) 0 (by decide), hfair (by decide) 1 (by decide)⟩

end SipNemo.Sip
