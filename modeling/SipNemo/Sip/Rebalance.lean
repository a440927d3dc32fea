import SipNemo.Sip.Rehome
import SipNemo.Sip.RoundRobin

/-!
# How round robin spreads the nodes over three interfaces

When an interface comes up, `renew_mn_coa_entry_round_robin` gives its contact to some of the
nodes.  Its counters are not the numbers of nodes: the first node of either old contact is moved
and counted both as moved and as staying.  So the number that stay at an old contact is one less
than the counter says, and a comparison with `new_count` keeps either number at most that of the
nodes moved.
-/

namespace SipNemo.Sip

open FirstMatch Runs

/-- The number of mobile nodes at the contact `c`. -/
def nodesAt (c : Addr) (l : List SIPEntry) : ℕ := (mnContacts l).count c

/-- What the loop makes of the contacts, from the local state `v` on. -/
def renewContacts (x : Addr) : RenewState → List Addr → List Addr
  | _, [] => []
  | v, c :: cs =>
    (renewRoundRobinBody x v c).1 :: renewContacts x (renewRoundRobinBody x v c).2 cs

/-- The local state after the loop. -/
def renewState (x : Addr) : RenewState → List Addr → RenewState
  | v, [] => v
  | v, c :: cs => renewState x (renewRoundRobinBody x v c).2 cs

theorem mnContacts_renewLoop {x : Addr} {v v' : RenewState} {l l' : List SIPEntry}
    (h : renewLoop x v l = .ok (l', v')) :
    mnContacts l' = renewContacts x v (mnContacts l) := by
  induction l generalizing v l' with
  | nil =>
    cases h
    rfl
  | cons e l ih =>
    by_cases ht : e.type = .sipMn
    · obtain ⟨l₁, hl, rfl⟩ := renewLoop_cons_mn h ht
      have ht' : (e.setCon (renewRoundRobinBody x v e.con).1).type = .sipMn := ht
      rw [mnContacts_cons_mn ht', mnContacts_cons_mn ht, renewContacts, ih hl,
        SIPEntry.setCon_con]
    · obtain ⟨l₁, hl, rfl⟩ := renewLoop_cons_ne h ht
      rw [mnContacts_cons_ne ht, mnContacts_cons_ne ht, ih hl]

/-! ### The counters -/

section Counters

variable {a b c x : Addr} {v : RenewState} {p q r : ℕ} {cs : List Addr}

/-- After the first node, at `a`: `p` nodes have moved, `q` stayed at `a` and `r` at `b`.  As long
as none was at `b`, moving and staying alternate. -/
structure Spread (a b : Addr) (v : RenewState) (p q r : ℕ) : Prop where
  started : v.i ≠ 0
  total : p + q + r = v.i
  old1 : v.old1Addr = a
  moved : v.newCount = p
  stayed : v.old1Count = q + 1
  second : (v.old2Addr = 0 ∧ v.old2Count = 0 ∧ r = 0 ∧ p ≤ q + 1) ∨
    (v.old2Addr = b ∧ v.old2Count = r + 1)
  first_le : q ≤ p
  second_le : r ≤ p
  le_max : p ≤ max q r + 2

theorem Spread.first (a b x : Addr) : Spread a b (renewRoundRobinBody x {} a).2 1 0 0 where
  started := Nat.one_ne_zero
  total := rfl
  old1 := rfl
  moved := rfl
  stayed := rfl
  second := Or.inl ⟨rfl, rfl, rfl, le_refl _⟩
  first_le := Nat.zero_le _
  second_le := Nat.zero_le _
  le_max := by omega

/-- A node at `a` moves or stays. -/
theorem Spread.at_first (h : Spread a b v p q r) :
    ((renewRoundRobinBody x v a).1 = x ∧ Spread a b (renewRoundRobinBody x v a).2 (p + 1) q r) ∨
    ((renewRoundRobinBody x v a).1 = a ∧ Spread a b (renewRoundRobinBody x v a).2 p (q + 1) r) := by
  obtain ⟨hi, htotal, hold, hnew, hcount, hsecond, hq, hr, hmax⟩ := h
  have hat : ¬ a ≠ v.old1Addr := not_not.2 hold.symm
  by_cases hle : v.old1Count ≤ v.newCount
  · rw [renewRoundRobinBody, if_neg hi, if_neg hat, if_pos hle]
    refine Or.inr ⟨rfl, ⟨Nat.succ_ne_zero _, ?_, hold, hnew, ?_, ?_, ?_, hr, ?_⟩⟩
    · show _ = v.i + 1
      omega
    · show v.old1Count + 1 = _
      omega
    · rcases hsecond with ⟨h0, h1, h2, h3⟩ | hb
      · exact Or.inl ⟨h0, h1, h2, by omega⟩
      · exact Or.inr hb
    · omega
    · omega
  · rw [renewRoundRobinBody, if_neg hi, if_neg hat, if_neg hle]
    refine Or.inl ⟨rfl, ⟨Nat.succ_ne_zero _, ?_, hold, ?_, hcount, ?_, ?_, ?_, ?_⟩⟩
    · show _ = v.i + 1
      omega
    · show v.newCount + 1 = _
      omega
    · rcases hsecond with ⟨h0, h1, h2, h3⟩ | hb
      · exact Or.inl ⟨h0, h1, h2, by omega⟩
      · exact Or.inr hb
    · omega
    · omega
    · omega

/-- A node at `b` moves or stays; the first one moves. -/
theorem Spread.at_second (hab : a ≠ b) (hb : b ≠ 0) (h : Spread a b v p q r) :
    ((renewRoundRobinBody x v b).1 = x ∧ Spread a b (renewRoundRobinBody x v b).2 (p + 1) q r) ∨
    ((renewRoundRobinBody x v b).1 = b ∧ Spread a b (renewRoundRobinBody x v b).2 p q (r + 1)) := by
  obtain ⟨hi, htotal, hold, hnew, hcount, hsecond, hq, hr, hmax⟩ := h
  have hat : b ≠ v.old1Addr := hold ▸ hab.symm
  rcases hsecond with ⟨h0, h1, h2, h3⟩ | ⟨h0, h1⟩
  · rw [renewRoundRobinBody, if_neg hi, if_pos hat, if_pos h0]
    refine Or.inl ⟨rfl, ⟨Nat.succ_ne_zero _, ?_, hold, ?_, hcount, Or.inr ⟨rfl, ?_⟩, ?_, ?_, ?_⟩⟩
    · show _ = v.i + 1
      omega
    · show v.newCount + 1 = _
      omega
    · show v.old2Count + 1 = _
      omega
    · omega
    · omega
    · omega
  · have hne : v.old2Addr ≠ 0 := h0 ▸ hb
    by_cases hle : v.old2Count ≤ v.newCount
    · rw [renewRoundRobinBody, if_neg hi, if_pos hat, if_neg hne, if_pos hle]
      refine Or.inr ⟨rfl, ⟨Nat.succ_ne_zero _, ?_, hold, hnew, hcount, Or.inr ⟨h0, ?_⟩, hq, ?_, ?_⟩⟩
      · show _ = v.i + 1
        omega
      · show v.old2Count + 1 = _
        omega
      · omega
      · omega
    · rw [renewRoundRobinBody, if_neg hi, if_pos hat, if_neg hne, if_neg hle]
      refine Or.inl ⟨rfl, ⟨Nat.succ_ne_zero _, ?_, hold, ?_, hcount, Or.inr ⟨h0, h1⟩, ?_, ?_, ?_⟩⟩
      · show _ = v.i + 1
        omega
      · show v.newCount + 1 = _
        omega
      · omega
      · omega
      · omega

/-- The counts after the loop. -/
theorem Spread.run (hab : a ≠ b) (hb : b ≠ 0) (hax : a ≠ x) (hbx : b ≠ x)
    (hcs : ∀ c ∈ cs, c = a ∨ c = b) (h : Spread a b v p q r) :
    Spread a b (renewState x v cs) (p + (renewContacts x v cs).count x)
      (q + (renewContacts x v cs).count a) (r + (renewContacts x v cs).count b) := by
  induction cs generalizing v p q r with
  | nil => exact h
  | cons c cs ih =>
    have hrest : ∀ c ∈ cs, c = a ∨ c = b := fun c hc => hcs c (List.mem_cons_of_mem _ hc)
    rw [renewContacts, renewState]
    rcases hcs c List.mem_cons_self with rfl | rfl
    · rcases h.at_first (x := x) with ⟨hto, h'⟩ | ⟨hto, h'⟩
      · have hrun := ih hrest h'
        rw [hto, List.count_cons_self, List.count_cons_of_ne hax.symm,
          List.count_cons_of_ne hbx.symm]
        rwa [Nat.add_right_comm, Nat.add_assoc p] at hrun
      · have hrun := ih hrest h'
        rw [hto, List.count_cons_self, List.count_cons_of_ne hax, List.count_cons_of_ne hab]
        rwa [Nat.add_right_comm q, Nat.add_assoc q] at hrun
    · rcases h.at_second (x := x) hab hb with ⟨hto, h'⟩ | ⟨hto, h'⟩
      · have hrun := ih hrest h'
        rw [hto, List.count_cons_self, List.count_cons_of_ne hax.symm,
          List.count_cons_of_ne hbx.symm]
        rwa [Nat.add_right_comm, Nat.add_assoc p] at hrun
      · have hrun := ih hrest h'
        rw [hto, List.count_cons_self, List.count_cons_of_ne hbx, List.count_cons_of_ne hab.symm]
        rwa [Nat.add_right_comm r, Nat.add_assoc r] at hrun

/-- The whole loop, when the first node is at `a`. -/
theorem spread_renewContacts (hab : a ≠ b) (hb : b ≠ 0) (hax : a ≠ x) (hbx : b ≠ x)
    (hcs : ∀ c ∈ cs, c = a ∨ c = b) :
    Spread a b (renewState x {} (a :: cs)) ((renewContacts x {} (a :: cs)).count x)
      ((renewContacts x {} (a :: cs)).count a) ((renewContacts x {} (a :: cs)).count b) := by
  have hrun := (Spread.first a b x).run hab hb hax hbx hcs
  have hmove : (renewRoundRobinBody x {} a).1 = x := rfl
  rw [renewContacts, hmove, List.count_cons_self, List.count_cons_of_ne hax.symm,
    List.count_cons_of_ne hbx.symm]
  rwa [Nat.add_comm, Nat.zero_add, Nat.zero_add] at hrun

theorem renewState_i (x : Addr) (v : RenewState) (cs : List Addr) :
    (renewState x v cs).i = v.i + cs.length := by
  induction cs generalizing v with
  | nil => rfl
  | cons c cs ih =>
    have hbody : (renewRoundRobinBody x v c).2.i = v.i + 1 := by
      unfold renewRoundRobinBody
      split_ifs <;> rfl
    rw [renewState, ih, hbody, List.length_cons, Nat.add_assoc, Nat.add_comm 1]

/-- A second contact is recorded only when a node is at one. -/
theorem renewState_old2Addr (hi : v.i ≠ 0) (hold : v.old1Addr = a) (hcs : ∀ c ∈ cs, c = a) :
    (renewState x v cs).old2Addr = v.old2Addr := by
  induction cs generalizing v with
  | nil => rfl
  | cons c cs ih =>
    obtain rfl : c = a := hcs c List.mem_cons_self
    have hbody : (renewRoundRobinBody x v c).2.i ≠ 0 ∧
        (renewRoundRobinBody x v c).2.old1Addr = c ∧
        (renewRoundRobinBody x v c).2.old2Addr = v.old2Addr := by
      unfold renewRoundRobinBody
      split_ifs <;> simp_all
    rw [renewState, ih hbody.1 hbody.2.1 fun c hc => hcs c (List.mem_cons_of_mem _ hc)]
    exact hbody.2.2

/-- When all nodes are at `a`, every other one moves. -/
theorem count_renewContacts_of_all (hab : a ≠ b) (hb : b ≠ 0) (hax : a ≠ x) (hbx : b ≠ x)
    (hcs : ∀ c ∈ cs, c = a) :
    (renewContacts x {} (a :: cs)).count x = ((a :: cs).length + 1) / 2 := by
  have hspread := spread_renewContacts hab hb hax hbx fun c hc => Or.inl (hcs c hc)
  have htotal := hspread.total
  have hlength : (renewState x {} (a :: cs)).i = (a :: cs).length := by
    rw [renewState_i]
    exact Nat.zero_add _
  have hold2 : (renewState x {} (a :: cs)).old2Addr = 0 :=
    renewState_old2Addr (v := (renewRoundRobinBody x {} a).2) Nat.one_ne_zero rfl hcs
  have hle := hspread.first_le
  rcases hspread.second with ⟨-, -, hnone, hone⟩ | ⟨hrec, -⟩
  · omega
  · exact absurd (hrec.symm.trans hold2) hb

end Counters

/-! ### The balance -/

/-- The `x` nodes at the new contact and those that stay at two old ones are balanced. -/
structure Balanced (x y z : ℕ) : Prop where
  first_le : y ≤ x
  second_le : z ≤ x
  le_max : x ≤ max y z + 2

theorem Spread.balanced {a b : Addr} {v : RenewState} {p q r : ℕ} (h : Spread a b v p q r) :
    Balanced p q r := ⟨h.first_le, h.second_le, h.le_max⟩

theorem Balanced.symm {x y z : ℕ} (h : Balanced x y z) : Balanced x z y :=
  ⟨h.second_le, h.first_le, max_comm y z ▸ h.le_max⟩

theorem renewRoundRobin_returns (x : Addr) (l : List SIPEntry) :
    ∃ l' v', renewLoop x {} l = .ok (l', v') ∧ renewMnCoaEntryRoundRobin x l = .ok l' := by
  obtain ⟨⟨l', v'⟩, hl⟩ := forEachMn_returns
    (f := fun v c => .ok (renewRoundRobinBody x v c)) (fun _ _ => ⟨_, rfl⟩) {} l
  exact ⟨l', v', hl, map_ok_iff.2 ⟨_, hl, rfl⟩⟩

/-- When the mobile nodes are at two contacts at most, `renew_mn_coa_entry_round_robin` leaves
each where it is or gives it the new one, and spreads them evenly. -/
theorem renewRoundRobin_balanced {l : List SIPEntry} {a b caddr : Addr} (hn : 1 ≤ mnCount l)
    (ha : a ≠ 0) (hb : b ≠ 0) (hab : a ≠ b) (hac : a ≠ caddr) (hbc : b ≠ caddr)
    (hcon : ∀ c ∈ mnContacts l, c = a ∨ c = b) :
    ∃ l', renewMnCoaEntryRoundRobin caddr l = .ok l' ∧
      List.Forall₂ (Recontacted fun c c' => c' = caddr ∨ c' = c) l l' ∧
      Balanced (nodesAt caddr l') (nodesAt a l') (nodesAt b l') ∧
      ((∃ d, ∀ c ∈ mnContacts l, c = d) → nodesAt caddr l' = (mnCount l + 1) / 2) := by
  obtain ⟨l', v', hloop, hrun⟩ := renewRoundRobin_returns caddr l
  refine ⟨l', hrun, ?_, ?_⟩
  · refine forEachMn_spec ?_ hloop
    intro v c c' v₁ hc
    have hc' : (renewRoundRobinBody caddr v c).1 = c' := congrArg Prod.fst (Except.ok.inj hc)
    exact hc' ▸ renewRoundRobinBody_fst caddr v c
  · have hcount : mnCount l = (mnContacts l).length := by
      rw [mnCount, mnContacts, List.length_map]
    simp only [nodesAt, mnContacts_renewLoop hloop]
    rw [hcount] at hn ⊢
    cases hcs : mnContacts l with
    | nil => simp [hcs] at hn
    | cons d cs =>
      rw [hcs] at hcon
      have hrest : ∀ c ∈ cs, c = a ∨ c = b := fun c hc => hcon c (List.mem_cons_of_mem _ hc)
      have hall : (∃ d', ∀ c ∈ d :: cs, c = d') → ∀ c ∈ cs, c = d := by
        rintro ⟨d', hd'⟩ c hc
        rw [hd' c (List.mem_cons_of_mem _ hc), hd' d List.mem_cons_self]
      -- the first node is at one of the two, whichever it is
      rcases hcon d List.mem_cons_self with rfl | rfl
      · exact ⟨(spread_renewContacts hab hb hac hbc hrest).balanced,
          fun h => count_renewContacts_of_all hab hb hac hbc (hall h)⟩
      · have hspread := spread_renewContacts hab.symm ha hbc hac fun c hc => (hrest c hc).symm
        exact ⟨hspread.balanced.symm,
          fun h => count_renewContacts_of_all hab.symm ha hbc hac (hall h)⟩

/-- The two nodes of `sharedRouter`, when a third interface comes up. -/
theorem renewRoundRobin_balanced_sample :
    ∃ l', renewMnCoaEntryRoundRobin (str2addr 4 0 1) (sharedRouter 2).siplist = .ok l' ∧
      List.Forall₂ (Recontacted fun c c' => c' = str2addr 4 0 1 ∨ c' = c)
        (sharedRouter 2).siplist l' ∧
      Balanced (nodesAt (str2addr 4 0 1) l') (nodesAt (str2addr 2 0 1) l')
        (nodesAt (str2addr 3 0 1) l') ∧
      ((∃ d, ∀ c ∈ mnContacts (sharedRouter 2).siplist, c = d) →
        nodesAt (str2addr 4 0 1) l' = (mnCount (sharedRouter 2).siplist + 1) / 2) := by
  have hcon : mnContacts (sharedRouter 2).siplist = [str2addr 2 0 1, str2addr 3 0 1] := rfl
  refine renewRoundRobin_balanced ?_ (by decide) (by decide) (by decide) (by decide) (by decide) ?_
  · decide
  · rw [hcon]
    simp

end SipNemo.Sip
