import SipNemo.Sip.Agent

/-!
# Interface selection

A mobile router spreads its mobile nodes over the external interfaces that are up, by one of
four policies (`select_` 1 to 4: random, round robin, weight, weight 2).  Each policy has three
operations, all over the same list:

* `get_mr_ha_entry_*` chooses the interface of a node that registers;
* `rehome_mn_coa_entry_*` gives every node at the contact of a broken interface a new one;
* `renew_mn_coa_entry_*` gives some nodes the contact of an interface that has come up.

The last two are loops over the `SIP_MN` entries, `forEachMn`, which rewrite contacts and
nothing else.
-/

namespace SipNemo.Sip

open FirstMatch Runs

/-- Run `f` over the contacts of the `SIP_MN` entries in list order, threading a state, and write
back what it returns. -/
def forEachMn {σ : Type} (f : σ → Addr → Act (Addr × σ)) :
    σ → List SIPEntry → Act (List SIPEntry × σ)
  | s, [] => .ok ([], s)
  | s, e :: l =>
    if e.type = .sipMn then do
      let (c, s) ← f s e.con
      let (l, s) ← forEachMn f s l
      pure (e.setCon c :: l, s)
    else do
      let (l, s) ← forEachMn f s l
      pure (e :: l, s)

/-- `Random::random()`. -/
def Selector.random (s : Selector) : ℕ × Selector :=
  (s.draws 0, { s with draws := fun k => s.draws (k + 1) })

/-- `round_count++`, converted to `size_t`: a negative count is sign extended. -/
def Selector.nextRound (s : Selector) : ℕ × Selector :=
  (if s.roundCount < 2 ^ 31 then s.roundCount else s.roundCount + (2 ^ 64 - 2 ^ 32),
    { s with roundCount := (s.roundCount + 1) % 2 ^ 32 })

/-! ### Choosing an interface for one node -/

/-- `get_mr_ha_entry_random`. -/
def getMrHaEntryRandom (l : List SIPEntry) (s : Selector) : Act (SIPEntry × Selector) := do
  let mrHa := liveMrHa l
  let (r, s) := s.random
  let i ← remainder r mrHa.length
  let e ← index mrHa i
  pure (e, s)

/-- `get_mr_ha_entry_round_robin`. -/
def getMrHaEntryRoundRobin (l : List SIPEntry) (s : Selector) : Act (SIPEntry × Selector) := do
  let mrHa := liveMrHa l
  let (r, s) := s.nextRound
  let i ← remainder r mrHa.length
  let e ← index mrHa i
  pure (e, s)

/-- `get_mr_ha_entry_weight`: the second live entry, or the only one. -/
def getMrHaEntryWeight (l : List SIPEntry) (s : Selector) : Act (SIPEntry × Selector) := do
  let mrHa := liveMrHa l
  let e ← index mrHa (if mrHa.length = 1 then 0 else 1)
  pure (e, s)

/-- `get_mr_ha_entry_weight_2`: the first live entry once, then the second. -/
def getMrHaEntryWeight2 (l : List SIPEntry) (s : Selector) : Act (SIPEntry × Selector) := do
  let mrHa := liveMrHa l
  if mrHa.length = 1 then
    let e ← index mrHa 0
    pure (e, s)
  else if s.weightCount = 0 then
    let e ← index mrHa 0
    pure (e, { s with weightCount := s.weightCount + 1 })
  else
    let e ← index mrHa 1
    pure (e, s)

/-- The choice `recv` makes for a REGISTER: by policy, and without one by the prefix of the
node, which may find nothing. -/
def chooseMrHa (select : ℤ) (l : List SIPEntry) (s : Selector) (pre : Addr) :
    Act (Option SIPEntry × Selector) :=
  if select = 1 then (getMrHaEntryRandom l s).map fun r => (some r.1, r.2)
  else if select = 2 then (getMrHaEntryRoundRobin l s).map fun r => (some r.1, r.2)
  else if select = 3 then (getMrHaEntryWeight l s).map fun r => (some r.1, r.2)
  else if select = 4 then (getMrHaEntryWeight2 l s).map fun r => (some r.1, r.2)
  else .ok (getMrHaEntryByPrefix l pre, s)

/-! ### Re-homing the nodes of a broken interface -/

/-- The loop of `rehome_mn_coa_entry_*`: every node at `caddr` gets the contact `pick` gives. -/
def rehomeMn (caddr : Addr) (pick : Selector → Act (Addr × Selector)) (l : List SIPEntry)
    (s : Selector) : Act (List SIPEntry × Selector) :=
  forEachMn (fun s c => if c = caddr then pick s else .ok (c, s)) s l

/-- `rehome_mn_coa_entry_random`. -/
def rehomeMnCoaEntryRandom (caddr : Addr) (l : List SIPEntry) (s : Selector) :
    Act (List SIPEntry × Selector) :=
  let mrHa := liveMrHa l
  rehomeMn caddr (fun s =>
    if mrHa.isEmpty then .ok (noAddr, s)
    else do
      let (r, s) := s.random
      let i ← remainder r mrHa.length
      let e ← index mrHa i
      pure (e.con, s)) l s

/-- `rehome_mn_coa_entry_round_robin`. -/
def rehomeMnCoaEntryRoundRobin (caddr : Addr) (l : List SIPEntry) (s : Selector) :
    Act (List SIPEntry × Selector) :=
  let mrHa := liveMrHa l
  rehomeMn caddr (fun s =>
    if mrHa.isEmpty then .ok (noAddr, s)
    else do
      let (r, s) := s.nextRound
      let i ← remainder r mrHa.length
      let e ← index mrHa i
      pure (e.con, s)) l s

/-- `rehome_mn_coa_entry_weight`. -/
def rehomeMnCoaEntryWeight (caddr : Addr) (l : List SIPEntry) (s : Selector) :
    Act (List SIPEntry × Selector) :=
  let mrHa := liveMrHa l
  rehomeMn caddr (fun s =>
    if mrHa.isEmpty then .ok (noAddr, s)
    else do
      let e ← index mrHa 0
      pure (e.con, s)) l s

/-- `rehome_mn_coa_entry_weight_2`: the first node moved goes to the second live entry. -/
def rehomeMnCoaEntryWeight2 (caddr : Addr) (l : List SIPEntry) (s : Selector) :
    Act (List SIPEntry × Selector) :=
  let mrHa := liveMrHa l
  rehomeMn caddr (fun s =>
    if mrHa.isEmpty then .ok (noAddr, { s with weightCount2 := s.weightCount2 + 1 })
    else do
      let e ← index mrHa (if s.weightCount2 = 0 then 1 else 0)
      pure (e.con, { s with weightCount2 := s.weightCount2 + 1 })) l s

/-! ### Moving nodes to an interface that has come up -/

/-- The number of `SIP_MN` entries, `mn.size()`. -/
def mnCount (l : List SIPEntry) : ℕ := (mobileNodes l).length

/-- `mn[k]->con() = caddr`. -/
def setNthMn (caddr : Addr) (k : ℕ) (l : List SIPEntry) : Act (List SIPEntry) :=
  (forEachMn (fun i c => .ok (if i = k then caddr else c, i + 1)) 0 l).map (·.1)

/-- `j` rounds of `mn[Random::random() % mn.size()]->con() = caddr`. -/
def renewRandomLoop (caddr : Addr) : ℕ → List SIPEntry → Selector → Act (List SIPEntry × Selector)
  | 0, l, s => .ok (l, s)
  | j + 1, l, s => do
    let (r, s) := s.random
    let k ← remainder r (mnCount l)
    let l ← setNthMn caddr k l
    renewRandomLoop caddr j l s

/-- `renew_mn_coa_entry_random`. -/
def renewMnCoaEntryRandom (caddr : Addr) (l : List SIPEntry) (s : Selector) :
    Act (List SIPEntry × Selector) :=
  if mnCount l = 0 then .ok (l, s)
  else do
    let (r, s) := s.random
    let j ← remainder r (mnCount l)
    renewRandomLoop caddr j l s

/-- The local variables of `renew_mn_coa_entry_round_robin`. -/
structure RenewState where
  i : ℕ := 0
  newCount : ℕ := 0
  old1Addr : Addr := 0
  old2Addr : Addr := 0
  old1Count : ℕ := 0
  old2Count : ℕ := 0

/-- The body of the loop of `renew_mn_coa_entry_round_robin`, on the contact of `mn[i]`. -/
def renewRoundRobinBody (caddr : Addr) (v : RenewState) (con : Addr) : Addr × RenewState :=
  if v.i = 0 then
    (caddr, { v with i := v.i + 1, old1Addr := con, old1Count := v.old1Count + 1,
                     newCount := v.newCount + 1 })
  else if con ≠ v.old1Addr then
    if v.old2Addr = 0 then
      (caddr, { v with i := v.i + 1, old2Addr := con, old2Count := v.old2Count + 1,
                       newCount := v.newCount + 1 })
    else if v.old2Count ≤ v.newCount then
      (con, { v with i := v.i + 1, old2Count := v.old2Count + 1 })
    else
      (caddr, { v with i := v.i + 1, newCount := v.newCount + 1 })
  else if v.old1Count ≤ v.newCount then
    (con, { v with i := v.i + 1, old1Count := v.old1Count + 1 })
  else
    (caddr, { v with i := v.i + 1, newCount := v.newCount + 1 })

/-- `renew_mn_coa_entry_round_robin`. -/
def renewMnCoaEntryRoundRobin (caddr : Addr) (l : List SIPEntry) : Act (List SIPEntry) :=
  (forEachMn (fun v c => .ok (renewRoundRobinBody caddr v c)) ({} : RenewState) l).map (·.1)

/-- `renew_mn_coa_entry_weight`: every node moves. -/
def renewMnCoaEntryWeight (caddr : Addr) (l : List SIPEntry) : Act (List SIPEntry) :=
  (forEachMn (fun _ _ => .ok (caddr, ())) () l).map (·.1)

/-- `renew_mn_coa_entry_weight_2`: every node but the third moves. -/
def renewMnCoaEntryWeight2 (caddr : Addr) (l : List SIPEntry) : Act (List SIPEntry) :=
  (forEachMn (fun i c => .ok (if i = 2 then c else caddr, i + 1)) 0 l).map (·.1)

end SipNemo.Sip
