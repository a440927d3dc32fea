import SipNemo.Net.TimerHandler

/-!
# Flow requests

A client asks a correspondent to redirect flows to another interface.  It repeats the request until
a response arrives: each response stops the timer, and one with the current number redirects the
accepted flows and advances the number.  The flows of a request are objects that client and server
share.

A response does not say which request it answers, and stops the timer even if its number is not the
current one.  The timer runs while the latest request is not answered, and the other responses do
nothing, exactly when none of them arrives in that time.

Requests and responses may be lost, repeated, delayed and reordered: a packet that was sent may
arrive at any time, any number of times.
-/

namespace SipNemo.Mip6

open RequestTable Runs

/-- An agent, as a pointer. -/
abbrev AgentId := ℕ

/-- A flow, as a pointer. -/
abbrev FlowId := ℕ

/-- `FlowEntry`, less its priority. -/
structure FlowEntry where
  localAgent : AgentId
  remote : AgentId
  minBw : ℚ
  iface : NodeId
  redirect : Bool := false
  tmpIface : NodeId

/-- `hdr_freq` or `hdr_fres`, with the addresses of the packet; `request` tells which call of
`send_flow_request` from outside it goes back to. -/
structure FlowPacket where
  request : ℕ
  seqNumber : BitVec 32
  flowInfo : List FlowId
  saddr : Addr
  daddr : Addr

/-- `FlowRequestTimer`, with the request it repeats. -/
structure FlowRequestTimer where
  status : TimerStatus := .idle
  request : ℕ := 0
  flows : List FlowId := []
  iface : NodeId := 0
  destination : Addr := noAddr

/-- A client and a server, the flows and the packets sent so far; `outstanding` tells that the
latest request has not been answered. -/
structure FlowNet where
  address : NodeId → Addr
  flows : FlowId → FlowEntry
  seqNumber : BitVec 32 := 0
  timer : FlowRequestTimer := {}
  listNodes : List (ℚ × NodeId) := []
  nbAccepted : ℤ := 0
  nbRefused : ℤ := 0
  targets : AgentId → Option NodeId := fun _ => none
  updates : List (AgentId × NodeId) := []
  requests : List FlowPacket := []
  responses : List FlowPacket := []
  nextRequest : ℕ := 0
  outstanding : Bool := false

namespace FlowNet

/-! ### The operations -/

section Operations

variable (s : FlowNet)

/-- `send_flow_request`. -/
def sendFlowRequest (request : ℕ) (flows : List FlowId) (iface : NodeId) (destination : Addr) :
    FlowNet :=
  { s with
    requests := s.requests ++ [⟨request, s.seqNumber, flows, s.address iface, destination⟩]
    timer := ⟨.pending, request, flows, iface, destination⟩ }

/-- The server accepts a flow. -/
def acceptFlow (f : FlowId) : FlowNet :=
  { s with
    flows := Function.update s.flows f { s.flows f with redirect := true }
    listNodes := s.listNodes ++ [((s.flows f).minBw, (s.flows f).tmpIface)]
    nbAccepted := s.nbAccepted + 1 }

/-- The server refuses a flow. -/
def refuseFlow (f : FlowId) : FlowNet :=
  { s with
    flows := Function.update s.flows f { s.flows f with redirect := false }
    nbRefused := s.nbRefused + 1 }

/-- `recv_flow_request`; `bssId` is that of the interface of the first flow. -/
def recvFlowRequest (p : FlowPacket) (bssId : ℤ) : Act FlowNet := do
  let _ ← index p.flowInfo 0
  let s := if bssId ≠ 8 then p.flowInfo.foldl acceptFlow s else p.flowInfo.foldl refuseFlow s
  pure { s with responses := s.responses ++ [{ p with saddr := p.daddr, daddr := p.saddr }] }

/-- The client redirects a flow that was accepted. -/
def redirectFlow (f : FlowId) : FlowNet :=
  let e := s.flows f
  if e.redirect then
    { s with
      targets := Function.update s.targets e.localAgent (some e.tmpIface)
      updates := s.updates ++ [(e.remote, e.tmpIface)]
      flows := Function.update s.flows f { e with iface := e.tmpIface } }
  else s

/-- `recv_flow_response`. -/
def recvFlowResponse (p : FlowPacket) : Act FlowNet := do
  let status ← TimerHandler.stop s.timer.status
  let s := { s with timer := { s.timer with status := status } }
  if s.seqNumber = p.seqNumber then
    let s := p.flowInfo.foldl redirectFlow s
    pure { s with seqNumber := s.seqNumber + 1 }
  else pure s

/-- The client sends a request, the timer is up, a request arrives at the server or a response at
the client, or the handover module changes a flow. -/
inductive Input
  | send (flows : List FlowId) (iface : NodeId) (destination : Addr)
  | expire
  | serve (k : ℕ) (bssId : ℤ)
  | deliver (k : ℕ)
  | setFlow (f : FlowId) (e : FlowEntry)

def step : Input → Act FlowNet
  | .send flows iface destination =>
    pure { s.sendFlowRequest s.nextRequest flows iface destination with
      nextRequest := s.nextRequest + 1
      outstanding := true }
  | .expire => do
    let status ← TimerHandler.handle s.timer.status
    let t := s.timer
    let s := { s with timer := { t with status := status } }
    let s := s.sendFlowRequest t.request t.flows t.iface t.destination
    pure { s with timer := { s.timer with status := TimerHandler.finish s.timer.status } }
  | .serve k bssId => do
    let p ← index s.requests k
    s.recvFlowRequest p bssId
  | .deliver k => do
    let p ← index s.responses k
    let s ← s.recvFlowResponse p
    pure { s with outstanding := s.outstanding && p.request + 1 ≠ s.nextRequest }
  | .setFlow f e => pure { s with flows := Function.update s.flows f e }

end Operations

/-! ### The property and the condition -/

section Statement

variable (s : FlowNet)

/-- While the latest request is not answered its timer is running. -/
def Supervised : Prop := s.outstanding = true → s.timer.status = .pending

instance : Decidable s.Supervised := inferInstanceAs (Decidable (_ → _))

/-- The response is to an earlier request than the latest one. -/
def Earlier (p : FlowPacket) : Prop := p.request + 1 < s.nextRequest

instance (p : FlowPacket) : Decidable (s.Earlier p) := inferInstanceAs (Decidable (_ < _))

/-- A response with another number or to an earlier request changes no flow and leaves the timer
running. -/
def Harmless (i : Input) : Prop :=
  ∀ k p s', i = .deliver k → s.responses[k]? = some p →
    (p.seqNumber ≠ s.seqNumber ∨ s.Earlier p) → s.step i = .ok s' →
      s'.flows = s.flows ∧ s'.targets = s.targets ∧ s'.updates = s.updates ∧
        (s.timer.status = .pending → s'.timer.status = .pending)

/-- While the latest request is not answered, no response to an earlier one arrives; afterwards none
that has the current number again and an accepted flow. -/
def InOrder : Input → Prop
  | .deliver k => ∀ p ∈ s.responses[k]?, s.Earlier p →
      s.outstanding = false ∧
        (p.seqNumber = s.seqNumber → ∀ f ∈ p.flowInfo, (s.flows f).redirect = false)
  | _ => True

instance (i : Input) : Decidable (s.InOrder i) :=
  match i with
  | .deliver k => inferInstanceAs (Decidable (∀ p ∈ s.responses[k]?, s.Earlier p → _))
  | .send _ _ _ => isTrue trivial
  | .expire => isTrue trivial
  | .serve _ _ => isTrue trivial
  | .setFlow _ _ => isTrue trivial

end Statement

variable {s s' : FlowNet} {i : Input} {p : FlowPacket}

/-! ### What the loops over the flows leave alone -/

/-- The state but for the flows and what was done to them. -/
def core (s : FlowNet) :
    BitVec 32 × FlowRequestTimer × List FlowPacket × List FlowPacket × ℕ × Bool :=
  (s.seqNumber, s.timer, s.requests, s.responses, s.nextRequest, s.outstanding)

theorem core_foldl (op : FlowNet → FlowId → FlowNet) (hop : ∀ s f, core (op s f) = core s)
    (l : List FlowId) (s : FlowNet) : core (l.foldl op s) = core s := by
  induction l generalizing s with
  | nil => rfl
  | cons f l ih => rw [List.foldl_cons, ih, hop]

theorem core_redirectFlow (s : FlowNet) (f : FlowId) : core (s.redirectFlow f) = core s := by
  unfold redirectFlow
  dsimp only
  split_ifs <;> rfl

theorem foldl_redirectFlow_of_refused {l : List FlowId}
    (h : ∀ f ∈ l, (s.flows f).redirect = false) : l.foldl redirectFlow s = s := by
  induction l with
  | nil => rfl
  | cons f l ih =>
    have hf : s.redirectFlow f = s := if_neg (by simp [h f List.mem_cons_self])
    rw [List.foldl_cons, hf]
    exact ih fun g hg => h g (List.mem_cons_of_mem _ hg)

/-- Redirecting a flow changes its interface only. -/
theorem redirect_redirectFlow (s : FlowNet) (f g : FlowId) :
    ((s.redirectFlow f).flows g).redirect = (s.flows g).redirect := by
  unfold redirectFlow
  dsimp only
  split_ifs
  · by_cases hg : g = f
    · subst hg
      simp
    · simp [hg]
  · rfl

/-- One message is sent for each accepted flow. -/
theorem length_updates_foldl (l : List FlowId) (s : FlowNet) :
    (l.foldl redirectFlow s).updates.length =
      s.updates.length + l.countP fun f => (s.flows f).redirect := by
  induction l generalizing s with
  | nil => rfl
  | cons f l ih =>
    have hcount : (l.countP fun g => ((s.redirectFlow f).flows g).redirect) =
        l.countP fun g => (s.flows g).redirect := by
      simp only [redirect_redirectFlow]
    have hupdates : (s.redirectFlow f).updates.length =
        s.updates.length + if (s.flows f).redirect then 1 else 0 := by
      unfold redirectFlow
      dsimp only
      split_ifs <;> simp
    rw [List.foldl_cons, ih, hcount, hupdates, List.countP_cons]
    omega

/-! ### The invariant -/

structure Inv (s : FlowNet) : Prop where
  timer : s.timer.status = if s.outstanding then .pending else .idle
  repeats : s.outstanding = true → s.timer.request + 1 = s.nextRequest
  sent : ∀ p, p ∈ s.requests ∨ p ∈ s.responses → p.request < s.nextRequest
  current : s.outstanding = true → ∀ p, p ∈ s.requests ∨ p ∈ s.responses →
    p.request + 1 = s.nextRequest → p.seqNumber = s.seqNumber

/-- A client that has sent nothing yet. -/
structure Fresh (s : FlowNet) : Prop where
  status : s.timer.status = .idle
  outstanding : s.outstanding = false
  requests : s.requests = []
  responses : s.responses = []

theorem Fresh.inv (h : s.Fresh) : s.Inv :=
  ⟨by simp [h.status, h.outstanding], by simp [h.outstanding],
    by simp [h.requests, h.responses], by simp [h.outstanding]⟩

theorem Inv.supervised (h : s.Inv) : s.Supervised := by
  intro hout
  rw [h.timer, if_pos hout]

theorem Inv.not_handling (h : s.Inv) : s.timer.status ≠ .handling := by
  rw [h.timer]
  split_ifs <;> simp

theorem Inv.of_core (h : s.Inv) (hcore : core s' = core s) : s'.Inv := by
  obtain ⟨hseq, htimer, hreq, hresp, hnext, hout⟩ : _ ∧ _ ∧ _ ∧ _ ∧ _ ∧ _ := by
    simpa only [core, Prod.mk.injEq] using hcore
  refine ⟨?_, ?_, ?_, ?_⟩
  · rw [htimer, hout]
    exact h.timer
  · rw [htimer, hout, hnext]
    exact h.repeats
  · rw [hreq, hresp, hnext]
    exact h.sent
  · rw [hreq, hresp, hnext, hout, hseq]
    exact h.current

/-! ### One step -/

theorem mem_sendFlowRequest {n : ℕ} {flows : List FlowId} {iface : NodeId} {daddr : Addr} :
    (p ∈ (s.sendFlowRequest n flows iface daddr).requests ∨
        p ∈ (s.sendFlowRequest n flows iface daddr).responses) ↔
      (p ∈ s.requests ∨ p ∈ s.responses) ∨
        p = ⟨n, s.seqNumber, flows, s.address iface, daddr⟩ := by
  simp only [sendFlowRequest, List.mem_append, List.mem_singleton]
  tauto

theorem send_inv {flows : List FlowId} {iface : NodeId} {daddr : Addr} (h : s.Inv)
    (hstep : s.step (.send flows iface daddr) = .ok s') : s'.Inv := by
  obtain rfl := Except.ok.inj hstep
  refine ⟨rfl, fun _ => rfl, fun p hp => ?_, fun _ p hp hlatest => ?_⟩
  · rcases mem_sendFlowRequest.1 hp with hp | rfl
    · exact (h.sent p hp).trans (Nat.lt_succ_self _)
    · exact Nat.lt_succ_self _
  · -- the packets sent before belong to earlier requests
    rcases mem_sendFlowRequest.1 hp with hp | rfl
    · exact absurd (h.sent p hp) (by simpa using (Nat.succ_injective hlatest).ge)
    · rfl

/-- The request is repeated. -/
theorem expire_inv (h : s.Inv) (hstep : s.step .expire = .ok s') : s'.Inv := by
  obtain ⟨status, hstatus, hstep⟩ := bind_ok_iff.1 hstep
  obtain ⟨hpending, rfl⟩ := TimerHandler.handle_eq_ok hstatus
  obtain rfl := Except.ok.inj hstep
  have hout : s.outstanding = true := by
    by_contra hno
    have htimer := h.timer
    simp [hno, hpending] at htimer
  refine ⟨?_, fun _ => h.repeats hout, fun p hp => ?_, fun _ p hp hlatest => ?_⟩
  · show TimerHandler.finish .pending = if s.outstanding then .pending else .idle
    rw [if_pos hout]
    rfl
  · rcases mem_sendFlowRequest.1 hp with hp | rfl
    · exact h.sent p hp
    · exact (Nat.lt_succ_self _).trans_eq (h.repeats hout)
  · rcases mem_sendFlowRequest.1 hp with hp | rfl
    · exact h.current hout p hp hlatest
    · rfl

theorem serve_inv {k : ℕ} {bssId : ℤ} (h : s.Inv) (hstep : s.step (.serve k bssId) = .ok s') :
    s'.Inv := by
  obtain ⟨p, hp, hstep⟩ := bind_ok_iff.1 hstep
  obtain ⟨-, -, hstep⟩ := bind_ok_iff.1 hstep
  obtain rfl := Except.ok.inj hstep
  have hp : p ∈ s.requests := List.mem_of_getElem? (index_eq_ok.1 hp)
  -- the flows have changed, and a response is added
  set t := if bssId ≠ 8 then p.flowInfo.foldl acceptFlow s else p.flowInfo.foldl refuseFlow s
  have hcore : core t = core s := by
    unfold t
    split_ifs
    · exact core_foldl acceptFlow (fun _ _ => rfl) _ _
    · exact core_foldl refuseFlow (fun _ _ => rfl) _ _
  have ht : t.Inv := h.of_core hcore
  have hreq : t.requests = s.requests := congrArg (fun c => c.2.2.1) hcore
  have hmem : ∀ q,
      (q ∈ t.requests ∨ q ∈ t.responses ++ [{ p with saddr := p.daddr, daddr := p.saddr }]) →
      (q ∈ t.requests ∨ q ∈ t.responses) ∨ q = { p with saddr := p.daddr, daddr := p.saddr } := by
    intro q hq
    simp only [List.mem_append, List.mem_singleton] at hq
    tauto
  have hpt : p ∈ t.requests ∨ p ∈ t.responses := Or.inl (hreq ▸ hp)
  refine ⟨ht.timer, ht.repeats, fun q hq => ?_, fun hout q hq hlatest => ?_⟩
  · rcases hmem q hq with hq | rfl
    · exact ht.sent q hq
    · exact ht.sent p hpt
  · rcases hmem q hq with hq | rfl
    · exact ht.current hout q hq hlatest
    · exact ht.current hout p hpt hlatest

/-- What a response does when the timer is not being handled. -/
theorem recvFlowResponse_eq (h : s.timer.status ≠ .handling) (p : FlowPacket) :
    s.recvFlowResponse p =
      .ok (if s.seqNumber = p.seqNumber then
          { p.flowInfo.foldl redirectFlow
              { s with timer := { s.timer with status := .idle } } with
            seqNumber := s.seqNumber + 1 }
        else { s with timer := { s.timer with status := .idle } }) := by
  simp only [recvFlowResponse, TimerHandler.stop_of_ne_handling h, ok_bind]
  split_ifs
  · have hcore := core_foldl _ core_redirectFlow p.flowInfo
      { s with timer := { s.timer with status := .idle } }
    have hseq := congrArg Prod.fst hcore
    simp only [core] at hseq
    rw [hseq]
    rfl
  · rfl

/-- Whatever its number, a response stops the timer. -/
theorem recvFlowResponse_cases (h : s.timer.status ≠ .handling) (p : FlowPacket) :
    ∃ t, s.recvFlowResponse p = .ok t ∧ t.timer.status = .idle ∧ t.requests = s.requests ∧
      t.responses = s.responses ∧ t.nextRequest = s.nextRequest ∧
      t.outstanding = s.outstanding := by
  refine ⟨_, recvFlowResponse_eq h p, ?_⟩
  split_ifs
  · have hcore := core_foldl _ core_redirectFlow p.flowInfo
      { s with timer := { s.timer with status := .idle } }
    simp only [core, Prod.mk.injEq] at hcore
    obtain ⟨-, htimer, hreq, hresp, hnext, hout⟩ := hcore
    exact ⟨congrArg FlowRequestTimer.status htimer, hreq, hresp, hnext, hout⟩
  · exact ⟨rfl, rfl, rfl, rfl, rfl⟩

theorem deliver_inv {k : ℕ} (h : s.Inv) (hok : s.InOrder (.deliver k))
    (hstep : s.step (.deliver k) = .ok s') : s'.Inv := by
  obtain ⟨p, hp, hstep⟩ := bind_ok_iff.1 hstep
  have hp := index_eq_ok.1 hp
  obtain ⟨t, hrecv, htimer, hreq, hresp, hnext, hout⟩ :=
    recvFlowResponse_cases h.not_handling p
  rw [hrecv] at hstep
  obtain rfl := Except.ok.inj hstep
  -- the response is to the latest request, or that has been answered before
  have hanswered : (t.outstanding && decide (p.request + 1 ≠ t.nextRequest)) = false := by
    rw [hout, hnext]
    have hlt := h.sent p (Or.inr (List.mem_of_getElem? hp))
    by_cases hlatest : p.request + 1 = s.nextRequest
    · simp [hlatest]
    · have hearlier : s.Earlier p := lt_of_le_of_ne hlt hlatest
      simp [(hok p hp hearlier).1]
  refine ⟨?_, ?_, ?_, ?_⟩
  · show t.timer.status = _
    rw [htimer]
    simp only [hanswered]
    rfl
  · simp only [hanswered]
    exact nofun
  · show ∀ p, p ∈ t.requests ∨ p ∈ t.responses → p.request < t.nextRequest
    rw [hreq, hresp, hnext]
    exact h.sent
  · simp only [hanswered]
    exact nofun

theorem step_inv (s : FlowNet) (i : Input) (s' : FlowNet) (h : s.Inv) (hok : s.InOrder i)
    (hstep : s.step i = .ok s') : s'.Inv := by
  cases i with
  | send flows iface daddr => exact send_inv h hstep
  | expire => exact expire_inv h hstep
  | serve k bssId => exact serve_inv h hstep
  | deliver k => exact deliver_inv h hok hstep
  | setFlow f e =>
    obtain rfl := Except.ok.inj hstep
    exact h.of_core rfl

theorem step_deliver {k : ℕ} (h : s.Inv) (hp : s.responses[k]? = some p) :
    ∃ t, s.recvFlowResponse p = .ok t ∧ t.timer.status = .idle ∧
      s.step (.deliver k) =
        .ok { t with outstanding := t.outstanding && p.request + 1 ≠ t.nextRequest } := by
  obtain ⟨t, hrecv, htimer, -⟩ := recvFlowResponse_cases h.not_handling p
  refine ⟨t, hrecv, htimer, ?_⟩
  simp only [step, index_eq_ok.2 hp, hrecv, ok_bind, pure_eq_ok]

/-- A response out of order stops the timer or redirects a flow. -/
theorem Inv.inOrder_of_harmless {k : ℕ} (h : s.Inv) (hharmless : s.Harmless (.deliver k)) :
    s.InOrder (.deliver k) := by
  intro p hp hearlier
  obtain ⟨t, hrecv, htimer, hstep⟩ := step_deliver h hp
  obtain ⟨-, -, hupdates, hpending⟩ := hharmless k p _ rfl hp (Or.inr hearlier) hstep
  refine ⟨?_, fun hseq f hf => ?_⟩
  · -- the timer was running, and it is not any more
    by_contra hout
    have hrunning := hpending (h.supervised (Bool.eq_true_of_not_eq_false hout))
    rw [show _ = TimerStatus.idle from htimer] at hrunning
    cases hrunning
  · -- an accepted flow would have been redirected
    by_contra hyes
    rw [recvFlowResponse_eq h.not_handling, if_pos hseq.symm] at hrecv
    obtain rfl := Except.ok.inj hrecv
    have hlength := congrArg List.length hupdates
    simp only [length_updates_foldl] at hlength
    have hcount : 0 < p.flowInfo.countP fun f => (s.flows f).redirect :=
      List.countP_pos_iff.2 ⟨f, hf, Bool.eq_true_of_not_eq_false hyes⟩
    omega

/-- A response with another number or to an earlier request, in order, comes when the latest request
has been answered. -/
theorem Inv.answered_of_stray {k : ℕ} (h : s.Inv) (hok : s.InOrder (.deliver k))
    (hp : s.responses[k]? = some p) (hstray : p.seqNumber ≠ s.seqNumber ∨ s.Earlier p) :
    s.outstanding = false := by
  have hmem := List.mem_of_getElem? hp
  rcases Nat.lt_or_eq_of_le (Nat.succ_le_of_lt (h.sent p (Or.inr hmem))) with hearlier | hlatest
  · exact (hok p hp hearlier).1
  · rcases hstray with hseq | hearlier
    · by_contra hout
      exact hseq (h.current (Bool.eq_true_of_not_eq_false hout) p (Or.inr hmem) hlatest)
    · exact absurd hlatest hearlier.ne

theorem Inv.harmless_of_inOrder {k : ℕ} (h : s.Inv) (hok : s.InOrder (.deliver k)) :
    s.Harmless (.deliver k) := by
  rintro _ p s' ⟨rfl⟩ hp hstray hstep
  obtain ⟨t, hrecv, -, hstep'⟩ := step_deliver h hp
  obtain rfl := Except.ok.inj (hstep'.symm.trans hstep)
  have hout : s.outstanding = false := h.answered_of_stray hok hp hstray
  have hidle : s.timer.status = .idle := by rw [h.timer, hout]; rfl
  have hsame : ({ s with timer := { s.timer with status := .idle } } : FlowNet) = s := by
    rw [← hidle]
  rw [recvFlowResponse_eq h.not_handling, hsame] at hrecv
  have hflows : t.flows = s.flows ∧ t.targets = s.targets ∧ t.updates = s.updates := by
    split_ifs at hrecv with hseq
    · have hearlier := hstray.resolve_left (not_not_intro hseq.symm)
      rw [foldl_redirectFlow_of_refused ((hok p hp hearlier).2 hseq.symm)] at hrecv
      obtain rfl := Except.ok.inj hrecv
      exact ⟨rfl, rfl, rfl⟩
    · obtain rfl := Except.ok.inj hrecv
      exact ⟨rfl, rfl, rfl⟩
  refine ⟨hflows.1, hflows.2.1, hflows.2.2, fun hpending => ?_⟩
  rw [hidle] at hpending
  cases hpending

/-- A response does no harm exactly when it comes in order. -/
theorem Inv.harmless_iff (h : s.Inv) (i : Input) : s.Harmless i ↔ s.InOrder i := by
  cases i with
  | deliver k => exact ⟨h.inOrder_of_harmless, h.harmless_of_inOrder⟩
  | _ => exact iff_of_true nofun trivial

/-- The timer runs while the latest request is not answered, and other responses do no harm, if and
only if the responses come in order. -/
theorem supervised_iff {is : List Input} (h : s.Fresh) :
    Throughout step Supervised s is ∧ StepsMeet step Harmless s is ↔
      StepsMeet step InOrder s is := by
  constructor
  · rintro ⟨-, hharmless⟩
    refine hharmless.imp (fun s i s' hs hi hstep => ?_) (fun s i hs => (hs.harmless_iff i).1) h.inv
    exact step_inv s i s' hs ((hs.harmless_iff i).1 hi) hstep
  · intro hok
    exact ⟨throughout_of_invariant step_inv (fun _ => Inv.supervised) h.inv hok,
      hok.imp step_inv (fun s i hs => (hs.harmless_iff i).2) h.inv⟩

/-- Two flows of a client, to be redirected to the interface `2`. -/
def sampleNet : FlowNet where
  address := fun n => BitVec.ofNat 32 n
  flows := fun f => { localAgent := f, remote := f, minBw := 1, iface := 1, tmpIface := 2 }

theorem sampleNet_fresh : sampleNet.Fresh := ⟨rfl, rfl, rfl, rfl⟩

/-- A request is repeated, and its response arrives twice. -/
theorem supervised_of_repeated :
    Throughout step Supervised sampleNet
        [.send [0, 1] 2 9, .expire, .serve 0 1, .deliver 0, .deliver 0] ∧
      StepsMeet step Harmless sampleNet
        [.send [0, 1] 2 9, .expire, .serve 0 1, .deliver 0, .deliver 0] :=
  (supervised_iff sampleNet_fresh).2 (by decide)

/-- The response to the first request arrives after the second was sent: with the current number, or
for the second time. -/
theorem earlier_response_stops_timer :
    sampleNet.Fresh ∧
      ¬ Throughout step Supervised sampleNet
        [.send [0] 2 9, .serve 0 1, .send [1] 2 9, .deliver 0] ∧
      ¬ Throughout step Supervised sampleNet
        [.send [0] 2 9, .serve 0 1, .deliver 0, .send [1] 2 9, .deliver 0] := by
  have hlast : ∀ is : List Input,
      (runSteps step sampleNet is).map (fun s => decide s.Supervised) = .ok false →
        ¬ Throughout step Supervised sampleNet is := by
    intro is hrun h
    obtain ⟨s, hs, hfalse⟩ := map_ok_iff.1 hrun
    exact of_decide_eq_false hfalse (h.last hs)
  exact ⟨sampleNet_fresh, hlast _ (by decide), hlast _ (by decide)⟩

end FlowNet

end SipNemo.Mip6
