import SipNemo.Mip6.FlowRequests

/-!
# Flow admission and repeated requests

The server answers a flow request with its number, but keeps no number: a request that is repeated
because its response was lost is admitted again.  Its flows go into `list_nodes` a second time, so
that `get_used_bw` counts their bandwidth twice, or they are counted as refused a second time.
Every request that is processed at all has a flow, and so no request is admitted only once
(`not_admitsOnce`).
-/

namespace SipNemo.Mip6

open Runs

namespace FlowNet

/-- `get_used_bw`. -/
def getUsedBw (s : FlowNet) : ℚ := (s.listNodes.map (·.1)).sum

/-- `list_nodes`, `nbAccepted_`, `nbRefused_` and `get_used_bw()`. -/
def admission (s : FlowNet) : List (ℚ × NodeId) × ℤ × ℤ × ℚ :=
  (s.listNodes, s.nbAccepted, s.nbRefused, s.getUsedBw)

/-- The decisions on the flows of a request, which its response shares. -/
def decisions (s : FlowNet) (p : FlowPacket) : List Bool :=
  p.flowInfo.map fun f => (s.flows f).redirect

/-- The request is processed, and after some other events processed again: the second time changes
nothing on record and comes to the decisions of the first.  `bssId` and `bssId'` are those of the
interface of its first flow at the time. -/
def AdmitsOnce (s : FlowNet) (p : FlowPacket) (bssId bssId' : ℤ) (evs : List Input) : Prop :=
  ∃ s₁ s₂ s₃, s.recvFlowRequest p bssId = .ok s₁ ∧ runSteps step s₁ evs = .ok s₂ ∧
    s₂.recvFlowRequest p bssId' = .ok s₃ ∧ s₃.admission = s₂.admission ∧
    s₃.decisions p = s₁.decisions p

/-! ### What one request adds -/

section Request

variable {s s' : FlowNet} {p : FlowPacket} {bssId : ℤ}

/-- The bandwidths and interfaces that the flows ask for. -/
def asked (s : FlowNet) (l : List FlowId) : List (ℚ × NodeId) :=
  l.map fun f => ((s.flows f).minBw, (s.flows f).tmpIface)

theorem asked_acceptFlow (s : FlowNet) (f : FlowId) (l : List FlowId) :
    (s.acceptFlow f).asked l = s.asked l := by
  refine List.map_congr_left fun g _ => ?_
  unfold acceptFlow
  by_cases hg : g = f
  · subst hg
    simp
  · simp [hg]

theorem foldl_acceptFlow (s : FlowNet) (l : List FlowId) :
    (l.foldl acceptFlow s).listNodes = s.listNodes ++ s.asked l ∧
      (l.foldl acceptFlow s).nbAccepted = s.nbAccepted + l.length ∧
      (l.foldl acceptFlow s).nbRefused = s.nbRefused := by
  induction l generalizing s with
  | nil => simp [asked]
  | cons f l ih =>
    obtain ⟨hnodes, haccepted, hrefused⟩ := ih (s.acceptFlow f)
    rw [List.foldl_cons]
    refine ⟨?_, ?_, hrefused⟩
    · rw [hnodes, asked_acceptFlow]
      simp [acceptFlow, asked]
    · rw [haccepted, List.length_cons]
      simp only [acceptFlow]
      push_cast
      ring

theorem foldl_refuseFlow (s : FlowNet) (l : List FlowId) :
    (l.foldl refuseFlow s).listNodes = s.listNodes ∧
      (l.foldl refuseFlow s).nbAccepted = s.nbAccepted ∧
      (l.foldl refuseFlow s).nbRefused = s.nbRefused + l.length := by
  induction l generalizing s with
  | nil => simp
  | cons f l ih =>
    obtain ⟨hnodes, haccepted, hrefused⟩ := ih (s.refuseFlow f)
    rw [List.foldl_cons]
    refine ⟨hnodes, haccepted, ?_⟩
    rw [hrefused, List.length_cons]
    simp only [refuseFlow]
    push_cast
    ring

/-- A request that is processed has a flow, and either all its flows go on record or all are
counted as refused. -/
theorem recvFlowRequest_adds (h : s.recvFlowRequest p bssId = .ok s') :
    0 < p.flowInfo.length ∧
      (bssId ≠ 8 ∧ s'.listNodes = s.listNodes ++ s.asked p.flowInfo ∧
          s'.nbAccepted = s.nbAccepted + p.flowInfo.length ∧ s'.nbRefused = s.nbRefused ∨
        bssId = 8 ∧ s'.listNodes = s.listNodes ∧ s'.nbAccepted = s.nbAccepted ∧
          s'.nbRefused = s.nbRefused + p.flowInfo.length) := by
  obtain ⟨f, hf, hpure⟩ := bind_ok_iff.1 h
  cases hpure
  refine ⟨lt_length_of_index hf, ?_⟩
  by_cases hbss : bssId ≠ 8
  · simp only [if_pos hbss]
    exact Or.inl ⟨hbss, foldl_acceptFlow s p.flowInfo⟩
  · simp only [if_neg hbss]
    exact Or.inr ⟨not_not.1 hbss, foldl_refuseFlow s p.flowInfo⟩

theorem admission_ne (h : s.recvFlowRequest p bssId = .ok s') : s'.admission ≠ s.admission := by
  intro heq
  simp only [admission, Prod.mk.injEq] at heq
  obtain ⟨-, haccepted, hrefused, -⟩ := heq
  obtain ⟨hpos, ⟨-, -, hadd, -⟩ | ⟨-, -, -, hadd⟩⟩ := recvFlowRequest_adds h
  · omega
  · omega

end Request

/-- Whatever the state, the request and what happens before it is repeated, the server does not
recognise it. -/
theorem not_admitsOnce (s : FlowNet) (p : FlowPacket) (bssId bssId' : ℤ) (evs : List Input) :
    ¬ s.AdmitsOnce p bssId bssId' evs := by
  rintro ⟨s₁, s₂, s₃, -, -, hagain, hsame, -⟩
  exact admission_ne hagain hsame

/-- A request with one flow is admitted again. -/
theorem repeated_request_admitted :
    ¬ ∀ (s s₁ : FlowNet) (p : FlowPacket) (bssId : ℤ), s.recvFlowRequest p bssId = .ok s₁ →
      s.AdmitsOnce p bssId bssId [] := by
  intro h
  obtain ⟨s₁, s₂, s₃, -, -, hagain, hsame, -⟩ := h sampleNet _ ⟨0, 0, [0], 2, 9⟩ 1 rfl
  exact admission_ne hagain hsame

end FlowNet

end SipNemo.Mip6
