import SipNemo.Lib.Runs

/-!
# Networks of agents

A network is an agent for each node and the messages in flight between them.  A node acts on its
own (`operate`) or receives a message (`deliver`), any of those in flight; both may abort, and
what they send is in flight afterwards.  A message without a destination is lost.

`Route` follows a message that travels alone: at each hop it is the only one in flight, the node
it is for receives it, and what that node sends is the message of the next hop.
-/

namespace Network

open Runs

/-- The agents of the nodes, and the messages in flight. -/
structure Net (ι σ μ : Type) where
  node : ι → σ
  flight : List μ

variable {ι σ μ ε : Type} [DecidableEq ι]

/-- Node `i` performs the operation `op`. -/
def operate (op : σ → Except ε (σ × List μ)) (i : ι) (n : Net ι σ μ) : Except ε (Net ι σ μ) :=
  match op (n.node i) with
  | .ok r => .ok { node := Function.update n.node i r.1, flight := n.flight ++ r.2 }
  | .error e => .error e

variable (dest : μ → Option ι) (receive : σ → μ → Except ε (σ × List μ))

/-- The `k`-th message in flight arrives. -/
def deliver (n : Net ι σ μ) (k : ℕ) : Except ε (Net ι σ μ) :=
  match n.flight[k]? with
  | none => .ok n
  | some m =>
    let n := { n with flight := n.flight.eraseIdx k }
    match dest m with
    | none => .ok n
    | some i => operate (receive · m) i n

/-- The hops of a message that travels alone: the nodes that receive it, and as what. -/
def Route : Net ι σ μ → List (ι × μ) → Net ι σ μ → Prop
  | n, [], n' => n = n'
  | n, (i, m) :: hops, n' =>
    n.flight = [m] ∧ dest m = some i ∧
      ∃ t, deliver dest receive n 0 = .ok t ∧ Route t hops n'

variable {dest receive}

theorem operate_ok {op : σ → Except ε (σ × List μ)} {i : ι} {n : Net ι σ μ} {s : σ}
    {out : List μ} (h : op (n.node i) = .ok (s, out)) :
    operate op i n = .ok { node := Function.update n.node i s, flight := n.flight ++ out } := by
  rw [operate, h]

/-- One hop: the node that receives the message is all that changes. -/
theorem deliver_alone {node : ι → σ} {m : μ} {i : ι} {s : σ} {out : List μ}
    (hdest : dest m = some i) (hrecv : receive (node i) m = .ok (s, out)) :
    deliver dest receive { node := node, flight := [m] } 0 =
      .ok { node := Function.update node i s, flight := out } := by
  simp only [deliver, List.getElem?_cons_zero, hdest, List.eraseIdx_cons_zero]
  exact operate_ok hrecv

/-- A route goes on with what the receiver sends. -/
theorem Route.cons {node : ι → σ} {m : μ} {i : ι} {s : σ} {out : List μ} {hops : List (ι × μ)}
    {n' : Net ι σ μ} (hdest : dest m = some i) (hrecv : receive (node i) m = .ok (s, out))
    (hrest : Route dest receive { node := Function.update node i s, flight := out } hops n') :
    Route dest receive { node := node, flight := [m] } ((i, m) :: hops) n' :=
  ⟨rfl, hdest, _, deliver_alone hdest hrecv, hrest⟩

/-- The first hop of a route: the receiver returns, and the route goes on with what it sends. -/
theorem Route.uncons {node : ι → σ} {m m' : μ} {i : ι} {hops : List (ι × μ)} {n' : Net ι σ μ}
    (h : Route dest receive { node := node, flight := [m] } ((i, m') :: hops) n') :
    m' = m ∧ dest m = some i ∧ ∃ s out, receive (node i) m = .ok (s, out) ∧
      Route dest receive { node := Function.update node i s, flight := out } hops n' := by
  obtain ⟨hflight, hdest, t, hstep, hrest⟩ := h
  obtain rfl : m = m' := by simpa using hflight
  refine ⟨rfl, hdest, ?_⟩
  cases hrecv : receive (node i) m with
  | error e =>
    simp [deliver, hdest, operate, hrecv] at hstep
  | ok r =>
    have hrecv' : receive (node i) m = .ok (r.1, r.2) := hrecv
    rw [deliver_alone hdest hrecv'] at hstep
    cases hstep
    exact ⟨r.1, r.2, rfl, hrest⟩

theorem Route.append {n t n' : Net ι σ μ} {before after : List (ι × μ)}
    (h : Route dest receive n before t) (h' : Route dest receive t after n') :
    Route dest receive n (before ++ after) n' := by
  induction before generalizing n with
  | nil =>
    obtain rfl : n = t := h
    exact h'
  | cons hop before ih =>
    obtain ⟨hflight, hdest, u, hstep, hrest⟩ := h
    exact ⟨hflight, hdest, u, hstep, ih hrest⟩

/-- A route is a run in which every delivery is of the only message in flight. -/
theorem Route.run {n n' : Net ι σ μ} {hops : List (ι × μ)} (h : Route dest receive n hops n') :
    runSteps (deliver dest receive) n (List.replicate hops.length 0) = .ok n' := by
  induction hops generalizing n with
  | nil => exact congrArg Except.ok h
  | cons hop hops ih =>
    obtain ⟨-, -, t, hstep, hrest⟩ := h
    rw [List.length_cons, List.replicate_succ]
    exact runSteps_cons_ok.2 ⟨t, hstep, ih hrest⟩

/-- Before each hop of a route its message is the only one in flight. -/
theorem Route.in_flight {n n' : Net ι σ μ} {hops : List (ι × μ)}
    (h : Route dest receive n hops n') {k : ℕ} {i : ι} {m : μ} (hk : hops[k]? = some (i, m)) :
    ∃ t, runSteps (deliver dest receive) n (List.replicate k 0) = .ok t ∧
      t.flight.map dest = [some i] := by
  induction hops generalizing n k with
  | nil => simp at hk
  | cons hop hops ih =>
    obtain ⟨hflight, hdest, t, hstep, hrest⟩ := h
    cases k with
    | zero =>
      obtain rfl : hop = (i, m) := by simpa using hk
      exact ⟨n, rfl, by simp [hflight, hdest]⟩
    | succ k =>
      obtain ⟨u, hrun, hu⟩ := ih hrest (by simpa using hk)
      refine ⟨u, ?_, hu⟩
      rw [List.replicate_succ]
      exact runSteps_cons_ok.2 ⟨t, hstep, hrun⟩

end Network
