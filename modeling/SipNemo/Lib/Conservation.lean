import Mathlib.Algebra.BigOperators.Group.Finset.Basic
import SipNemo.Lib.Network

/-!
# What is made and what is used

Messages have a weight, and the state of a node says how much it has made and used.  When no node
uses or sends on more than it receives and makes, the network has never used more than it has made,
whatever the order of arrival and whatever is lost (`Conserved`).
-/

namespace Network

variable {ι σ μ ε : Type} [DecidableEq ι] [Fintype ι]

/-- The weight of some messages. -/
def weigh (w : μ → ℕ) (ms : List μ) : ℕ := (ms.map w).sum

section Weigh

variable (w : μ → ℕ)

@[simp] theorem weigh_nil : weigh w [] = 0 := rfl

@[simp] theorem weigh_cons (m : μ) (ms : List μ) : weigh w (m :: ms) = w m + weigh w ms :=
  List.sum_cons

@[simp] theorem weigh_append (ms ms' : List μ) :
    weigh w (ms ++ ms') = weigh w ms + weigh w ms' := by
  rw [weigh, List.map_append, List.sum_append]
  rfl

theorem weigh_eraseIdx {ms : List μ} {k : ℕ} {m : μ} (h : ms[k]? = some m) :
    w m + weigh w (ms.eraseIdx k) = weigh w ms := by
  obtain ⟨hk, rfl⟩ := List.getElem?_eq_some_iff.1 h
  rw [List.eraseIdx_eq_take_drop_succ, weigh_append]
  conv_rhs => rw [← List.take_append_drop k ms, List.drop_eq_getElem_cons hk]
  rw [weigh_append, weigh_cons]
  omega

theorem weigh_eraseIdx_le (ms : List μ) (k : ℕ) : weigh w (ms.eraseIdx k) ≤ weigh w ms :=
  ((List.eraseIdx_sublist ms k).map w).sum_le_sum fun _ _ => Nat.zero_le _

theorem weigh_eq_zero {ms : List μ} (h : ∀ m ∈ ms, w m = 0) : weigh w ms = 0 := by
  refine List.sum_eq_zero fun x hx => ?_
  obtain ⟨m, hm, rfl⟩ := List.mem_map.1 hx
  exact h m hm

end Weigh

section Total

omit [DecidableEq ι]

/-- Something of all nodes. -/
def total (f : σ → ℕ) (node : ι → σ) : ℕ := ∑ i, f (node i)

theorem total_mono {f g : σ → ℕ} {node : ι → σ} (h : ∀ i, f (node i) ≤ g (node i)) :
    total f node ≤ total g node :=
  Finset.sum_le_sum fun i _ => h i

theorem total_congr {f g : σ → ℕ} {node : ι → σ} (h : ∀ i, f (node i) = g (node i)) :
    total f node = total g node :=
  Finset.sum_congr rfl fun i _ => h i

theorem total_add (f g : σ → ℕ) (node : ι → σ) :
    total (fun s => f s + g s) node = total f node + total g node := Finset.sum_add_distrib

end Total

/-- One node changes. -/
theorem total_update (f : σ → ℕ) (node : ι → σ) (i : ι) (s : σ) :
    total f (Function.update node i s) + f (node i) = total f node + f s := by
  have hupdate : (fun j => f (Function.update node i s j)) =
      Function.update (fun j => f (node j)) i (f s) := by
    funext j
    by_cases hj : j = i
    · subst hj
      simp
    · simp [hj]
  unfold total
  rw [hupdate, Finset.sum_update_of_mem (Finset.mem_univ i),
    ← Finset.add_sum_erase _ (fun j => f (node j)) (Finset.mem_univ i),
    Finset.sdiff_singleton_eq_erase]
  omega

/-- Nothing was used or is under way that was not made. -/
def Conserved (w : μ → ℕ) (used made : σ → ℕ) (n : Net ι σ μ) : Prop :=
  total used n.node + weigh w n.flight ≤ total made n.node

variable {w : μ → ℕ} {used made : σ → ℕ} {n n' : Net ι σ μ} {i : ι} {k : ℕ} {m : μ}
  {op : σ → Except ε (σ × List μ)}

omit [Fintype ι] in
/-- What a node does is all that changes. -/
theorem node_operate {flight : List μ}
    (hn : Network.operate op i { n with flight := flight } = .ok n') :
    ∃ s out, op (n.node i) = .ok (s, out) ∧
      n' = { node := Function.update n.node i s, flight := flight ++ out } := by
  unfold Network.operate at hn
  cases hr : op (n.node i) with
  | error e =>
    rw [hr] at hn
    cases hn
  | ok r =>
    rw [hr] at hn
    exact ⟨r.1, r.2, rfl, (Except.ok.inj hn).symm⟩

/-- A node acts, after messages of the weight `x` were taken from those under way. -/
theorem Conserved.act {flight : List μ} {x : ℕ} (h : Conserved w used made n)
    (hflight : weigh w flight + x ≤ weigh w n.flight)
    (hop : ∀ s out, op (n.node i) = .ok (s, out) →
      used s + weigh w out + made (n.node i) ≤ used (n.node i) + x + made s)
    (hn : Network.operate op i { n with flight := flight } = .ok n') :
    Conserved w used made n' := by
  obtain ⟨s, out, hr, rfl⟩ := node_operate hn
  have hkeep := hop s out hr
  have hused := total_update used n.node i s
  have hmade := total_update made n.node i s
  unfold Conserved at h ⊢
  dsimp only
  rw [weigh_append]
  omega

omit [DecidableEq ι] in
theorem Conserved.le (h : Conserved w used made n) : total used n.node ≤ total made n.node :=
  (Nat.le_add_right _ _).trans h

omit [DecidableEq ι] in
/-- A message is lost. -/
theorem Conserved.lose (h : Conserved w used made n) (k : ℕ) :
    Conserved w used made { n with flight := n.flight.eraseIdx k } :=
  (Nat.add_le_add_left (weigh_eraseIdx_le w n.flight k) _).trans h

end Network
