import SipNemo.Lib.Runs
import SipNemo.Net.InterfaceQueue
import SipNemo.Net.Packet

/-!
# The interface queue in byte mode

When the queue counts bytes, `enque` keeps it below its limit by refusing a packet.  Two paths
exchange one packet for another without looking at the sizes: `enque` with drops at the head, and
`recvHighPriority`, which drops the last packet when there are too many packets and makes no test
of the bytes at all.  `below_limit_iff` says when these leave the queue below its limit.
-/

namespace SipNemo

open Runs

namespace PacketQueue

variable {q q' : PacketQueue} {p : QueuedPacket}

theorem byteLength_concat (q : PacketQueue) (p : QueuedPacket) :
    byteLength (q ++ [p]) = q.byteLength + p.size := by
  simp [byteLength]

theorem byteLength_cons (q : PacketQueue) (p : QueuedPacket) :
    byteLength (p :: q) = p.size + q.byteLength := by
  simp [byteLength]

theorem byteLength_le_of_sublist (h : q'.Sublist q) : q'.byteLength ≤ q.byteLength :=
  (h.map QueuedPacket.size).sum_le_sum fun _ _ => Nat.zero_le _

/-- A packet goes in at the tail and one goes out at the head. -/
theorem byteLength_tail_concat (q : PacketQueue) (p : QueuedPacket) :
    byteLength (q ++ [p]).tail + (q.head?.getD p).size = q.byteLength + p.size := by
  cases q with
  | nil => simp [byteLength]
  | cons r q =>
    rw [List.cons_append, List.tail_cons, byteLength_concat, byteLength_cons, List.head?_cons,
      Option.getD_some]
    omega

/-- A packet goes in at the head and one goes out at the tail. -/
theorem byteLength_dropLast_cons (q : PacketQueue) (p : QueuedPacket) :
    byteLength (p :: q).dropLast + (q.getLast?.getD p).size = q.byteLength + p.size := by
  rcases List.eq_nil_or_concat' q with rfl | ⟨front, last, rfl⟩
  · simp [byteLength]
  · rw [← List.cons_append, List.dropLast_concat, byteLength_cons, byteLength_concat,
      List.getLast?_concat, Option.getD_some]
    omega

end PacketQueue

namespace DropTailHSNTG

variable (s : DropTailHSNTG)

/-- The calls of the queue. -/
inductive Call
  | enque (p : QueuedPacket)
  | recvHighPriority (p : QueuedPacket)
  | deque
  deriving DecidableEq, Repr

/-- The state after a call. -/
def called : Call → DropTailHSNTG
  | .enque p => s.enque p
  | .recvHighPriority p => PriQueueHSNTG.recvHighPriority s p
  | .deque => s.deque.1

def step (call : Call) : Act DropTailHSNTG := .ok (s.called call)

/-- The queue holds fewer bytes than its limit. -/
def BelowLimit : Prop := (s.q.byteLength : ℤ) < s.qlimBytes

/-- What goes out, if anything must, makes room for what comes in. -/
def MakesRoom : Call → Prop
  | .enque p => s.config.dropFront = true →
    s.q.byteLength + p.size < s.qlimBytes + (s.q.head?.getD p).size
  | .recvHighPriority p => s.blocked = true →
    s.q.byteLength + p.size <
      s.qlimBytes + if s.config.qlim ≤ s.q.length + 1 then (s.q.getLast?.getD p).size else 0
  | .deque => True

/-! ### The queue after a call -/

variable {s} {p : QueuedPacket}

@[simp] theorem q_callMac (call : MacCall) : (s.callMac call).q = s.q := by
  unfold callMac
  split_ifs <;> rfl

@[simp] theorem blocked_callMac (call : MacCall) : (s.callMac call).blocked = s.blocked := by
  unfold callMac
  split_ifs <;> rfl

theorem q_enque (p : QueuedPacket) :
    (s.enque p).q =
      if s.overflows p = true then
        if s.config.dropFront = true then (s.q ++ [p]).tail else s.q
      else s.q ++ [p] := by
  rw [enque, q_callMac, place]
  split_ifs with h hfront
  · rw [q_callMac, refuse, if_pos hfront]
    cases hq : s.q ++ [p] with
    | nil => exact absurd hq (List.concat_ne_nil p s.q)
    | cons head rest =>
      have henque : s.q.enque p = head :: rest := hq
      rw [henque]
      rfl
  · rw [q_callMac, refuse, if_neg hfront]
    rfl
  · rfl

theorem q_deque (s : DropTailHSNTG) : s.deque.1.q = s.q.tail := by
  unfold deque
  split
  · next h => rw [h]; rfl
  · next h => rw [h]; rfl

theorem q_sendNext (s : DropTailHSNTG) :
    s.sendNext.q = if s.blocked = true then s.q else s.q.tail := by
  have hdeque := s.q_deque
  unfold sendNext
  split_ifs
  · rfl
  · split
    · next hs => rwa [hs] at hdeque
    · next hs => rwa [hs] at hdeque

theorem dropLast_eq (s : DropTailHSNTG) (hq : s.q ≠ []) :
    (PriQueueHSNTG.dropLast s).q =
        (if s.config.qlim ≤ s.q.length then s.q.dropLast else s.q) ∧
      (PriQueueHSNTG.dropLast s).blocked = s.blocked := by
  have hconcat : s.q = s.q.dropLast ++ [s.q.getLast hq] := (List.dropLast_append_getLast hq).symm
  rw [PriQueueHSNTG.dropLast_of_concat hconcat]
  split_ifs
  · exact ⟨q_callMac _, blocked_callMac _⟩
  · exact ⟨rfl, rfl⟩

/-- A routing packet goes in at the head; it goes out at once if the queue is not blocked. -/
theorem q_recvHighPriority (s : DropTailHSNTG) (p : QueuedPacket) :
    (PriQueueHSNTG.recvHighPriority s p).q =
      let q := if s.config.qlim ≤ s.q.length + 1 then (p :: s.q).dropLast else p :: s.q
      if s.blocked = true then q else q.tail := by
  obtain ⟨hq, hblocked⟩ := dropLast_eq { s with q := s.q.enqueHead p }
    (List.cons_ne_nil p s.q)
  rw [PriQueueHSNTG.recvHighPriority, q_callMac, q_sendNext, hq, hblocked]
  have hlen : ((s.q.enqueHead p).length : ℤ) = s.q.length + 1 := by
    rw [PacketQueue.enqueHead, List.length_cons, Nat.cast_succ]
  rw [hlen]
  rfl

theorem config_called (s : DropTailHSNTG) (call : Call) : (s.called call).config = s.config := by
  cases call with
  | enque p => exact s.config_enque p
  | recvHighPriority p => exact PriQueueHSNTG.config_recvHighPriority s p
  | deque => exact s.config_deque

theorem qlimBytes_called (s : DropTailHSNTG) (call : Call) :
    (s.called call).qlimBytes = s.qlimBytes := by
  rw [qlimBytes, config_called, qlimBytes]

/-! ### One call -/

theorem belowLimit_of_sublist {t : DropTailHSNTG} (h : s.BelowLimit)
    (hlim : t.qlimBytes = s.qlimBytes) (hq : t.q.Sublist s.q) : t.BelowLimit := by
  have hle := PacketQueue.byteLength_le_of_sublist hq
  unfold BelowLimit at h ⊢
  rw [hlim]
  omega

theorem belowLimit_enque_iff (h : s.BelowLimit) (hqib : s.config.qib = true) :
    (s.called (.enque p)).BelowLimit ↔ s.MakesRoom (.enque p) := by
  have hover : s.overflows p = true ↔ s.qlimBytes ≤ s.q.byteLength + p.size := by
    simp [overflows, hqib]
  have hexchange := PacketQueue.byteLength_tail_concat s.q p
  have hroom : s.MakesRoom (.enque p) ↔ (s.config.dropFront = true →
      (s.q.byteLength + p.size : ℤ) < s.qlimBytes + (s.q.head?.getD p).size) := Iff.rfl
  unfold BelowLimit at h ⊢
  rw [hroom, qlimBytes_called, called, q_enque]
  split_ifs with hfull hfront
  · simp only [hfront, true_imp_iff]
    omega
  · exact iff_of_true h fun hfront' => absurd hfront' hfront
  · rw [hover, not_le] at hfull
    refine iff_of_true ?_ fun _ => ?_
    · rw [PacketQueue.byteLength_concat]
      exact_mod_cast hfull
    · omega

theorem belowLimit_recvHighPriority_iff (h : s.BelowLimit) :
    (s.called (.recvHighPriority p)).BelowLimit ↔ s.MakesRoom (.recvHighPriority p) := by
  have hexchange := PacketQueue.byteLength_dropLast_cons s.q p
  by_cases hblocked : s.blocked = true
  · have hroom : s.MakesRoom (.recvHighPriority p) ↔ (s.q.byteLength + p.size : ℤ) < s.qlimBytes +
        if s.config.qlim ≤ s.q.length + 1 then (s.q.getLast?.getD p).size else 0 :=
      forall_prop_of_true hblocked
    unfold BelowLimit
    rw [hroom, qlimBytes_called, called, q_recvHighPriority]
    dsimp only
    rw [if_pos hblocked]
    split_ifs
    · omega
    · rw [PacketQueue.byteLength_cons]
      push_cast
      omega
  · -- the packet that went in, or the one before it, goes out
    refine iff_of_true (belowLimit_of_sublist h (qlimBytes_called s _) ?_)
      fun hblocked' => absurd hblocked' hblocked
    rw [called, q_recvHighPriority]
    dsimp only
    rw [if_neg hblocked]
    split_ifs
    · exact (List.dropLast_sublist (p :: s.q)).tail
    · exact List.Sublist.refl s.q

/-- In byte mode a call leaves the queue below its limit if and only if it makes room. -/
theorem belowLimit_called_iff (h : s.BelowLimit) (hqib : s.config.qib = true) (call : Call) :
    (s.called call).BelowLimit ↔ s.MakesRoom call := by
  cases call with
  | enque p => exact belowLimit_enque_iff h hqib
  | recvHighPriority p => exact belowLimit_recvHighPriority_iff h
  | deque =>
    refine iff_of_true (belowLimit_of_sublist h (qlimBytes_called s .deque) ?_) trivial
    rw [called, q_deque]
    exact List.tail_sublist s.q

/-! ### Runs -/

/-- In every run of calls on an empty queue in byte mode, the queue is below its limit after every
call if and only if each call makes room for its packet. -/
theorem below_limit_iff (s : DropTailHSNTG) (calls : List Call) (hqib : s.config.qib = true)
    (hlim : 0 < s.config.qlim * s.config.meanPktsize) (hq : s.q = []) :
    Throughout step BelowLimit s calls ↔ StepsMeet step MakesRoom s calls := by
  have h0 : s.config.qib = true ∧ s.BelowLimit := by
    refine ⟨hqib, ?_⟩
    rw [BelowLimit, hq]
    exact hlim
  refine throughout_iff_of_any
    (I := fun s : DropTailHSNTG => s.config.qib = true ∧ s.BelowLimit) ?_ (fun _ h => h.2) ?_ h0
    calls
  · rintro s call t ⟨hqib, h⟩ hroom hstep
    obtain rfl : s.called call = t := Except.ok.inj hstep
    exact ⟨by rwa [config_called], (belowLimit_called_iff h hqib call).2 hroom⟩
  · rintro s call ⟨hqib, h⟩ hroom
    exact ⟨s.called call, rfl, fun ht => hroom ((belowLimit_called_iff h hqib call).1 ht)⟩

/-- A queue for 1000 bytes, which drops at the head or at the tail. -/
def sampleBytes (dropFront : Bool) : DropTailHSNTG :=
  { config := ⟨2, true, dropFront, 500, true, true⟩ }

/-- The calls of `enque` for packets of these sizes. -/
def enques (sizes : List ℕ) : List Call := sizes.map fun n => .enque ⟨0, .other 2, n⟩

theorem below_limit_of_exchange :
    Throughout step BelowLimit (sampleBytes true) (enques [800, 500, 400]) :=
  (below_limit_iff (sampleBytes true) _ rfl (by decide) rfl).2
    (.cons (fun _ => by decide) rfl (.cons (fun _ => by decide) rfl
      (.cons (fun _ => by decide) rfl trivial)))

/-- A packet of 100 bytes goes out at the head for one of 500, and a routing packet of 1500 bytes
comes in. -/
theorem over_limit :
    (∃ s, runSteps step (sampleBytes true) (enques [100, 800, 500]) = .ok s ∧
      s.q.byteLength = 1300 ∧ s.qlimBytes = 1000 ∧
      ¬ Throughout step BelowLimit (sampleBytes true) (enques [100, 800, 500])) ∧
    ∃ s, runSteps step (sampleBytes false)
        [.recvHighPriority ⟨0, .aodv, 60⟩, .recvHighPriority ⟨1, .aodv, 1500⟩] = .ok s ∧
      s.q.byteLength = 1500 ∧ s.qlimBytes = 1000 ∧
      ¬ Throughout step BelowLimit (sampleBytes false)
        [.recvHighPriority ⟨0, .aodv, 60⟩, .recvHighPriority ⟨1, .aodv, 1500⟩] := by
  constructor
  · obtain ⟨s, hrun, hbytes, hlim⟩ :
        ∃ s, runSteps step (sampleBytes true) (enques [100, 800, 500]) = .ok s ∧
          s.q.byteLength = 1300 ∧ s.qlimBytes = 1000 := ⟨_, rfl, by decide, by decide⟩
    refine ⟨s, hrun, hbytes, hlim, fun h => ?_⟩
    have hbelow := h.last hrun
    rw [BelowLimit, hbytes, hlim] at hbelow
    exact absurd hbelow (by decide)
  · obtain ⟨s, hrun, hbytes, hlim⟩ :
        ∃ s, runSteps step (sampleBytes false)
            [.recvHighPriority ⟨0, .aodv, 60⟩, .recvHighPriority ⟨1, .aodv, 1500⟩] = .ok s ∧
          s.q.byteLength = 1500 ∧ s.qlimBytes = 1000 := ⟨_, rfl, by decide, by decide⟩
    refine ⟨s, hrun, hbytes, hlim, fun h => ?_⟩
    have hbelow := h.last hrun
    rw [BelowLimit, hbytes, hlim] at hbelow
    exact absurd hbelow (by decide)

end DropTailHSNTG

end SipNemo
