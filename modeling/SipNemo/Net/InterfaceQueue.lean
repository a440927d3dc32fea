import Mathlib.Tactic

/-!
# The interface queue

`DropTailHSNTG` of `drop-tail-hsntg.cc` and `PriQueueHSNTG` of `priqueue-hsntg.cc`, over the
`PacketQueue` and the `Queue` of ns-2.  A `PriQueueHSNTG` inserts the packets of four routing
protocols at the head and drops the last packet when there are too many; all others go through
`enque`.  In packet mode, with drops at the tail, it keeps its limit, its order and every packet
(`orderly_run`).
-/

namespace SipNemo

/-- The types of packets that `recv` tells apart. -/
inductive QueuedType
  | dsr
  | message
  | tora
  | aodv
  | other (type : ℕ)
  deriving DecidableEq, Repr

/-- A packet as the queue sees it. -/
structure QueuedPacket where
  uid : ℕ
  ptype : QueuedType
  size : ℕ
  deriving DecidableEq, Repr

/-- `recv` prefers the packet. -/
def QueuedPacket.isRouting (p : QueuedPacket) : Bool :=
  match p.ptype with
  | .dsr | .message | .tora | .aodv => true
  | .other _ => false

/-! ### `PacketQueue` -/

/-- `PacketQueue`, from the head; the packets are the nodes of the list. -/
abbrev PacketQueue := List QueuedPacket

namespace PacketQueue

variable (q : PacketQueue)

/-- `byteLength`. -/
def byteLength : ℕ := (q.map QueuedPacket.size).sum

/-- `enque`. -/
def enque (p : QueuedPacket) : PacketQueue := q ++ [p]

/-- `enqueHead`. -/
def enqueHead (p : QueuedPacket) : PacketQueue := p :: q

/-- `lookup`. -/
def lookup (n : ℕ) : Option QueuedPacket := q[n]?

/-- `remove` of the packet that `lookup` returns for `n`. -/
def remove (n : ℕ) : PacketQueue := q.eraseIdx n

end PacketQueue

/-! ### The queues -/

/-- The settings of a queue; `isMac` says that `target_` is a `Mac`. -/
structure QueueConfig where
  qlim : ℤ
  qib : Bool
  dropFront : Bool
  meanPktsize : ℤ
  unblockOnResume : Bool
  isMac : Bool
  deriving DecidableEq, Repr

/-- The calls of the `Mac` about the queue. -/
inductive MacCall
  | queuePacketLoss
  | updateQueueStats (length : ℕ)
  deriving DecidableEq, Repr

/-- A packet that is dropped, and the queue without it. -/
structure Drop where
  packet : QueuedPacket
  queued : PacketQueue
  deriving DecidableEq, Repr

/-- `DropTailHSNTG`.  The source does not have the last three fields: the packets that `deque` has
returned and that have been dropped, and the calls of the `Mac`. -/
structure DropTailHSNTG where
  config : QueueConfig
  q : PacketQueue := []
  blocked : Bool := false
  sent : List QueuedPacket := []
  dropped : List Drop := []
  macCalls : List MacCall := []
  deriving DecidableEq, Repr

namespace DropTailHSNTG

variable (s : DropTailHSNTG)

/-- `drop`. -/
def drop (p : QueuedPacket) : DropTailHSNTG := { s with dropped := s.dropped ++ [⟨p, s.q⟩] }

/-- A call of the target, if it is a `Mac`. -/
def callMac (call : MacCall) : DropTailHSNTG :=
  if s.config.isMac then { s with macCalls := s.macCalls ++ [call] } else s

/-- `qlimBytes`. -/
def qlimBytes : ℤ := s.config.qlim * s.config.meanPktsize

/-- "the queue would overflow if we added this packet". -/
def overflows (p : QueuedPacket) : Bool :=
  (!s.config.qib && decide (s.config.qlim ≤ s.q.length + 1)) ||
    (s.config.qib && decide (s.qlimBytes ≤ s.q.byteLength + p.size))

/-- A packet that does not fit: it is dropped, or the one at the head is. -/
def refuse (p : QueuedPacket) : DropTailHSNTG :=
  if s.config.dropFront then
    match s.q.enque p with
    | pp :: rest => { s with q := rest }.drop pp
    | [] => s
  else s.drop p

/-- The packet is queued, if there is room. -/
def place (p : QueuedPacket) : DropTailHSNTG :=
  if s.overflows p then (s.refuse p).callMac .queuePacketLoss
  else { s with q := s.q.enque p }

/-- `enque`. -/
def enque (p : QueuedPacket) : DropTailHSNTG :=
  let s := s.place p
  s.callMac (.updateQueueStats s.q.length)

/-- `deque`. -/
def deque : DropTailHSNTG × Option QueuedPacket :=
  match s.q with
  | [] => (s, none)
  | p :: rest => ({ s with q := rest, sent := s.sent ++ [p] }, some p)

/-- "We're not blocked. Get a packet and send it on." -/
def sendNext : DropTailHSNTG :=
  if s.blocked then s
  else
    match s.deque with
    | (s, some _) => { s with blocked := true }
    | (s, none) => s

/-- `Queue::recv`. -/
def recv (p : QueuedPacket) : DropTailHSNTG := (s.enque p).sendNext

/-- `Queue::resume`. -/
def resume : DropTailHSNTG :=
  match s.deque with
  | (s, some _) => s
  | (s, none) => { s with blocked := !s.config.unblockOnResume }

end DropTailHSNTG

namespace PriQueueHSNTG

/-- The last packet goes when there are too many. -/
def dropLast (s : DropTailHSNTG) : DropTailHSNTG :=
  if s.config.qlim ≤ s.q.length then
    match s.q.lookup (s.q.length - 1) with
    | some toDrop =>
      ({ s with q := s.q.remove (s.q.length - 1) }.drop toDrop).callMac .queuePacketLoss
    | none => s
  else s

/-- `recvHighPriority`. -/
def recvHighPriority (s : DropTailHSNTG) (p : QueuedPacket) : DropTailHSNTG :=
  let s := dropLast { s with q := s.q.enqueHead p }
  let s := s.sendNext
  s.callMac (.updateQueueStats s.q.length)

/-- `recv`, where the queue prefers routing protocols or does not. -/
def recv (prefer : Bool) (s : DropTailHSNTG) (p : QueuedPacket) : DropTailHSNTG :=
  if prefer then
    if p.isRouting then recvHighPriority s p else s.recv p
  else s.recv p

/-- What happens to the queue. -/
inductive Event
  | recv (p : QueuedPacket)
  | deque
  | resume
  deriving DecidableEq, Repr

/-- The state of a queue that prefers routing protocols after an event. -/
def after (s : DropTailHSNTG) : Event → DropTailHSNTG
  | .recv p => recv true s p
  | .deque => s.deque.1
  | .resume => s.resume

/-- The state after the events, in order. -/
def run (s : DropTailHSNTG) (events : List Event) : DropTailHSNTG := events.foldl after s

/-- The packets that come in, in order. -/
def arrivals (events : List Event) : List QueuedPacket :=
  events.flatMap fun
    | .recv p => [p]
    | .deque | .resume => []

end PriQueueHSNTG

/-! ### The settings -/

section Config

namespace DropTailHSNTG

variable (s : DropTailHSNTG) (p : QueuedPacket)

@[simp] theorem config_callMac (call : MacCall) : (s.callMac call).config = s.config := by
  unfold callMac
  split_ifs <;> rfl

@[simp] theorem config_refuse : (s.refuse p).config = s.config := by
  unfold refuse
  split_ifs
  · split <;> rfl
  · rfl

@[simp] theorem config_place : (s.place p).config = s.config := by
  unfold place
  split_ifs
  · rw [config_callMac, config_refuse]
  · rfl

@[simp] theorem config_enque : (s.enque p).config = s.config := by
  rw [enque, config_callMac, config_place]

@[simp] theorem config_deque : s.deque.1.config = s.config := by
  unfold deque
  split <;> rfl

@[simp] theorem config_sendNext : s.sendNext.config = s.config := by
  have hdeque := s.config_deque
  unfold sendNext
  split_ifs
  · rfl
  · split
    · next hs => rwa [hs] at hdeque
    · next hs => rwa [hs] at hdeque

@[simp] theorem config_resume : s.resume.config = s.config := by
  have hdeque := s.config_deque
  unfold resume
  split
  · next hs => rwa [hs] at hdeque
  · next hs => rwa [hs] at hdeque

end DropTailHSNTG

namespace PriQueueHSNTG

variable (s : DropTailHSNTG) (p : QueuedPacket)

@[simp] theorem config_dropLast : (dropLast s).config = s.config := by
  unfold dropLast
  split_ifs
  · split
    · rw [DropTailHSNTG.config_callMac, DropTailHSNTG.drop]
    · rfl
  · rfl

@[simp] theorem config_recvHighPriority : (recvHighPriority s p).config = s.config := by
  simp [recvHighPriority]

theorem config_after (e : Event) : (after s e).config = s.config := by
  cases e with
  | recv p => by_cases hp : p.isRouting = true <;> simp [after, recv, hp, DropTailHSNTG.recv]
  | deque => exact s.config_deque
  | resume => exact s.config_resume

end PriQueueHSNTG

end Config

/-! ### Two blocks -/

/-- A block of routing packets, followed by a block of others. -/
def Blocks (q : PacketQueue) : Prop :=
  ∃ urgent normal, q = urgent ++ normal ∧ (∀ p ∈ urgent, p.isRouting = true) ∧
    ∀ p ∈ normal, p.isRouting = false

namespace Blocks

variable {q q' : PacketQueue} {p : QueuedPacket}

theorem nil : Blocks [] := ⟨[], [], rfl, by simp, by simp⟩

theorem cons (h : Blocks q) (hp : p.isRouting = true) : Blocks (p :: q) := by
  obtain ⟨urgent, normal, rfl, hurgent, hnormal⟩ := h
  exact ⟨p :: urgent, normal, rfl, List.forall_mem_cons.2 ⟨hp, hurgent⟩, hnormal⟩

theorem concat (h : Blocks q) (hp : p.isRouting = false) : Blocks (q ++ [p]) := by
  obtain ⟨urgent, normal, rfl, hurgent, hnormal⟩ := h
  refine ⟨urgent, normal ++ [p], by rw [List.append_assoc], hurgent, fun r hr => ?_⟩
  rcases List.mem_append.1 hr with hr | hr
  · exact hnormal r hr
  · rwa [List.mem_singleton.1 hr]

theorem sublist (h : Blocks q) (hsub : q'.Sublist q) : Blocks q' := by
  obtain ⟨urgent, normal, rfl, hurgent, hnormal⟩ := h
  obtain ⟨a, b, rfl, ha, hb⟩ := List.sublist_append_iff.1 hsub
  exact ⟨a, b, rfl, fun r hr => hurgent r (ha.subset hr), fun r hr => hnormal r (hb.subset hr)⟩

/-- Before a routing packet there are only routing packets. -/
theorem forall_isRouting (h : Blocks (q ++ [p])) (hp : p.isRouting = true) :
    ∀ r ∈ q, r.isRouting = true := by
  obtain ⟨urgent, normal, heq, hurgent, hnormal⟩ := h
  rcases List.eq_nil_or_concat normal with rfl | ⟨front, r, rfl⟩
  · intro r hr
    refine hurgent r ?_
    rw [List.append_nil] at heq
    rw [← heq]
    exact List.mem_append_left _ hr
  · rw [List.concat_eq_append, ← List.append_assoc] at heq
    obtain rfl : p = r := List.singleton_inj.1 (List.append_inj' heq rfl).2
    rw [hnormal p (by simp)] at hp
    cases hp

end Blocks

/-! ### Packet mode -/

/-- The others of a list of packets. -/
def plain (l : List QueuedPacket) : List QueuedPacket := l.filter fun p => !p.isRouting

theorem plain_append (a b : List QueuedPacket) : plain (a ++ b) = plain a ++ plain b :=
  List.filter_append a b

theorem plain_of_isRouting {p : QueuedPacket} (h : p.isRouting = true) : plain [p] = [] := by
  simp [plain, h]

namespace DropTailHSNTG

/-- The queue counts packets, and drops at the tail. -/
structure PacketMode (s : DropTailHSNTG) : Prop where
  qib : s.config.qib = false
  dropFront : s.config.dropFront = false
  qlim : 1 ≤ s.config.qlim

theorem PacketMode.of_config {s t : DropTailHSNTG} (h : s.PacketMode) (ht : t.config = s.config) :
    t.PacketMode := by
  refine ⟨?_, ?_, ?_⟩
  · rw [ht]
    exact h.qib
  · rw [ht]
    exact h.dropFront
  · rw [ht]
    exact h.qlim

/-- Nothing has come in yet. -/
structure Fresh (s : DropTailHSNTG) : Prop where
  q : s.q = []
  sent : s.sent = []
  dropped : s.dropped = []

/-- Where a packet that has come in can be. -/
def places (s : DropTailHSNTG) : List QueuedPacket := s.q ++ s.sent ++ s.dropped.map Drop.packet

/-- After the packets `arrived` have come in, the queue is below its limit and in two blocks; those
that are not routing packets go out in the order in which they have come in; a routing packet is
dropped only when there are no others; and each packet that has come in is in one place. -/
structure Orderly (arrived : List QueuedPacket) (s : DropTailHSNTG) : Prop where
  length_le : s.q.length ≤ s.config.qlim - 1
  blocks : Blocks s.q
  inOrder : (plain s.sent ++ plain s.q).Sublist (plain arrived)
  dropped : ∀ d ∈ s.dropped, d.packet.isRouting = true → ∀ p ∈ d.queued, p.isRouting = true
  places : arrived.Perm s.places

variable {arrived : List QueuedPacket} {s : DropTailHSNTG} {p : QueuedPacket}

theorem Fresh.orderly (h : s.Fresh) (hmode : s.PacketMode) : s.Orderly [] where
  length_le := by
    have hlim := hmode.qlim
    rw [h.q]
    simp
    omega
  blocks := by
    rw [h.q]
    exact .nil
  inOrder := by
    rw [h.q, h.sent]
    exact List.nil_sublist _
  dropped := by
    rw [h.dropped]
    exact fun d hd => absurd hd List.not_mem_nil
  places := by
    rw [DropTailHSNTG.places, h.q, h.sent, h.dropped]
    rfl

theorem Orderly.count_places (h : s.Orderly arrived) (a : QueuedPacket) : arrived.count a =
    s.q.count a + s.sent.count a + (s.dropped.map Drop.packet).count a := by
  rw [h.places.count_eq, DropTailHSNTG.places, List.count_append, List.count_append]

/-- The calls of the `Mac` change nothing else. -/
theorem Orderly.callMac (h : s.Orderly arrived) (call : MacCall) :
    (s.callMac call).Orderly arrived := by
  unfold DropTailHSNTG.callMac
  split_ifs
  · exact { h with }
  · exact h

theorem Orderly.dropNew (h : s.Orderly arrived) (hp : p.isRouting = false) :
    (s.drop p).Orderly (arrived ++ [p]) where
  length_le := h.length_le
  blocks := h.blocks
  inOrder := by
    show (plain s.sent ++ plain s.q).Sublist (plain (arrived ++ [p]))
    rw [plain_append]
    exact h.inOrder.trans (List.sublist_append_left _ _)
  dropped := by
    intro d hd hrouting
    rcases List.mem_append.1 hd with hd | hd
    · exact h.dropped d hd hrouting
    · rw [List.mem_singleton.1 hd, hp] at hrouting
      cases hrouting
  places := by
    show (arrived ++ [p]).Perm
      (s.q ++ s.sent ++ (s.dropped ++ [(⟨p, s.q⟩ : Drop)]).map Drop.packet)
    rw [List.map_append, ← List.append_assoc]
    exact h.places.append_right [p]

theorem Orderly.queueNew (h : s.Orderly arrived) (hp : p.isRouting = false)
    (hroom : (s.q.length : ℤ) + 1 < s.config.qlim) :
    { s with q := s.q.enque p }.Orderly (arrived ++ [p]) where
  length_le := by
    show ((s.q ++ [p]).length : ℤ) ≤ s.config.qlim - 1
    rw [List.length_append, List.length_singleton]
    push_cast
    omega
  blocks := h.blocks.concat hp
  inOrder := by
    show (plain s.sent ++ plain (s.q ++ [p])).Sublist (plain (arrived ++ [p]))
    rw [plain_append, plain_append, ← List.append_assoc]
    exact h.inOrder.append_right _
  dropped := h.dropped
  places := by
    show (arrived ++ [p]).Perm (s.q ++ [p] ++ s.sent ++ s.dropped.map Drop.packet)
    refine List.perm_iff_count.2 fun a => ?_
    have hcount := h.count_places a
    simp only [List.count_append] at hcount ⊢
    omega

/-- A packet that is not a routing packet comes in. -/
theorem Orderly.enque (h : s.Orderly arrived) (hmode : s.PacketMode) (hp : p.isRouting = false) :
    (s.enque p).Orderly (arrived ++ [p]) := by
  have hover : s.overflows p = true ↔ s.config.qlim ≤ s.q.length + 1 := by
    rw [overflows, hmode.qib]
    simp
  have hrefuse : s.refuse p = s.drop p := by simp [refuse, hmode.dropFront]
  refine Orderly.callMac ?_ _
  rw [place, hrefuse]
  split_ifs with hlim
  · exact (h.dropNew hp).callMac _
  · rw [hover, not_le] at hlim
    exact h.queueNew hp hlim

/-- One packet leaves the queue. -/
theorem Orderly.deque (h : s.Orderly arrived) : s.deque.1.Orderly arrived := by
  unfold DropTailHSNTG.deque
  split
  · exact h
  · next p rest hq =>
    have hlen := h.length_le
    have hblocks := h.blocks
    have horder := h.inOrder
    rw [hq] at hlen hblocks horder
    refine ⟨?_, hblocks.sublist (List.sublist_cons_self p rest), ?_, h.dropped, ?_⟩
    · simp only [List.length_cons] at hlen
      show (rest.length : ℤ) ≤ s.config.qlim - 1
      omega
    · show (plain (s.sent ++ [p]) ++ plain rest).Sublist (plain arrived)
      rw [plain_append, List.append_assoc, ← plain_append]
      exact horder
    · refine List.perm_iff_count.2 fun a => ?_
      have hcount := h.count_places a
      rw [hq, List.count_cons] at hcount
      simp only [DropTailHSNTG.places, List.count_append, List.count_singleton] at hcount ⊢
      omega

theorem Orderly.setBlocked (h : s.Orderly arrived) (b : Bool) :
    { s with blocked := b }.Orderly arrived :=
  { h with }

theorem Orderly.sendNext (h : s.Orderly arrived) : s.sendNext.Orderly arrived := by
  unfold DropTailHSNTG.sendNext
  have hdeque := h.deque
  split_ifs
  · exact h
  · split
    · next hs =>
      rw [hs] at hdeque
      exact hdeque.setBlocked true
    · next hs =>
      rw [hs] at hdeque
      exact hdeque

theorem Orderly.resume (h : s.Orderly arrived) : s.resume.Orderly arrived := by
  unfold DropTailHSNTG.resume
  have hdeque := h.deque
  split
  · next hs =>
    rw [hs] at hdeque
    exact hdeque
  · next hs =>
    rw [hs] at hdeque
    exact hdeque.setBlocked _

end DropTailHSNTG

namespace PacketQueue

/-- Looking up and removing the last packet. -/
theorem lookup_last (front : PacketQueue) (p : QueuedPacket) :
    lookup (front ++ [p]) ((front ++ [p]).length - 1) = some p := by
  simp [lookup]

theorem remove_last (front : PacketQueue) (p : QueuedPacket) :
    remove (front ++ [p]) ((front ++ [p]).length - 1) = front := by
  simp [remove, List.eraseIdx_append_of_length_le]

end PacketQueue

namespace PriQueueHSNTG

open DropTailHSNTG

variable {arrived : List QueuedPacket} {s : DropTailHSNTG} {p : QueuedPacket}

/-- `dropLast`, where the queue has a last packet. -/
theorem dropLast_of_concat {front : PacketQueue} {last : QueuedPacket}
    (hq : s.q = front ++ [last]) :
    dropLast s =
      if s.config.qlim ≤ s.q.length then
        ({ s with q := front }.drop last).callMac .queuePacketLoss
      else s := by
  rw [dropLast, hq, PacketQueue.lookup_last, PacketQueue.remove_last]

theorem orderly_insert (h : s.Orderly arrived) (hp : p.isRouting = true)
    (hroom : (s.q.length : ℤ) + 1 < s.config.qlim) :
    { s with q := s.q.enqueHead p }.Orderly (arrived ++ [p]) where
  length_le := by
    show ((p :: s.q).length : ℤ) ≤ s.config.qlim - 1
    rw [List.length_cons]
    push_cast
    omega
  blocks := h.blocks.cons hp
  inOrder := by
    show (plain s.sent ++ plain ([p] ++ s.q)).Sublist (plain (arrived ++ [p]))
    rw [plain_append, plain_append, plain_of_isRouting hp, List.nil_append, List.append_nil]
    exact h.inOrder
  dropped := h.dropped
  places := by
    show (arrived ++ [p]).Perm ([p] ++ s.q ++ s.sent ++ s.dropped.map Drop.packet)
    refine List.perm_iff_count.2 fun a => ?_
    have hcount := h.count_places a
    simp only [List.count_append] at hcount ⊢
    omega

theorem orderly_exchange (h : s.Orderly arrived) (hp : p.isRouting = true) {front : PacketQueue}
    {last : QueuedPacket} (hq : [p] ++ s.q = front ++ [last]) :
    ({ s with q := front }.drop last).Orderly (arrived ++ [p]) where
  length_le := by
    have hlen := congrArg List.length hq
    have hle := h.length_le
    simp only [List.length_append, List.length_singleton] at hlen
    show (front.length : ℤ) ≤ s.config.qlim - 1
    omega
  blocks := by
    have hblocks : Blocks (front ++ [last]) := hq ▸ h.blocks.cons hp
    exact hblocks.sublist (List.sublist_append_left front [last])
  inOrder := by
    show (plain s.sent ++ plain front).Sublist (plain (arrived ++ [p]))
    have hfront : (plain front).Sublist (plain s.q) := by
      have hall : plain s.q = plain front ++ plain [last] := by
        rw [← plain_append, ← hq, plain_append, plain_of_isRouting hp, List.nil_append]
      rw [hall]
      exact List.sublist_append_left _ _
    rw [plain_append, plain_of_isRouting hp, List.append_nil]
    exact (hfront.append_left _).trans h.inOrder
  dropped := by
    intro d hd hrouting
    rcases List.mem_append.1 hd with hd | hd
    · exact h.dropped d hd hrouting
    · -- the packet was the last one of two blocks
      obtain rfl := List.mem_singleton.1 hd
      have hblocks : Blocks (front ++ [last]) := hq ▸ h.blocks.cons hp
      exact hblocks.forall_isRouting hrouting
  places := by
    show (arrived ++ [p]).Perm
      (front ++ s.sent ++ (s.dropped ++ [(⟨last, front⟩ : Drop)]).map Drop.packet)
    refine List.perm_iff_count.2 fun a => ?_
    have hcount := h.count_places a
    have hall := congrArg (List.count a) hq
    simp only [List.count_append, List.map_append, List.map_cons, List.map_nil] at hcount hall ⊢
    omega

/-- A routing packet comes in; the last packet goes when there are too many. -/
theorem orderly_dropLast (h : s.Orderly arrived) (hp : p.isRouting = true) :
    (dropLast { s with q := s.q.enqueHead p }).Orderly (arrived ++ [p]) := by
  obtain ⟨front, last, hq⟩ : ∃ front last, [p] ++ s.q = front ++ [last] :=
    ⟨_, _, (List.dropLast_append_getLast (List.cons_ne_nil p s.q)).symm⟩
  rw [dropLast_of_concat hq]
  split_ifs with hlim
  · exact (orderly_exchange h hp hq).callMac _
  · refine orderly_insert h hp ?_
    rw [not_le] at hlim
    have hlen : ((s.q.enqueHead p).length : ℤ) < s.config.qlim := hlim
    rw [PacketQueue.enqueHead, List.length_cons] at hlen
    exact_mod_cast hlen

theorem orderly_recvHighPriority (h : s.Orderly arrived) (hp : p.isRouting = true) :
    (recvHighPriority s p).Orderly (arrived ++ [p]) :=
  (orderly_dropLast h hp).sendNext.callMac _

/-- Every event leaves the queue in order. -/
theorem orderly_after (h : s.Orderly arrived) (hmode : s.PacketMode) (e : Event) :
    (after s e).Orderly (arrived ++ arrivals [e]) := by
  cases e with
  | recv p =>
    show (recv true s p).Orderly (arrived ++ [p])
    cases hp : p.isRouting with
    | true =>
      rw [recv, if_pos rfl, if_pos hp]
      exact orderly_recvHighPriority h hp
    | false =>
      rw [recv, if_pos rfl, hp]
      exact (h.enque hmode hp).sendNext
  | deque => exact (List.append_nil arrived).symm ▸ h.deque
  | resume => exact (List.append_nil arrived).symm ▸ h.resume

theorem orderly_run_of_orderly (h : s.Orderly arrived) (hmode : s.PacketMode)
    (events : List Event) : (run s events).Orderly (arrived ++ arrivals events) := by
  induction events generalizing s arrived with
  | nil => exact (List.append_nil arrived).symm ▸ h
  | cons e events ih =>
    have hrest := ih (orderly_after h hmode e) (hmode.of_config (config_after s e))
    rwa [List.append_assoc, arrivals, arrivals, ← List.flatMap_append] at hrest

/-- From an empty queue that counts packets, drops at the tail and prefers routing protocols, every
sequence of events leads to a queue in order: no packet of a `recv` is lost, queued twice or taken
out of turn. -/
theorem orderly_run (s : DropTailHSNTG) (h0 : s.Fresh) (hmode : s.PacketMode)
    (events : List Event) : (run s events).Orderly (arrivals events) :=
  orderly_run_of_orderly (h0.orderly hmode) hmode events

/-- A queue with room for two packets. -/
def sampleQueue : DropTailHSNTG := { config := ⟨3, false, false, 500, true, true⟩ }

/-- One packet goes out, two are queued, and a routing packet takes the place of the second. -/
theorem orderly_run_sample :
    (run sampleQueue [.recv ⟨0, .other 2, 100⟩, .recv ⟨1, .other 2, 100⟩, .recv ⟨2, .other 2, 100⟩,
      .recv ⟨3, .aodv, 60⟩, .resume]).Orderly
      [⟨0, .other 2, 100⟩, ⟨1, .other 2, 100⟩, ⟨2, .other 2, 100⟩, ⟨3, .aodv, 60⟩] :=
  orderly_run sampleQueue ⟨rfl, rfl, rfl⟩ ⟨rfl, rfl, by decide⟩
    [.recv ⟨0, .other 2, 100⟩, .recv ⟨1, .other 2, 100⟩, .recv ⟨2, .other 2, 100⟩,
      .recv ⟨3, .aodv, 60⟩, .resume]

example : (run sampleQueue [.recv ⟨0, .other 2, 100⟩, .recv ⟨1, .other 2, 100⟩,
    .recv ⟨2, .other 2, 100⟩, .recv ⟨3, .aodv, 60⟩, .resume]).sent.map (·.uid) = [0, 3] := by
  decide

end PriQueueHSNTG

end SipNemo
