import SipNemo.Lib.Stutter
import SipNemo.Mac.Transmit

/-!
# Packets that are sent again

A data packet is numbered by `send` and sent again until it is acknowledged or given up; `recvDATA`
acknowledges what it gets and passes on what does not have the number of the last packet from the
same MAC.  Any number of MACs send to one another; frames and acknowledgements get lost, and their
exchanges come in any order.

`passed_iff`: every packet that was got is passed on once, as long as no packet with the number 0,
or from a MAC beyond the cache, is got again, and none comes with the number of the last one got
from its sender.  `exactly_once` is what this means for the first `2 ^ 16 - 1` packets of a MAC.
-/

namespace SipNemo.Mac

open Mih (MacAddr)
open Runs Stutter

/-- A data packet, with `dh_ta`, `dh_ra` and `dh_scontrol`; `number` says how many packets its
sender had been handed before, which the source does not count. -/
structure DataPacket where
  src : MacAddr
  dst : MacAddr
  scontrol : ℕ
  number : ℕ
  deriving DecidableEq, Repr

/-- What a MAC has of data packets: `cache` is the array `cache_`, `up` what it has passed to the
link layer.  The source has no record of how many packets it was handed, which of them were
acknowledged and the numbers of those it got from each MAC. -/
structure DataMac where
  cacheNodeCount : ℕ
  staSeqno : ℕ := 1
  pktTx : Option DataPacket := none
  cache : MacAddr → ℕ := fun _ => 0
  up : List DataPacket := []
  handed : ℕ := 0
  answered : Bool := false
  acked : List DataPacket := []
  got : MacAddr → List ℕ := fun _ => []

namespace DataMac

variable (m : DataMac)

/-- The packet is the next data frame, with the next number. -/
def sent (index dst : MacAddr) : DataMac :=
  { m with
    pktTx := some { src := index, dst := dst, scontrol := m.staSeqno, number := m.handed }
    staSeqno := (m.staSeqno + 1) % 2 ^ 16
    handed := m.handed + 1
    answered := false }

/-- The end of `send`. -/
def send (index dst : MacAddr) : Act DataMac := do
  assertThat (m.pktTx = none)
  .ok (m.sent index dst)

/-- The packet is passed to the link layer. -/
def pass (p : DataPacket) : DataMac := { m with up := m.up ++ [p] }

/-- `recvDATA` after the acknowledgement. -/
def recvDATA (p : DataPacket) : DataMac :=
  if p.dst ≠ macBroadcast then
    if p.src.toNat < m.cacheNodeCount then
      if m.cache p.src ≠ 0 ∧ m.cache p.src = p.scontrol then m
      else { m with cache := Function.update m.cache p.src p.scontrol }.pass p
    else m.pass p
  else m.pass p

/-- The data frame of a packet for this MAC is got: it is recorded, and `recvDATA` has it. -/
def gets (p : DataPacket) : DataMac :=
  { m with got := Function.update m.got p.src (m.got p.src ++ [p.number]) }.recvDATA p

/-- The packet is not needed any more. -/
def free : DataMac := { m with pktTx := none, answered := false }

/-- The numbers of the packets from a MAC that were passed on. -/
def passed (src : MacAddr) : List ℕ :=
  (m.up.filter fun p => p.src = src ∧ p.dst ≠ macBroadcast).map (·.number)

end DataMac

/-- The MACs of a channel. -/
abbrev Channel := MacAddr → DataMac

namespace Channel

/-- A packet is handed to a MAC; its data frame reaches the MAC it is for, or those that hear a
broadcast; the acknowledgement of what that MAC got reaches it; it gives the packet up. -/
inductive Event
  | send (a dst : MacAddr)
  | data (a : MacAddr)
  | broadcast (a : MacAddr) (rs : MacAddr → Bool)
  | ack (a : MacAddr)
  | giveUp (a : MacAddr)

variable (c : Channel)

/-- One event. -/
def step : Event → Act Channel
  | .send a dst => do
    let m ← (c a).send a dst
    .ok (Function.update c a m)
  | .data a => do
    let p ← deref (c a).pktTx
    let c : Channel := Function.update c p.dst ((c p.dst).gets p)
    .ok (Function.update c a { c a with answered := true })
  | .broadcast a rs => do
    let p ← deref (c a).pktTx
    .ok fun r => if r = a then (c a).free else if rs r then (c r).recvDATA p else c r
  | .ack a => do
    let p ← deref (c a).pktTx
    .ok (Function.update c a { (c a).free with acked := (c a).acked ++ [p] })
  | .giveUp a => .ok (Function.update c a (c a).free)

/-- A MAC does not hear itself, a unicast frame is taken by the MAC it is for, and an
acknowledgement comes from there. -/
def Occurs : Event → Prop
  | .send a dst => (c a).pktTx = none ∧ dst ≠ a
  | .data a => ∃ p ∈ (c a).pktTx, p.dst ≠ macBroadcast
  | .broadcast a rs => ¬ rs a ∧ ∃ p ∈ (c a).pktTx, p.dst = macBroadcast
  | .ack a => (c a).answered = true
  | .giveUp _ => True

instance : ∀ e, Decidable (c.Occurs e)
  | .send _ _ => inferInstanceAs (Decidable (_ ∧ _))
  | .data a =>
    match h : (c a).pktTx with
    | none => isFalse fun ⟨p, hp, _⟩ => by rw [h] at hp; cases hp
    | some p => decidable_of_iff (p.dst ≠ macBroadcast) (by simp [Occurs, h])
  | .broadcast a rs =>
    match h : (c a).pktTx with
    | none => isFalse fun ⟨_, p, hp, _⟩ => by rw [h] at hp; cases hp
    | some p => decidable_of_iff (¬ rs a ∧ p.dst = macBroadcast) (by simp [Occurs, h])
  | .ack _ => inferInstanceAs (Decidable (_ = _))
  | .giveUp _ => isTrue trivial

/-- The MACs before they have sent anything. -/
def fresh (count : MacAddr → ℕ) : Channel := fun r => { cacheNodeCount := count r }

/-- `dh_scontrol` of the packet before which `n` were handed to the MAC. -/
def label (n : ℕ) : ℕ := (n + 1) % 2 ^ 16

/-- The packet is found to be the last one from its sender again, or found not to be. -/
def Recognized (m : DataMac) (p : DataPacket) : Prop :=
  if (m.got p.src).getLast? = some p.number then
    p.src.toNat < m.cacheNodeCount ∧ label p.number ≠ 0
  else
    p.src.toNat < m.cacheNodeCount →
      ∀ n ∈ (m.got p.src).getLast?, label n = 0 ∨ label n ≠ label p.number

instance (m : DataMac) (p : DataPacket) : Decidable (Recognized m p) := by
  unfold Recognized
  infer_instance

/-- Each data frame is recognized by the MAC it is for. -/
def Recognizes : Event → Prop
  | .data a => ∀ p ∈ (c a).pktTx, Recognized (c p.dst) p
  | _ => True

instance : ∀ e, Decidable (c.Recognizes e)
  | .data a => inferInstanceAs (Decidable (∀ p ∈ (c a).pktTx, Recognized (c p.dst) p))
  | .send _ _ | .broadcast _ _ | .ack _ | .giveUp _ => isTrue trivial

/-- Every packet that was got is passed on once. -/
def PassesOnce : Prop := ∀ r a, (c r).passed a = ((c r).got a).destutter (· ≠ ·)

/-- What holds of the numbers in every state: those of a MAC come in order, the cache has the last
one, and what is acknowledged was got. -/
structure Numbered : Prop where
  seqno : ∀ a, (c a).staSeqno = label (c a).handed
  tx : ∀ a, ∀ p ∈ (c a).pktTx,
    p.src = a ∧ p.dst ≠ a ∧ p.scontrol = label p.number ∧ p.number + 1 = (c a).handed
  got_lt : ∀ r a, ∀ n ∈ (c r).got a, n < (c a).handed
  sorted : ∀ r a, ((c r).got a).Pairwise (· ≤ ·)
  cache : ∀ r a, a.toNat < (c r).cacheNodeCount →
    (c r).cache a = ((c r).got a).getLast?.elim 0 label
  answered : ∀ a, (c a).answered = true → ∃ p ∈ (c a).pktTx, p.number ∈ (c p.dst).got a
  acked : ∀ a, ∀ p ∈ (c a).acked, p.number ∈ (c p.dst).got a

end Channel

namespace Channel

variable {c c' : Channel} {a r : MacAddr} {m : DataMac} {p : DataPacket} {e : Event}

/-- A value that a MAC keeps is kept by all of them. -/
theorem update_eq {β : Type*} {f : DataMac → β} (h : f m = f (c a)) (r : MacAddr) :
    f (Function.update c a m r) = f (c r) := by
  by_cases hr : r = a
  · subst hr
    rw [Function.update_self, h]
  · rw [Function.update_of_ne hr]

theorem numbered_fresh (count : MacAddr → ℕ) : (fresh count).Numbered where
  seqno _ := rfl
  tx _ _ hp := by cases hp
  got_lt _ _ _ hn := by cases hn
  sorted _ _ := List.Pairwise.nil
  cache _ _ _ := rfl
  answered _ h := by cases h
  acked _ _ hp := by cases hp

/-- What a MAC does as a sender. -/
theorem Numbered.sender (h : c.Numbered) (hgot : m.got = (c a).got)
    (hcache : m.cache = (c a).cache) (hcount : m.cacheNodeCount = (c a).cacheNodeCount)
    (hseqno : m.staSeqno = label m.handed) (hle : (c a).handed ≤ m.handed)
    (htx : ∀ p ∈ m.pktTx,
      p.src = a ∧ p.dst ≠ a ∧ p.scontrol = label p.number ∧ p.number + 1 = m.handed)
    (hanswered : m.answered = true → ∃ p ∈ m.pktTx, p.number ∈ (c p.dst).got a)
    (hacked : ∀ p ∈ m.acked, p.number ∈ (c p.dst).got a) :
    Numbered (Function.update c a m) := by
  have hgots : ∀ r, (Function.update c a m r).got = (c r).got := update_eq hgot
  have hhanded : ∀ b, (c b).handed ≤ (Function.update c a m b).handed := by
    intro b
    by_cases hb : b = a
    · subst hb
      simpa using hle
    · simp [hb]
  constructor
  case seqno =>
    intro b
    by_cases hb : b = a
    · subst hb
      simpa using hseqno
    · simpa [hb] using h.seqno b
  case tx =>
    intro b
    by_cases hb : b = a
    · subst hb
      simpa using htx
    · simpa [hb] using h.tx b
  case got_lt =>
    intro r b n hn
    rw [hgots] at hn
    exact lt_of_lt_of_le (h.got_lt r b n hn) (hhanded b)
  case sorted =>
    intro r b
    rw [hgots]
    exact h.sorted r b
  case cache =>
    intro r b hb
    rw [update_eq hcount] at hb
    rw [hgots, update_eq hcache]
    exact h.cache r b hb
  case answered =>
    intro b
    simp only [hgots]
    by_cases hb : b = a
    · subst hb
      simpa using hanswered
    · simpa [hb] using h.answered b
  case acked =>
    intro b
    simp only [hgots]
    by_cases hb : b = a
    · subst hb
      simpa using hacked
    · simpa [hb] using h.acked b

end Channel

namespace DataMac

variable {m : DataMac} {p : DataPacket} {a : MacAddr}

/-- What `recvDATA` leaves as it is. -/
theorem recvDATA_same :
    (m.recvDATA p).cacheNodeCount = m.cacheNodeCount ∧ (m.recvDATA p).staSeqno = m.staSeqno ∧
    (m.recvDATA p).pktTx = m.pktTx ∧ (m.recvDATA p).handed = m.handed ∧
    (m.recvDATA p).answered = m.answered ∧ (m.recvDATA p).acked = m.acked ∧
    (m.recvDATA p).got = m.got := by
  simp only [recvDATA, pass]
  split_ifs <;> exact ⟨rfl, rfl, rfl, rfl, rfl, rfl, rfl⟩

/-- What `gets` leaves as it is. -/
theorem gets_same :
    (m.gets p).cacheNodeCount = m.cacheNodeCount ∧ (m.gets p).staSeqno = m.staSeqno ∧
    (m.gets p).pktTx = m.pktTx ∧ (m.gets p).handed = m.handed ∧
    (m.gets p).answered = m.answered ∧ (m.gets p).acked = m.acked ∧
    (m.gets p).got = Function.update m.got p.src (m.got p.src ++ [p.number]) :=
  recvDATA_same

theorem recvDATA_broadcast (hp : p.dst = macBroadcast) : m.recvDATA p = m.pass p := by
  simp [recvDATA, hp]

/-- The cache has the number of the packet, a repetition included. -/
theorem recvDATA_cache (hp : p.dst ≠ macBroadcast) (ha : a.toNat < m.cacheNodeCount) :
    (m.recvDATA p).cache a = if a = p.src then p.scontrol else m.cache a := by
  simp only [recvDATA, pass, if_pos hp]
  by_cases hsrc : a = p.src
  · subst hsrc
    rw [if_pos ha, if_pos rfl]
    split_ifs with hdup
    · exact hdup.2
    · exact Function.update_self ..
  · rw [if_neg hsrc]
    split_ifs <;> simp [Function.update_of_ne hsrc]

/-- `recvDATA` takes the packet for the last one from its sender. -/
def Discards (m : DataMac) (p : DataPacket) : Prop :=
  p.src.toNat < m.cacheNodeCount ∧ m.cache p.src ≠ 0 ∧ m.cache p.src = p.scontrol

instance : Decidable (Discards m p) := inferInstanceAs (Decidable (_ ∧ _ ∧ _))

theorem recvDATA_up (hp : p.dst ≠ macBroadcast) :
    (m.recvDATA p).up = if Discards m p then m.up else m.up ++ [p] := by
  simp only [recvDATA, pass, if_pos hp, Discards]
  by_cases hsrc : p.src.toNat < m.cacheNodeCount
  · simp only [hsrc, true_and, if_true]
    split_ifs <;> rfl
  · simp [hsrc]

theorem recvDATA_passed (hp : p.dst ≠ macBroadcast) :
    (m.recvDATA p).passed a =
      if p.src = a ∧ ¬ Discards m p then m.passed a ++ [p.number] else m.passed a := by
  have hup := recvDATA_up (m := m) hp
  by_cases hdup : Discards m p
  · rw [if_pos hdup] at hup
    simp [passed, hup, hdup]
  · rw [if_neg hdup] at hup
    by_cases ha : p.src = a <;> simp [passed, hup, hdup, ha, hp]

theorem gets_cache (hp : p.dst ≠ macBroadcast) (ha : a.toNat < m.cacheNodeCount) :
    (m.gets p).cache a = if a = p.src then p.scontrol else m.cache a :=
  recvDATA_cache hp ha

theorem gets_passed (hp : p.dst ≠ macBroadcast) :
    (m.gets p).passed a =
      if p.src = a ∧ ¬ Discards m p then m.passed a ++ [p.number] else m.passed a :=
  recvDATA_passed hp

end DataMac

namespace Channel

variable {c c' : Channel} {a r : MacAddr} {p : DataPacket} {e : Event}

/-- What is kept where only `up` changes. -/
theorem Numbered.of_up (h : c.Numbered) (hup : ∀ r, ∃ up, c' r = { c r with up := up }) :
    c'.Numbered := by
  choose up hup using hup
  obtain rfl : c' = fun r => { c r with up := up r } := funext hup
  exact ⟨h.seqno, h.tx, h.got_lt, h.sorted, h.cache, h.answered, h.acked⟩

/-- The MAC a data frame is for gets it. -/
theorem Numbered.receives (h : c.Numbered) (hp : p ∈ (c a).pktTx) (hdst : p.dst ≠ macBroadcast) :
    Numbered (Function.update c p.dst ((c p.dst).gets p)) := by
  obtain ⟨rfl, hne, hlabel, hnumber⟩ := h.tx a p hp
  obtain ⟨hcount, hseqno, htx, hhanded, hanswered, hacked, hgets⟩ :=
    DataMac.gets_same (m := c p.dst) (p := p)
  have hgot : ∀ r b, ((Function.update c p.dst ((c p.dst).gets p)) r).got b =
      if r = p.dst ∧ b = p.src then (c r).got b ++ [p.number] else (c r).got b := by
    intro r b
    by_cases hr : r = p.dst
    · subst hr
      rw [Function.update_self, hgets]
      by_cases hb : b = p.src
      · subst hb
        simp
      · simp [hb]
    · simp [hr]
  have hmono : ∀ {r b n}, n ∈ (c r).got b →
      n ∈ ((Function.update c p.dst ((c p.dst).gets p)) r).got b := by
    intro r b n hn
    rw [hgot]
    split_ifs
    · exact List.mem_append_left _ hn
    · exact hn
  constructor
  case seqno =>
    intro b
    rw [update_eq (f := (·.staSeqno)) hseqno, update_eq (f := (·.handed)) hhanded]
    exact h.seqno b
  case tx =>
    intro b q hq
    rw [update_eq (f := (·.pktTx)) htx] at hq
    rw [update_eq (f := (·.handed)) hhanded]
    exact h.tx b q hq
  case got_lt =>
    intro r b n hn
    rw [update_eq (f := (·.handed)) hhanded]
    rw [hgot] at hn
    split_ifs at hn with hrb
    · obtain ⟨rfl, rfl⟩ := hrb
      rcases List.mem_append.1 hn with hn | hn
      · exact h.got_lt _ _ n hn
      · obtain rfl := List.mem_singleton.1 hn
        omega
    · exact h.got_lt r b n hn
  case sorted =>
    intro r b
    rw [hgot]
    split_ifs with hrb
    · obtain ⟨rfl, rfl⟩ := hrb
      refine List.pairwise_append.2 ⟨h.sorted _ _, List.pairwise_singleton _ _, ?_⟩
      intro n hn k hk
      obtain rfl := List.mem_singleton.1 hk
      have := h.got_lt _ _ n hn
      omega
    · exact h.sorted r b
  case cache =>
    intro r b hb
    rw [update_eq (f := (·.cacheNodeCount)) hcount] at hb
    rw [hgot]
    by_cases hr : r = p.dst
    · subst hr
      rw [Function.update_self, DataMac.gets_cache hdst hb]
      by_cases hsrc : b = p.src
      · subst hsrc
        simp [hlabel]
      · simpa [hsrc] using h.cache _ b hb
    · simpa [hr] using h.cache r b hb
  case answered =>
    intro b hb
    rw [update_eq (f := (·.answered)) hanswered] at hb
    obtain ⟨q, hq, hmem⟩ := h.answered b hb
    rw [update_eq (f := (·.pktTx)) htx]
    exact ⟨q, hq, hmono hmem⟩
  case acked =>
    intro b q hq
    rw [update_eq (f := (·.acked)) hacked] at hq
    exact hmono (h.acked b q hq)

theorem Numbered.freed (h : c.Numbered) (a : MacAddr) :
    Numbered (Function.update c a (c a).free) :=
  h.sender rfl rfl rfl (h.seqno a) le_rfl (fun _ hp => by cases hp) (fun hans => by cases hans)
    (h.acked a)

theorem step_send (h : (c a).pktTx = none) (dst : MacAddr) :
    c.step (.send a dst) = .ok (Function.update c a ((c a).sent a dst)) := by
  simp only [step, DataMac.send, assertThat, if_pos h, ok_bind]

/-- The MAC `r` gets the packet `p` from the MAC `b`. -/
def Gets (c : Channel) (e : Event) (r b : MacAddr) (p : DataPacket) : Prop :=
  e = .data b ∧ p ∈ (c b).pktTx ∧ p.dst = r

/-- What a step makes of the packets that a MAC got from another. -/
theorem step_cases (h : c.Numbered) (ho : c.Occurs e) (hs : c.step e = .ok c') :
    c'.Numbered ∧ ∀ r b,
      ((∀ p, ¬ Gets c e r b p) ∧ (c' r).got b = (c r).got b ∧ (c' r).passed b = (c r).passed b) ∨
      ∃ p, Gets c e r b p ∧ (c' r).got b = (c r).got b ++ [p.number] ∧
        (c' r).passed b =
          if DataMac.Discards (c r) p then (c r).passed b else (c r).passed b ++ [p.number] := by
  cases e with
  | send a dst =>
    obtain ⟨hnone, hdst⟩ := ho
    rw [step_send hnone] at hs
    cases hs
    refine ⟨?_, fun r b => .inl ⟨(fun _ hg => by cases hg.1), ?_, ?_⟩⟩
    · refine h.sender rfl rfl rfl ?_ (Nat.le_succ _) ?_ (fun hans => by cases hans) (h.acked a)
      · simp [DataMac.sent, h.seqno a, label]
      · rintro p ⟨⟩
        exact ⟨rfl, hdst, h.seqno a, rfl⟩
    · refine update_eq (f := (·.got b)) ?_ r
      rfl
    · refine update_eq (f := (·.passed b)) ?_ r
      rfl
  | data a =>
    obtain ⟨p, hp, hdst⟩ := ho
    have hp' : (c a).pktTx = some p := hp
    obtain ⟨hsrc, hne, -⟩ := h.tx a p hp
    simp only [step, hp', deref, ok_bind] at hs
    cases hs
    have hc := h.receives hp hdst
    have ha : (Function.update c p.dst ((c p.dst).gets p)) a = c a := by simp [hne.symm]
    obtain ⟨-, -, -, -, -, -, hgets⟩ := DataMac.gets_same (m := c p.dst) (p := p)
    refine ⟨?_, fun r b => ?_⟩
    · refine hc.sender rfl rfl rfl (hc.seqno a) le_rfl (hc.tx a) (fun _ => ?_) (hc.acked a)
      refine ⟨p, by simpa only [ha] using hp, ?_⟩
      rw [Function.update_self, hgets, hsrc, Function.update_self]
      exact List.mem_append_right _ (List.mem_singleton_self _)
    · rw [update_eq (f := (·.got b)) (by rfl), update_eq (f := (·.passed b)) (by rfl)]
      by_cases hr : r = p.dst
      · subst hr
        rw [Function.update_self, hgets, DataMac.gets_passed hdst]
        by_cases hb : b = p.src
        · subst hb
          obtain rfl := hsrc
          refine .inr ⟨p, ⟨rfl, hp, rfl⟩, Function.update_self .., ?_⟩
          split_ifs with h1 h2 <;> simp_all
        · refine .inl ⟨?_, by simp [hb, Ne.symm hb]⟩
          rintro q ⟨he, -⟩
          cases he
          exact hb hsrc.symm
      · refine .inl ⟨?_, by simp [hr]⟩
        rintro q ⟨he, hq, hqr⟩
        cases he
        obtain rfl := Option.mem_unique hp hq
        exact hr hqr.symm
  | broadcast a rs =>
    obtain ⟨ha, p, hp, hdst⟩ := ho
    have hp' : (c a).pktTx = some p := hp
    simp only [step, hp', deref, ok_bind] at hs
    cases hs
    have hpass : ∀ r, (if rs r then (c r).recvDATA p else c r) =
        { c r with up := if rs r then (c r).up ++ [p] else (c r).up } := by
      intro r
      by_cases hr : rs r
      · rw [if_pos hr, if_pos hr, DataMac.recvDATA_broadcast hdst, DataMac.pass]
      · rw [if_neg hr, if_neg hr]
    refine ⟨?_, fun r b => .inl ⟨(fun _ hg => by cases hg.1), ?_⟩⟩
    · refine (h.freed a).of_up fun r => ?_
      by_cases hr : r = a
      · subst hr
        exact ⟨(c r).up, by simp [DataMac.free]⟩
      · exact ⟨_, by rw [if_neg hr, hpass r, Function.update_of_ne hr]⟩
    · beta_reduce
      by_cases hr : r = a
      · subst hr
        rw [if_pos rfl]
        exact ⟨rfl, rfl⟩
      · rw [if_neg hr, hpass r]
        refine ⟨rfl, ?_⟩
        split_ifs <;> simp [DataMac.passed, hdst]
  | ack a =>
    obtain ⟨p, hp, hmem⟩ := h.answered a ho
    have hp' : (c a).pktTx = some p := hp
    simp only [step, hp', deref, ok_bind] at hs
    cases hs
    refine ⟨?_, fun r b => .inl ⟨(fun _ hg => by cases hg.1), ?_, ?_⟩⟩
    · refine h.sender rfl rfl rfl (h.seqno a) le_rfl (fun q hq => by cases hq)
        (fun hans => by cases hans) fun q hq => ?_
      rcases List.mem_append.1 hq with hq | hq
      · exact h.acked a q hq
      · obtain rfl := List.mem_singleton.1 hq
        exact hmem
    · refine update_eq (f := (·.got b)) ?_ r
      rfl
    · refine update_eq (f := (·.passed b)) ?_ r
      rfl
  | giveUp a =>
    cases hs
    refine ⟨h.freed a, fun r b => .inl ⟨(fun _ hg => by cases hg.1), ?_, ?_⟩⟩
    · refine update_eq (f := (·.got b)) ?_ r
      rfl
    · refine update_eq (f := (·.passed b)) ?_ r
      rfl

/-- A state is recognized in the numbers alone. -/
theorem recognized_iff (h : c.Numbered) (hp : p ∈ (c a).pktTx) :
    Recognized (c p.dst) p ↔
      (DataMac.Discards (c p.dst) p ↔ ((c p.dst).got p.src).getLast? = some p.number) := by
  obtain ⟨-, -, hlabel, -⟩ := h.tx a p hp
  rw [Recognized, DataMac.Discards]
  by_cases hsrc : p.src.toNat < (c p.dst).cacheNodeCount
  · rw [h.cache p.dst p.src hsrc, hlabel]
    cases hlast : ((c p.dst).got p.src).getLast? with
    | none => simp [hsrc]
    | some n =>
      by_cases hn : n = p.number
      · subst hn
        simp [hsrc]
      · simp [hsrc, hn, or_iff_not_imp_left]
  · simp [hsrc]

/-- What was got from a MAC is passed on once. -/
def PassesFrom (m : DataMac) (a : MacAddr) : Prop := m.passed a = (m.got a).destutter (· ≠ ·)

/-- A frame that is got is passed on once exactly when it is recognized. -/
theorem passesFrom_iff (h : c.Numbered) (hp : p ∈ (c a).pktTx) (hP : PassesFrom (c p.dst) a)
    (hgot : m.got a = (c p.dst).got a ++ [p.number])
    (hpassed : m.passed a = if DataMac.Discards (c p.dst) p then (c p.dst).passed a
      else (c p.dst).passed a ++ [p.number]) :
    PassesFrom m a ↔ Recognized (c p.dst) p := by
  obtain ⟨rfl, -⟩ := h.tx a p hp
  rw [recognized_iff h hp, PassesFrom, hgot, hpassed, destutter_concat, ← hP]
  split_ifs with hdup hlast hlast <;> simp [hdup, hlast]

/-- A step keeps the packets passed once exactly when its data frame is recognized. -/
theorem passesOnce_step (h : c.Numbered) (hP : c.PassesOnce) (ho : c.Occurs e)
    (hs : c.step e = .ok c') : c'.PassesOnce ↔ c.Recognizes e := by
  obtain ⟨-, hcases⟩ := step_cases h ho hs
  have hgets : ∀ r b p, Gets c e r b p → (PassesFrom (c' r) b ↔ Recognized (c r) p) := by
    intro r b p hg
    obtain ⟨hno, -⟩ | ⟨q, hq, hgot, hpassed⟩ := hcases r b
    · exact absurd hg (hno p)
    · obtain ⟨-, hp, rfl⟩ := hg
      obtain rfl := Option.mem_unique hp hq.2.1
      exact passesFrom_iff h hp (hP p.dst b) hgot hpassed
  constructor
  · intro hP'
    cases e with
    | data a => exact fun p hp => (hgets p.dst a p ⟨rfl, hp, rfl⟩).1 (hP' p.dst a)
    | _ => trivial
  · intro hok r b
    obtain ⟨-, hgot, hpassed⟩ | ⟨p, hg, -⟩ := hcases r b
    · rw [hgot, hpassed]
      exact hP r b
    · refine (hgets r b p hg).2 ?_
      obtain ⟨rfl, hp, rfl⟩ := hg
      exact hok p hp

/-- A step that can occur does not fail. -/
theorem step_returns (h : c.Numbered) (ho : c.Occurs e) : ∃ c', c.step e = .ok c' := by
  have hderef : ∀ {a p}, p ∈ (c a).pktTx → deref (c a).pktTx = .ok p := by
    intro a p hp
    have hp' : (c a).pktTx = some p := hp
    rw [hp', deref]
  cases e with
  | send a dst => exact ⟨_, step_send ho.1 dst⟩
  | data a =>
    obtain ⟨p, hp, -⟩ := ho
    exact ⟨_, bind_ok_iff.2 ⟨p, hderef hp, rfl⟩⟩
  | broadcast a rs =>
    obtain ⟨-, p, hp, -⟩ := ho
    exact ⟨_, bind_ok_iff.2 ⟨p, hderef hp, rfl⟩⟩
  | ack a =>
    obtain ⟨p, hp, -⟩ := h.answered a ho
    exact ⟨_, bind_ok_iff.2 ⟨p, hderef hp, rfl⟩⟩
  | giveUp a => exact ⟨_, rfl⟩

/-- Whatever is lost and whatever is sent again: every packet that was got is passed on once, in
every state, if and only if each data frame is recognized. -/
theorem passed_iff {count : MacAddr → ℕ} {es : List Event}
    (henv : StepsMeet step Occurs (fresh count) es) :
    Throughout step PassesOnce (fresh count) es ↔ StepsMeet step Recognizes (fresh count) es := by
  refine throughout_iff (I := fun c => c.Numbered ∧ c.PassesOnce) ?_ (fun c h => h.2) ?_
    ⟨numbered_fresh count, fun r a => rfl⟩ henv
  · intro c e c' h ho hok hs
    exact ⟨(step_cases h.1 ho hs).1, (passesOnce_step h.1 h.2 ho hs).2 hok⟩
  · intro c e h ho hno
    obtain ⟨c', hs⟩ := step_returns h.1 ho
    exact ⟨c', hs, fun hP => hno ((passesOnce_step h.1 h.2 ho hs).1 hP)⟩

/-- The acknowledgement of a packet is lost, and the packet is sent again. -/
theorem passed_once_resent : Throughout step PassesOnce (fresh fun _ => 4)
    [.send 1 2, .data 1, .data 1, .ack 1, .send 1 2, .data 1] :=
  (passed_iff (by decide)).2 (by decide)

/-- What no step takes back. -/
theorem step_mono (hs : c.step e = .ok c') (r : MacAddr) :
    (c' r).cacheNodeCount = (c r).cacheNodeCount ∧ (c r).handed ≤ (c' r).handed := by
  have hupdate : ∀ (c : Channel) {a m}, m.cacheNodeCount = (c a).cacheNodeCount →
      (c a).handed ≤ m.handed → (Function.update c a m r).cacheNodeCount = (c r).cacheNodeCount ∧
        (c r).handed ≤ (Function.update c a m r).handed := by
    intro c a m hcount hle
    by_cases hr : r = a
    · subst hr
      simp [hcount, hle]
    · simp [hr]
  cases e with
  | send a dst =>
    obtain ⟨m, hm, hs⟩ := bind_ok_iff.1 hs
    cases hs
    obtain ⟨-, -, hm⟩ := bind_ok_iff.1 hm
    cases hm
    exact hupdate c rfl (Nat.le_succ _)
  | data a =>
    obtain ⟨p, -, hs⟩ := bind_ok_iff.1 hs
    cases hs
    obtain ⟨hcount, -, -, hhanded, -⟩ := DataMac.gets_same (m := c p.dst) (p := p)
    obtain ⟨hcount', hhanded'⟩ := hupdate c hcount hhanded.ge
    obtain ⟨hcount'', hhanded''⟩ := hupdate (Function.update c p.dst ((c p.dst).gets p))
      (a := a) (m := { (Function.update c p.dst ((c p.dst).gets p)) a with answered := true })
      rfl le_rfl
    exact ⟨hcount''.trans hcount', hhanded'.trans hhanded''⟩
  | broadcast a rs =>
    obtain ⟨p, -, hs⟩ := bind_ok_iff.1 hs
    cases hs
    obtain ⟨hcount, -, -, hhanded, -⟩ := DataMac.recvDATA_same (m := c r) (p := p)
    dsimp only
    split_ifs with hr hr
    · subst hr
      exact ⟨rfl, le_rfl⟩
    · exact ⟨hcount, hhanded.ge⟩
    · exact ⟨rfl, le_rfl⟩
  | ack a =>
    obtain ⟨p, -, hs⟩ := bind_ok_iff.1 hs
    cases hs
    exact hupdate c rfl le_rfl
  | giveUp a =>
    cases hs
    exact hupdate c rfl le_rfl

/-- As long as the numbers of a MAC have not started again, its packets that were got are passed on,
and none twice where the MAC is in the cache. -/
def Exact (c : Channel) : Prop :=
  ∀ r a, (c a).handed < 2 ^ 16 →
    (∀ n ∈ (c r).got a, n ∈ (c r).passed a) ∧
      (a.toNat < (c r).cacheNodeCount → PassesFrom (c r) a)

/-- The first numbers are all different. -/
theorem recognized_of_lt (h : c.Numbered) (hp : p ∈ (c a).pktTx) (hlt : (c a).handed < 2 ^ 16)
    (hcache : p.src.toNat < (c p.dst).cacheNodeCount) : Recognized (c p.dst) p := by
  obtain ⟨hsrc, -, -, hnumber⟩ := h.tx a p hp
  rw [Recognized]
  split_ifs with hlast
  · refine ⟨hcache, ?_⟩
    rw [label, Nat.mod_eq_of_lt (by omega)]
    omega
  · intro _ n hn
    have hlt' := h.got_lt p.dst a n (hsrc ▸ List.mem_of_getLast? hn)
    right
    rw [label, label, Nat.mod_eq_of_lt (by omega), Nat.mod_eq_of_lt (by omega)]
    intro heq
    obtain rfl : n = p.number := by omega
    exact hlast hn

theorem Exact.step (h : c.Numbered) (hE : c.Exact) (ho : c.Occurs e) (hs : c.step e = .ok c') :
    c'.Exact := by
  intro r a hlt
  obtain ⟨-, hcases⟩ := step_cases h ho hs
  have hlt' := lt_of_le_of_lt (step_mono hs a).2 hlt
  obtain ⟨hmem, hcache⟩ := hE r a hlt'
  rw [(step_mono hs r).1]
  obtain ⟨-, hgot, hpassed⟩ | ⟨p, ⟨-, hp, rfl⟩, hgot, hpassed⟩ := hcases r a
  · rw [hgot, PassesFrom, hgot, hpassed]
    exact ⟨hmem, hcache⟩
  · obtain ⟨hsrc, -⟩ := h.tx a p hp
    by_cases hin : a.toNat < (c p.dst).cacheNodeCount
    · have hfrom := (passesFrom_iff h hp (hcache hin) hgot hpassed).2
        (recognized_of_lt h hp hlt' (hsrc ▸ hin))
      refine ⟨fun n hn => ?_, fun _ => hfrom⟩
      rw [hfrom]
      exact mem_destutter.2 hn
    · refine ⟨fun n hn => ?_, fun hin' => absurd hin' hin⟩
      rw [hpassed, if_neg fun hdup => hin (hsrc ▸ hdup.1)]
      rw [hgot] at hn
      exact (List.mem_append.1 hn).elim (fun hn => List.mem_append_left _ (hmem n hn))
        (List.mem_append_right _)

/-- The packets of a MAC that has been handed fewer than `2 ^ 16`: what is acknowledged was passed
on, and a MAC that has it in the cache passes none on twice and keeps their order. -/
theorem exactly_once {count : MacAddr → ℕ} {es : List Event} {c : Channel} {a : MacAddr}
    (henv : StepsMeet step Occurs (fresh count) es) (hrun : runSteps step (fresh count) es = .ok c)
    (hlt : (c a).handed < 2 ^ 16) :
    (∀ p ∈ (c a).acked, p.number ∈ (c p.dst).passed a) ∧
      ∀ r, a.toNat < (c r).cacheNodeCount → ((c r).passed a).Pairwise (· < ·) := by
  obtain ⟨hN, hE⟩ := runSteps_invariant (I := fun c => c.Numbered ∧ c.Exact)
    (fun c e c' h ho hs => ⟨(step_cases h.1 ho hs).1, h.2.step h.1 ho hs⟩)
    ⟨numbered_fresh count, fun r a _ => ⟨(fun n hn => by cases hn), fun _ => rfl⟩⟩ henv hrun
  refine ⟨fun p hp => (hE p.dst a hlt).1 _ (hN.acked a p hp), fun r hr => ?_⟩
  rw [(hE r a hlt).2 hr]
  exact pairwise_lt_destutter (hN.sorted r a)

/-- The acknowledgement of the first packet is lost, the second packet is given up. -/
theorem exactly_once_resent : ∃ c, runSteps step (fresh fun _ => 4)
      [.send 1 2, .data 1, .data 1, .ack 1, .send 1 2, .giveUp 1, .send 1 2, .data 1] = .ok c ∧
    (c 2).passed 1 = [0, 2] ∧ (∀ p ∈ (c 1).acked, p.number ∈ (c p.dst).passed 1) ∧
      ∀ r, (1 : MacAddr).toNat < (c r).cacheNodeCount → ((c r).passed 1).Pairwise (· < ·) :=
  ⟨_, rfl, by decide, @exactly_once (fun _ => 4) [.send 1 2, .data 1, .data 1, .ack 1, .send 1 2,
    .giveUp 1, .send 1 2, .data 1] _ 1 (by decide) rfl (by decide)⟩

end Channel

end SipNemo.Mac
