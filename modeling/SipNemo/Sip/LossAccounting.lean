import Mathlib.Tactic
import Mathlib.Data.Rat.Defs

/-!
# Loss accounting of the application

The receiver of a data stream counts a packet with number `seq` after one with number `last_seq` as
a loss of `seq - last_seq - 1` packets, and a packet that arrives late counts negatively.  The sum
of these differences depends on the last number received and on how many were received.  It is the
number of packets that are missing when the last number is the highest, so it is right all along
exactly when the numbers increase (`lossExact_iff`).
-/

namespace SipNemo.Sip

/-- What `account_recv_pkt` reads of a packet: its number, the time it was sent, and the time it
arrives. -/
structure DataPacket where
  seq : ℤ
  time : ℚ := 0
  arrival : ℚ := 0

/-- `pkt_accounting`. -/
structure PktAccounting where
  lastSeq : ℤ
  lastScale : ℤ
  lostPkts : ℤ
  recvPkts : ℤ
  rtt : ℚ
  lastArrivalTime : ℚ
  totalLostPkts : ℤ

/-- The part of `mysipApp` that the accounting works on.  Nothing is initialised before the first
packet. -/
structure MysipApp where
  accnt : PktAccounting
  handoffnum : ℕ
  handofftime : ℕ → ℚ
  firstSeqTime : ℚ

/-- `init_recv_pkt_accounting`. -/
def MysipApp.initRecvPktAccounting (s : MysipApp) : MysipApp :=
  { s with
    accnt := { s.accnt with
      lastSeq := -1, lastScale := 0, lostPkts := 0, recvPkts := 0, lastArrivalTime := 0 }
    handoffnum := 0 }

/-- The first lines of `account_recv_pkt`: packet 0 starts the accounting, and every packet tells a
round trip time. -/
def MysipApp.startOrSmooth (s : MysipApp) (p : DataPacket) : MysipApp :=
  if p.seq = 0 then
    let s := s.initRecvPktAccounting
    { s with firstSeqTime := p.time, accnt := { s.accnt with rtt := 2 * (p.arrival - p.time) } }
  else
    { s with accnt := { s.accnt with
        rtt := 9 / 10 * s.accnt.rtt + 1 / 10 * 2 * (p.arrival - p.time) } }

/-- A gap of more than two packets is taken for a handoff, of which 30 can be recorded. -/
def MysipApp.noteHandoff (s : MysipApp) (arrival : ℚ) : MysipApp :=
  if s.accnt.lostPkts > 2 ∧ s.handoffnum < 30 then
    { s with
      handofftime := Function.update s.handofftime s.handoffnum (arrival - s.accnt.lastArrivalTime)
      handoffnum := s.handoffnum + 1 }
  else s

/-- `account_recv_pkt`. -/
def MysipApp.accountRecvPkt (s : MysipApp) (p : DataPacket) : MysipApp :=
  let s := s.startOrSmooth p
  let lost := p.seq - s.accnt.lastSeq - 1
  let s := { s with accnt := { s.accnt with
    recvPkts := s.accnt.recvPkts + 1
    lostPkts := lost
    totalLostPkts := s.accnt.totalLostPkts + lost } }
  let s := s.noteHandoff p.arrival
  { s with accnt := { s.accnt with lastSeq := p.seq, lastArrivalTime := p.arrival } }

/-- The highest of some numbers from 0 on. -/
def highest : List ℤ → ℤ
  | [] => 0
  | x :: seqs => if highest seqs < x then x else highest seqs

/-- How many numbers below the highest one are not there. -/
def missing (seqs : List ℤ) : ℕ :=
  ((Finset.range (highest seqs).toNat).filter fun k : ℕ => (k : ℤ) ∉ seqs).card

/-- After the packets `ps` the increase of the total is the number of packets that are missing. -/
def LossExact (s : MysipApp) (ps : List DataPacket) : Prop :=
  (ps.foldl .accountRecvPkt s).accnt.totalLostPkts - s.accnt.totalLostPkts =
    missing (ps.map (·.seq))

/-! ### Handoffs -/

section Handoff

variable {s : MysipApp} {p : DataPacket} {ps : List DataPacket}

theorem noteHandoff_le (arrival : ℚ) (h : s.handoffnum ≤ 30) :
    (s.noteHandoff arrival).handoffnum ≤ 30 := by
  unfold MysipApp.noteHandoff
  split_ifs with hlost
  · exact hlost.2
  · exact h

theorem accountRecvPkt_handoffnum_le (h : p.seq = 0 ∨ s.handoffnum ≤ 30) :
    (s.accountRecvPkt p).handoffnum ≤ 30 := by
  refine noteHandoff_le p.arrival ?_
  show (s.startOrSmooth p).handoffnum ≤ 30
  unfold MysipApp.startOrSmooth
  split_ifs with h0
  · exact Nat.zero_le 30
  · exact h.resolve_left h0

theorem handoffnum_le_of_le (ps : List DataPacket) (h : s.handoffnum ≤ 30) :
    (ps.foldl .accountRecvPkt s).handoffnum ≤ 30 := by
  induction ps generalizing s with
  | nil => exact h
  | cons p ps ih => exact ih (accountRecvPkt_handoffnum_le (Or.inr h))

end Handoff

/-! ### The total -/

section Total

variable {s : MysipApp} {p : DataPacket} {ps : List DataPacket}

theorem noteHandoff_accnt (s : MysipApp) (arrival : ℚ) :
    (s.noteHandoff arrival).accnt = s.accnt := by
  unfold MysipApp.noteHandoff
  split_ifs <;> rfl

@[simp] theorem accountRecvPkt_lastSeq (s : MysipApp) (p : DataPacket) :
    (s.accountRecvPkt p).accnt.lastSeq = p.seq := rfl

theorem accountRecvPkt_total (s : MysipApp) (p : DataPacket) :
    (s.accountRecvPkt p).accnt.totalLostPkts =
      s.accnt.totalLostPkts + (p.seq - (if p.seq = 0 then -1 else s.accnt.lastSeq) - 1) := by
  unfold MysipApp.accountRecvPkt
  dsimp only
  rw [noteHandoff_accnt]
  show (s.startOrSmooth p).accnt.totalLostPkts +
    (p.seq - (s.startOrSmooth p).accnt.lastSeq - 1) = _
  unfold MysipApp.startOrSmooth
  split_ifs <;> rfl

/-- The differences add up to the last number. -/
theorem foldl_accountRecvPkt_total (h : ∀ p ∈ ps, p.seq ≠ 0) :
    (ps.foldl .accountRecvPkt s).accnt.totalLostPkts + ps.length + s.accnt.lastSeq =
      s.accnt.totalLostPkts + (ps.foldl .accountRecvPkt s).accnt.lastSeq := by
  induction ps generalizing s with
  | nil => simp
  | cons p ps ih =>
    have hrest := ih (s := s.accountRecvPkt p) fun q hq => h q (List.mem_cons_of_mem _ hq)
    have hp : p.seq ≠ 0 := h p List.mem_cons_self
    rw [accountRecvPkt_total, if_neg hp, accountRecvPkt_lastSeq] at hrest
    rw [List.foldl_cons, List.length_cons]
    push_cast
    omega

theorem foldl_accountRecvPkt_lastSeq (s : MysipApp) (ps : List DataPacket) (p : DataPacket) :
    ((ps ++ [p]).foldl .accountRecvPkt s).accnt.lastSeq = p.seq := by
  rw [List.foldl_append]
  rfl

end Total

/-! ### Missing numbers -/

section Missing

variable {l : List ℤ} {x : ℤ}

theorem le_highest (h : x ∈ l) : x ≤ highest l := by
  induction l with
  | nil => cases h
  | cons y l ih =>
    rw [highest]
    rcases List.mem_cons.1 h with rfl | h
    · split_ifs with hlt
      · exact le_refl _
      · exact not_lt.1 hlt
    · split_ifs with hlt
      · exact (ih h).trans hlt.le
      · exact ih h

theorem highest_cases (l : List ℤ) : highest l = 0 ∨ highest l ∈ l := by
  induction l with
  | nil => exact Or.inl rfl
  | cons y l ih =>
    rw [highest]
    split_ifs
    · exact Or.inr List.mem_cons_self
    · exact ih.imp_right (List.mem_cons_of_mem y)

theorem highest_mem (h0 : 0 ∈ l) : highest l ∈ l := by
  rcases highest_cases l with hzero | hmem
  · rw [hzero]
    exact h0
  · exact hmem

/-- Of distinct numbers from 0 on all but the highest are below it. -/
theorem missing_eq (h0 : 0 ∈ l) (hpos : ∀ x ∈ l, 0 ≤ x) (hnodup : l.Nodup) :
    (missing l : ℤ) = highest l + 1 - l.length := by
  have hhigh : highest l ∈ l.toFinset := List.mem_toFinset.2 (highest_mem h0)
  have hnonneg : 0 ≤ highest l := hpos _ (highest_mem h0)
  have hthere : ((Finset.range (highest l).toNat).filter fun k : ℕ => (k : ℤ) ∈ l).map
      Nat.castEmbedding = l.toFinset.erase (highest l) := by
    ext x
    simp only [Finset.mem_map, Finset.mem_filter, Finset.mem_range, Nat.castEmbedding_apply,
      Finset.mem_erase, List.mem_toFinset]
    constructor
    · rintro ⟨k, ⟨hk, hmem⟩, rfl⟩
      exact ⟨by omega, hmem⟩
    · rintro ⟨hne, hmem⟩
      have hx := hpos x hmem
      have hlt : x < highest l := lt_of_le_of_ne (le_highest hmem) hne
      have hcast : (x.toNat : ℤ) = x := Int.toNat_of_nonneg hx
      exact ⟨x.toNat, ⟨by omega, hcast.symm ▸ hmem⟩, hcast⟩
  have hcard : ((Finset.range (highest l).toNat).filter fun k : ℕ => (k : ℤ) ∈ l).card + 1 =
      l.length := by
    rw [← Finset.card_map (Nat.castEmbedding : ℕ ↪ ℤ), hthere, Finset.card_erase_add_one hhigh,
      List.toFinset_card_of_nodup hnodup]
  have hsplit := Finset.card_filter_add_card_filter_not (s := Finset.range (highest l).toNat)
    fun k : ℕ => (k : ℤ) ∈ l
  rw [Finset.card_range] at hsplit
  rw [missing]
  omega

/-- The last of some distinct numbers is the highest, at every prefix, if and only if they
increase. -/
theorem pairwise_lt_iff (hpos : ∀ x ∈ l, 0 ≤ x) (hnodup : l.Nodup) :
    (∀ l' y, l' ++ [y] <+: l → highest (l' ++ [y]) = y) ↔ l.Pairwise (· < ·) := by
  constructor
  · intro h
    induction l using List.reverseRecOn with
    | nil => exact .nil
    | append_singleton l y ih =>
      have hinit := ih (fun x hx => hpos x (List.mem_append_left _ hx))
        (List.Nodup.of_append_left hnodup)
        fun l' z hz => h l' z (hz.trans (List.prefix_append l [y]))
      have hlast := h l y List.prefix_rfl
      refine List.pairwise_append.2 ⟨hinit, List.pairwise_singleton _ _, fun x hx z hz => ?_⟩
      obtain rfl := List.mem_singleton.1 hz
      have hle := le_highest (List.mem_append_left [z] hx)
      have hne : x ≠ z := (List.nodup_append.1 hnodup).2.2 x hx z hz
      exact lt_of_le_of_ne (hlast ▸ hle) hne
  · intro h l' y hpre
    have hsorted := h.sublist hpre.sublist
    have hy : y ∈ l' ++ [y] := List.mem_append_right _ (List.mem_singleton.2 rfl)
    refine le_antisymm ?_ (le_highest hy)
    rcases highest_cases (l' ++ [y]) with hzero | hmem
    · rw [hzero]
      exact hpos y (hpre.subset hy)
    · rcases List.mem_append.1 hmem with hold | hnew
      · exact ((List.pairwise_append.1 hsorted).2.2 _ hold y (List.mem_singleton.2 rfl)).le
      · exact (List.mem_singleton.1 hnew).le

end Missing

/-- A stream that starts with packet 0 and has no packet twice. -/
structure IsStream (ps : List DataPacket) : Prop where
  starts : ps.head?.map (·.seq) = some 0
  nonneg : ∀ p ∈ ps, 0 ≤ p.seq
  distinct : (ps.map (·.seq)).Nodup

theorem IsStream.initial {ps qs : List DataPacket} (h : IsStream ps) (hqs : qs <+: ps)
    (hne : qs ≠ []) : IsStream qs where
  starts := by
    obtain ⟨q, qs, rfl⟩ := List.exists_cons_of_ne_nil hne
    obtain ⟨rest, rfl⟩ := hqs
    exact h.starts
  nonneg := fun p hp => h.nonneg p (hqs.subset hp)
  distinct := h.distinct.sublist (hqs.sublist.map _)

/-- The total is exact when the last packet has the highest number. -/
theorem lossExact_iff_last {s : MysipApp} {ps : List DataPacket} {p : DataPacket}
    (h : IsStream (ps ++ [p])) :
    LossExact s (ps ++ [p]) ↔ highest ((ps ++ [p]).map (·.seq)) = p.seq := by
  have hlast := foldl_accountRecvPkt_lastSeq s ps p
  obtain ⟨q, qs, hqs⟩ := List.exists_cons_of_ne_nil (l := ps ++ [p]) (by simp)
  rw [hqs] at h hlast ⊢
  have h0 : q.seq = 0 := by simpa using h.starts
  have hrest : ∀ r ∈ qs, r.seq ≠ 0 := by
    intro r hr hzero
    refine (List.nodup_cons.1 h.distinct).1 ?_
    exact List.mem_map.2 ⟨r, hr, hzero.trans h0.symm⟩
  have htotal := foldl_accountRecvPkt_total (s := s.accountRecvPkt q) hrest
  have hmissing : missing ((q :: qs).map (·.seq)) =
      highest ((q :: qs).map (·.seq)) + 1 - ((q :: qs).map (·.seq)).length := by
    refine missing_eq ?_ ?_ h.distinct
    · exact List.mem_map.2 ⟨q, List.mem_cons_self, h0⟩
    · intro x hx
      obtain ⟨r, hr, rfl⟩ := List.mem_map.1 hx
      exact h.nonneg r hr
  rw [accountRecvPkt_total, if_pos h0, accountRecvPkt_lastSeq, h0] at htotal
  rw [List.foldl_cons] at hlast
  rw [LossExact, hmissing, List.foldl_cons, List.length_map, List.length_cons]
  push_cast
  omega

/-- **Loss accounting.** For a stream in any order the total is the number of missing packets and
`handoffnum` is at most 30 after each packet if and only if the packets come in order. -/
theorem lossExact_iff (s : MysipApp) (ps : List DataPacket) (h : IsStream ps) :
    (∀ qs, qs <+: ps → qs ≠ [] →
      LossExact s qs ∧ (qs.foldl .accountRecvPkt s).handoffnum ≤ 30) ↔
      (ps.map (·.seq)).Pairwise (· < ·) := by
  have hpos : ∀ x ∈ ps.map (·.seq), 0 ≤ x := by
    intro x hx
    obtain ⟨p, hp, rfl⟩ := List.mem_map.1 hx
    exact h.nonneg p hp
  rw [← pairwise_lt_iff hpos h.distinct]
  constructor
  · intro hexact l' y hpre
    obtain ⟨qs, hqs, heq⟩ := List.prefix_map_iff.1 hpre
    rcases List.eq_nil_or_concat qs with rfl | ⟨qs, p, rfl⟩
    · simp at heq
    · rw [List.concat_eq_append] at hqs heq
      have hne : qs ++ [p] ≠ [] := by simp
      have hlast := (lossExact_iff_last (h.initial hqs hne)).1 (hexact _ hqs hne).1
      have hy : y = p.seq := by
        rw [List.map_append, List.map_singleton] at heq
        exact (List.append_singleton_inj.1 heq).2
      rw [heq, hlast, hy]
  · intro hsorted qs hqs hne
    have hstream := h.initial hqs hne
    constructor
    · obtain ⟨qs, p, rfl⟩ := (List.eq_nil_or_concat qs).resolve_left hne
      rw [List.concat_eq_append] at hqs hstream ⊢
      rw [lossExact_iff_last hstream, List.map_append, List.map_singleton]
      exact hsorted _ _ (by simpa using hqs.map (·.seq))
    · obtain ⟨q, qs, rfl⟩ := List.exists_cons_of_ne_nil hne
      have h0 : q.seq = 0 := by simpa using hstream.starts
      have hfirst : (s.accountRecvPkt q).handoffnum ≤ 30 := accountRecvPkt_handoffnum_le (Or.inl h0)
      exact handoffnum_le_of_le qs hfirst

/-- A receiver before the first packet. -/
def freshApp : MysipApp where
  accnt := ⟨0, 0, 0, 0, 0, 0, 0⟩
  handoffnum := 0
  handofftime := fun _ => 0
  firstSeqTime := 0

/-- Packet 2 is lost. -/
theorem lossExact_iff_sample : LossExact freshApp [⟨0, 0, 1⟩, ⟨1, 1, 2⟩, ⟨3, 3, 4⟩, ⟨4, 4, 5⟩] := by
  have hstream : IsStream [⟨0, 0, 1⟩, ⟨1, 1, 2⟩, ⟨3, 3, 4⟩, ⟨4, 4, 5⟩] :=
    ⟨rfl, by simp, by decide⟩
  exact ((lossExact_iff freshApp _ hstream).2 (by decide) _ List.prefix_rfl (by decide)).1

/-- Packet 2 overtakes packet 1: nothing is missing, and the total is `-1`. -/
theorem overtaken_packet_counts_negative :
    ¬ ∀ (s : MysipApp) (ps : List DataPacket), IsStream ps → ∀ qs, qs <+: ps → qs ≠ [] →
      LossExact s qs ∧ (qs.foldl .accountRecvPkt s).handoffnum ≤ 30 := by
  intro h
  have hstream : IsStream [⟨0, 0, 1⟩, ⟨2, 2, 3⟩, ⟨1, 1, 4⟩] := ⟨rfl, by simp, by decide⟩
  have hexact := (h freshApp _ hstream _ List.prefix_rfl (by decide)).1
  have htotal : (([⟨0, 0, 1⟩, ⟨2, 2, 3⟩, ⟨1, 1, 4⟩] : List DataPacket).foldl .accountRecvPkt
      freshApp).accnt.totalLostPkts = -1 := by
    decide +kernel
  rw [LossExact, htotal] at hexact
  exact absurd hexact (by decide)

end SipNemo.Sip
