import SipNemo.Lib.Alternation
import SipNemo.Mac.Station

/-!
# Attachment to access points

`link_connect` sets `bss_id_` before the association, and `recvAssocResponse` sets it again to the
sender of whatever response arrives.  So a late response attaches the station to an access point it
does not ask for any more (`attached_iff`), and a link down is sent for an association that never
was (`alternate_iff`).
-/

namespace SipNemo.Mac

open Alternation RequestTable Runs
open Mih (MacAddr)
open TimerHandler (cancelPending)

namespace Mac80211

variable {s s' : Mac80211} {src macPoA : MacAddr} {accepted busy : Bool}

/-! ### What the commands and the responses do -/

/-- A link up event and a link down event, as `true` and `false`. -/
def linkEvent : MacOutput → Option Bool
  | .linkUp _ _ => some true
  | .linkDown _ => some false
  | _ => none

/-- The link up and the link down events that were sent. -/
def linkEvents (s : Mac80211) : List Bool := s.log.filterMap linkEvent

theorem linkDisconnect_attachment (s : Mac80211) :
    s.linkDisconnect.bssId = ibssId ∧ s.linkDisconnect.hdvState = .disconnected ∧
      s.linkDisconnect.bssTimer = cancelPending s.bssTimer ∧
        s.linkDisconnect.pktManagement = none := by
  unfold linkDisconnect
  dsimp only
  split_ifs <;> exact ⟨rfl, rfl, rfl, rfl⟩

/-- A link down is sent when there was an access point, connected or not. -/
theorem linkDisconnect_events (s : Mac80211) :
    s.linkDisconnect.linkEvents =
      if s.bssId = ibssId then s.linkEvents else s.linkEvents ++ [false] := by
  unfold linkDisconnect
  by_cases h : s.bssId = ibssId
  · simp [h, linkEvents, clearTxRx]
  · simp [h, linkEvents, clearTxRx, emit, linkEvent]

theorem linkConnect_attachment (h : s.linkConnect macPoA = .ok s') :
    s'.bssId = macPoA ∧ s'.hdvState = .beingConnected ∧
      s'.bssTimer = if s.bssId ≠ ibssId ∧ macPoA ≠ s.bssId then cancelPending s.bssTimer
        else s.bssTimer := by
  obtain ⟨rfl, -⟩ := linkConnect_ok h
  refine ⟨rfl, rfl, ?_⟩
  show (s.leave macPoA).bssTimer = _
  unfold leave
  split_ifs
  · exact (linkDisconnect_attachment s).2.2.1
  · rfl

/-- A link down is sent when another access point was in its place, connected or not. -/
theorem linkConnect_events (h : s.linkConnect macPoA = .ok s') :
    s'.linkEvents =
      if s.bssId ≠ ibssId ∧ macPoA ≠ s.bssId then s.linkEvents ++ [false] else s.linkEvents := by
  obtain ⟨rfl, -⟩ := linkConnect_ok h
  have hask : ((s.leave macPoA).askFor macPoA).linkEvents = (s.leave macPoA).linkEvents := by
    simp [linkEvents, askFor, emit, linkEvent, List.filterMap_cons]
  rw [hask, leave]
  split_ifs with hold
  · have hevents := linkDisconnect_events s
    rw [if_neg hold.1] at hevents
    simpa [linkEvents, emit, linkEvent, List.filterMap_cons] using hevents
  · rfl

/-- A response is passed over, attaches the station to its sender, or makes it disconnect. -/
theorem recvAssocResponse_cases (s : Mac80211) (src : MacAddr) (accepted busy : Bool) :
    (s.recvAssocResponse src accepted busy = s ∧
        (busy = true ∨ src = s.bssId ∧ s.hdvState = .connected)) ∨
      (busy = false ∧ ¬ (src = s.bssId ∧ s.hdvState = .connected)) ∧
        ((accepted = true ∧ ∃ log handover,
            s.recvAssocResponse src accepted busy =
              { s with bssId := src, hdvState := .connected, log := log, handover := handover } ∧
            log.filterMap linkEvent = s.linkEvents ++ [true]) ∨
          (accepted = false ∧
            s.recvAssocResponse src accepted busy =
              { s with bssId := ibssId }.linkDisconnect)) := by
  unfold recvAssocResponse
  dsimp only
  split_ifs with hbusy hdup haccepted hhandover
  · exact .inl ⟨rfl, .inl hbusy⟩
  · exact .inl ⟨rfl, .inr hdup⟩
  · refine .inr ⟨⟨Bool.eq_false_of_not_eq_true hbusy, hdup⟩, .inl ⟨haccepted, _, _, rfl, ?_⟩⟩
    simp [linkEvents, emit, linkEvent, List.filterMap_cons]
  · refine .inr ⟨⟨Bool.eq_false_of_not_eq_true hbusy, hdup⟩, .inl ⟨haccepted, _, _, rfl, ?_⟩⟩
    simp [linkEvents, linkEvent]
  · exact .inr ⟨⟨Bool.eq_false_of_not_eq_true hbusy, hdup⟩,
      .inr ⟨Bool.eq_false_of_not_eq_true haccepted, rfl⟩⟩

/-- When an association request has been repeated too often the station disconnects. -/
theorem managementFailed_cases (s : Mac80211) :
    ((∃ dst, s.pktManagement = some (.assocRequest dst)) ∧
        s.managementFailed = { s.linkDisconnect with pktManagement := none }) ∨
      ((∀ dst, s.pktManagement ≠ some (.assocRequest dst)) ∧
        s.managementFailed = { s with pktManagement := none }) := by
  unfold managementFailed
  split
  · next dst hframe => exact .inl ⟨⟨dst, hframe⟩, rfl⟩
  · next hframe => exact .inr ⟨hframe, rfl⟩

/-- The timer of the access point disconnects the station, if there is an access point. -/
theorem bssExpire_cases (h : s.bssExpire = .ok s') :
    (s.bssId ≠ ibssId ∧ s'.hdvState = .disconnected ∧ s'.bssTimer ≠ .pending ∧
        s'.linkEvents = s.linkEvents ++ [false]) ∨
      (s.bssId = ibssId ∧ s' = { s with bssTimer := .idle }) := by
  obtain ⟨t, ht, h⟩ := bind_ok_iff.1 h
  obtain ⟨-, rfl⟩ := TimerHandler.handle_eq_ok ht
  obtain rfl := Except.ok.inj h
  dsimp only
  split_ifs with hbss
  · obtain ⟨-, hstate, htimer, -⟩ := linkDisconnect_attachment { s with bssTimer := .handling }
    have hevents := linkDisconnect_events { s with bssTimer := .handling }
    rw [if_neg hbss] at hevents
    refine .inl ⟨hbss, hstate, ?_, hevents⟩
    rw [htimer, ne_eq, TimerHandler.finish_eq_pending]
    exact TimerHandler.cancelPending_ne_pending
  · exact .inr ⟨not_not.1 hbss, rfl⟩

theorem recvBeacon_own {strong : Bool} (h : s.recvBeacon s.bssId strong = .ok s') :
    ∃ timer, s' = { s with bssTimer := timer } := by
  unfold recvBeacon at h
  rw [if_pos rfl] at h
  split_ifs at h
  · exact ⟨_, (Except.ok.inj h).symm⟩
  · exact ⟨_, (Except.ok.inj h).symm⟩

end Mac80211

/-! ### A station and the access points around it -/

/-- A station, with what it was told to do, and the responses of the access points, which stay on
their way for any time and may arrive more than once. -/
structure Cell where
  station : Mac80211
  /-- The argument of the last `link_connect`. -/
  asked : Option MacAddr := none
  /-- Whether that access point has answered since. -/
  answered : Bool := false
  /-- Whether `link_disconnect` was called since. -/
  released : Bool := false
  requested : List MacAddr := []
  responses : List (MacAddr × Bool) := []

namespace Cell

variable (w : Cell)

inductive Event
  | connect (macPoA : MacAddr)
  | disconnect
  | requestArrives
  | requestAcked
  | requestFails
  | bssExpires
  | beacon (strong : Bool)
  | respond (src : MacAddr) (accepted : Bool)
  | deliver (src : MacAddr) (accepted busy : Bool)

/-- The request that the station is sending reaches its access point. -/
def requestArrives : Cell :=
  match w.station.pktManagement with
  | some (.assocRequest dst) => { w with requested := dst :: w.requested }
  | _ => w

def step : Event → Act Cell
  | .connect macPoA => (w.station.linkConnect macPoA).map fun s =>
      { w with station := s, asked := some macPoA, answered := false, released := false }
  | .disconnect => .ok { w with station := w.station.linkDisconnect, released := true }
  | .requestArrives => .ok w.requestArrives
  | .requestAcked => .ok { w with station := w.station.managementSent }
  | .requestFails => .ok { w with station := w.station.managementFailed }
  | .bssExpires => w.station.bssExpire.map fun s => { w with station := s }
  | .beacon strong =>
      (w.station.recvBeacon w.station.bssId strong).map fun s => { w with station := s }
  | .respond src accepted => .ok { w with responses := (src, accepted) :: w.responses }
  | .deliver src accepted busy => .ok { w with
      station := w.station.recvAssocResponse src accepted busy
      answered := w.answered || w.asked = some src }

/-- Access points answer requests, and no response arrives that none of them has sent; a timer
expires while it is pending; beacons are those of the access point. -/
def Possible : Event → Prop
  | .connect macPoA => macPoA ≠ ibssId
  | .bssExpires => w.station.bssTimer = .pending
  | .beacon _ => w.station.bssId ≠ ibssId
  | .respond src _ => src ∈ w.requested
  | .deliver src accepted _ => (src, accepted) ∈ w.responses
  | _ => True

/-- A connected station is attached to the access point it last asked for, which has answered. -/
def Attached : Prop :=
  w.station.hdvState = .connected →
    w.asked = some w.station.bssId ∧ w.answered = true ∧ w.released = false

/-- An association that is accepted is one the station still asks for. -/
def UpToDate : Event → Prop
  | .deliver src accepted busy =>
      accepted = true → busy = false → w.asked = some src ∧ w.released = false
  | _ => True

variable {w w' : Cell}

theorem Attached.respond {src : MacAddr} {accepted busy : Bool} (h : w.Attached)
    (hok : w.UpToDate (.deliver src accepted busy))
    (hstep : w.step (.deliver src accepted busy) = .ok w') : w'.Attached := by
  obtain rfl := Except.ok.inj hstep
  rcases w.station.recvAssocResponse_cases src accepted busy with
    ⟨hsame, -⟩ | ⟨⟨hbusy, -⟩, ⟨haccepted, log, handover, heq, -⟩ | ⟨-, heq⟩⟩
  · intro hconn
    dsimp only at hconn ⊢
    rw [hsame] at hconn ⊢
    obtain ⟨hasked, hanswered, hreleased⟩ := h hconn
    exact ⟨hasked, by simp [hanswered], hreleased⟩
  · intro _
    obtain ⟨hasked, hreleased⟩ := hok haccepted hbusy
    dsimp only
    rw [heq]
    exact ⟨hasked, by simp [hasked], hreleased⟩
  · intro hconn
    dsimp only at hconn
    rw [heq, (Mac80211.linkDisconnect_attachment _).2.1] at hconn
    cases hconn

theorem Attached.step {e : Event} (h : w.Attached) (hok : w.UpToDate e)
    (hstep : w.step e = .ok w') : w'.Attached := by
  cases e with
  | connect macPoA =>
    obtain ⟨s, hs, rfl⟩ := map_ok_iff.1 hstep
    intro hconn
    rw [(Mac80211.linkConnect_attachment hs).2.1] at hconn
    cases hconn
  | disconnect =>
    obtain rfl := Except.ok.inj hstep
    intro hconn
    rw [(Mac80211.linkDisconnect_attachment _).2.1] at hconn
    cases hconn
  | requestArrives =>
    obtain rfl := Except.ok.inj hstep
    unfold requestArrives
    split
    · exact h
    · exact h
  | requestAcked =>
    obtain rfl := Except.ok.inj hstep
    exact h
  | requestFails =>
    obtain rfl := Except.ok.inj hstep
    intro hconn
    rcases w.station.managementFailed_cases with ⟨-, heq⟩ | ⟨-, heq⟩
    · rw [heq] at hconn
      exact absurd hconn (by simp [(Mac80211.linkDisconnect_attachment _).2.1])
    · rw [heq] at hconn ⊢
      exact h hconn
  | bssExpires =>
    obtain ⟨s, hs, rfl⟩ := map_ok_iff.1 hstep
    intro hconn
    rcases Mac80211.bssExpire_cases hs with ⟨-, hstate, -, -⟩ | ⟨hbss, hsame⟩
    · rw [hstate] at hconn
      cases hconn
    · rw [hsame] at hconn ⊢
      exact h hconn
  | beacon strong =>
    obtain ⟨s, hs, rfl⟩ := map_ok_iff.1 hstep
    obtain ⟨timer, hsame⟩ := Mac80211.recvBeacon_own hs
    intro hconn
    rw [hsame] at hconn ⊢
    exact h hconn
  | respond src accepted =>
    obtain rfl := Except.ok.inj hstep
    exact h
  | deliver src accepted busy => exact h.respond hok hstep

/-- A response that the station does not wait for any more attaches it to its sender. -/
theorem Attached.late {e : Event} (h : w.Attached) (hno : ¬ w.UpToDate e) :
    ∃ w', w.step e = .ok w' ∧ ¬ w'.Attached := by
  cases e with
  | deliver src accepted busy =>
    obtain ⟨haccepted, hbusy, hlate⟩ :
        accepted = true ∧ busy = false ∧ ¬ (w.asked = some src ∧ w.released = false) := by
      simpa only [UpToDate, Classical.not_imp] using hno
    refine ⟨_, rfl, fun hattached => hlate ?_⟩
    rcases w.station.recvAssocResponse_cases src accepted busy with
      ⟨-, hbusy' | ⟨hsrc, hconn⟩⟩ | ⟨-, ⟨-, log, handover, heq, -⟩ | ⟨hrefused, -⟩⟩
    · exact absurd (hbusy.symm.trans hbusy') Bool.false_ne_true
    · obtain ⟨hasked, -, hreleased⟩ := h hconn
      exact ⟨hsrc ▸ hasked, hreleased⟩
    · dsimp only [Attached] at hattached
      rw [heq] at hattached
      obtain ⟨hasked, -, hreleased⟩ := hattached rfl
      exact ⟨hasked, hreleased⟩
    · exact absurd (haccepted.symm.trans hrefused) Bool.noConfusion
  | _ => exact absurd trivial hno

/-- A station is attached only to the access point it last asked for, in every state of a run,
exactly when every accepted response that it takes is from that access point and comes before
`link_disconnect`. -/
theorem attached_iff (w : Cell) (hfresh : w.station.hdvState ≠ .connected) (es : List Event)
    (hpossible : StepsMeet step Possible w es) :
    Throughout step Attached w es ↔ StepsMeet step UpToDate w es :=
  throughout_iff (fun _ _ _ h _ hok hstep => h.step hok hstep) (fun _ h => h)
    (fun _ _ h _ hno => h.late hno) (fun hconn => absurd hconn hfresh) hpossible

instance (w : Cell) (e : Event) : Decidable (w.Possible e) :=
  match e with
  | .connect macPoA => inferInstanceAs (Decidable (macPoA ≠ ibssId))
  | .bssExpires => inferInstanceAs (Decidable (w.station.bssTimer = .pending))
  | .beacon _ => inferInstanceAs (Decidable (w.station.bssId ≠ ibssId))
  | .respond src _ => inferInstanceAs (Decidable (src ∈ w.requested))
  | .deliver src accepted _ => inferInstanceAs (Decidable ((src, accepted) ∈ w.responses))
  | .disconnect => isTrue trivial
  | .requestArrives => isTrue trivial
  | .requestAcked => isTrue trivial
  | .requestFails => isTrue trivial

instance (w : Cell) (e : Event) : Decidable (w.UpToDate e) :=
  match e with
  | .deliver src accepted busy =>
    inferInstanceAs (Decidable (accepted = true → busy = false →
      w.asked = some src ∧ w.released = false))
  | .connect _ => isTrue trivial
  | .disconnect => isTrue trivial
  | .requestArrives => isTrue trivial
  | .requestAcked => isTrue trivial
  | .requestFails => isTrue trivial
  | .bssExpires => isTrue trivial
  | .beacon _ => isTrue trivial
  | .respond _ _ => isTrue trivial

/-- A disconnected station that has found its access points on channel 1. -/
def sampleCell : Cell :=
  { station := { addr := 9, mih := true, channelIDAfterScan := fun _ => 1 } }

theorem attached_of_prompt :
    Throughout step Attached sampleCell
      [.connect 3, .requestArrives, .respond 3 true, .deliver 3 true false, .requestAcked,
        .connect 5, .requestArrives, .respond 5 true, .deliver 5 true false] :=
  (attached_iff sampleCell (by decide) _ (by decide +kernel)).2 (by decide +kernel)

/-- The response of the access point 3 comes when the station has asked 5. -/
theorem attached_late :
    ∃ w, runSteps step sampleCell
        [.connect 3, .requestArrives, .respond 3 true, .connect 5, .deliver 3 true false] = .ok w ∧
      StepsMeet step Possible sampleCell
        [.connect 3, .requestArrives, .respond 3 true, .connect 5, .deliver 3 true false] ∧
      w.station.hdvState = .connected ∧ w.station.bssId = 3 ∧ w.asked = some 5 ∧ ¬ w.Attached := by
  refine ⟨_, rfl, by decide +kernel, rfl, rfl, rfl, fun h => ?_⟩
  obtain ⟨hasked, -, -⟩ := h rfl
  exact absurd hasked (by decide)

/-! ### Link up and link down -/

/-- The responses that arrive are those of the access point that was asked. -/
def Asked (w : Cell) (e : Event) : Prop :=
  w.Possible e ∧
    match e with
    | .deliver src _ _ => w.asked = some src
    | _ => True

/-- Link up and link down alternate, and the last one is a link up when the station is connected. -/
structure Alternate (w : Cell) : Prop where
  alternates : Alternates w.station.linkEvents
  last_iff : last w.station.linkEvents = true ↔ w.station.hdvState = .connected

/-- The station is connected when it gives its access point up, and is not when it asks the same
access point again. -/
def Regular (w : Cell) : Event → Prop
  | .connect macPoA =>
      w.station.bssId ≠ ibssId → (macPoA ≠ w.station.bssId ↔ w.station.hdvState = .connected)
  | .disconnect => w.station.bssId ≠ ibssId → w.station.hdvState = .connected
  | .requestFails =>
      (∃ dst, w.station.pktManagement = some (.assocRequest dst)) → w.station.bssId ≠ ibssId →
        w.station.hdvState = .connected
  | .bssExpires => w.station.bssId ≠ ibssId → w.station.hdvState = .connected
  | _ => True

/-- The events alternate, and a connected station is attached to the access point it asked. -/
structure Linked (w : Cell) : Prop extends Alternate w where
  attached : w.station.hdvState = .connected → w.asked = some w.station.bssId
  poA : ∀ macPoA, w.asked = some macPoA → macPoA ≠ ibssId

/-- Nothing has happened to the station yet. -/
structure Fresh (w : Cell) : Prop where
  asked : w.asked = none
  log : w.station.log = []
  bssId : w.station.bssId = ibssId
  hdvState : w.station.hdvState = .disconnected

theorem Linked.bssId (h : w.Linked) (hconn : w.station.hdvState = .connected) :
    w.station.bssId ≠ ibssId :=
  h.poA _ (h.attached hconn)

section Events

variable {s : Mac80211}

/-- A link down after which the station is not connected. -/
theorem alternates_down (h : w.Linked)
    (hevents : s.linkEvents =
      if w.station.bssId = ibssId then w.station.linkEvents else w.station.linkEvents ++ [false])
    (hstate : s.hdvState ≠ .connected) :
    (Alternates s.linkEvents ∧ (last s.linkEvents = true ↔ s.hdvState = .connected)) ↔
      (w.station.bssId ≠ ibssId → w.station.hdvState = .connected) := by
  by_cases hbss : w.station.bssId = ibssId
  · have hno : w.station.hdvState ≠ .connected := fun hconn => h.bssId hconn hbss
    rw [if_pos hbss] at hevents
    rw [hevents, h.last_iff]
    exact iff_of_true ⟨h.alternates, iff_of_false hno hstate⟩ fun hne => absurd hbss hne
  · rw [if_neg hbss] at hevents
    rw [hevents, alternates_concat, last_concat]
    simp [hbss, hstate, h.alternates, h.last_iff]

/-- Events that are not there leave what there is. -/
theorem alternates_same (h : w.Linked) (hevents : s.linkEvents = w.station.linkEvents) :
    (Alternates s.linkEvents ∧ (last s.linkEvents = true ↔ s.hdvState = .connected)) ↔
      (s.hdvState = .connected ↔ w.station.hdvState = .connected) := by
  rw [hevents, h.last_iff]
  exact ⟨fun hs => hs.2.symm, fun hs => ⟨h.alternates, hs.symm⟩⟩

end Events

theorem alternate_iff_and :
    w.Alternate ↔ Alternates w.station.linkEvents ∧
      (last w.station.linkEvents = true ↔ w.station.hdvState = .connected) :=
  ⟨fun h => ⟨h.1, h.2⟩, fun h => ⟨h.1, h.2⟩⟩

theorem linked_of_alternate (h : w.Alternate) (hstate : w.station.hdvState ≠ .connected)
    (hpoA : ∀ macPoA, w.asked = some macPoA → macPoA ≠ ibssId) : w.Linked :=
  ⟨h, fun hconn => absurd hconn hstate, hpoA⟩

/-- An accepted response comes when the station is not connected, or is passed over. -/
theorem Linked.deliver {src : MacAddr} (h : w.Linked) (accepted busy : Bool)
    (hsrc : w.asked = some src) :
    Linked { w with
      station := w.station.recvAssocResponse src accepted busy
      answered := w.answered || w.asked = some src } := by
  rcases w.station.recvAssocResponse_cases src accepted busy with
    ⟨hsame, -⟩ | ⟨⟨-, hdup⟩, hanswer⟩
  · rw [hsame]
    exact ⟨⟨h.alternates, h.last_iff⟩, h.attached, h.poA⟩
  · have hno : w.station.hdvState ≠ .connected := by
      intro hconn
      have hbss := (h.attached hconn).symm.trans hsrc
      exact hdup ⟨(Option.some.inj hbss).symm, hconn⟩
    have hlast : last w.station.linkEvents ≠ true := fun hlast => hno (h.last_iff.1 hlast)
    rcases hanswer with ⟨-, log, handover, heq, hevents⟩ | ⟨-, heq⟩
    · rw [heq]
      refine ⟨⟨?_, ?_⟩, fun _ => hsrc, h.poA⟩
      · show Alternates (log.filterMap Mac80211.linkEvent)
        rw [hevents]
        exact alternates_concat.2 ⟨h.alternates, hlast⟩
      · show last (log.filterMap Mac80211.linkEvent) = true ↔ _
        rw [hevents, last_concat]
        exact iff_of_true rfl rfl
    · have hstate : (w.station.recvAssocResponse src accepted busy).hdvState ≠ .connected := by
        rw [heq]
        simp [(Mac80211.linkDisconnect_attachment _).2.1]
      have hevents : (w.station.recvAssocResponse src accepted busy).linkEvents =
          w.station.linkEvents := by
        rw [heq, Mac80211.linkDisconnect_events, if_pos rfl]
        rfl
      have halt := (alternates_same h hevents).2 (iff_of_false hstate hno)
      exact linked_of_alternate ⟨halt.1, halt.2⟩ hstate h.poA

section Step

variable {e : Event}

/-- An event that leaves the links as they are. -/
theorem Linked.same (h : w'.Linked) (hregular : w.Regular e) :
    (w'.Alternate ↔ w.Regular e) ∧ (w'.Alternate → w'.Linked) :=
  ⟨iff_of_true h.toAlternate hregular, fun _ => h⟩

/-- The station gives its access point up, if it has one. -/
theorem Linked.down (h : w.Linked) (hasked : w'.asked = w.asked)
    (hevents : w'.station.linkEvents =
      if w.station.bssId = ibssId then w.station.linkEvents else w.station.linkEvents ++ [false])
    (hno : w'.station.hdvState ≠ .connected) :
    (w'.Alternate ↔ (w.station.bssId ≠ ibssId → w.station.hdvState = .connected)) ∧
      (w'.Alternate → w'.Linked) := by
  refine ⟨?_, fun halt => linked_of_alternate halt hno (hasked ▸ h.poA)⟩
  rw [alternate_iff_and]
  exact alternates_down h hevents hno

theorem Linked.connect {macPoA : MacAddr} (h : w.Linked) (hpoA : macPoA ≠ ibssId)
    (hstep : w.step (.connect macPoA) = .ok w') :
    (w'.Alternate ↔ w.Regular (.connect macPoA)) ∧ (w'.Alternate → w'.Linked) := by
  obtain ⟨s, hs, rfl⟩ := map_ok_iff.1 hstep
  obtain ⟨-, hstate, -⟩ := Mac80211.linkConnect_attachment hs
  have hno : s.hdvState ≠ .connected := by simp [hstate]
  refine ⟨?_, fun halt => linked_of_alternate halt hno fun mac hmac => ?_⟩
  rotate_left
  · obtain rfl := Option.some.inj hmac
    exact hpoA
  have hevents := Mac80211.linkConnect_events hs
  rw [alternate_iff_and]
  by_cases hbss : w.station.bssId = ibssId
  · rw [if_neg fun hand => hand.1 hbss] at hevents
    have hno' : w.station.hdvState ≠ .connected := fun hconn => h.bssId hconn hbss
    rw [alternates_same h hevents]
    exact iff_of_true (iff_of_false hno hno') fun hne => absurd hbss hne
  · by_cases hmac : macPoA = w.station.bssId
    · rw [if_neg fun hand => hand.2 hmac] at hevents
      rw [alternates_same h hevents]
      simp [Regular, hbss, hmac, hstate]
    · rw [if_pos ⟨hbss, hmac⟩] at hevents
      rw [alternates_down h (by rw [if_neg hbss, hevents]) hno]
      simp [Regular, hbss, hmac]

theorem Linked.requestArrives (h : w.Linked) : w.requestArrives.Linked := by
  unfold Cell.requestArrives
  split
  · exact ⟨⟨h.alternates, h.last_iff⟩, h.attached, h.poA⟩
  · exact h

theorem Linked.requestFails (h : w.Linked) (hstep : w.step .requestFails = .ok w') :
    (w'.Alternate ↔ w.Regular .requestFails) ∧ (w'.Alternate → w'.Linked) := by
  obtain rfl := Except.ok.inj hstep
  rcases w.station.managementFailed_cases with ⟨hreq, heq⟩ | ⟨hreq, heq⟩
  · have hno : w.station.managementFailed.hdvState ≠ .connected := by
      rw [heq]
      simp [(Mac80211.linkDisconnect_attachment _).2.1]
    have hevents :
        w.station.managementFailed.linkEvents = w.station.linkDisconnect.linkEvents := by
      rw [heq]
      rfl
    have hasked : ({ w with station := w.station.managementFailed } : Cell).asked = w.asked := rfl
    obtain ⟨hiff, hlinked⟩ :=
      h.down hasked (hevents.trans (Mac80211.linkDisconnect_events _)) hno
    exact ⟨hiff.trans ⟨fun hconn _ => hconn, fun hregular => hregular hreq⟩, hlinked⟩
  · have hlinked : Linked { w with station := w.station.managementFailed } := by
      rw [heq]
      exact ⟨⟨h.alternates, h.last_iff⟩, h.attached, h.poA⟩
    refine hlinked.same ?_
    rintro ⟨dst, hdst⟩
    exact absurd hdst (hreq dst)

theorem Linked.bssExpires (h : w.Linked) (hstep : w.step .bssExpires = .ok w') :
    (w'.Alternate ↔ w.Regular .bssExpires) ∧ (w'.Alternate → w'.Linked) := by
  obtain ⟨s, hs, rfl⟩ := map_ok_iff.1 hstep
  rcases Mac80211.bssExpire_cases hs with ⟨hbss, hstate, -, hevents⟩ | ⟨hbss, rfl⟩
  · have hno : s.hdvState ≠ .connected := by simp [hstate]
    exact h.down rfl (by rw [if_neg hbss, hevents]) hno
  · have hlinked : Linked { w with station := { w.station with bssTimer := .idle } } :=
      ⟨⟨h.alternates, h.last_iff⟩, h.attached, h.poA⟩
    exact hlinked.same fun hne => absurd hbss hne

/-- After a step from a linked state the events alternate exactly when the step is regular. -/
theorem Linked.step (h : w.Linked) (hasked : w.Asked e) (hstep : w.step e = .ok w') :
    (w'.Alternate ↔ w.Regular e) ∧ (w'.Alternate → w'.Linked) := by
  cases e with
  | connect macPoA => exact h.connect hasked.1 hstep
  | disconnect =>
    obtain rfl := Except.ok.inj hstep
    have hno : w.station.linkDisconnect.hdvState ≠ .connected := by
      simp [(Mac80211.linkDisconnect_attachment _).2.1]
    exact h.down rfl (Mac80211.linkDisconnect_events _) hno
  | requestArrives =>
    obtain rfl := Except.ok.inj hstep
    exact h.requestArrives.same trivial
  | requestAcked =>
    obtain rfl := Except.ok.inj hstep
    have hlinked : Linked { w with station := w.station.managementSent } :=
      ⟨⟨h.alternates, h.last_iff⟩, h.attached, h.poA⟩
    exact hlinked.same trivial
  | requestFails => exact h.requestFails hstep
  | bssExpires => exact h.bssExpires hstep
  | beacon strong =>
    obtain ⟨s, hs, rfl⟩ := map_ok_iff.1 hstep
    obtain ⟨timer, rfl⟩ := Mac80211.recvBeacon_own hs
    have hlinked : Linked { w with station := { w.station with bssTimer := timer } } :=
      ⟨⟨h.alternates, h.last_iff⟩, h.attached, h.poA⟩
    exact hlinked.same trivial
  | respond src accepted =>
    obtain rfl := Except.ok.inj hstep
    have hlinked : Linked { w with responses := (src, accepted) :: w.responses } :=
      ⟨⟨h.alternates, h.last_iff⟩, h.attached, h.poA⟩
    exact hlinked.same trivial
  | deliver src accepted busy =>
    obtain rfl := Except.ok.inj hstep
    exact (h.deliver accepted busy hasked.2).same trivial

end Step

instance (w : Cell) (e : Event) : Decidable (w.Regular e) :=
  match e with
  | .connect macPoA => inferInstanceAs (Decidable (w.station.bssId ≠ ibssId →
      (macPoA ≠ w.station.bssId ↔ w.station.hdvState = .connected)))
  | .disconnect =>
    inferInstanceAs (Decidable (w.station.bssId ≠ ibssId → w.station.hdvState = .connected))
  | .requestFails =>
    match h : w.station.pktManagement with
    | some (.assocRequest dst) =>
      decidable_of_iff (w.station.bssId ≠ ibssId → w.station.hdvState = .connected)
        ⟨fun hs _ => hs, fun hs => hs ⟨dst, h⟩⟩
    | some .probeRequest => isTrue fun ⟨_, hdst⟩ => by simp [h] at hdst
    | none => isTrue fun ⟨_, hdst⟩ => by simp [h] at hdst
  | .bssExpires =>
    inferInstanceAs (Decidable (w.station.bssId ≠ ibssId → w.station.hdvState = .connected))
  | .requestArrives => isTrue trivial
  | .requestAcked => isTrue trivial
  | .beacon _ => isTrue trivial
  | .respond _ _ => isTrue trivial
  | .deliver _ _ _ => isTrue trivial

instance (w : Cell) (e : Event) : Decidable (w.Asked e) :=
  match e with
  | .deliver src accepted _ =>
    inferInstanceAs (Decidable ((src, accepted) ∈ w.responses ∧ w.asked = some src))
  | .connect macPoA => inferInstanceAs (Decidable (macPoA ≠ ibssId ∧ True))
  | .bssExpires => inferInstanceAs (Decidable (w.station.bssTimer = .pending ∧ True))
  | .beacon _ => inferInstanceAs (Decidable (w.station.bssId ≠ ibssId ∧ True))
  | .respond src _ => inferInstanceAs (Decidable (src ∈ w.requested ∧ True))
  | .disconnect => isTrue ⟨trivial, trivial⟩
  | .requestArrives => isTrue ⟨trivial, trivial⟩
  | .requestAcked => isTrue ⟨trivial, trivial⟩
  | .requestFails => isTrue ⟨trivial, trivial⟩

end Cell

end SipNemo.Mac
