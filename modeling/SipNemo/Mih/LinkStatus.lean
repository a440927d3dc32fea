import SipNemo.Mih.Delivery

/-!
# The status of an interface

An interface has one status, which each link event overwrites; an interface of an access point has
many links.  `LinkWatch` is the agent with the links that are up according to the events it has
got, which the source does not have.  A link-up event never makes a status wrong; a link-down event
does exactly when the interface has another link that is up (`status_iff`).
-/

namespace SipNemo.Mih

open FirstMatch Runs

/-- A link: the mobile terminal and the point of attachment. -/
abbrev LinkEnds := MacAddr × MacAddr

/-- The link of an identifier, whatever its type. -/
def LinkIdentifier.ends (linkId : LinkIdentifier) : LinkEnds :=
  (linkId.macMobileTerminal, linkId.macPoA)

namespace MIHAgent

variable {s s' : MIHAgent} {out : List Output} {payload : Payload} {linkId : LinkIdentifier}
  {status : InterfaceStatus}

/-- `localMac` of an event about the link. -/
def localEnd (s : MIHAgent) (link : LinkEnds) : MacAddr :=
  if s.isLocalMac link.1 then link.1 else link.2

/-! ### A status that is written -/

theorem getInterface_setStatus (mac a : MacAddr) :
    (s.modifyInterface mac fun i => i.setStatus status).getInterface a =
      if a = mac then (s.getInterface a).map fun i => i.setStatus status
      else s.getInterface a := by
  unfold getInterface modifyInterface
  split_ifs with ha
  · subst ha
    exact find?_updateFirst_self (f := fun i : MIHInterfaceInfo => i.setStatus status)
      (fun _ => rfl) s.ifaces
  · refine find?_updateFirst_of_disjoint fun i _ hi => ?_
    have hne : i.macAddr ≠ a := by
      rw [of_decide_eq_true hi]
      exact Ne.symm ha
    exact ⟨decide_eq_false hne, decide_eq_false hne⟩

theorem isLocalMac_setStatus (mac a : MacAddr) :
    (s.modifyInterface mac fun i => i.setStatus status).isLocalMac a = s.isLocalMac a := by
  unfold isLocalMac
  rw [getInterface_setStatus]
  split_ifs
  · cases s.getInterface a with
    | none => rfl
    | some info => rfl
  · rfl

theorem localEnd_setStatus (mac : MacAddr) (link : LinkEnds) :
    (s.modifyInterface mac fun i => i.setStatus status).localEnd link = s.localEnd link := by
  simp only [localEnd, isLocalMac_setStatus]

/-- An event with a plain indication writes one status. -/
theorem processLink_state {e : LinkEvent} (hp : payload.isRequest = false)
    (h : s.processLink linkId status e (fun s => s.indicate payload) = .ok (s', out)) :
    ∃ t, s' =
      (s.modifyInterface (s.localEnd linkId.ends) fun i => i.setStatus status).setTid t := by
  obtain ⟨info, -, h⟩ := bind_ok_iff.1 h
  obtain ⟨⟨t, sent⟩, hloop, h⟩ := bind_ok_iff.1 h
  obtain ⟨rfl, -⟩ := Prod.mk.inj (Except.ok.inj h)
  exact (forEach_turn (isTurn_indicate hp) hloop).1

end MIHAgent

/-- The agent, with the links that are up. -/
structure LinkWatch where
  agent : MIHAgent
  up : Finset LinkEnds := ∅

namespace LinkWatch

/-- The events that bring a link up or down. -/
inductive Event
  | up (e : LinkUp)
  | down (e : LinkDown)

/-- The link of an event. -/
def Event.link : Event → LinkEnds
  | .up e => e.linkIdentifier.ends
  | .down e => e.linkIdentifier.ends

/-- One event. -/
def step (w : LinkWatch) : Event → Act LinkWatch
  | .up e => do
    let (agent, _) ← w.agent.processLinkUp e
    pure { agent := agent, up := insert e.linkIdentifier.ends w.up }
  | .down e => do
    let (agent, _) ← w.agent.processLinkDown e
    pure { agent := agent, up := w.up.erase e.linkIdentifier.ends }

/-- Some link with this local end is up. -/
def LinkUpAt (w : LinkWatch) (mac : MacAddr) : Prop := ∃ link ∈ w.up, w.agent.localEnd link = mac

/-- The status of an interface says whether a link of it is up. -/
def Truthful (w : LinkWatch) : Prop :=
  ∀ mac info, w.agent.getInterface mac = some info → (info.status = .up ↔ w.LinkUpAt mac)

/-- A link goes down only when no other link of its interface is up. -/
def LastLink (w : LinkWatch) : Event → Prop
  | .up _ => True
  | .down e => ∀ link ∈ w.up, w.agent.localEnd link = w.agent.localEnd e.linkIdentifier.ends →
      link = e.linkIdentifier.ends

/-! ### One event -/

variable {w w' : LinkWatch}

/-- What an event does: it sets the status of the link's interface, and the links up become `up`. -/
structure Sets (w : LinkWatch) (link : LinkEnds) (status : InterfaceStatus) (up : Finset LinkEnds)
    (w' : LinkWatch) : Prop where
  up_eq : w'.up = up
  localEnd_eq : ∀ l, w'.agent.localEnd l = w.agent.localEnd l
  getInterface_eq : ∀ mac, w'.agent.getInterface mac =
    if mac = w.agent.localEnd link then
      (w.agent.getInterface mac).map fun i => i.setStatus status
    else w.agent.getInterface mac
  known : ∃ info, w.agent.getInterface (w.agent.localEnd link) = some info

theorem sets_of_processLink {linkId : LinkIdentifier} {status : InterfaceStatus} {e : LinkEvent}
    {payload : Payload} {up : Finset LinkEnds} {agent : MIHAgent} {out : List Output}
    (hp : payload.isRequest = false)
    (h : w.agent.processLink linkId status e (fun s => s.indicate payload) = .ok (agent, out)) :
    Sets w linkId.ends status up { agent := agent, up := up } := by
  obtain ⟨info, hinfo, -⟩ := bind_ok_iff.1 h
  obtain ⟨t, rfl⟩ := MIHAgent.processLink_state hp h
  exact ⟨rfl, MIHAgent.localEnd_setStatus _, MIHAgent.getInterface_setStatus _,
    ⟨info, assertNonNull_eq_ok.1 hinfo⟩⟩

theorem sets_of_up {e : LinkUp} (h : w.step (.up e) = .ok w') :
    Sets w e.linkIdentifier.ends .up (insert e.linkIdentifier.ends w.up) w' := by
  obtain ⟨⟨agent, out⟩, hprocess, h⟩ := bind_ok_iff.1 h
  cases h
  exact sets_of_processLink rfl hprocess

theorem sets_of_down {e : LinkDown} (h : w.step (.down e) = .ok w') :
    Sets w e.linkIdentifier.ends .down (w.up.erase e.linkIdentifier.ends) w' := by
  obtain ⟨⟨agent, out⟩, hprocess, h⟩ := bind_ok_iff.1 h
  cases h
  exact sets_of_processLink rfl hprocess

namespace Sets

variable {link : LinkEnds} {status : InterfaceStatus} {up : Finset LinkEnds}

/-- After the event, all statuses are right if the one it set is and the links of the other
interfaces have not changed. -/
theorem truthful_iff (h : Sets w link status up w') (hw : Truthful w)
    (hother : ∀ l, w.agent.localEnd l ≠ w.agent.localEnd link → (l ∈ up ↔ l ∈ w.up)) :
    Truthful w' ↔ (status = .up ↔ w'.LinkUpAt (w.agent.localEnd link)) := by
  constructor
  · intro hw'
    obtain ⟨info, hinfo⟩ := h.known
    have hset : w'.agent.getInterface (w.agent.localEnd link) = some (info.setStatus status) := by
      rw [h.getInterface_eq, if_pos rfl, hinfo]
      rfl
    exact hw' _ _ hset
  · intro hlink mac info hinfo
    rw [h.getInterface_eq] at hinfo
    split_ifs at hinfo with hmac
    · subst hmac
      obtain ⟨old, -, rfl⟩ := Option.map_eq_some_iff.1 hinfo
      exact hlink
    · rw [hw mac info hinfo]
      refine exists_congr fun l => ?_
      rw [h.up_eq, h.localEnd_eq]
      refine and_congr_left fun hl => (hother l ?_).symm
      rw [hl]
      exact hmac

end Sets

/-- A link-up event leaves the statuses right. -/
theorem truthful_of_up {e : LinkUp} (hw : Truthful w) (h : w.step (.up e) = .ok w') :
    Truthful w' := by
  have hsets := sets_of_up h
  refine (hsets.truthful_iff hw fun l hl => ?_).2 ?_
  · refine (Finset.mem_insert.trans (or_iff_right ?_))
    rintro rfl
    exact hl rfl
  · refine iff_of_true rfl ⟨e.linkIdentifier.ends, ?_, hsets.localEnd_eq _⟩
    rw [hsets.up_eq]
    exact Finset.mem_insert_self _ _

/-- A link-down event does if and only if it is about the last link. -/
theorem truthful_iff_of_down {e : LinkDown} (hw : Truthful w) (h : w.step (.down e) = .ok w') :
    Truthful w' ↔ LastLink w (.down e) := by
  have hsets := sets_of_down h
  rw [hsets.truthful_iff hw]
  · have hdown : InterfaceStatus.down ≠ .up := by decide
    rw [iff_false_left hdown]
    unfold LinkUpAt
    rw [hsets.up_eq]
    constructor
    · intro hnone link hup hend
      by_contra hne
      exact hnone ⟨link, Finset.mem_erase.2 ⟨hne, hup⟩, (hsets.localEnd_eq link).trans hend⟩
    · rintro hlast ⟨link, hup, hend⟩
      obtain ⟨hne, hup⟩ := Finset.mem_erase.1 hup
      exact hne (hlast link hup ((hsets.localEnd_eq link).symm.trans hend))
  · intro l hl
    refine Finset.mem_erase.trans (and_iff_right ?_)
    rintro rfl
    exact hl rfl

/-- After an event the statuses are right if and only if it meets `LastLink`. -/
theorem truthful_step_iff {i : Event} (hw : Truthful w) (h : w.step i = .ok w') :
    Truthful w' ↔ LastLink w i := by
  cases i with
  | up e => exact iff_of_true (truthful_of_up hw h) trivial
  | down e => exact truthful_iff_of_down hw h

/-! ### Runs -/

/-- No link is up, and no interface. -/
structure AllDown (w : LinkWatch) : Prop where
  links : w.up = ∅
  interfaces : ∀ info ∈ w.agent.ifaces, info.status = .down

theorem AllDown.truthful (h : AllDown w) : Truthful w := by
  intro mac info hinfo
  have hdown : info.status = .down := h.interfaces info (List.mem_of_find?_eq_some hinfo)
  refine iff_of_false (by rw [hdown]; decide) ?_
  rintro ⟨link, hlink, -⟩
  rw [h.links] at hlink
  exact absurd hlink (Finset.notMem_empty link)

/-- In every run that starts with all links down and returns, the statuses are right after every
event if and only if a link goes down only when it is the last one up of its interface. -/
theorem status_iff (w w' : LinkWatch) (events : List Event) (h0 : AllDown w)
    (hrun : runSteps step w events = .ok w') :
    Throughout step Truthful w events ↔ StepsMeet step LastLink w events := by
  have hdecides : ∀ w i w', Truthful w → True → step w i = .ok w' →
      (Truthful w' ↔ LastLink w i) ∧ (Truthful w' → Truthful w') :=
    fun _ _ _ hw _ h => ⟨truthful_step_iff hw h, id⟩
  have henv : StepsMeet step (fun _ _ => True) w events :=
    stepsMeet_of_forall (fun _ _ => trivial) w events
  exact ⟨stepsMeet_of_decides hdecides h0.truthful henv hrun,
    throughout_of_decides hdecides (fun _ => id) h0.truthful henv⟩

/-- The agent of an access point with one interface, 1. -/
def samplePoint : LinkWatch := { agent := sampleAgent 0x202 }

/-- The link of a station with that interface. -/
def stationLink (station : MacAddr) : LinkIdentifier := ⟨link80211, station, 1⟩

def stationUp (station : MacAddr) : Event := .up ⟨stationLink station, 0, 0, false, 0⟩

def stationDown (station : MacAddr) : Event := .down ⟨stationLink station, 0, 0⟩

theorem allDown_samplePoint : AllDown samplePoint where
  links := rfl
  interfaces := by
    intro info hinfo
    rw [List.mem_singleton.1 hinfo]
    rfl

theorem status_of_one :
    Throughout step Truthful samplePoint [stationUp 10, stationDown 10, stationUp 11] :=
  (status_iff samplePoint _ _ allDown_samplePoint rfl).2 (by
    refine .cons trivial rfl (.cons ?_ rfl (.cons trivial rfl trivial))
    intro link hlink _
    exact Finset.mem_singleton.1 hlink)

/-- Two stations are linked with the access point, and one goes. -/
theorem status_of_two :
    ∃ w info, runSteps step samplePoint [stationUp 10, stationUp 11, stationDown 10] = .ok w ∧
      w.agent.getInterface 1 = some info ∧ info.status = .down ∧ (11, 1) ∈ w.up ∧
      w.agent.localEnd (11, 1) = 1 ∧
      ¬ Throughout step Truthful samplePoint [stationUp 10, stationUp 11, stationDown 10] := by
  obtain ⟨w, hrun, hup, hend, info, hinfo, hstatus⟩ :
      ∃ w, runSteps step samplePoint [stationUp 10, stationUp 11, stationDown 10] = .ok w ∧
        (11, 1) ∈ w.up ∧ w.agent.localEnd (11, 1) = 1 ∧
        ∃ info, w.agent.getInterface 1 = some info ∧ info.status = .down :=
    ⟨_, rfl, by decide, rfl, _, rfl, rfl⟩
  refine ⟨w, info, hrun, hinfo, hstatus, hup, hend, fun h => ?_⟩
  have hiff := h.last hrun 1 info hinfo
  rw [hstatus] at hiff
  exact absurd (hiff.2 ⟨(11, 1), hup, hend⟩) (by decide)

end LinkWatch

end SipNemo.Mih
