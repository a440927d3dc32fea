import SipNemo.Mac.Scan

/-!
# After a scan

`link_scan` saves the channel in `orig_ch` and the access point in `old_bss_id_`, and the last
branch of `nextScan` restores them.  The state of the attachment is not saved: afterwards it is
`MAC_CONNECTED`.  So a scan restores the attachment exactly when the station was connected
(`restored_iff`), and a station that was not does not take notice of access points any more.
-/

namespace SipNemo.Mac

open RequestTable Runs
open Mih (MacAddr)

namespace Mac80211

/-! ### The property -/

/-- A beacon of `src` is reported to the MIH, or the station tries to connect. -/
def Notices (s : Mac80211) (src : MacAddr) : Prop :=
  ∃ s', s.recvBeacon src true = .ok s' ∧
    (s'.log = s.log ++ [.linkDetected src] ∨ s'.pktManagement = some (.assocRequest src))

/-- `s'` is attached as `s` was; if `s` was disconnected, `s'` takes notice of access points. -/
structure Restored (s s' : Mac80211) : Prop where
  channel : s'.channel = s.channel
  bssId : s'.bssId = s.bssId
  hdvState : s'.hdvState = s.hdvState
  notices : s.hdvState = .disconnected → ∀ src, src ≠ s.bssId → s'.Notices src

/-- What may happen until the scan ends: its timers expire, and frames are sent and received. -/
def During : Input → Prop
  | .probeExpire => True
  | .minExpire react => react = []
  | .maxExpire react => react = []
  | .beacon _ _ => True
  | .probeResponse _ _ => True
  | .managementSent => True
  | _ => False

variable {s s' t u : Mac80211}

/-! ### What a scan saves -/

/-- The scan goes on with what it has saved. -/
structure Keeps (s s' : Mac80211) : Prop where
  step : s'.step = s.step
  origCh : s'.origCh = s.origCh
  oldBssId : s'.oldBssId = s.oldBssId

/-- The scan has ended and what it had saved is restored. -/
structure Ended (s s' : Mac80211) : Prop where
  channel : s'.channel = s.origCh
  bssId : s'.bssId = s.oldBssId
  hdvState : s'.hdvState = .connected

/-- The scan goes on, or it ends by the last branch; outside scans none is started. -/
def Proceeds (s s' : Mac80211) : Prop :=
  s.Keeps s' ∨ s'.step = .none ∧ (s.step ≠ .none → s.Ended s')

theorem Keeps.trans (h : s.Keeps t) (h' : t.Keeps u) : s.Keeps u :=
  ⟨h'.step.trans h.step, h'.origCh.trans h.origCh, h'.oldBssId.trans h.oldBssId⟩

theorem stopScan_keeps (h : s.stopScan [] = .ok s') : s.Keeps s' := by
  obtain ⟨resp, -, h⟩ := bind_ok_iff.1 h
  obtain ⟨t, ht, h⟩ := bind_ok_iff.1 h
  obtain ⟨q, -, h⟩ := bind_ok_iff.1 h
  obtain rfl := Except.ok.inj ht
  obtain rfl := Except.ok.inj h
  exact ⟨rfl, rfl, rfl⟩

theorem nextChannel_keeps {req : ScanRequest} (h : s.nextChannel req = .ok s') : s.Keeps s' := by
  obtain ⟨channel, -, h⟩ := bind_ok_iff.1 h
  obtain ⟨t, ht, h⟩ := bind_ok_iff.1 h
  obtain rfl := Except.ok.inj h
  rw [setFreq_eq_ok ht]
  exact ⟨rfl, rfl, rfl⟩

/-- The last branch, when the users of the MIH give no command. -/
theorem endScan_ended (h : s.endScan [] = .ok s') : s'.step = .none ∧ s.Ended s' := by
  obtain ⟨t, ht, h⟩ := bind_ok_iff.1 h
  obtain ⟨resp, -, h⟩ := bind_ok_iff.1 h
  obtain ⟨u, hu, h⟩ := bind_ok_iff.1 h
  obtain ⟨q, -, h⟩ := bind_ok_iff.1 h
  have ht' := setFreq_eq_ok ht
  obtain rfl := Except.ok.inj hu
  obtain rfl := Except.ok.inj h
  rw [ht']
  exact ⟨rfl, rfl, rfl, rfl⟩

theorem nextScan_proceeds (h : s.nextScan [] = .ok s') : s.Proceeds s' := by
  obtain ⟨req, -, h⟩ := bind_ok_iff.1 h
  split_ifs at h
  · exact .inl (stopScan_keeps h)
  · exact .inl (nextChannel_keeps h)
  · obtain ⟨hstep, hended⟩ := endScan_ended h
    exact .inr ⟨hstep, fun _ => hended⟩

/-! ### One step -/

theorem Proceeds.of_keeps (h : s.Keeps t) (ht : t.Proceeds u) : s.Proceeds u := by
  rcases ht with hkeeps | ⟨hstep, hended⟩
  · exact .inl (h.trans hkeeps)
  · refine .inr ⟨hstep, fun hs => ?_⟩
    obtain ⟨hchannel, hbss, hstate⟩ := hended (h.step ▸ hs)
    exact ⟨hchannel.trans h.origCh, hbss.trans h.oldBssId, hstate⟩

/-- A step that only changes what is not of the attachment. -/
theorem Proceeds.same (h : s.Proceeds t) (hu : t.Keeps u) (hchannel : u.channel = t.channel)
    (hbss : u.bssId = t.bssId) (hstate : u.hdvState = t.hdvState) : s.Proceeds u := by
  rcases h with hkeeps | ⟨hstep, hended⟩
  · exact .inl (hkeeps.trans hu)
  · refine .inr ⟨hu.step.trans hstep, fun hs => ?_⟩
    have h := hended hs
    exact ⟨hchannel.trans h.channel, hbss.trans h.bssId, hstate.trans h.hdvState⟩

theorem minExpire_proceeds (h : s.minExpire [] = .ok s') : s.Proceeds s' := by
  obtain ⟨-, ⟨-, frame, rfl⟩ | ⟨-, u, hu, rfl⟩⟩ := minExpire_cases h
  · exact .inl ⟨rfl, rfl, rfl⟩
  · have hproceeds : s.Proceeds u :=
      Proceeds.of_keeps (t := { s with minTimer := .handling }) ⟨rfl, rfl, rfl⟩
        (nextScan_proceeds hu)
    exact hproceeds.same ⟨rfl, rfl, rfl⟩ rfl rfl rfl

theorem maxExpire_proceeds (h : s.maxExpire [] = .ok s') : s.Proceeds s' := by
  obtain ⟨-, u, hu, rfl⟩ := maxExpire_cases h
  have hproceeds : s.Proceeds u :=
    Proceeds.of_keeps (t := { s with maxTimer := .handling }) ⟨rfl, rfl, rfl⟩
      (nextScan_proceeds hu)
  exact hproceeds.same ⟨rfl, rfl, rfl⟩ rfl rfl rfl

theorem recvBeacon_proceeds {src : MacAddr} {strong : Bool} (h : s.recvBeacon src strong = .ok s') :
    s.Proceeds s' := by
  rcases recvBeacon_cases h with ⟨timer, resp, recvd, channels, log, rfl⟩ | ⟨hstep, channels, h⟩
  · exact .inl ⟨rfl, rfl, rfl⟩
  · -- a connection, and no scan is in progress
    exact .inr ⟨(linkConnect_spec h).1, fun hs => absurd hstep hs⟩

theorem perform_proceeds {i : Input} (hi : During i) (h : s.perform i = .ok s') :
    s.Proceeds s' := by
  cases i with
  | probeExpire =>
    obtain ⟨-, frame, rfl⟩ := probeExpire_ok h
    exact .inl ⟨rfl, rfl, rfl⟩
  | minExpire react =>
    obtain rfl : react = [] := hi
    exact minExpire_proceeds h
  | maxExpire react =>
    obtain rfl : react = [] := hi
    exact maxExpire_proceeds h
  | beacon src strong => exact recvBeacon_proceeds h
  | probeResponse src busy =>
    obtain ⟨resp, rfl⟩ := recvProbeResponse_ok h
    exact .inl ⟨rfl, rfl, rfl⟩
  | managementSent =>
    obtain rfl := Except.ok.inj h
    exact .inl ⟨rfl, rfl, rfl⟩
  | _ => exact absurd hi id

/-! ### Runs -/

/-- During a scan that began in the state `s`, what it has saved is of that state. -/
def Saved (s t : Mac80211) : Prop := t.step ≠ .none → t.origCh = s.channel ∧ t.oldBssId = s.bssId

theorem linkScan_saved {req : ScanRequest} (hstep : s.step = .none) (h : s.linkScan req = .ok t) :
    s.Saved t := by
  rcases linkScan_cases h with ⟨hbusy, -⟩ | ⟨-, channel, frame, log, -, -, rfl⟩
  · exact absurd hstep hbusy
  · exact fun _ => ⟨rfl, rfl⟩

theorem Saved.proceeds (h : s.Saved t) (hu : t.Proceeds u) : s.Saved u := by
  intro hstep
  rcases hu with hkeeps | ⟨hnone, -⟩
  · obtain ⟨horig, hold⟩ := h (hkeeps.step ▸ hstep)
    exact ⟨hkeeps.origCh.trans horig, hkeeps.oldBssId.trans hold⟩
  · exact absurd hnone hstep

/-- A scan that ends by its last branch restores the attachment it found exactly when the station
was connected. -/
theorem restored_iff (s u t s' : Mac80211) (req : ScanRequest) (is : List Input) (i : Input)
    (hstep : s.step = .none) (hscan : s.linkScan req = .ok u)
    (hduring : ∀ j ∈ is, During j) (hrun : runSteps perform u is = .ok t) (ht : t.step ≠ .none)
    (hi : During i) (hlast : t.perform i = .ok s') (hs' : s'.step = .none) :
    Restored s s' ↔ s.hdvState = .connected := by
  have hmeet : StepsMeet perform (fun _ j => During j) u is :=
    stepsMeet_of_mem (fun j hj _ => hduring j hj) u
  have hsaved : s.Saved t :=
    runSteps_invariant (fun v j v' hv hj hv' => hv.proceeds (perform_proceeds hj hv'))
      (linkScan_saved hstep hscan) hmeet hrun
  obtain ⟨horig, hold⟩ := hsaved ht
  have hended : t.Ended s' := by
    rcases perform_proceeds hi hlast with hkeeps | ⟨-, hended⟩
    · exact absurd (hkeeps.step.symm.trans hs') ht
    · exact hended ht
  constructor
  · intro hrestored
    rw [← hrestored.hdvState]
    exact hended.hdvState
  · intro hconn
    refine ⟨hended.channel.trans horig, hended.bssId.trans hold,
      hended.hdvState.trans hconn.symm, ?_⟩
    intro hdisc
    rw [hconn] at hdisc
    cases hdisc

/-- A station on channel 1 that is connected to the access point 3. -/
def sampleClient : Mac80211 :=
  { addr := 9, mih := true, bssId := 3, hdvState := .connected, bssTimer := .pending }

theorem restored_of_connected :
    ∃ s', runSteps perform sampleClient [.command (.scan ⟨.scanAll, [6]⟩), .probeExpire,
      .beacon 7 true, .maxExpire []] = .ok s' ∧ sampleClient.Restored s' :=
  ⟨_, rfl, (restored_iff sampleClient _ _ _ ⟨.scanAll, [6]⟩ [.probeExpire, .beacon 7 true]
    (.maxExpire []) rfl rfl (by simp [During]) rfl ScanStep.noConfusion rfl rfl rfl).2 rfl⟩

/-- A connected station takes no notice of the beacons of other access points. -/
theorem recvBeacon_connected {src : MacAddr} {strong : Bool} (hstep : s.step = .none)
    (hconn : s.hdvState = .connected) (hsrc : src ≠ s.bssId) : s.recvBeacon src strong = .ok s := by
  simp [recvBeacon, hstep, hconn, hsrc]

/-- A disconnected station believes after a scan that it is connected. -/
theorem disconnected_not_restored :
    ∃ s', runSteps perform sampleTerminal [.command (.scan ⟨.scanAll, [6]⟩), .probeExpire,
        .beacon 7 true, .maxExpire []] = .ok s' ∧
      s'.hdvState = .connected ∧ s'.bssId = ibssId ∧ ¬ s'.Notices 7 ∧
        ¬ sampleTerminal.Restored s' := by
  refine ⟨_, rfl, rfl, rfl, ?_, ?_⟩
  · rintro ⟨s', hs', hnotice⟩
    rw [recvBeacon_connected rfl rfl (by decide)] at hs'
    obtain rfl := Except.ok.inj hs'
    rcases hnotice with hlog | hframe
    · exact absurd hlog (by decide)
    · cases hframe
  · intro hrestored
    cases hrestored.hdvState

end Mac80211

end SipNemo.Mac
