import SipNemo.Mac.Station

/-!
# Scans in progress

While a scan is in progress its request is there and its timers run; when it is over none of the
three timers runs.  Three things break this: a disconnection during a scan, which stops the timers
and not the scan; a probe timer that is still running when the scan ends; and a scan that a response
has stopped, which is left in progress with its request freed unless the users of the MIH connect at
once.

`sound_iff`: in a run that does not abort the property holds throughout exactly when none of these
happens.
-/

namespace SipNemo.Mac

open RequestTable Runs
open Mih (MacAddr)
open TimerHandler (cancelPending cancelPending_ne_pending)

namespace Mac80211

/-! ### The property -/

/-- A scan in progress can go on, and otherwise no timer of a scan is running. -/
structure Sound (s : Mac80211) : Prop where
  live : s.step ≠ .none → ∃ req, s.req = .live req ∧ s.scanIndex < req.prefCh.length
  timer : s.step ≠ .none → s.minTimer = .pending ∨ s.maxTimer = .pending
  idle : s.step = .none →
    s.minTimer ≠ .pending ∧ s.maxTimer ≠ .pending ∧ s.probeTimer ≠ .pending

/-- No scan is in progress, and no timer is running. -/
structure Fresh (s : Mac80211) : Prop where
  step : s.step = .none
  minTimer : s.minTimer = .idle
  maxTimer : s.maxTimer = .idle
  probeTimer : s.probeTimer = .idle

/-! ### The condition -/

/-- The commands leave no scan in progress, and start none; `scanning` tells whether one is in
progress before. -/
def Settles : Bool → List LinkCommand → Prop
  | scanning, [] => scanning = false
  | _, .connect _ :: cs => Settles false cs
  | scanning, .disconnect :: cs => Settles scanning cs
  | scanning, .scan _ :: cs => scanning = true ∧ Settles true cs

/-- The result of a scan is answered in this way, and the last probe was sent before. -/
def Answered (s : Mac80211) (scanning : Bool) (react : List LinkCommand) : Prop :=
  s.probeTimer ≠ .pending ∧ Settles scanning react

/-- A response stops the scan. -/
def Stops (s : Mac80211) (req : ScanRequest) : Prop :=
  req.action = .stopFirst ∧ s.recvdResponse = true

/-- The channel is the last one. -/
def LastChannel (s : Mac80211) (req : ScanRequest) : Prop := ¬ s.scanIndex + 1 < req.prefCh.length

/-- When this ends the scan, its result is answered. -/
def Ends (s : Mac80211) (react : List LinkCommand) : Prop :=
  ∀ req, s.req = .live req →
    (s.Stops req → s.Answered true react) ∧
      (¬ s.Stops req → s.LastChannel req → s.Answered false react)

/-- The steps that leave a scan as it should be. -/
def Clean (s : Mac80211) : Input → Prop
  | .command (.connect _) => s.probeTimer ≠ .pending
  | .command .disconnect => s.step = .none
  | .minExpire react => s.recvdResponse = false → s.Ends react
  | .maxExpire react => s.Ends react
  | .bssExpire => s.bssId ≠ ibssId → s.step = .none
  | .assocResponse src accepted busy =>
      busy = false → accepted = false → ¬ (src = s.bssId ∧ s.hdvState = .connected) →
        s.step = .none
  | .managementFailed => (∃ dst, s.pktManagement = some (.assocRequest dst)) → s.step = .none
  | _ => True

instance decidableSettles : ∀ (scanning : Bool) (cs : List LinkCommand),
    Decidable (Settles scanning cs)
  | scanning, [] => inferInstanceAs (Decidable (scanning = false))
  | _, .connect _ :: cs => decidableSettles false cs
  | scanning, .disconnect :: cs => decidableSettles scanning cs
  | scanning, .scan _ :: cs =>
    have := decidableSettles true cs
    inferInstanceAs (Decidable (scanning = true ∧ Settles true cs))

instance (s : Mac80211) (scanning : Bool) (react : List LinkCommand) :
    Decidable (s.Answered scanning react) :=
  inferInstanceAs (Decidable (s.probeTimer ≠ .pending ∧ Settles scanning react))

instance (s : Mac80211) (req : ScanRequest) : Decidable (s.Stops req) :=
  inferInstanceAs (Decidable (req.action = .stopFirst ∧ s.recvdResponse = true))

instance (s : Mac80211) (req : ScanRequest) : Decidable (s.LastChannel req) :=
  inferInstanceAs (Decidable (¬ s.scanIndex + 1 < req.prefCh.length))

instance (s : Mac80211) (react : List LinkCommand) : Decidable (s.Ends react) :=
  match h : s.req with
  | .live req =>
    decidable_of_iff ((s.Stops req → s.Answered true react) ∧
        (¬ s.Stops req → s.LastChannel req → s.Answered false react))
      ⟨fun hends _ hr => ReqPtr.live.inj (h.symm.trans hr) ▸ hends, fun hends => hends req h⟩
  | .null => isTrue fun _ hr => ReqPtr.noConfusion (h.symm.trans hr)
  | .freed => isTrue fun _ hr => ReqPtr.noConfusion (h.symm.trans hr)

instance (s : Mac80211) (i : Input) : Decidable (s.Clean i) :=
  match i with
  | .command (.connect _) => inferInstanceAs (Decidable (s.probeTimer ≠ .pending))
  | .command .disconnect => inferInstanceAs (Decidable (s.step = .none))
  | .command (.scan _) => isTrue trivial
  | .probeExpire => isTrue trivial
  | .minExpire react => inferInstanceAs (Decidable (s.recvdResponse = false → s.Ends react))
  | .maxExpire react => inferInstanceAs (Decidable (s.Ends react))
  | .bssExpire => inferInstanceAs (Decidable (s.bssId ≠ ibssId → s.step = .none))
  | .beacon _ _ => isTrue trivial
  | .probeResponse _ _ => isTrue trivial
  | .assocResponse src accepted busy =>
    inferInstanceAs (Decidable (busy = false → accepted = false →
      ¬ (src = s.bssId ∧ s.hdvState = .connected) → s.step = .none))
  | .managementSent => isTrue trivial
  | .managementFailed =>
    match h : s.pktManagement with
    | some (.assocRequest dst) =>
      decidable_of_iff (s.step = .none) ⟨fun hs _ => hs, fun hs => hs ⟨dst, h⟩⟩
    | some .probeRequest => isTrue fun ⟨_, hdst⟩ => by simp [h] at hdst
    | none => isTrue fun ⟨_, hdst⟩ => by simp [h] at hdst

/-- The timers of a scan expire only while one is in progress. -/
def InScan (s : Mac80211) : Input → Prop
  | .probeExpire => s.probeTimer = .pending → s.step ≠ .none
  | .minExpire _ => s.minTimer = .pending → s.step ≠ .none
  | .maxExpire _ => s.maxTimer = .pending → s.step ≠ .none
  | _ => True

variable {s s' : Mac80211}

/-! ### The commands -/

/-- `link_disconnect` keeps the scan and stops its timers. -/
theorem linkDisconnect_spec (s : Mac80211) :
    s.linkDisconnect.step = s.step ∧ s.linkDisconnect.req = s.req ∧
      s.linkDisconnect.probeTimer = s.probeTimer ∧
        s.linkDisconnect.minTimer ≠ .pending ∧ s.linkDisconnect.maxTimer ≠ .pending := by
  unfold linkDisconnect
  dsimp only
  split_ifs <;>
    exact ⟨rfl, rfl, rfl, cancelPending_ne_pending, cancelPending_ne_pending⟩

/-- `link_connect` ends the scan, and stops its timers but for the probe timer. -/
theorem linkConnect_spec {macPoA : MacAddr} (h : s.linkConnect macPoA = .ok s') :
    s'.step = .none ∧ s'.req = s.req ∧ s'.probeTimer = s.probeTimer ∧
      s'.minTimer ≠ .pending ∧ s'.maxTimer ≠ .pending := by
  obtain ⟨rfl, -⟩ := linkConnect_ok h
  obtain ⟨hmin, -, -, hreq, -, hprobe⟩ := leave_cleared s macPoA
  exact ⟨rfl, hreq, hprobe, hmin, cancelPending_ne_pending⟩

/-- A scan is in progress, with its request and its timers. -/
structure Scanning (s : Mac80211) : Prop where
  step : s.step ≠ .none
  live : ∃ req, s.req = .live req ∧ s.scanIndex < req.prefCh.length
  minTimer : s.minTimer = .pending
  maxTimer : s.maxTimer = .pending

/-- No scan is in progress, nor any of its timers. -/
structure Quiet (s : Mac80211) : Prop where
  step : s.step = .none
  minTimer : s.minTimer ≠ .pending
  maxTimer : s.maxTimer ≠ .pending
  probeTimer : s.probeTimer ≠ .pending

theorem linkScan_busy {req : ScanRequest} (hstep : s.step ≠ .none) (h : s.linkScan req = .ok s') :
    s' = s := by
  rcases linkScan_cases h with ⟨-, rfl⟩ | ⟨hnone, -⟩
  · rfl
  · exact absurd hnone hstep

/-- `link_scan` starts a scan when there is none. -/
theorem linkScan_spec {req : ScanRequest} (hstep : s.step = .none)
    (h : s.linkScan req = .ok s') : s'.Scanning ∧ s'.probeTimer = .pending := by
  rcases linkScan_cases h with ⟨hbusy, -⟩ | ⟨-, channel, frame, log, hchannel, -, rfl⟩
  · exact absurd hstep hbusy
  · have hlt : 0 < req.prefCh.length := lt_length_of_index hchannel
    exact ⟨⟨ScanStep.noConfusion, ⟨req, rfl, hlt⟩, rfl, rfl⟩, rfl⟩

/-! ### The users of the MIH -/

/-- Commands that leave no scan in progress: none of them starts one, and the timers are off. -/
theorem react_of_settles {react : List LinkCommand}
    (hsettles : Settles (decide (s.step ≠ .none)) react)
    (hmin : s.minTimer ≠ .pending) (hmax : s.maxTimer ≠ .pending)
    (h : react.foldlM command s = .ok s') :
    s'.step = .none ∧ s'.minTimer ≠ .pending ∧ s'.maxTimer ≠ .pending ∧
      s'.probeTimer = s.probeTimer ∧ s'.req = s.req := by
  induction react generalizing s with
  | nil =>
    obtain rfl := Except.ok.inj h
    exact ⟨by simpa [Settles] using hsettles, hmin, hmax, rfl, rfl⟩
  | cons c react ih =>
    rw [List.foldlM_cons] at h
    obtain ⟨t, ht, hreact⟩ := bind_ok_iff.1 h
    cases c with
    | connect macPoA =>
      obtain ⟨hstep, hreq, hprobe, htmin, htmax⟩ := linkConnect_spec ht
      have hsettles' : Settles (decide (t.step ≠ .none)) react := by
        simpa [hstep, Settles] using hsettles
      obtain ⟨hs, hsmin, hsmax, hsprobe, hsreq⟩ := ih hsettles' htmin htmax hreact
      exact ⟨hs, hsmin, hsmax, hsprobe.trans hprobe, hsreq.trans hreq⟩
    | disconnect =>
      obtain rfl := Except.ok.inj ht
      obtain ⟨hstep, hreq, hprobe, htmin, htmax⟩ := linkDisconnect_spec s
      have hsettles' : Settles (decide (s.linkDisconnect.step ≠ .none)) react := by
        rw [hstep]
        exact hsettles
      obtain ⟨hs, hsmin, hsmax, hsprobe, hsreq⟩ := ih hsettles' htmin htmax hreact
      exact ⟨hs, hsmin, hsmax, hsprobe.trans hprobe, hsreq.trans hreq⟩
    | scan req =>
      -- a scan is only asked for while the old one is in progress, and so in vain
      obtain ⟨hstep, hsettles'⟩ := hsettles
      obtain rfl := linkScan_busy (of_decide_eq_true hstep) ht
      rw [← hstep] at hsettles'
      exact ih hsettles' hmin hmax hreact

/-- No command stops the probe timer. -/
theorem react_probe {react : List LinkCommand} (hprobe : s.probeTimer = .pending)
    (h : react.foldlM command s = .ok s') : s'.probeTimer = .pending := by
  induction react generalizing s with
  | nil =>
    obtain rfl := Except.ok.inj h
    exact hprobe
  | cons c react ih =>
    rw [List.foldlM_cons] at h
    obtain ⟨t, ht, hreact⟩ := bind_ok_iff.1 h
    refine ih ?_ hreact
    cases c with
    | connect macPoA => exact (linkConnect_spec ht).2.2.1.trans hprobe
    | disconnect =>
      obtain rfl := Except.ok.inj ht
      exact (linkDisconnect_spec s).2.2.1.trans hprobe
    | scan req =>
      by_cases hstep : s.step = .none
      · exact (linkScan_spec hstep ht).2
      · obtain rfl := linkScan_busy hstep ht
        exact hprobe

/-- Commands after which no scan and no probe timer is left have settled the scan. -/
theorem settles_of_react {react : List LinkCommand} (h : react.foldlM command s = .ok s')
    (hstep' : s'.step = .none) (hprobe' : s'.probeTimer ≠ .pending) :
    Settles (decide (s.step ≠ .none)) react := by
  induction react generalizing s with
  | nil =>
    obtain rfl := Except.ok.inj h
    simpa [Settles] using hstep'
  | cons c react ih =>
    rw [List.foldlM_cons] at h
    obtain ⟨t, ht, hreact⟩ := bind_ok_iff.1 h
    have hrest := ih hreact
    cases c with
    | connect macPoA => simpa [(linkConnect_spec ht).1, Settles] using hrest
    | disconnect =>
      obtain rfl := Except.ok.inj ht
      rw [(linkDisconnect_spec s).1] at hrest
      exact hrest
    | scan req =>
      by_cases hstep : s.step = .none
      · exact absurd (react_probe (linkScan_spec hstep ht).2 hreact) hprobe'
      · obtain rfl := linkScan_busy hstep ht
        simpa [hstep, Settles] using hrest

/-! ### The end of a scan -/

/-- The state between two steps: a scan goes on, or there is none. -/
def Ready (s : Mac80211) : Prop := s.Quiet ∨ s.Scanning

theorem Ready.sound (h : s.Ready) : s.Sound := by
  rcases h with h | h
  · exact ⟨fun hs => absurd h.step hs, fun hs => absurd h.step hs,
      fun _ => ⟨h.minTimer, h.maxTimer, h.probeTimer⟩⟩
  · exact ⟨fun _ => h.live, fun _ => .inl h.minTimer, fun hs => absurd hs h.step⟩

/-- The outcome of a step that ends the scan, good exactly when the condition holds. -/
def Decides (clean : Prop) (s' : Mac80211) : Prop := (clean → s'.Ready) ∧ (¬ clean → ¬ s'.Sound)

/-- What the answer to a result decides, the request being gone afterwards. -/
theorem react_decides {t u : Mac80211} {react : List LinkCommand} {scanning : Bool}
    (hu : react.foldlM command t = .ok u)
    (hstep : decide (t.step ≠ .none) = scanning) (hprobe : t.probeTimer = s.probeTimer)
    (hmin : t.minTimer ≠ .pending) (hmax : t.maxTimer ≠ .pending)
    (hstep' : s'.step = u.step) (hmin' : s'.minTimer = u.minTimer)
    (hmax' : s'.maxTimer = u.maxTimer) (hprobe' : s'.probeTimer = u.probeTimer)
    (hreq' : ∀ req, s'.req ≠ .live req) : Decides (s.Answered scanning react) s' := by
  constructor
  · rintro ⟨hidle, hsettles⟩
    rw [← hstep] at hsettles
    obtain ⟨hs, hsmin, hsmax, hsprobe, -⟩ := react_of_settles hsettles hmin hmax hu
    refine .inl ⟨hstep'.trans hs, hmin' ▸ hsmin, hmax' ▸ hsmax, ?_⟩
    rw [hprobe', hsprobe]
    exact hprobe ▸ hidle
  · intro hno hsound
    -- without its request no scan is in progress, so the probe timer is off
    have hs : s'.step = .none := by
      by_contra hs
      obtain ⟨req, hreq, -⟩ := hsound.live hs
      exact hreq' req hreq
    have hidle : u.probeTimer ≠ .pending := hprobe' ▸ (hsound.idle hs).2.2
    refine hno ⟨fun hpending => hidle (react_probe (hprobe.trans hpending) hu), ?_⟩
    rw [← hstep]
    exact settles_of_react hu (hstep' ▸ hs) hidle

theorem stopScan_decides {react : List LinkCommand} (hstep : s.step ≠ .none)
    (h : s.stopScan react = .ok s') : Decides (s.Answered true react) s' := by
  obtain ⟨resp, hresp, h⟩ := bind_ok_iff.1 h
  obtain ⟨u, hu, h⟩ := bind_ok_iff.1 h
  obtain ⟨q, hq, h⟩ := bind_ok_iff.1 h
  obtain rfl := Except.ok.inj h
  exact react_decides hu (decide_eq_true hstep) rfl cancelPending_ne_pending
    cancelPending_ne_pending rfl rfl rfl rfl (ReqPtr.free_ne_live hq)

theorem endScan_decides {react : List LinkCommand} (h : s.endScan react = .ok s') :
    Decides (s.Answered false react) s' := by
  obtain ⟨t, ht, h⟩ := bind_ok_iff.1 h
  obtain ⟨resp, hresp, h⟩ := bind_ok_iff.1 h
  obtain ⟨u, hu, h⟩ := bind_ok_iff.1 h
  obtain ⟨q, hq, h⟩ := bind_ok_iff.1 h
  obtain rfl := Except.ok.inj h
  have ht' := setFreq_eq_ok ht
  refine react_decides hu rfl ?_ cancelPending_ne_pending cancelPending_ne_pending
    rfl rfl rfl rfl (fun _ => ReqPtr.noConfusion)
  rw [ht']
  rfl

theorem nextChannel_scanning {req : ScanRequest} (hstep : s.step ≠ .none) (hreq : s.req = .live req)
    (h : s.nextChannel req = .ok s') : s'.Scanning := by
  obtain ⟨channel, hchannel, h⟩ := bind_ok_iff.1 h
  obtain ⟨t, ht, h⟩ := bind_ok_iff.1 h
  obtain rfl := Except.ok.inj h
  rw [setFreq_eq_ok ht]
  exact ⟨hstep, ⟨req, hreq, lt_length_of_index hchannel⟩, rfl, rfl⟩

/-- `nextScan`: the scan goes on, or it ends well exactly when its result is answered. -/
theorem nextScan_decides {react : List LinkCommand} (hstep : s.step ≠ .none)
    (h : s.nextScan react = .ok s') : Decides (s.Ends react) s' := by
  obtain ⟨req, hreq, h⟩ := bind_ok_iff.1 h
  have hlive := ReqPtr.deref_eq_ok hreq
  have hends : s.Ends react ↔ (s.Stops req → s.Answered true react) ∧
      (¬ s.Stops req → s.LastChannel req → s.Answered false react) := by
    constructor
    · exact fun h => h req hlive
    · intro h r hr
      obtain rfl := ReqPtr.live.inj (hlive.symm.trans hr)
      exact h
  rw [hends]
  split_ifs at h with hstop hnext
  · simpa [Stops, hstop] using stopScan_decides hstep h
  · have hready : s'.Ready := .inr (nextChannel_scanning hstep hlive h)
    refine ⟨fun _ => hready, fun hno => absurd ⟨fun hs => absurd hs hstop, ?_⟩ hno⟩
    exact fun _ hlast => absurd hnext hlast
  · have hans : ((s.Stops req → s.Answered true react) ∧
        (¬ s.Stops req → s.LastChannel req → s.Answered false react)) ↔
          s.Answered false react := by
      simp [Stops, LastChannel, hstop, hnext]
    rw [hans]
    exact endScan_decides h

/-! ### One step -/

/-- What matters of a station for its scan is the same. -/
structure SameScan (s s' : Mac80211) : Prop where
  step : s'.step = s.step
  req : s'.req = s.req
  scanIndex : s'.scanIndex = s.scanIndex
  minTimer : s'.minTimer = .pending ↔ s.minTimer = .pending
  maxTimer : s'.maxTimer = .pending ↔ s.maxTimer = .pending
  probeTimer : s'.probeTimer = .pending ↔ s.probeTimer = .pending

theorem Ready.same (hs : s.Ready) (h : s.SameScan s') : s'.Ready := by
  rcases hs with hs | hs
  · exact .inl ⟨h.step.trans hs.step, h.minTimer.not.2 hs.minTimer, h.maxTimer.not.2 hs.maxTimer,
      h.probeTimer.not.2 hs.probeTimer⟩
  · obtain ⟨req, hreq, hlt⟩ := hs.live
    exact .inr ⟨h.step ▸ hs.step, ⟨req, h.req.trans hreq, h.scanIndex ▸ hlt⟩,
      h.minTimer.2 hs.minTimer, h.maxTimer.2 hs.maxTimer⟩

theorem SameScan.sound (h : s.SameScan s') (hs : s'.Sound) : s.Sound := by
  refine ⟨fun hstep => ?_, fun hstep => ?_, fun hstep => ?_⟩
  · obtain ⟨req, hreq, hlt⟩ := hs.live (h.step ▸ hstep)
    exact ⟨req, h.req ▸ hreq, h.scanIndex ▸ hlt⟩
  · exact (hs.timer (h.step ▸ hstep)).imp h.minTimer.1 h.maxTimer.1
  · obtain ⟨hmin, hmax, hprobe⟩ := hs.idle (h.step.trans hstep)
    exact ⟨h.minTimer.not.1 hmin, h.maxTimer.not.1 hmax, h.probeTimer.not.1 hprobe⟩

theorem Decides.same {clean : Prop} (hs : Decides clean s) (h : s.SameScan s') :
    Decides clean s' :=
  ⟨fun hclean => (hs.1 hclean).same h, fun hno hsound => hs.2 hno (h.sound hsound)⟩

theorem Ready.decides {clean : Prop} (h : s.Ready) (hclean : clean) : Decides clean s :=
  ⟨fun _ => h, fun hno => absurd hclean hno⟩

theorem Ready.quiet (h : s.Ready) (hstep : s.step = .none) : s.Quiet :=
  h.resolve_right fun hs => hs.step hstep

/-- A disconnection is right exactly when there is no scan. -/
theorem linkDisconnect_decides (h : s.Ready) : Decides (s.step = .none) s.linkDisconnect := by
  obtain ⟨hstep, -, hprobe, hmin, hmax⟩ := linkDisconnect_spec s
  constructor
  · intro hs
    refine .inl ⟨hstep.trans hs, hmin, hmax, ?_⟩
    rw [hprobe]
    exact (h.quiet hs).probeTimer
  · intro hs hsound
    exact (hsound.timer (hstep ▸ hs)).elim hmin hmax

/-- A connection is right exactly when the probe timer is off. -/
theorem linkConnect_decides {macPoA : MacAddr} (h : s.linkConnect macPoA = .ok s') :
    Decides (s.probeTimer ≠ .pending) s' := by
  obtain ⟨hstep, -, hprobe, hmin, hmax⟩ := linkConnect_spec h
  constructor
  · intro hidle
    exact .inl ⟨hstep, hmin, hmax, hprobe ▸ hidle⟩
  · intro hpending hsound
    exact hpending (hprobe ▸ (hsound.idle hstep).2.2)

theorem linkScan_ready {req : ScanRequest} (hs : s.Ready) (h : s.linkScan req = .ok s') :
    s'.Ready := by
  by_cases hstep : s.step = .none
  · exact .inr (linkScan_spec hstep h).1
  · rw [linkScan_busy hstep h]
    exact hs

theorem command_decides {c : LinkCommand} (hs : s.Ready) (h : s.command c = .ok s') :
    Decides (s.Clean (.command c)) s' := by
  cases c with
  | connect macPoA => exact linkConnect_decides h
  | disconnect =>
    obtain rfl := Except.ok.inj h
    exact linkDisconnect_decides hs
  | scan req => exact (linkScan_ready hs h).decides trivial

theorem probeExpire_ready (hs : s.Ready) (h : s.probeExpire = .ok s') : s'.Ready := by
  obtain ⟨hpending, frame, rfl⟩ := probeExpire_ok h
  have hscan : s.Scanning := hs.resolve_left fun hquiet => hquiet.probeTimer hpending
  exact .inr ⟨hscan.step, hscan.live, hscan.minTimer, hscan.maxTimer⟩

theorem minExpire_decides {react : List LinkCommand} (hs : s.Ready)
    (h : s.minExpire react = .ok s') : Decides (s.Clean (.minExpire react)) s' := by
  obtain ⟨hpending, ⟨hrecvd, frame, rfl⟩ | ⟨hrecvd, u, hu, rfl⟩⟩ := minExpire_cases h
  · refine Ready.decides ?_ fun hno => by simp [hrecvd] at hno
    exact hs.same ⟨rfl, rfl, rfl, by simp [hpending], Iff.rfl, Iff.rfl⟩
  · have hscan : s.Scanning := hs.resolve_left fun hquiet => hquiet.minTimer hpending
    have hclean : s.Clean (.minExpire react) ↔ s.Ends react := by simp [Clean, hrecvd]
    have hdecides : Decides (s.Ends react) u :=
      nextScan_decides (s := { s with minTimer := .handling }) hscan.step hu
    rw [hclean]
    exact hdecides.same ⟨rfl, rfl, rfl, TimerHandler.finish_eq_pending, Iff.rfl, Iff.rfl⟩

theorem maxExpire_decides {react : List LinkCommand} (hs : s.Ready)
    (h : s.maxExpire react = .ok s') : Decides (s.Clean (.maxExpire react)) s' := by
  obtain ⟨hpending, u, hu, rfl⟩ := maxExpire_cases h
  have hscan : s.Scanning := hs.resolve_left fun hquiet => hquiet.maxTimer hpending
  have hdecides : Decides (s.Clean (.maxExpire react)) u :=
    nextScan_decides (s := { s with maxTimer := .handling }) hscan.step hu
  exact hdecides.same ⟨rfl, rfl, rfl, Iff.rfl, TimerHandler.finish_eq_pending, Iff.rfl⟩

theorem bssExpire_decides (hs : s.Ready) (h : s.bssExpire = .ok s') :
    Decides (s.Clean .bssExpire) s' := by
  obtain ⟨t, ht, h⟩ := bind_ok_iff.1 h
  obtain rfl := Except.ok.inj h
  have hready : ({ s with bssTimer := t } : Mac80211).Ready :=
    hs.same ⟨rfl, rfl, rfl, Iff.rfl, Iff.rfl, Iff.rfl⟩
  suffices hdecides : Decides (s.Clean .bssExpire) (if s.bssId ≠ ibssId then
      ({ s with bssTimer := t } : Mac80211).linkDisconnect else { s with bssTimer := t }) from
    hdecides.same ⟨rfl, rfl, rfl, Iff.rfl, Iff.rfl, Iff.rfl⟩
  split_ifs with hbss
  · have hclean : s.Clean .bssExpire ↔ s.step = .none := by simp [Clean, hbss]
    rw [hclean]
    exact linkDisconnect_decides hready
  · exact hready.decides fun hne => absurd hne hbss

theorem recvBeacon_ready {src : MacAddr} {strong : Bool} (hs : s.Ready)
    (h : s.recvBeacon src strong = .ok s') : s'.Ready := by
  rcases recvBeacon_cases h with ⟨timer, resp, recvd, channels, log, rfl⟩ | ⟨hstep, channels, h⟩
  · exact hs.same ⟨rfl, rfl, rfl, Iff.rfl, Iff.rfl, Iff.rfl⟩
  · -- without MIH the station connects, outside scans
    exact (linkConnect_decides h).1 (hs.quiet hstep).probeTimer

theorem recvProbeResponse_ready {src : MacAddr} {busy : Bool} (hs : s.Ready)
    (h : s.recvProbeResponse src busy = .ok s') : s'.Ready := by
  obtain ⟨resp, rfl⟩ := recvProbeResponse_ok h
  exact hs.same ⟨rfl, rfl, rfl, Iff.rfl, Iff.rfl, Iff.rfl⟩

theorem recvAssocResponse_decides {src : MacAddr} {accepted busy : Bool} (hs : s.Ready) :
    Decides (s.Clean (.assocResponse src accepted busy))
      (s.recvAssocResponse src accepted busy) := by
  unfold recvAssocResponse
  dsimp only
  split_ifs with hbusy hconn hacc hho
  · exact hs.decides fun hno => by simp [hbusy] at hno
  · exact hs.decides fun _ _ hno => absurd hconn hno
  · refine Ready.decides ?_ fun _ hno => by simp [hacc] at hno
    exact hs.same ⟨rfl, rfl, rfl, Iff.rfl, Iff.rfl, Iff.rfl⟩
  · refine Ready.decides ?_ fun _ hno => by simp [hacc] at hno
    exact hs.same ⟨rfl, rfl, rfl, Iff.rfl, Iff.rfl, Iff.rfl⟩
  · have hclean : s.Clean (.assocResponse src accepted busy) ↔ s.step = .none := by
      simp [Clean, hbusy, hacc, hconn]
    rw [hclean]
    have hready : ({ s with bssId := ibssId } : Mac80211).Ready :=
      hs.same ⟨rfl, rfl, rfl, Iff.rfl, Iff.rfl, Iff.rfl⟩
    exact linkDisconnect_decides hready

theorem managementFailed_decides (hs : s.Ready) :
    Decides (s.Clean .managementFailed) s.managementFailed := by
  unfold managementFailed
  split
  · next dst hdst =>
    have hclean : s.Clean .managementFailed ↔ s.step = .none := by simp [Clean, hdst]
    rw [hclean]
    refine (linkDisconnect_decides hs).same ?_
    exact ⟨rfl, rfl, rfl, Iff.rfl, Iff.rfl, Iff.rfl⟩
  · next hother =>
    refine Ready.decides ?_ fun ⟨dst, hdst⟩ => absurd hdst (hother dst)
    exact hs.same ⟨rfl, rfl, rfl, Iff.rfl, Iff.rfl, Iff.rfl⟩

/-- A step from one state between steps to the next, good exactly when the step is clean. -/
theorem perform_decides {i : Input} (hs : s.Ready) (h : s.perform i = .ok s') :
    Decides (s.Clean i) s' := by
  cases i with
  | command c => exact command_decides hs h
  | probeExpire => exact (probeExpire_ready hs h).decides trivial
  | minExpire react => exact minExpire_decides hs h
  | maxExpire react => exact maxExpire_decides hs h
  | bssExpire => exact bssExpire_decides hs h
  | beacon src strong => exact (recvBeacon_ready hs h).decides trivial
  | probeResponse src busy => exact (recvProbeResponse_ready hs h).decides trivial
  | assocResponse src accepted busy =>
    obtain rfl := Except.ok.inj h
    exact recvAssocResponse_decides hs
  | managementSent =>
    obtain rfl := Except.ok.inj h
    exact Ready.decides (hs.same ⟨rfl, rfl, rfl, Iff.rfl, Iff.rfl, Iff.rfl⟩) trivial
  | managementFailed =>
    obtain rfl := Except.ok.inj h
    exact managementFailed_decides hs

/-! ### Runs -/

theorem Fresh.ready (h : s.Fresh) : s.Ready :=
  .inl ⟨h.step, by simp [h.minTimer], by simp [h.maxTimer], by simp [h.probeTimer]⟩

theorem Sound.inScan (h : s.Sound) (i : Input) : s.InScan i := by
  cases i with
  | probeExpire => exact fun ht hstep => (h.idle hstep).2.2 ht
  | minExpire react => exact fun ht hstep => (h.idle hstep).1 ht
  | maxExpire react => exact fun ht hstep => (h.idle hstep).2.1 ht
  | _ => trivial

/-- When all steps are clean, the scan is sound in every state of the run, and its timers expire
only during a scan.  In a run that returns it is sound throughout only when all steps are clean. -/
theorem sound_iff (s : Mac80211) (hfresh : s.Fresh) (is : List Input) :
    (StepsMeet perform Clean s is →
      Throughout perform Sound s is ∧ StepsMeet perform InScan s is) ∧
    ((∃ s', runSteps perform s is = .ok s') → Throughout perform Sound s is →
      StepsMeet perform Clean s is) := by
  have hstep : ∀ t i t', Ready t → Clean t i → perform t i = .ok t' → Ready t' :=
    fun t i t' ht hclean h => (perform_decides ht h).1 hclean
  have hbad : ∀ t i t', Ready t → ¬ Clean t i → perform t i = .ok t' → ¬ Sound t' :=
    fun t i t' ht hno h => (perform_decides ht h).2 hno
  constructor
  · intro hclean
    have hsound := throughout_of_invariant hstep (fun t => Ready.sound) hfresh.ready hclean
    exact ⟨hsound, hsound.stepsMeet fun t i ht => ht.inScan i⟩
  · rintro ⟨s', hrun⟩ hsound
    exact stepsMeet_of_throughout hstep hbad hfresh.ready hrun hsound

/-- A mobile node that has just been made. -/
def sampleTerminal : Mac80211 := { addr := 9, mih := true }

/-- Two channels, with an answer on the second; the users connect when they are told. -/
def sampleScan : List Input :=
  [.command (.scan ⟨.scanAll, [1, 6]⟩), .probeExpire, .managementSent, .minExpire [], .probeExpire,
    .beacon 7 true, .maxExpire [.connect 7]]

theorem sound_of_connect :
    Throughout perform Sound sampleTerminal sampleScan ∧
      StepsMeet perform InScan sampleTerminal sampleScan :=
  (sound_iff sampleTerminal ⟨rfl, rfl, rfl, rfl⟩ sampleScan).1 (by decide +kernel)

/-- A disconnection stops the timers of a scan and leaves it in progress; a scan that a response
has stopped stays in progress without its request. -/
theorem scan_left_behind :
    (∃ s, runSteps perform sampleTerminal
          [.command (.scan ⟨.scanAll, [1, 6]⟩), .command .disconnect] =
        .ok s ∧ s.step = .waiting ∧ s.minTimer = .idle ∧ s.maxTimer = .idle ∧ ¬ s.Sound) ∧
    (∃ s, runSteps perform sampleTerminal [.command (.scan ⟨.stopFirst, [1, 6]⟩), .probeExpire,
        .probeResponse 7 false, .maxExpire []] =
        .ok s ∧ s.step = .waiting ∧ s.req = .freed ∧ ¬ s.Sound) := by
  refine ⟨⟨_, rfl, rfl, rfl, rfl, fun h => ?_⟩, ⟨_, rfl, rfl, rfl, fun h => ?_⟩⟩
  · exact absurd (h.timer (by decide)) (by decide)
  · obtain ⟨req, hreq, -⟩ := h.live (by decide)
    cases hreq

end Mac80211

end SipNemo.Mac
