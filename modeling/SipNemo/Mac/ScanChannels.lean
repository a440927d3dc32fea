import SipNemo.Lib.FirstMatch
import SipNemo.Mac.Attachment
import SipNemo.Mac.Scan

/-!
# Connecting to what a scan has found

`link_connect` tunes to the channel in `channelIDAfterScan_`, and `calFreq` checks it.  The last
branch of `nextScan` stores the channels of the access points it reports before it reports them; the
branch that stops at the first response does not (`connectable_iff`).
-/

namespace SipNemo.Mac

open RequestTable Runs
open Mih (MacAddr)
open TimerHandler (cancelPending cancelPending_ne_pending)

namespace Mac80211

variable {s s' t u v : Mac80211} {req : ScanRequest} {resp : List BSSDescription}
  {macPoA : MacAddr} {c : ℤ}

/-! ### The property -/

/-- `link_connect` tunes to the channel `c`. -/
def ConnectsOn (s : Mac80211) (macPoA : MacAddr) (c : ℤ) : Prop :=
  ∃ s', s.linkConnect macPoA = .ok s' ∧ s'.channel = c

/-- The timer expires in the state `t`, which gives a result and leads to `s'`.  The users of the
MIH can connect to the access point on the channel of its description, at once or afterwards. -/
def Connectable (t : Mac80211) (expire : List LinkCommand → Input) (s' : Mac80211)
    (n : BSSDescription) : Prop :=
  (∃ v, t.perform (expire [.connect n.bssId]) = .ok v ∧ v.channel = n.channel) ∧
    s'.ConnectsOn n.bssId n.channel

/-! ### `link_connect` -/

/-- It tunes to the channel that it has for the access point, if that is one of the band. -/
theorem connectsOn_iff : s.ConnectsOn macPoA c ↔
    s.channelIDAfterScan macPoA = c ∧ 0 < c ∧ c ≤ 11 := by
  have hmap : (s.leave macPoA).channelIDAfterScan = s.channelIDAfterScan :=
    (leave_cleared s macPoA).2.2.1
  have hchannel : ((s.leave macPoA).askFor macPoA).channel = s.channelIDAfterScan macPoA :=
    congrFun hmap macPoA
  constructor
  · rintro ⟨t, ht, rfl⟩
    obtain ⟨rfl, hband⟩ := linkConnect_ok ht
    rw [hchannel]
    exact ⟨rfl, hband⟩
  · rintro ⟨rfl, hband⟩
    exact ⟨_, (linkConnect_eq s macPoA).trans (if_pos hband), hchannel⟩

/-! ### What a scan has collected -/

/-- The request of a scan and its result. -/
def scanned (s : Mac80211) : ReqPtr × Option (List BSSDescription) := (s.req, s.resp)

/-- While there is a request, each access point in the result is there once, with a channel of the
request. -/
def Collecting (s : Mac80211) : Prop :=
  ∀ req, s.req = .live req → ∃ resp, s.resp = some resp ∧ (resp.map BSSDescription.bssId).Nodup ∧
    ∀ n ∈ resp, n.channel ∈ req.prefCh

/-- There is no request, or it has been freed. -/
def Over (s : Mac80211) : Prop := ∀ req, s.req ≠ .live req

theorem Over.collecting (h : s.Over) : s.Collecting := fun req hreq => absurd hreq (h req)

theorem Collecting.of_scanned (h : s.Collecting) (ht : t.scanned = s.scanned) : t.Collecting := by
  intro req hreq
  have hresp : t.resp = s.resp := congrArg Prod.snd ht
  rw [hresp]
  exact h req ((congrArg Prod.fst ht).symm.trans hreq)

theorem linkDisconnect_scanned (s : Mac80211) : s.linkDisconnect.scanned = s.scanned := by
  unfold linkDisconnect
  dsimp only
  split_ifs
  · rfl
  · rfl

theorem linkConnect_scanned (h : s.linkConnect macPoA = .ok s') : s'.scanned = s.scanned := by
  obtain ⟨rfl, -⟩ := linkConnect_ok h
  obtain ⟨-, -, -, hreq, hresp, -⟩ := leave_cleared s macPoA
  exact Prod.ext hreq hresp

/-- A scan begins with an empty result, unless there is one already. -/
theorem Collecting.linkScan (h : s.Collecting) (hs : s.linkScan req = .ok t) : t.Collecting := by
  rcases linkScan_cases hs with ⟨-, rfl⟩ | ⟨-, channel, frame, log, -, -, rfl⟩
  · exact h
  · intro req' hreq'
    exact ⟨[], rfl, List.nodup_nil, fun n hn => absurd hn List.not_mem_nil⟩

theorem Collecting.command (h : s.Collecting) {c : LinkCommand} (hs : s.command c = .ok t) :
    t.Collecting := by
  cases c with
  | connect macPoA => exact h.of_scanned (linkConnect_scanned hs)
  | disconnect =>
    obtain rfl := Except.ok.inj hs
    exact h.of_scanned s.linkDisconnect_scanned
  | scan req => exact h.linkScan hs

theorem Collecting.addDescription {src : MacAddr} (h : s.Collecting)
    (hs : s.addDescription src = .ok t) : t.Collecting := by
  obtain ⟨resp, hresp, hs⟩ := bind_ok_iff.1 hs
  split_ifs at hs with hany
  · obtain rfl := Except.ok.inj hs
    exact h
  · obtain ⟨req, hreq, hs⟩ := bind_ok_iff.1 hs
    obtain ⟨channel, hchannel, hs⟩ := bind_ok_iff.1 hs
    obtain rfl := Except.ok.inj hs
    have hlive := ReqPtr.deref_eq_ok hreq
    obtain ⟨resp', hresp', hnodup, hband⟩ := h req hlive
    obtain rfl : resp' = resp := Option.some.inj (hresp'.symm.trans (deref_eq_ok.1 hresp))
    intro req' hreq'
    obtain rfl : req = req' := ReqPtr.live.inj (hlive.symm.trans hreq')
    refine ⟨_, rfl, ?_, ?_⟩
    · rw [List.map_cons, List.nodup_cons]
      exact ⟨by simpa using hany, hnodup⟩
    · rintro n (_ | ⟨_, hn⟩)
      · exact List.mem_of_getElem? (index_eq_ok.1 hchannel)
      · exact hband n hn

theorem Collecting.recvBeacon {src : MacAddr} {strong : Bool} (h : s.Collecting)
    (hs : s.recvBeacon src strong = .ok t) : t.Collecting := by
  unfold Mac80211.recvBeacon at hs
  dsimp only at hs
  split_ifs at hs
  · obtain rfl := Except.ok.inj hs
    exact h
  · obtain rfl := Except.ok.inj hs
    exact h.of_scanned rfl
  · obtain ⟨u, hu, rfl⟩ := map_ok_iff.1 hs
    exact (h.addDescription hu).of_scanned rfl
  · obtain rfl := Except.ok.inj hs
    exact h.of_scanned rfl
  · obtain rfl := Except.ok.inj hs
    exact h.of_scanned rfl
  · have hscanned := linkConnect_scanned hs
    exact h.of_scanned hscanned
  · obtain rfl := Except.ok.inj hs
    exact h

theorem Collecting.recvProbeResponse {src : MacAddr} {busy : Bool} (h : s.Collecting)
    (hs : s.recvProbeResponse src busy = .ok t) : t.Collecting := by
  have h' : { s with recvdResponse := true }.Collecting := h.of_scanned rfl
  unfold Mac80211.recvProbeResponse at hs
  dsimp only at hs
  split_ifs at hs
  · obtain rfl := Except.ok.inj hs
    exact h'
  · obtain rfl := Except.ok.inj hs
    exact h'
  · obtain ⟨_, -, hs⟩ := bind_ok_iff.1 hs
    exact h'.addDescription hs

theorem recvAssocResponse_scanned (s : Mac80211) (src : MacAddr) (accepted busy : Bool) :
    (s.recvAssocResponse src accepted busy).scanned = s.scanned := by
  rcases s.recvAssocResponse_cases src accepted busy with
    ⟨heq, -⟩ | ⟨-, ⟨-, log, handover, heq, -⟩ | ⟨-, heq⟩⟩
  · rw [heq]
  · rw [heq]
    rfl
  · rw [heq]
    exact linkDisconnect_scanned _

theorem managementFailed_scanned (s : Mac80211) : s.managementFailed.scanned = s.scanned := by
  rcases s.managementFailed_cases with ⟨-, heq⟩ | ⟨-, heq⟩
  · rw [heq]
    exact s.linkDisconnect_scanned
  · rw [heq]
    rfl

theorem bssExpire_scanned (h : s.bssExpire = .ok s') : s'.scanned = s.scanned := by
  obtain ⟨t, -, h⟩ := bind_ok_iff.1 h
  obtain rfl := Except.ok.inj h
  dsimp only
  split_ifs
  · exact linkDisconnect_scanned { s with bssTimer := t }
  · rfl

/-- The next channel, or the end of the request, whatever the users of the MIH do with the
result. -/
theorem Collecting.nextScan (h : s.Collecting) {react : List LinkCommand}
    (hs : s.nextScan react = .ok t) : t.Collecting := by
  obtain ⟨req, -, hs⟩ := bind_ok_iff.1 hs
  split_ifs at hs
  · obtain ⟨resp, -, hs⟩ := bind_ok_iff.1 hs
    obtain ⟨u, -, hs⟩ := bind_ok_iff.1 hs
    obtain ⟨q, hq, hs⟩ := bind_ok_iff.1 hs
    obtain rfl := Except.ok.inj hs
    exact Over.collecting (ReqPtr.free_ne_live hq)
  · obtain ⟨channel, -, hs⟩ := bind_ok_iff.1 hs
    obtain ⟨u, hu, hs⟩ := bind_ok_iff.1 hs
    obtain rfl := Except.ok.inj hs
    rw [setFreq_eq_ok hu]
    exact h.of_scanned rfl
  · obtain ⟨u, -, hs⟩ := bind_ok_iff.1 hs
    obtain ⟨resp, -, hs⟩ := bind_ok_iff.1 hs
    obtain ⟨v, -, hs⟩ := bind_ok_iff.1 hs
    obtain ⟨q, -, hs⟩ := bind_ok_iff.1 hs
    obtain rfl := Except.ok.inj hs
    exact Over.collecting fun _ => ReqPtr.noConfusion

theorem Collecting.perform {i : Input} (h : s.Collecting) (hs : s.perform i = .ok t) :
    t.Collecting := by
  cases i with
  | command c => exact h.command hs
  | probeExpire =>
    obtain ⟨-, frame, rfl⟩ := probeExpire_ok hs
    exact h.of_scanned rfl
  | minExpire react =>
    obtain ⟨-, ⟨-, frame, rfl⟩ | ⟨-, u, hu, rfl⟩⟩ := minExpire_cases hs
    · exact h.of_scanned rfl
    · have h' : { s with minTimer := .handling }.Collecting := h.of_scanned rfl
      exact (h'.nextScan hu).of_scanned rfl
  | maxExpire react =>
    obtain ⟨-, u, hu, rfl⟩ := maxExpire_cases hs
    have h' : { s with maxTimer := .handling }.Collecting := h.of_scanned rfl
    exact (h'.nextScan hu).of_scanned rfl
  | bssExpire => exact h.of_scanned (bssExpire_scanned hs)
  | beacon src strong => exact h.recvBeacon hs
  | probeResponse src busy => exact h.recvProbeResponse hs
  | assocResponse src accepted busy =>
    obtain rfl := Except.ok.inj hs
    exact h.of_scanned (s.recvAssocResponse_scanned src accepted busy)
  | managementSent =>
    obtain rfl := Except.ok.inj hs
    exact h.of_scanned rfl
  | managementFailed =>
    obtain rfl := Except.ok.inj hs
    exact h.of_scanned s.managementFailed_scanned

/-- What a scan has collected, after any history of a station. -/
theorem collecting_run {is : List Input} (h0 : s.Over) (hrun : runSteps perform s is = .ok t) :
    t.Collecting :=
  runSteps_preserves (fun _ _ _ h hs => h.perform hs) h0.collecting hrun

/-! ### The end of a scan -/

theorem storeChannels_of_mem (s : Mac80211) (h : (resp.map BSSDescription.bssId).Nodup)
    {n : BSSDescription} (hn : n ∈ resp) :
    (s.storeChannels resp).channelIDAfterScan n.bssId = n.channel := by
  unfold storeChannels
  exact FirstMatch.foldl_update_of_mem h hn

/-- The users of the MIH connect to an access point when they get the result in the state `v`, and
the scan has more to do with the request. -/
theorem connect_at_once {f : Mac80211 → ReqPtr → Mac80211}
    (hf : ∀ s q, (f s q).channel = s.channel) (hlive : v.req = .live req) :
    (∃ w, (v.sendScanResult resp [.connect macPoA] >>= fun s => s.req.free.map (f s)) = .ok w ∧
        w.channel = c) ↔
      v.channelIDAfterScan macPoA = c ∧ 0 < c ∧ c ≤ 11 := by
  have hsend : v.sendScanResult resp [.connect macPoA] =
      (v.emit (.scanResult resp)).linkConnect macPoA := by
    show ((v.emit (.scanResult resp)).linkConnect macPoA >>= fun s => .ok s) = _
    cases (v.emit (.scanResult resp)).linkConnect macPoA with
    | ok s => rfl
    | error e => rfl
  rw [hsend]
  refine Iff.trans ?_ (connectsOn_iff (s := v.emit (.scanResult resp)))
  constructor
  · rintro ⟨w, hw, rfl⟩
    obtain ⟨s, hs, hw⟩ := bind_ok_iff.1 hw
    obtain ⟨q, -, rfl⟩ := map_ok_iff.1 hw
    exact ⟨s, hs, (hf s q).symm⟩
  · rintro ⟨s, hs, rfl⟩
    have hreq : s.req = .live req := (linkConnect_spec hs).2.1.trans hlive
    refine ⟨f s .freed, ?_, hf s .freed⟩
    rw [hs, ok_bind, hreq]
    rfl

/-- What the step that gives the result does to the map of the channels, and when the users of the
MIH can connect at once. -/
theorem nextScan_sent (hlive : t.req = .live req) (hu : t.nextScan [] = .ok u)
    (hsent : ∃ log, u.log = t.log ++ log ++ [.scanResult resp]) :
    t.resp = some resp ∧
      (t.Stops req ∧ u.channelIDAfterScan = t.channelIDAfterScan ∨
        ¬ t.Stops req ∧ u.channelIDAfterScan = (t.storeChannels resp).channelIDAfterScan) ∧
      ∀ a c, (∃ w, t.nextScan [.connect a] = .ok w ∧ w.channel = c) ↔
        u.channelIDAfterScan a = c ∧ 0 < c ∧ c ≤ 11 := by
  obtain ⟨log, hsent⟩ := hsent
  have hlast : u.log.getLast? = some (.scanResult resp) := by simp [hsent]
  have hreq : t.req.deref = .ok req := by
    rw [hlive]
    rfl
  unfold nextScan at hu ⊢
  rw [hreq, ok_bind] at hu
  rw [hreq]
  simp only [ok_bind]
  split_ifs at hu ⊢ with hstops hnext
  · obtain ⟨resp', hresp, hu⟩ := bind_ok_iff.1 hu
    obtain ⟨v, hv, hu⟩ := bind_ok_iff.1 hu
    obtain rfl := Except.ok.inj hv
    obtain ⟨q, -, hu⟩ := bind_ok_iff.1 hu
    obtain rfl := Except.ok.inj hu
    obtain rfl : resp' = resp := by simpa [emit] using hlast
    refine ⟨deref_eq_ok.1 hresp, .inl ⟨hstops, rfl⟩, fun a c => ?_⟩
    unfold stopScan
    rw [hresp]
    exact connect_at_once (f := fun s q => { s with req := q, recvdResponse := false })
      (fun _ _ => rfl) hlive
  · obtain ⟨channel, -, hu⟩ := bind_ok_iff.1 hu
    obtain ⟨v, hv, hu⟩ := bind_ok_iff.1 hu
    obtain rfl := Except.ok.inj hu
    rw [setFreq_eq_ok hv] at hlast
    simp [emit, clearTxRx] at hlast
  · obtain ⟨v, hv, hu⟩ := bind_ok_iff.1 hu
    obtain ⟨resp', hresp, hu⟩ := bind_ok_iff.1 hu
    obtain ⟨w, hw, hu⟩ := bind_ok_iff.1 hu
    obtain rfl := Except.ok.inj hw
    obtain ⟨q, -, hu⟩ := bind_ok_iff.1 hu
    obtain rfl := Except.ok.inj hu
    obtain rfl : resp' = resp := by simpa [emit] using hlast
    have hv' := setFreq_eq_ok hv
    have hresp' : t.resp = some resp' := by
      rw [hv'] at hresp
      exact deref_eq_ok.1 hresp
    have hlive' : v.req = .live req := by
      rw [hv']
      exact hlive
    refine ⟨hresp', .inr ⟨hstops, ?_⟩, fun a c => ?_⟩
    · rw [hv']
      rfl
    · unfold endScan
      rw [hv, ok_bind, hresp]
      exact connect_at_once
        (f := fun s _ => { s with resp := none, req := .null, recvdResponse := false })
        (fun _ _ => rfl) hlive'

/-- After the expiry of the timers `nextScan` is called. -/
theorem minExpire_eq {react : List LinkCommand} (hpending : t.minTimer = .pending)
    (hrecvd : t.recvdResponse = false) :
    t.minExpire react = ({ t with minTimer := .handling }.nextScan react).map
      fun s : Mac80211 => { s with minTimer := TimerHandler.finish s.minTimer } := by
  unfold minExpire
  rw [hpending, show TimerHandler.handle .pending = .ok .handling from rfl, ok_bind]
  dsimp only
  rw [if_neg (by simp [hrecvd])]
  cases { t with minTimer := .handling }.nextScan react with
  | ok s => rfl
  | error e => rfl

theorem maxExpire_eq {react : List LinkCommand} (hpending : t.maxTimer = .pending) :
    t.maxExpire react = ({ t with maxTimer := .handling }.nextScan react).map
      fun s : Mac80211 => { s with maxTimer := TimerHandler.finish s.maxTimer } := by
  unfold maxExpire
  rw [hpending, show TimerHandler.handle .pending = .ok .handling from rfl, ok_bind]
  cases { t with maxTimer := .handling }.nextScan react with
  | ok s => rfl
  | error e => rfl

/-- A timer that is finished with does not change the channel. -/
theorem exists_map_channel {x : Act Mac80211} {f : Mac80211 → Mac80211}
    (hf : ∀ s, (f s).channel = s.channel) :
    (∃ w, x.map f = .ok w ∧ w.channel = c) ↔ ∃ w, x = .ok w ∧ w.channel = c := by
  constructor
  · rintro ⟨w, hw, rfl⟩
    obtain ⟨s, hs, rfl⟩ := map_ok_iff.1 hw
    exact ⟨s, hs, (hf s).symm⟩
  · rintro ⟨s, rfl, rfl⟩
    exact ⟨f s, rfl, hf s⟩

/-- The expiry of a timer that gives the result. -/
theorem expire_sent {expire : List LinkCommand → Input}
    (hexpire : expire = .minExpire ∨ expire = .maxExpire) (hlive : t.req = .live req)
    (hu : t.perform (expire []) = .ok u)
    (hsent : ∃ log, u.log = t.log ++ log ++ [.scanResult resp]) :
    t.resp = some resp ∧
      (t.Stops req ∧ u.channelIDAfterScan = t.channelIDAfterScan ∨
        ¬ t.Stops req ∧ u.channelIDAfterScan = (t.storeChannels resp).channelIDAfterScan) ∧
      ∀ a c, (∃ w, t.perform (expire [.connect a]) = .ok w ∧ w.channel = c) ↔
        u.channelIDAfterScan a = c ∧ 0 < c ∧ c ≤ 11 := by
  rcases hexpire with rfl | rfl
  · obtain ⟨hpending, ⟨-, frame, rfl⟩ | ⟨hrecvd, v, hv, rfl⟩⟩ := minExpire_cases hu
    · obtain ⟨log, hlog⟩ := hsent
      simp at hlog
    · obtain ⟨hresp, hmap, hat⟩ := nextScan_sent (t := { t with minTimer := .handling }) hlive hv
        hsent
      refine ⟨hresp, hmap, fun a c => ?_⟩
      show (∃ w, t.minExpire _ = _ ∧ _) ↔ _
      rw [minExpire_eq hpending hrecvd, exists_map_channel]
      · exact hat a c
      · exact fun _ => rfl
  · obtain ⟨hpending, v, hv, rfl⟩ := maxExpire_cases hu
    obtain ⟨hresp, hmap, hat⟩ := nextScan_sent (t := { t with maxTimer := .handling }) hlive hv
      hsent
    refine ⟨hresp, hmap, fun a c => ?_⟩
    show (∃ w, t.maxExpire _ = _ ∧ _) ↔ _
    rw [maxExpire_eq hpending, exists_map_channel]
    · exact hat a c
    · exact fun _ => rfl

/-- After any history of a station, the users of the MIH can connect to each access point in the
result of a scan, on the channel it was found on, exactly when the scan ends by the last branch of
`nextScan` or the station already has this channel for each of them. -/
theorem connectable_iff (s t s' : Mac80211) (is : List Input) (req : ScanRequest)
    (expire : List LinkCommand → Input) (resp : List BSSDescription) (h0 : s.Over)
    (hrun : runSteps perform s is = .ok t) (hlive : t.req = .live req)
    (hband : ∀ c ∈ req.prefCh, 0 < c ∧ c ≤ 11) (hexpire : expire = .minExpire ∨ expire = .maxExpire)
    (hlast : t.perform (expire []) = .ok s')
    (hsent : ∃ log, s'.log = t.log ++ log ++ [.scanResult resp]) :
    (∀ n ∈ resp, Connectable t expire s' n) ↔
      ¬ t.Stops req ∨ ∀ n ∈ resp, t.channelIDAfterScan n.bssId = n.channel := by
  obtain ⟨hresp, hmap, hat⟩ := expire_sent hexpire hlive hlast hsent
  obtain ⟨resp', hresp', hnodup, hchannels⟩ := collecting_run h0 hrun req hlive
  obtain rfl : resp' = resp := Option.some.inj (hresp'.symm.trans hresp)
  have hconnectable : ∀ n ∈ resp', Connectable t expire s' n ↔
      s'.channelIDAfterScan n.bssId = n.channel := by
    intro n hn
    have hn' := hband n.channel (hchannels n hn)
    unfold Connectable
    rw [hat, connectsOn_iff]
    tauto
  rcases hmap with ⟨hstops, hmap⟩ | ⟨hstops, hmap⟩
  · have hsame : (∀ n ∈ resp', Connectable t expire s' n) ↔
        ∀ n ∈ resp', t.channelIDAfterScan n.bssId = n.channel := by
      refine forall₂_congr fun n hn => ?_
      rw [hconnectable n hn, hmap]
    rw [hsame]
    exact ⟨.inr, fun h => h.resolve_left (not_not.2 hstops)⟩
  · refine iff_of_true (fun n hn => ?_) (.inl hstops)
    rw [hconnectable n hn, hmap]
    exact t.storeChannels_of_mem hnodup hn

/-- A scan of all channels; `sampleTerminal` then connects to what it has found. -/
theorem connectable_of_scanAll :
    ∃ t s', runSteps perform sampleTerminal [.command (.scan ⟨.scanAll, [6]⟩), .probeExpire,
        .beacon 7 true] = .ok t ∧ t.perform (.maxExpire []) = .ok s' ∧
      ∀ n ∈ [⟨7, 6⟩], Connectable t .maxExpire s' n :=
  ⟨_, _, rfl, rfl, (connectable_iff sampleTerminal _ _ [.command (.scan ⟨.scanAll, [6]⟩),
    .probeExpire, .beacon 7 true] ⟨.scanAll, [6]⟩ .maxExpire [⟨7, 6⟩] (fun _ => ReqPtr.noConfusion)
    rfl rfl (by decide) (.inr rfl) rfl ⟨[.setFreq 1], rfl⟩).2
      (.inl fun hstops => by cases hstops.1)⟩

/-- A scan stops at the first response, and its result is an access point whose channel is not
known. -/
theorem not_connectable :
    ∃ t s', runSteps perform sampleTerminal [.command (.scan ⟨.stopFirst, [6]⟩), .probeExpire,
        .beacon 7 true] = .ok t ∧ t.perform (.maxExpire []) = .ok s' ∧
      s'.log = t.log ++ [.scanResult [⟨7, 6⟩]] ∧ s'.linkConnect 7 = .error .assertion ∧
      ¬ Connectable t .maxExpire s' ⟨7, 6⟩ := by
  refine ⟨_, _, rfl, rfl, rfl, rfl, ?_⟩
  rintro ⟨-, v, hv, -⟩
  cases hv

end Mac80211

end SipNemo.Mac
