import SipNemo.Mac.Scan

/-!
# Full scans

A scan of all channels tunes to them one after the other, whichever of its timers expires first,
and then to the channel it came from.  `Visiting` is the state of such a scan after some of its
steps, with what was heard so far; `full_scan` says how it ends.
-/

namespace SipNemo.Mac

open RequestTable Runs
open Mih (MacAddr)
open TimerHandler (cancelPending)

namespace Mac80211

variable {s s' t t' : Mac80211} {req : ScanRequest} {heard : List BSSDescription}

/-! ### The channel -/

/-- The station is on a channel of the band. -/
def Tuned (s : Mac80211) : Prop := 0 < s.channel ∧ s.channel ≤ 11

theorem setFreq_tuned {channel : ℤ} (h : s.setFreq channel = .ok s') : s'.Tuned := by
  unfold setFreq at h
  split_ifs at h with hch
  obtain rfl := Except.ok.inj h
  exact hch

theorem setFreq_eq {channel : ℤ} (h : 0 < channel ∧ channel ≤ 11) :
    s.setFreq channel = .ok ({ s with channel := channel }.emit (.setFreq channel)) := if_pos h

theorem linkDisconnect_channel (s : Mac80211) : s.linkDisconnect.channel = s.channel := by
  unfold linkDisconnect
  dsimp only
  split_ifs <;> rfl

theorem linkConnect_tuned {macPoA : MacAddr} (h : s.linkConnect macPoA = .ok s') : s'.Tuned := by
  obtain ⟨rfl, hband⟩ := linkConnect_ok h
  obtain ⟨-, -, hmap, -⟩ := leave_cleared s macPoA
  unfold Tuned askFor
  rwa [hmap]

theorem linkScan_tuned (hs : s.Tuned) (h : s.linkScan req = .ok s') : s'.Tuned := by
  rcases linkScan_cases h with ⟨-, rfl⟩ | ⟨-, channel, frame, log, -, hband, rfl⟩
  · exact hs
  · by_cases hsame : s.channel = channel
    · subst hsame
      exact hs
    · exact hband hsame

theorem command_tuned {c : LinkCommand} (hs : s.Tuned) (h : s.command c = .ok s') : s'.Tuned := by
  cases c with
  | connect macPoA => exact linkConnect_tuned h
  | disconnect =>
    obtain rfl := Except.ok.inj h
    unfold Tuned
    rw [linkDisconnect_channel]
    exact hs
  | scan req => exact linkScan_tuned hs h

theorem react_tuned {react : List LinkCommand} (h : react.foldlM command s = .ok s')
    (hs : s.Tuned) : s'.Tuned := by
  induction react generalizing s with
  | nil =>
    obtain rfl := Except.ok.inj h
    exact hs
  | cons c react ih =>
    rw [List.foldlM_cons] at h
    obtain ⟨t, ht, hreact⟩ := bind_ok_iff.1 h
    exact ih hreact (command_tuned hs ht)

theorem sendScanResult_tuned {resp : List BSSDescription} {react : List LinkCommand}
    (h : s.sendScanResult resp react = .ok s') (hs : s.Tuned) : s'.Tuned :=
  react_tuned h hs

theorem nextScan_tuned {react : List LinkCommand} (h : s.nextScan react = .ok s')
    (hs : s.Tuned) : s'.Tuned := by
  obtain ⟨req, -, h⟩ := bind_ok_iff.1 h
  split_ifs at h
  · obtain ⟨resp, -, h⟩ := bind_ok_iff.1 h
    obtain ⟨t, ht, h⟩ := bind_ok_iff.1 h
    obtain ⟨q, -, h⟩ := bind_ok_iff.1 h
    obtain rfl := Except.ok.inj h
    have htuned := sendScanResult_tuned ht hs
    exact htuned
  · obtain ⟨channel, -, h⟩ := bind_ok_iff.1 h
    obtain ⟨t, ht, h⟩ := bind_ok_iff.1 h
    obtain rfl := Except.ok.inj h
    have htuned := setFreq_tuned ht
    exact htuned
  · obtain ⟨t, ht, h⟩ := bind_ok_iff.1 h
    obtain ⟨resp, -, h⟩ := bind_ok_iff.1 h
    obtain ⟨u, hu, h⟩ := bind_ok_iff.1 h
    obtain ⟨q, -, h⟩ := bind_ok_iff.1 h
    obtain rfl := Except.ok.inj h
    have htuned := setFreq_tuned ht
    have htuned' := sendScanResult_tuned hu htuned
    exact htuned'

/-- A station stays on the channels of the band. -/
theorem perform_tuned {i : Input} (hs : s.Tuned) (h : s.perform i = .ok s') : s'.Tuned := by
  cases i with
  | command c => exact command_tuned hs h
  | probeExpire =>
    obtain ⟨-, frame, rfl⟩ := probeExpire_ok h
    exact hs
  | minExpire react =>
    obtain ⟨-, ⟨-, frame, rfl⟩ | ⟨-, u, hu, rfl⟩⟩ := minExpire_cases h
    · exact hs
    · have htuned := nextScan_tuned hu hs
      exact htuned
  | maxExpire react =>
    obtain ⟨-, u, hu, rfl⟩ := maxExpire_cases h
    have htuned := nextScan_tuned hu hs
    exact htuned
  | bssExpire =>
    obtain ⟨timer, -, h⟩ := bind_ok_iff.1 h
    obtain rfl := Except.ok.inj h
    dsimp only
    split_ifs
    · unfold Tuned
      dsimp only
      rw [linkDisconnect_channel]
      exact hs
    · exact hs
  | beacon src strong =>
    rcases recvBeacon_cases h with ⟨timer, resp, recvd, channels, log, rfl⟩ | ⟨-, channels, h⟩
    · exact hs
    · exact linkConnect_tuned h
  | probeResponse src busy =>
    obtain ⟨resp, rfl⟩ := recvProbeResponse_ok h
    exact hs
  | assocResponse src accepted busy =>
    obtain rfl := Except.ok.inj h
    unfold recvAssocResponse
    dsimp only
    split_ifs
    · exact hs
    · exact hs
    · exact hs
    · exact hs
    · unfold Tuned
      rw [linkDisconnect_channel]
      exact hs
  | managementSent =>
    obtain rfl := Except.ok.inj h
    exact hs
  | managementFailed =>
    obtain rfl := Except.ok.inj h
    unfold managementFailed
    split
    · unfold Tuned
      dsimp only
      rw [linkDisconnect_channel]
      exact hs
    · exact hs

/-- A station stays in the band, whatever happens to it. -/
theorem runSteps_tuned {is : List Input} (hs : s.Tuned) (h : runSteps perform s is = .ok s') :
    s'.Tuned :=
  runSteps_preserves (fun _ _ _ hs h => perform_tuned hs h) hs h

/-! ### What a scan hears -/

/-- The source of a beacon or of a probe response, with the channel the station is on. -/
def hears (s : Mac80211) : Input → List BSSDescription
  | .beacon src _ => [⟨src, s.channel⟩]
  | .probeResponse src _ => [⟨src, s.channel⟩]
  | _ => []

/-- What is heard in a run, in this order. -/
def hearings : Mac80211 → List Input → List BSSDescription
  | _, [] => []
  | s, i :: is =>
    match s.perform i with
    | .ok s' => s.hears i ++ hearings s' is
    | .error _ => s.hears i

/-- Each source that was heard is there once, as it was first heard. -/
structure Reports (resp heard : List BSSDescription) : Prop where
  nodup : (resp.map BSSDescription.bssId).Nodup
  first : ∀ n, n ∈ resp ↔ heard.find? (fun m => m.bssId = n.bssId) = some n

theorem reports_nil : Reports [] [] := ⟨List.nodup_nil, by simp⟩

section Reports

variable {resp : List BSSDescription} {n : BSSDescription}

theorem Reports.again (h : Reports resp heard) (hn : resp.any fun m => m.bssId = n.bssId) :
    Reports resp (heard ++ [n]) := by
  refine ⟨h.nodup, fun m => ?_⟩
  rw [h.first m, List.find?_append]
  by_cases hm : m.bssId = n.bssId
  · obtain ⟨m', hm', heq⟩ := List.any_eq_true.1 hn
    have hfind := (h.first m').1 hm'
    rw [of_decide_eq_true heq, ← hm] at hfind
    simp [hfind]
  · simp [Ne.symm hm]

theorem Reports.new (h : Reports resp heard) (hn : ¬ resp.any fun m => m.bssId = n.bssId) :
    Reports (n :: resp) (heard ++ [n]) := by
  have hno : ∀ m ∈ resp, m.bssId ≠ n.bssId := by simpa using hn
  have hfind : heard.find? (fun m => m.bssId = n.bssId) = none := by
    cases hf : heard.find? (fun m => m.bssId = n.bssId) with
    | none => rfl
    | some m =>
      have heq : m.bssId = n.bssId := by simpa using List.find?_some hf
      rw [← heq] at hf
      exact absurd heq (hno m ((h.first m).2 hf))
  refine ⟨?_, fun m => ?_⟩
  · rw [List.map_cons, List.nodup_cons]
    refine ⟨?_, h.nodup⟩
    simpa using hno
  · rw [List.mem_cons, List.find?_append]
    by_cases hm : m.bssId = n.bssId
    · have hmem : m ∉ resp := fun hmem => hno m hmem hm
      rw [hm, hfind, or_iff_left hmem]
      simpa using eq_comm
    · have hne : m ≠ n := fun heq => hm (heq ▸ rfl)
      simp [h.first m, hne, Ne.symm hm]

end Reports

/-! ### The state of a scan -/

/-- The channels that a station on the channel `origCh` sets to visit those of the list; it is on
the first one already if that is `origCh`. -/
def visits (origCh : ℤ) (prefCh : List ℤ) : List MacOutput :=
  (if prefCh.head? = some origCh then prefCh.tail else prefCh).map .setFreq

/-- A scan that began in the state `s` has heard `heard`. -/
structure Underway (s : Mac80211) (req : ScanRequest) (t : Mac80211)
    (heard : List BSSDescription) : Prop where
  step : t.step ≠ .none
  channel : req.prefCh[t.scanIndex]? = some t.channel
  log : t.log = s.log ++ visits s.channel (req.prefCh.take (t.scanIndex + 1))
  live : t.req = .live req
  origCh : t.origCh = s.channel
  bssId : t.bssId = ibssId
  addr : t.addr = s.addr
  resp : ∃ resp, t.resp = some resp ∧ Reports resp heard

/-- Both timers run, and the scan will go on. -/
structure Visiting (s : Mac80211) (req : ScanRequest) (t : Mac80211)
    (heard : List BSSDescription) : Prop extends Underway s req t heard where
  minTimer : t.minTimer = .pending
  maxTimer : t.maxTimer = .pending

/-- The scan has ended: it set all channels, then that of the station, and gave its result. -/
structure Visited (s : Mac80211) (req : ScanRequest) (t : Mac80211)
    (heard : List BSSDescription) : Prop where
  step : t.step = .none
  log : ∃ resp, Reports resp heard ∧
    t.log = s.log ++ visits s.channel req.prefCh ++ [.setFreq s.channel, .scanResult resp]

/-- What happens until the scan ends: its timers expire while they are pending, and frames are sent
and received. -/
def Scans (s : Mac80211) (i : Input) : Prop :=
  s.step ≠ .none ∧
    match i with
    | .probeExpire => s.probeTimer = .pending
    | .minExpire react => s.minTimer = .pending ∧ react = []
    | .maxExpire react => s.maxTimer = .pending ∧ react = []
    | .beacon src _ => src ≠ ibssId
    | .probeResponse _ busy => busy = false
    | .managementSent => True
    | _ => False

instance (s : Mac80211) (i : Input) : Decidable (s.Scans i) :=
  @instDecidableAnd (s.step ≠ .none) _ inferInstance <|
    match i with
    | .probeExpire => inferInstanceAs (Decidable (s.probeTimer = .pending))
    | .minExpire react => inferInstanceAs (Decidable (s.minTimer = .pending ∧ react = []))
    | .maxExpire react => inferInstanceAs (Decidable (s.maxTimer = .pending ∧ react = []))
    | .beacon src _ => inferInstanceAs (Decidable (src ≠ ibssId))
    | .probeResponse _ busy => inferInstanceAs (Decidable (busy = false))
    | .managementSent => isTrue trivial
    | .command _ => isFalse id
    | .bssExpire => isFalse id
    | .assocResponse _ _ _ => isFalse id
    | .managementFailed => isFalse id

/-- `MaxScanTimer::expire`. -/
def Input.isMaxExpire : Input → Bool
  | .maxExpire _ => true
  | _ => false

/-! ### One step -/

theorem visits_concat {origCh c : ℤ} {l : List ℤ} (hl : l ≠ []) :
    visits origCh (l ++ [c]) = visits origCh l ++ [.setFreq c] := by
  obtain ⟨d, l, rfl⟩ := List.exists_cons_of_ne_nil hl
  unfold visits
  rw [List.cons_append, List.head?_cons, List.head?_cons]
  split_ifs <;> simp

section Step

variable (htuned : s.Tuned) (hband : ∀ c ∈ req.prefCh, 0 < c ∧ c ≤ 11)

include hband in
theorem Underway.nextChannel (h : Underway s req t heard)
    (hlt : t.scanIndex + 1 < req.prefCh.length) :
    ∃ t', t.nextChannel req = .ok t' ∧ Visiting s req t' heard ∧
      t'.scanIndex = t.scanIndex + 1 := by
  have hget : req.prefCh[t.scanIndex + 1]? = some (req.prefCh[t.scanIndex + 1]) :=
    List.getElem?_eq_getElem hlt
  have hch := hband _ (List.getElem_mem hlt)
  unfold Mac80211.nextChannel
  dsimp only
  rw [index_eq_ok.2 hget]
  dsimp only [ok_bind]
  rw [setFreq_eq hch]
  refine ⟨_, rfl, ⟨⟨h.step, hget, ?_, h.live, h.origCh, h.bssId, h.addr, h.resp⟩, rfl, rfl⟩, rfl⟩
  have hne : req.prefCh.take (t.scanIndex + 1) ≠ [] := by
    rw [← List.length_pos_iff, List.length_take]
    omega
  show t.log ++ [.setFreq req.prefCh[t.scanIndex + 1]] =
    s.log ++ visits s.channel (req.prefCh.take (t.scanIndex + 1 + 1))
  rw [h.log, List.append_assoc, ← visits_concat hne, List.take_concat_get']

include htuned in
theorem Underway.endScan (h : Underway s req t heard)
    (hlast : ¬ t.scanIndex + 1 < req.prefCh.length) :
    ∃ t', t.endScan [] = .ok t' ∧ Visited s req t' heard := by
  obtain ⟨resp, hresp, hreports⟩ := h.resp
  unfold Mac80211.endScan
  rw [h.origCh, setFreq_eq htuned]
  dsimp only [ok_bind, emit]
  rw [hresp, h.live]
  refine ⟨_, rfl, rfl, resp, hreports, ?_⟩
  have hall : req.prefCh.take (t.scanIndex + 1) = req.prefCh :=
    List.take_of_length_le (not_lt.1 hlast)
  have hlog := h.log
  rw [hall] at hlog
  show t.log ++ [.setFreq s.channel] ++ [.scanResult resp] = _
  rw [hlog, List.append_assoc]
  rfl

include htuned hband in
theorem Underway.nextScan (h : Underway s req t heard) (haction : req.action = .scanAll) :
    ∃ t', t.nextScan [] = .ok t' ∧
      (Visiting s req t' heard ∧ t'.scanIndex = t.scanIndex + 1 ∨ Visited s req t' heard) := by
  unfold Mac80211.nextScan
  rw [h.live]
  dsimp only [ReqPtr.deref, ok_bind]
  rw [if_neg (by simp [haction])]
  split_ifs with hlt
  · obtain ⟨t', ht', hvisiting, hindex⟩ := h.nextChannel hband hlt
    exact ⟨t', ht', .inl ⟨hvisiting, hindex⟩⟩
  · obtain ⟨t', ht', hvisited⟩ := h.endScan htuned hlt
    exact ⟨t', ht', .inr hvisited⟩

theorem Visiting.addDescription (h : Visiting s req t heard) (src : MacAddr) :
    ∃ t', t.addDescription src = .ok t' ∧ Visiting s req t' (heard ++ [⟨src, t.channel⟩]) ∧
      t'.scanIndex = t.scanIndex := by
  obtain ⟨resp, hresp, hreports⟩ := h.resp
  unfold Mac80211.addDescription
  rw [hresp, deref_some]
  dsimp only [ok_bind]
  split_ifs with hany
  · exact ⟨t, rfl, ⟨⟨h.step, h.channel, h.log, h.live, h.origCh, h.bssId, h.addr,
      resp, hresp, hreports.again hany⟩, h.minTimer, h.maxTimer⟩, rfl⟩
  · have hreq : t.req.deref = .ok req := by
      rw [h.live]
      rfl
    rw [hreq]
    dsimp only [ok_bind]
    rw [index_eq_ok.2 h.channel]
    exact ⟨_, rfl, ⟨⟨h.step, h.channel, h.log, h.live, h.origCh, h.bssId, h.addr,
      _, rfl, hreports.new hany⟩, h.minTimer, h.maxTimer⟩, rfl⟩

theorem Visiting.recvBeacon {src : MacAddr} {strong : Bool} (h : Visiting s req t heard)
    (haddr : s.addr ≠ ibssId) (hsrc : src ≠ ibssId) :
    ∃ t', t.recvBeacon src strong = .ok t' ∧ Visiting s req t' (heard ++ [⟨src, t.channel⟩]) ∧
      t'.scanIndex = t.scanIndex := by
  obtain ⟨u, hu, hvisiting, hindex⟩ := h.addDescription src
  unfold Mac80211.recvBeacon
  rw [if_neg (by rwa [h.addr, h.bssId]), if_neg (by rwa [h.bssId]), if_pos h.step, hu]
  exact ⟨_, rfl,
    ⟨⟨hvisiting.step, hvisiting.channel, hvisiting.log, hvisiting.live, hvisiting.origCh,
      hvisiting.bssId, hvisiting.addr, hvisiting.resp⟩, hvisiting.minTimer, hvisiting.maxTimer⟩,
    hindex⟩

theorem Visiting.recvProbeResponse {src : MacAddr} (h : Visiting s req t heard) :
    ∃ t', t.recvProbeResponse src false = .ok t' ∧
      Visiting s req t' (heard ++ [⟨src, t.channel⟩]) ∧ t'.scanIndex = t.scanIndex := by
  obtain ⟨resp, hresp, -⟩ := h.resp
  have h' : Visiting s req { t with recvdResponse := true } heard :=
    ⟨⟨h.step, h.channel, h.log, h.live, h.origCh, h.bssId, h.addr, h.resp⟩, h.minTimer, h.maxTimer⟩
  have hassert : assertNonNull t.resp = .ok resp := assertNonNull_eq_ok.2 hresp
  unfold Mac80211.recvProbeResponse
  dsimp only
  rw [if_neg Bool.false_ne_true, if_neg h.step, hassert]
  exact h'.addDescription src

theorem handle_pending : TimerHandler.handle .pending = .ok .handling := rfl

theorem Visiting.probeExpire (h : Visiting s req t heard) (hprobe : t.probeTimer = .pending) :
    ∃ t', t.probeExpire = .ok t' ∧ Visiting s req t' heard ∧ t'.scanIndex = t.scanIndex := by
  obtain ⟨frame, hframe⟩ := sendProbeRequest_eq { t with probeTimer := .handling }
  refine ⟨{ t with probeTimer := .idle, pktManagement := frame }, ?_, ?_, rfl⟩
  · unfold Mac80211.probeExpire
    rw [hprobe, handle_pending, ok_bind, hframe]
    rfl
  · exact ⟨⟨h.step, h.channel, h.log, h.live, h.origCh, h.bssId, h.addr, h.resp⟩, h.minTimer,
      h.maxTimer⟩

include htuned hband in
theorem Visiting.minExpire (h : Visiting s req t heard) (haction : req.action = .scanAll) :
    ∃ t', t.minExpire [] = .ok t' ∧
      (Visiting s req t' heard ∧ t.scanIndex ≤ t'.scanIndex ∨ Visited s req t' heard) := by
  by_cases hrecvd : t.recvdResponse
  · obtain ⟨frame, hframe⟩ := sendProbeRequest_eq { t with minTimer := .pending }
    refine ⟨{ t with minTimer := .pending, pktManagement := frame }, ?_, .inl ⟨?_, le_rfl⟩⟩
    · have hreq : t.req.deref = .ok req := by
        rw [h.live]
        rfl
      unfold Mac80211.minExpire
      rw [h.minTimer, handle_pending, ok_bind]
      dsimp only
      rw [if_pos hrecvd, hreq, map_ok, hframe]
      rfl
    · exact ⟨⟨h.step, h.channel, h.log, h.live, h.origCh, h.bssId, h.addr, h.resp⟩, rfl, h.maxTimer⟩
  · have hunder : Underway s req { t with minTimer := .handling } heard :=
      ⟨h.step, h.channel, h.log, h.live, h.origCh, h.bssId, h.addr, h.resp⟩
    obtain ⟨u, hu, hnext⟩ := hunder.nextScan htuned hband haction
    refine ⟨{ u with minTimer := TimerHandler.finish u.minTimer }, ?_, ?_⟩
    · unfold Mac80211.minExpire
      rw [h.minTimer, handle_pending, ok_bind]
      dsimp only
      rw [if_neg hrecvd, hu]
      rfl
    · rcases hnext with ⟨hu', hindex⟩ | hu'
      · refine .inl ⟨⟨⟨hu'.step, hu'.channel, hu'.log, hu'.live, hu'.origCh, hu'.bssId, hu'.addr,
          hu'.resp⟩, TimerHandler.finish_eq_pending.2 hu'.minTimer, hu'.maxTimer⟩, ?_⟩
        exact (Nat.le_succ _).trans hindex.ge
      · exact .inr ⟨hu'.step, hu'.log⟩

include htuned hband in
theorem Visiting.maxExpire (h : Visiting s req t heard) (haction : req.action = .scanAll) :
    ∃ t', t.maxExpire [] = .ok t' ∧
      (Visiting s req t' heard ∧ t'.scanIndex = t.scanIndex + 1 ∨ Visited s req t' heard) := by
  have hunder : Underway s req { t with maxTimer := .handling } heard :=
    ⟨h.step, h.channel, h.log, h.live, h.origCh, h.bssId, h.addr, h.resp⟩
  obtain ⟨u, hu, hnext⟩ := hunder.nextScan htuned hband haction
  refine ⟨{ u with maxTimer := TimerHandler.finish u.maxTimer }, ?_, ?_⟩
  · unfold Mac80211.maxExpire
    rw [h.maxTimer, handle_pending, ok_bind, hu]
    rfl
  · rcases hnext with ⟨hu', hindex⟩ | hu'
    · exact .inl ⟨⟨⟨hu'.step, hu'.channel, hu'.log, hu'.live, hu'.origCh, hu'.bssId, hu'.addr,
        hu'.resp⟩, hu'.minTimer, TimerHandler.finish_eq_pending.2 hu'.maxTimer⟩, hindex⟩
    · exact .inr ⟨hu'.step, hu'.log⟩

include htuned hband in
/-- A timer that expires takes the scan to its next channel or to its end; the rest is noted. -/
theorem Visiting.perform {i : Input} (h : Visiting s req t heard) (haddr : s.addr ≠ ibssId)
    (haction : req.action = .scanAll) (hi : t.Scans i) :
    ∃ t', t.perform i = .ok t' ∧
      (Visiting s req t' (heard ++ t.hears i) ∧
          t.scanIndex + i.isMaxExpire.toNat ≤ t'.scanIndex ∨
        Visited s req t' (heard ++ t.hears i)) := by
  obtain ⟨-, hi⟩ := hi
  have hnone : heard = heard ++ [] := (List.append_nil heard).symm
  cases i with
  | probeExpire =>
    obtain ⟨t', ht', hvisiting, hindex⟩ := h.probeExpire hi
    exact ⟨t', ht', .inl ⟨hnone ▸ hvisiting, hindex.ge⟩⟩
  | minExpire react =>
    obtain ⟨-, rfl⟩ := hi
    obtain ⟨t', ht', hnext⟩ := h.minExpire htuned hband haction
    exact ⟨t', ht', hnone ▸ hnext⟩
  | maxExpire react =>
    obtain ⟨-, rfl⟩ := hi
    obtain ⟨t', ht', hnext⟩ := h.maxExpire htuned hband haction
    refine ⟨t', ht', hnext.imp (fun hvisiting => ?_) fun hvisited => hnone ▸ hvisited⟩
    exact ⟨hnone ▸ hvisiting.1, hvisiting.2.ge⟩
  | beacon src strong =>
    obtain ⟨t', ht', hvisiting, hindex⟩ := h.recvBeacon haddr hi
    exact ⟨t', ht', .inl ⟨hvisiting, hindex.ge⟩⟩
  | probeResponse src busy =>
    obtain rfl : busy = false := hi
    obtain ⟨t', ht', hvisiting, hindex⟩ := h.recvProbeResponse
    exact ⟨t', ht', .inl ⟨hvisiting, hindex.ge⟩⟩
  | managementSent =>
    have hvisiting : Visiting s req t.managementSent heard :=
      ⟨⟨h.step, h.channel, h.log, h.live, h.origCh, h.bssId, h.addr, h.resp⟩, h.minTimer,
        h.maxTimer⟩
    exact ⟨_, rfl, .inl ⟨hnone ▸ hvisiting, le_rfl⟩⟩
  | _ => exact absurd hi id

end Step

/-! ### Runs -/

/-- `link_scan` begins on the first channel. -/
theorem linkScan_visiting (hstep : s.step = .none) (hne : req.prefCh ≠ [])
    (hband : ∀ c ∈ req.prefCh, 0 < c ∧ c ≤ 11) :
    ∃ u, s.linkScan req = .ok u ∧ Visiting s req u [] ∧ u.scanIndex = 0 := by
  obtain ⟨c, l, hl⟩ := List.exists_cons_of_ne_nil hne
  have hfirst : req.prefCh[0]? = some c := by rw [hl]; rfl
  have hc := hband c (by rw [hl]; exact List.mem_cons_self)
  have htake : req.prefCh.take 1 = [c] := by rw [hl]; rfl
  unfold linkScan
  rw [if_neg (not_not.2 hstep)]
  dsimp only
  rw [index_eq_ok.2 hfirst, ok_bind]
  split_ifs with hch
  · rw [setFreq_eq hc]
    refine ⟨_, rfl, ⟨⟨ScanStep.noConfusion, hfirst, ?_, rfl, rfl, rfl, rfl, [], rfl, reports_nil⟩,
      rfl, rfl⟩, rfl⟩
    show s.log ++ [.setFreq c] = s.log ++ visits s.channel (req.prefCh.take 1)
    rw [htake]
    have hne : ¬ c = s.channel := fun heq => hch heq.symm
    simp [visits, hne]
  · have heq : s.channel = c := not_not.1 hch
    refine ⟨_, rfl, ⟨⟨ScanStep.noConfusion, heq ▸ hfirst, ?_, rfl, rfl, rfl, rfl, [], rfl,
      reports_nil⟩, rfl, rfl⟩, rfl⟩
    show s.log = s.log ++ visits s.channel (req.prefCh.take 1)
    rw [htake, heq]
    simp [visits]

/-- Until it ends, a scan can go on, and the count of its channels keeps up with `MaxScanTimer`. -/
theorem Visiting.run (htuned : s.Tuned) (hband : ∀ c ∈ req.prefCh, 0 < c ∧ c ≤ 11)
    (haddr : s.addr ≠ ibssId) (haction : req.action = .scanAll) {is : List Input}
    (h : Visiting s req t heard) (hmeet : StepsMeet Mac80211.perform Scans t is) :
    ∃ t', runSteps Mac80211.perform t is = .ok t' ∧
      (Visiting s req t' (heard ++ t.hearings is) ∧
          t.scanIndex + is.countP Input.isMaxExpire ≤ t'.scanIndex ∨
        Visited s req t' (heard ++ t.hearings is)) := by
  induction is generalizing t heard with
  | nil =>
    refine ⟨t, rfl, .inl ⟨?_, le_rfl⟩⟩
    rwa [hearings, List.append_nil]
  | cons i is ih =>
    obtain ⟨u, hu, hnext⟩ := h.perform htuned hband haddr haction hmeet.1
    have hhear : t.hearings (i :: is) = t.hears i ++ u.hearings is := by
      rw [hearings, hu]
    rw [hhear, ← List.append_assoc]
    rcases hnext with ⟨hvisiting, hindex⟩ | hvisited
    · obtain ⟨t', hrun, hend⟩ := ih hvisiting (hmeet.2 u hu)
      refine ⟨t', runSteps_cons_ok.2 ⟨u, hu, hrun⟩, hend.imp_left fun h => ⟨h.1, ?_⟩⟩
      have hle := h.2
      rw [List.countP_cons]
      cases hmax : i.isMaxExpire <;> simp [hmax] at hindex ⊢ <;> omega
    · -- the scan has ended, and so has the run
      cases is with
      | nil =>
        refine ⟨u, runSteps_cons_ok.2 ⟨u, hu, rfl⟩, .inr ?_⟩
        rwa [hearings, List.append_nil]
      | cons j is => exact absurd hvisited.step (hmeet.2 u hu).1.1

/-- Whatever has happened to a station that was in the band, a scan of all channels starts and does
not fail.  While it is in progress both of its timers
run, and it is over before `MaxScanTimer` has expired more often than there are channels.  When it
ends it has tuned to the channels in their order and then to the first one again, and it has given
one result, which has each access point that was heard, once and with the channel it was first
heard on. -/
theorem full_scan {s₀ s : Mac80211} {past : List Input} (htuned : s₀.Tuned)
    (hpast : runSteps perform s₀ past = .ok s) (req : ScanRequest) (hstep : s.step = .none)
    (haddr : s.addr ≠ ibssId) (haction : req.action = .scanAll) (hne : req.prefCh ≠ [])
    (hband : ∀ c ∈ req.prefCh, 0 < c ∧ c ≤ 11) :
    (∃ u, s.linkScan req = .ok u) ∧
      ∀ u is, s.linkScan req = .ok u → StepsMeet perform Scans u is →
        ∃ t, runSteps perform u is = .ok t ∧
          (t.step ≠ .none → t.minTimer = .pending ∧ t.maxTimer = .pending ∧
            is.countP Input.isMaxExpire < req.prefCh.length ∧
            ∃ k < req.prefCh.length, t.log = s.log ++ visits s.channel (req.prefCh.take (k + 1))) ∧
          (t.step = .none → ∃ resp, Reports resp (u.hearings is) ∧
            t.log = s.log ++ visits s.channel req.prefCh ++
              [.setFreq s.channel, .scanResult resp]) := by
  obtain ⟨u, hu, hvisiting, hindex⟩ := linkScan_visiting hstep hne hband
  refine ⟨⟨u, hu⟩, fun v is hv hmeet => ?_⟩
  obtain rfl := Except.ok.inj (hu.symm.trans hv)
  obtain ⟨t, hrun, hend⟩ :=
    hvisiting.run (runSteps_tuned htuned hpast) hband haddr haction hmeet
  refine ⟨t, hrun, ?_⟩
  rw [List.nil_append] at hend
  rcases hend with ⟨ht, hcount⟩ | ht
  · refine ⟨fun _ => ?_, fun hnone => absurd hnone ht.step⟩
    have hlt : t.scanIndex < req.prefCh.length := (List.getElem?_eq_some_iff.1 ht.channel).1
    refine ⟨ht.minTimer, ht.maxTimer, ?_, t.scanIndex, hlt, ht.log⟩
    omega
  · exact ⟨fun hsome => absurd ht.step hsome, fun _ => ht.log⟩

/-- Two channels; the access point 7 is heard on both. -/
theorem full_scan_of_two :
    ∃ u, sampleTerminal.linkScan ⟨.scanAll, [6, 11]⟩ = .ok u ∧
      ∃ t, runSteps perform u [.probeExpire, .beacon 7 true, .minExpire [], .maxExpire [],
          .probeResponse 8 false, .beacon 7 true, .maxExpire []] = .ok t ∧
        ∃ resp, Reports resp [⟨7, 6⟩, ⟨8, 11⟩, ⟨7, 11⟩] ∧
          t.log = [.setFreq 6, .setFreq 11, .setFreq 1, .scanResult resp] := by
  have h := full_scan (s := sampleTerminal) ⟨by decide, by decide⟩ (runSteps_nil _)
    ⟨.scanAll, [6, 11]⟩ rfl (by decide) rfl (by decide) (by decide)
  refine ⟨_, rfl, ?_⟩
  obtain ⟨t, hrun, -, hend⟩ := h.2 _ [.probeExpire, .beacon 7 true, .minExpire [], .maxExpire [],
    .probeResponse 8 false, .beacon 7 true, .maxExpire []] rfl (by decide +kernel)
  have ht : t.step = .none := by
    obtain rfl := Except.ok.inj hrun
    rfl
  exact ⟨t, hrun, hend ht⟩

end Mac80211

end SipNemo.Mac
