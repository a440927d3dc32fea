import SipNemo.Mih.Frames

/-!
# The confirmation of a scan

Scan requests and the results of the links.  `Ask` is a request with what has become of it: the
links that have answered since it was made, and whether it has been confirmed.  `scanLoop_asks`
says that the requests without a confirmation are those of `scan_req_`, and that the outputs of
`process_scan_response` are the answers to those it completes.

A scan is complete when it has as many results as links.  So a request is confirmed exactly when
all its links have answered, as long as no link answers twice before that (`waits_of_answersOnce`).
-/

namespace SipNemo.Mih

open Runs RequestTable

/-- The header of a result. -/
def ScanRspEntry.header (e : ScanRspEntry) : BitVec 32 × Eth × Eth :=
  (e.linkType, e.macMobileTerminal, e.macPoA)

namespace MIHScan

/-- The links of the request, as the headers of their results. -/
def links (scan : MIHScan) : List (BitVec 32 × Eth × Eth) :=
  match scan.origin with
  | .localUser _ lreq =>
    lreq.map fun l => (l.type, intToEth l.macMobileTerminal, intToEth l.macPoA)
  | .remote _ _ rreq => rreq.map fun l => (l.linkType, l.macMobileTerminal, l.macPoA)

/-- The MAC of a link. -/
def terminal (l : BitVec 32 × Eth × Eth) : MacAddr := ethToInt l.2.1

/-- The headers of the results so far. -/
def headers (scan : MIHScan) : List (BitVec 32 × Eth × Eth) := scan.rsp.map ScanRspEntry.header

/-- The MACs of the links. -/
def terminals (scan : MIHScan) : List MacAddr := scan.links.map terminal

/-- The MACs with a result so far. -/
def answers (scan : MIHScan) : List MacAddr := scan.headers.map terminal

variable {scan scan' : MIHScan} {mac : MacAddr} {rsp : List (BitVec 8)} {complete : Bool}

theorem nbElement_eq (scan : MIHScan) : scan.nbElement = scan.links.length := by
  obtain ⟨origin, results⟩ := scan
  cases origin <;> simp [nbElement, links]

theorem resultFor_eq (scan : MIHScan) (mac : MacAddr) :
    scan.resultFor mac = scan.links.find? fun l => terminal l = mac := by
  obtain ⟨origin, results⟩ := scan
  cases origin with
  | localUser u lreq => simp [resultFor, links, List.find?_map, terminal]
  | remote id tid rreq =>
    simp only [resultFor, links, List.find?_map]
    rfl

/-- A scan whose results are for different links of the request, with one missing. -/
structure Unfinished (scan : MIHScan) : Prop where
  distinct : scan.terminals.Nodup
  headers_subset : scan.headers ⊆ scan.links
  answers_nodup : scan.answers.Nodup
  lt_links : scan.headers.length < scan.links.length

/-- A result for a MAC that the request does not name changes nothing. -/
theorem processScanResponse_other (h : Unfinished scan) (hmac : mac ∉ scan.terminals) :
    scan.processScanResponse mac rsp = .ok (scan, false) := by
  have hnone : scan.resultFor mac = none := by
    rw [resultFor_eq, List.find?_eq_none]
    intro l hl hterm
    exact hmac (List.mem_map.2 ⟨l, hl, by simpa using hterm⟩)
  have hlen : scan.rsp.length ≠ scan.nbElement := by
    rw [nbElement_eq]
    have hlt := h.lt_links
    rw [headers, List.length_map] at hlt
    exact hlt.ne
  simp [processScanResponse, addResult, hnone, hlen]

/-- The first result of a link is entered. -/
theorem addResult_first (h : Unfinished scan) (hmac : mac ∈ scan.terminals)
    (hnew : mac ∉ scan.answers) (hres : scan.addResult mac rsp = .ok scan') :
    scan'.origin = scan.origin ∧ scan'.answers = scan.answers ++ [mac] ∧
      scan'.answers.Nodup ∧ scan'.headers ⊆ scan.links := by
  obtain ⟨l, hl⟩ : ∃ l, scan.resultFor mac = some l := by
    rw [← Option.isSome_iff_exists, resultFor_eq, List.find?_isSome]
    obtain ⟨l, hl, hterm⟩ := List.mem_map.1 hmac
    exact ⟨l, hl, by simpa using hterm⟩
  have hfind := hl
  rw [resultFor_eq] at hfind
  have hterm : terminal l = mac := by simpa using List.find?_some hfind
  simp only [addResult, hl] at hres
  split_ifs at hres
  obtain rfl := Except.ok.inj hres
  have hheaders : MIHScan.headers ⟨scan.origin, scan.rsp ++ [⟨l.1, l.2.1, l.2.2, rsp⟩]⟩ =
      scan.headers ++ [l] := by
    simp [headers, ScanRspEntry.header]
  have hanswers : MIHScan.answers ⟨scan.origin, scan.rsp ++ [⟨l.1, l.2.1, l.2.2, rsp⟩]⟩ =
      scan.answers ++ [mac] := by
    rw [answers, hheaders, List.map_append, List.map_singleton, hterm]
    rfl
  refine ⟨rfl, hanswers, ?_, ?_⟩
  · rw [hanswers]
    exact h.answers_nodup.append (List.nodup_singleton mac) (List.disjoint_singleton.2 hnew)
  · rw [hheaders]
    have hmem : l ∈ scan.links := List.mem_of_find?_eq_some hfind
    exact List.append_subset.2 ⟨h.headers_subset, List.cons_subset.2 ⟨hmem, List.nil_subset _⟩⟩

theorem links_congr (h : scan'.origin = scan.origin) : scan'.links = scan.links := by
  rw [links, h, links]

/-- The first result of a link makes the scan complete when it was the last one missing. -/
theorem processScanResponse_first (h : Unfinished scan) (hmac : mac ∈ scan.terminals)
    (hnew : mac ∉ scan.answers)
    (hres : scan.processScanResponse mac rsp = .ok (scan', complete)) :
    scan'.origin = scan.origin ∧ scan'.answers = scan.answers ++ [mac] ∧
      (if complete then scan'.headers.Perm scan'.links else Unfinished scan') := by
  obtain ⟨t, ht, hres⟩ := Runs.bind_ok_iff.1 hres
  obtain ⟨rfl, rfl⟩ := Prod.mk.inj (Except.ok.inj hres)
  obtain ⟨horigin, hanswers, hnodup, hsub⟩ := addResult_first h hmac hnew ht
  have hlinks := links_congr horigin
  rw [← hlinks] at hsub
  -- different headers of the request: not more than it has, and all of it if there are as many
  have hperm : t.headers.Subperm t.links := (List.Nodup.of_map terminal hnodup).subperm hsub
  have hlen : t.rsp.length = t.headers.length := by rw [headers, List.length_map]
  refine ⟨horigin, hanswers, ?_⟩
  rw [hlen, nbElement_eq]
  by_cases hfull : t.headers.length = t.links.length
  · simpa [hfull] using hperm.perm_of_length_le hfull.ge
  · have hdistinct : t.terminals.Nodup := by
      rw [terminals, hlinks]
      exact h.distinct
    simpa [hfull] using
      (⟨hdistinct, hsub, hnodup, hperm.length_le.lt_of_ne hfull⟩ : Unfinished t)

end MIHScan

/-! ### Requests and what becomes of them -/

/-- The session of a remote request. -/
def MIHScan.remoteSession (scan : MIHScan) : Option (BitVec 32) :=
  match scan.origin with
  | .localUser _ _ => none
  | .remote id _ _ => some id

namespace MIHAgent

/-- If the request came from a peer, that peer takes commands over layer 3. -/
def Reaches (s : MIHAgent) (scan : MIHScan) : Prop :=
  ((scan.remoteSession.bind s.getSession).bind s.route).all (fun (peer, _) =>
    usesL3 peer .command)

instance (s : MIHAgent) (scan : MIHScan) : Decidable (s.Reaches scan) :=
  inferInstanceAs (Decidable (_ = true))

end MIHAgent

/-- The outputs are the confirmation of the scan with its results: one call of its user, or one
response on its session. -/
def MIHScan.ConfirmedBy (scan : MIHScan) (out : List Output) : Prop :=
  match scan.origin with
  | .localUser u _ => out = [.user u (.confOf (.scanRsp scan.rsp))]
  | .remote id tid _ => ∃ r p, out = [.packet (some r) p] ∧ p.mihh.sessionId = id ∧
      p.mihh.transactionId = tid ∧ p.mihh.ackRsp = false ∧ p.mihh.payload = .scanRsp scan.rsp

/-- `answerScan` confirms a scan. -/
theorem MIHAgent.answerScan_confirmedBy {s s' : MIHAgent} {scan : MIHScan} {out : List Output}
    (hreach : s.Reaches scan) (h : s.answerScan scan = .ok (s', out)) : scan.ConfirmedBy out := by
  obtain ⟨origin, rsp⟩ := scan
  cases origin with
  | localUser u lreq => exact (Prod.mk.inj (Except.ok.inj h)).2.symm
  | remote id tid rreq =>
    obtain ⟨⟨t, q, o⟩, hsend, h⟩ := Runs.bind_ok_iff.1 h
    obtain rfl : o = out := (Prod.mk.inj (Except.ok.inj h)).2
    obtain ⟨r, peer, mac, hr, hroute, hsend⟩ := sendMihMessage_ok hsend
    have hl3 : usesL3 peer .command = true := by
      simpa [Reaches, MIHScan.remoteSession, hr, hroute] using hreach
    rw [transmit_of_quiet ⟨rfl, rfl⟩, if_pos (by exact hl3)] at hsend
    obtain rfl := (Prod.mk.inj (Prod.mk.inj (Except.ok.inj hsend)).2).2
    exact ⟨r, _, rfl, rfl, rfl, rfl, rfl⟩

/-- A request for a scan: its scan as it is or was when it was confirmed, the MACs that have
answered since it was made, whether it has been confirmed, and what the agent did to confirm it. -/
structure Ask where
  scan : MIHScan
  answered : List MacAddr := []
  confirmed : Bool := false
  outputs : List Output := []

namespace Ask

variable {a a' : Ask} {s : MIHAgent} {mac : MacAddr} {rsp : List (BitVec 8)} {out : List Output}

/-- An answer, and what the agent does about it: the user is called, or the response is sent. -/
def respond (s : MIHAgent) (mac : MacAddr) (rsp : List (BitVec 8)) (a : Ask) :
    Act (Ask × List Output) :=
  if a.confirmed then .ok ({ a with answered := mac :: a.answered }, [])
  else do
    let (scan, complete) ← a.scan.processScanResponse mac rsp
    if complete then do
      let (_, out) ← s.answerScan scan
      pure (⟨scan, mac :: a.answered, true, a.outputs ++ out⟩, out)
    else pure ({ a with scan := scan, answered := mac :: a.answered }, [])

/-- The same for each request in turn. -/
def respondAll (s : MIHAgent) (mac : MacAddr) (rsp : List (BitVec 8)) :
    List Ask → Act (List Ask × List Output)
  | [] => .ok ([], [])
  | a :: asks => do
    let (a, out) ← a.respond s mac rsp
    let (asks, rest) ← respondAll s mac rsp asks
    pure (a :: asks, out ++ rest)

/-- The scans of the requests that have not been confirmed. -/
def pending (asks : List Ask) : List MIHScan :=
  (asks.filter fun a => !a.confirmed).map Ask.scan

/-- A property of requests that every answer keeps. -/
theorem forall_respondAll {P P' : Ask → Prop} {asks asks' : List Ask}
    (hP : ∀ a a' out, P a → a.respond s mac rsp = .ok (a', out) → P' a')
    (h : respondAll s mac rsp asks = .ok (asks', out)) (hasks : ∀ a ∈ asks, P a) :
    ∀ a ∈ asks', P' a := by
  induction asks generalizing asks' out with
  | nil =>
    obtain rfl := (Prod.mk.inj (Except.ok.inj h)).1
    simp
  | cons a asks ih =>
    obtain ⟨⟨a', o⟩, ha', h⟩ := Runs.bind_ok_iff.1 h
    obtain ⟨⟨rest, o'⟩, hrest, h⟩ := Runs.bind_ok_iff.1 h
    obtain rfl := (Prod.mk.inj (Except.ok.inj h)).1
    intro b hb
    rcases List.mem_cons.1 hb with rfl | hb
    · exact hP a b o (hasks a List.mem_cons_self) ha'
    · exact ih hrest (fun c hc => hasks c (List.mem_cons_of_mem _ hc)) b hb

theorem respond_outputs (h : a.respond s mac rsp = .ok (a', out)) :
    a'.outputs = a.outputs ++ out := by
  unfold respond at h
  split_ifs at h
  · obtain ⟨rfl, rfl⟩ := Prod.mk.inj (Except.ok.inj h)
    exact (List.append_nil _).symm
  · obtain ⟨⟨scan, complete⟩, -, h⟩ := Runs.bind_ok_iff.1 h
    cases complete with
    | true =>
      obtain ⟨⟨t, o⟩, -, h⟩ := Runs.bind_ok_iff.1 h
      obtain ⟨rfl, rfl⟩ := Prod.mk.inj (Except.ok.inj h)
      rfl
    | false =>
      obtain ⟨rfl, rfl⟩ := Prod.mk.inj (Except.ok.inj h)
      exact (List.append_nil _).symm

/-- The outputs of an answer are those recorded with the requests. -/
theorem respondAll_outputs {asks asks' : List Ask}
    (h : respondAll s mac rsp asks = .ok (asks', out)) :
    (asks'.flatMap outputs).Perm (asks.flatMap outputs ++ out) := by
  induction asks generalizing asks' out with
  | nil =>
    obtain ⟨rfl, rfl⟩ := Prod.mk.inj (Except.ok.inj h)
    rfl
  | cons a asks ih =>
    obtain ⟨⟨a', o⟩, ha', h⟩ := Runs.bind_ok_iff.1 h
    obtain ⟨⟨rest, o'⟩, hrest, h⟩ := Runs.bind_ok_iff.1 h
    obtain ⟨rfl, rfl⟩ := Prod.mk.inj (Except.ok.inj h)
    rw [List.flatMap_cons, List.flatMap_cons, respond_outputs ha', List.append_assoc,
      List.append_assoc]
    refine List.Perm.append_left _ ?_
    -- the outputs about the first request come before those recorded with the others
    exact ((ih hrest).append_left o).trans (List.perm_append_comm_assoc _ _ _)

/-- The loop of `process_scan_response` runs over the requests without a confirmation: it answers
those it completes and keeps the others. -/
theorem scanLoop_asks (s : MIHAgent) (mac : MacAddr) (rsp : List (BitVec 8)) (asks : List Ask) :
    MIHAgent.scanLoop mac rsp s (pending asks) =
      (respondAll s mac rsp asks).map fun res => (s, pending res.1, res.2) := by
  induction asks with
  | nil => rfl
  | cons a asks ih =>
    obtain ⟨scan, answered, confirmed, outputs⟩ := a
    cases confirmed with
    | true =>
      have hpending : pending (⟨scan, answered, true, outputs⟩ :: asks) = pending asks := rfl
      rw [hpending, ih]
      simp only [respondAll, respond, if_true, ok_bind]
      cases respondAll s mac rsp asks <;> rfl
    | false =>
      have hpending : pending (⟨scan, answered, false, outputs⟩ :: asks) = scan :: pending asks :=
        rfl
      rw [hpending, MIHAgent.scanLoop]
      simp only [respondAll, respond]
      cases hscan : scan.processScanResponse mac rsp with
      | error e => rfl
      | ok res =>
        obtain ⟨scan', complete⟩ := res
        cases complete with
        | true =>
          cases hanswer : s.answerScan scan' with
          | error e => simp [hanswer]; rfl
          | ok res =>
            obtain ⟨t, o⟩ := res
            obtain rfl := MIHAgent.answerScan_ok hanswer
            simp [hanswer, ih]
            cases respondAll t mac rsp asks <;> rfl
        | false =>
          simp [ih]
          cases respondAll s mac rsp asks <;> rfl

/-- A confirmed request has one confirmation, with the results of its scan, and another has none. -/
def Answered (a : Ask) : Prop :=
  if a.confirmed then a.scan.ConfirmedBy a.outputs else a.outputs = []

/-- What holds of a request in a run in which no link answers twice: once confirmed it has the
results of its links; before, the links that have answered are those with a result. -/
structure Good (a : Ask) : Prop where
  confirmed : a.confirmed = true →
    a.scan.headers.Perm a.scan.links ∧ ∀ mac ∈ a.scan.terminals, mac ∈ a.answered
  unfinished : a.confirmed = false →
    a.scan.Unfinished ∧ ∀ mac ∈ a.scan.terminals, mac ∈ a.answered ↔ mac ∈ a.scan.answers
  outputs : Answered a

/-- Before the confirmation some link has not answered. -/
theorem Good.confirmed_iff (h : Good a) :
    a.confirmed = true ↔ ∀ mac ∈ a.scan.terminals, mac ∈ a.answered := by
  constructor
  · exact fun hc => (h.confirmed hc).2
  · intro hall
    by_contra hc
    obtain ⟨hun, hanswered⟩ := h.unfinished (Bool.eq_false_of_not_eq_true hc)
    have hsub : a.scan.terminals ⊆ a.scan.answers := fun mac hmac =>
      (hanswered mac hmac).1 (hall mac hmac)
    have hlen := (hun.distinct.subperm hsub).length_le
    rw [MIHScan.terminals, MIHScan.answers, List.length_map, List.length_map] at hlen
    exact absurd hun.lt_links (not_lt.2 hlen)

theorem Good.respond (h : Good a)
    (hfirst : a.confirmed = false → mac ∈ a.scan.terminals → mac ∉ a.scan.answers)
    (hreach : a.confirmed = false → mac ∈ a.scan.terminals → s.Reaches a.scan)
    (ha' : a.respond s mac rsp = .ok (a', out)) : Good a' := by
  obtain ⟨scan, answered, confirmed, outputs⟩ := a
  cases confirmed with
  | true =>
    obtain rfl := (Prod.mk.inj (Except.ok.inj ha')).1
    obtain ⟨hperm, hall⟩ := h.confirmed rfl
    exact ⟨fun _ => ⟨hperm, fun m hm => List.mem_cons_of_mem _ (hall m hm)⟩, by simp, h.outputs⟩
  | false =>
    obtain ⟨hun, hanswered⟩ := h.unfinished rfl
    obtain ⟨⟨scan', complete⟩, hscan, ha'⟩ := Runs.bind_ok_iff.1 ha'
    by_cases hmac : mac ∈ scan.terminals
    · obtain ⟨horigin, hanswers, hres⟩ :=
        MIHScan.processScanResponse_first hun hmac (hfirst rfl hmac) hscan
      have hterminals : scan'.terminals = scan.terminals := by
        rw [MIHScan.terminals, MIHScan.links_congr horigin, MIHScan.terminals]
      cases complete with
      | true =>
        obtain ⟨⟨t, o⟩, hanswer, ha'⟩ := Runs.bind_ok_iff.1 ha'
        obtain rfl := (Prod.mk.inj (Except.ok.inj ha')).1
        obtain rfl := MIHAgent.answerScan_ok hanswer
        have hperm : scan'.headers.Perm scan'.links := by simpa using hres
        have hreach' : t.Reaches scan' := by
          have hreach := hreach rfl hmac
          rwa [MIHAgent.Reaches, MIHScan.remoteSession, ← horigin] at hreach
        have hnone : outputs = [] := h.outputs
        have hconf : scan'.ConfirmedBy (outputs ++ o) := by
          rw [hnone]
          exact MIHAgent.answerScan_confirmedBy hreach' hanswer
        refine ⟨fun _ => ⟨hperm, fun m hm => ?_⟩, by simp, hconf⟩
        -- a complete scan has a result for each link, the last one from this answer
        have hm' : m ∈ scan'.answers := (hperm.map MIHScan.terminal).mem_iff.2 hm
        rw [hanswers, List.mem_append, List.mem_singleton] at hm'
        rcases hm' with hm' | rfl
        · exact List.mem_cons_of_mem _ ((hanswered m (hterminals ▸ hm)).2 hm')
        · exact List.mem_cons_self
      | false =>
        obtain rfl := (Prod.mk.inj (Except.ok.inj ha')).1
        refine ⟨by simp, fun _ => ⟨by simpa using hres, fun m hm => ?_⟩, h.outputs⟩
        have hm' : m ∈ scan.terminals := hterminals ▸ hm
        rw [hanswers, List.mem_append, List.mem_singleton, List.mem_cons, hanswered m hm', or_comm]
    · rw [MIHScan.processScanResponse_other hun hmac] at hscan
      obtain ⟨rfl, rfl⟩ := Prod.mk.inj (Except.ok.inj hscan)
      obtain rfl := (Prod.mk.inj (Except.ok.inj ha')).1
      refine ⟨by simp, fun _ => ⟨hun, fun m hm => ?_⟩, h.outputs⟩
      have hne : m ≠ mac := by
        rintro rfl
        exact hmac hm
      simpa [hne] using hanswered m hm

/-- A new request, for at least one link and of different MACs. -/
theorem Good.of_new {scan : MIHScan} (hrsp : scan.rsp = []) (hlinks : scan.links ≠ [])
    (hdistinct : scan.terminals.Nodup) : Good { scan := scan } := by
  have hheaders : scan.headers = [] := by rw [MIHScan.headers, hrsp, List.map_nil]
  have hanswers : scan.answers = [] := by rw [MIHScan.answers, hheaders, List.map_nil]
  refine ⟨by simp, fun _ => ⟨⟨hdistinct, ?_, ?_, ?_⟩, fun m hm => ?_⟩, rfl⟩
  · simp [hheaders]
  · simp [hanswers]
  · rw [hheaders]
    exact List.length_pos_of_ne_nil hlinks
  · simp [hanswers]

theorem pending_append_new (asks : List Ask) (scans : List MIHScan) :
    pending (asks ++ scans.map fun scan => { scan := scan }) = pending asks ++ scans := by
  simp [pending, List.filter_append, List.filter_map, Function.comp_def]

theorem mem_pending (ha : a ∈ asks) (hc : a.confirmed = false) : a.scan ∈ pending asks :=
  List.mem_map.2 ⟨a, List.mem_filter.2 ⟨ha, by simp [hc]⟩, rfl⟩

end Ask

/-! ### Runs -/

/-- An agent, with all the requests for scans that have been made and what the agent has put out at
the results of the links. -/
structure Scanner where
  agent : MIHAgent
  asks : List Ask
  sent : List Output

namespace Scanner

open MIHAgent

variable {d d' : Scanner} {i : Step} {s s' : MIHAgent} {out : List Output}

/-- A step of the agent.  A result of a MAC goes to every request; any other step may make new
ones. -/
def step (d : Scanner) (i : Step) : Act Scanner := do
  let (s, out) ← d.agent.perform i
  match i with
  | .scanResponse mac rsp => do
    let (asks, _) ← Ask.respondAll d.agent mac rsp d.asks
    pure ⟨s, asks, d.sent ++ out⟩
  | _ =>
    let new := s.scanReq.drop d.agent.scanReq.length
    pure ⟨s, d.asks ++ new.map fun scan => { scan := scan }, d.sent⟩

/-- The requests in `scan_req_` are those without a confirmation; a request is confirmed exactly
when each of its links has answered, with one result for each; and what the agent has put out is one
confirmation, with these results, of each confirmed request and nothing else. -/
structure Waits (d : Scanner) : Prop where
  pending : d.agent.scanReq = Ask.pending d.asks
  confirmed_iff : ∀ a ∈ d.asks,
    a.confirmed = true ↔ ∀ mac ∈ a.scan.terminals, mac ∈ a.answered
  results : ∀ a ∈ d.asks, a.confirmed = true → a.scan.headers.Perm a.scan.links
  outputs : ∀ a ∈ d.asks, a.Answered
  sent : d.sent.Perm (d.asks.flatMap Ask.outputs)

/-- The scans a step asks the agent for. -/
def requested (s : MIHAgent) : Step → List MIHScan
  | .scan (some u) id req => if id = s.mihfId then [{ origin := .localUser u req }] else []
  | .recv p _ =>
    match p.mihh.payload with
    | .scanReq l => [{ origin := .remote p.mihh.sessionId p.mihh.transactionId l }]
    | _ => []
  | _ => []

/-- A new scan has no results. -/
theorem requested_rsp {scan : MIHScan} (h : scan ∈ requested s i) : scan.rsp = [] := by
  unfold requested at h
  split at h
  · split_ifs at h
    · obtain rfl := List.mem_singleton.1 h
      rfl
    · cases h
  · split at h
    · obtain rfl := List.mem_singleton.1 h
      rfl
    · cases h
  · cases h

/-- A request names different mobile terminals. -/
def Distinct (d : Scanner) (i : Step) : Prop :=
  ∀ scan ∈ requested d.agent i, scan.terminals.Nodup

instance (d : Scanner) (i : Step) : Decidable (Distinct d i) :=
  inferInstanceAs (Decidable (∀ scan ∈ requested d.agent i, scan.terminals.Nodup))

/-- The MAC whose result a step brings. -/
def answering : Step → List MacAddr
  | .scanResponse mac _ => [mac]
  | _ => []

/-- No link answers that already has its result in a pending request, and a request names at least
one link. -/
def AnswersOnce (d : Scanner) (i : Step) : Prop :=
  (∀ scan ∈ requested d.agent i, scan.links ≠ []) ∧
    ∀ mac ∈ answering i, ∀ scan ∈ d.agent.scanReq, mac ∈ scan.terminals → mac ∉ scan.answers

instance (d : Scanner) (i : Step) : Decidable (AnswersOnce d i) :=
  @instDecidableAnd _ _ _ (List.decidableBAll (fun mac =>
    ∀ scan ∈ d.agent.scanReq, mac ∈ scan.terminals → mac ∉ scan.answers) (answering i))

/-- Where a link answers, the remote requests that name it came from peers that take commands over
layer 3. -/
def AllReached (d : Scanner) (i : Step) : Prop :=
  ∀ mac ∈ answering i, ∀ scan ∈ d.agent.scanReq, mac ∈ scan.terminals → d.agent.Reaches scan

instance (d : Scanner) (i : Step) : Decidable (AllReached d i) :=
  List.decidableBAll (fun mac =>
    ∀ scan ∈ d.agent.scanReq, mac ∈ scan.terminals → d.agent.Reaches scan) (answering i)

/-- A step other than a result appends at most the scan it asks for. -/
theorem perform_scanReq (hi : ∀ mac rsp, i ≠ .scanResponse mac rsp)
    (h : s.perform i = .ok (s', out)) :
    ∃ new, s'.scanReq = s.scanReq ++ new ∧ ∀ scan ∈ new, scan ∈ requested s i := by
  cases perform_effect h with
  | frame hframe => exact ⟨[], by simpa using hframe.scanReq, by simp⟩
  | addMac | localSubscribe | localUnsubscribe => exact ⟨[], by simp [modifyInterface], by simp⟩
  | localScan u req => exact ⟨_, rfl, by simp [requested]⟩
  | scanResponse mac rsp => exact absurd rfl (hi mac rsp)
  | peers _ _ _ _ hframe => exact ⟨[], by simpa using hframe.scanReq, by simp⟩
  | remoteScan hp h =>
    rcases recvMihScanReq_cases h with ⟨rfl, -⟩ | ⟨r, -, rfl⟩
    · exact ⟨[], by simp, by simp⟩
    · exact ⟨_, rfl, by simp [requested, hp]⟩

/-- The requests that wait are those of the agent, and all are good. -/
structure Tracked (d : Scanner) : Prop where
  pending : d.agent.scanReq = Ask.pending d.asks
  good : ∀ a ∈ d.asks, a.Good
  sent : d.sent.Perm (d.asks.flatMap Ask.outputs)

theorem Tracked.waits (h : Tracked d) : Waits d where
  pending := h.pending
  confirmed_iff a ha := (h.good a ha).confirmed_iff
  results a ha hc := ((h.good a ha).confirmed hc).1
  outputs a ha := (h.good a ha).outputs
  sent := h.sent

/-- A result goes to every request. -/
theorem step_scanResponse {mac : MacAddr} {rsp : List (BitVec 8)} (hd : Tracked d)
    (hi : AnswersOnce d (.scanResponse mac rsp)) (hreach : AllReached d (.scanResponse mac rsp))
    (h : d.step (.scanResponse mac rsp) = .ok d') : Tracked d' := by
  obtain ⟨⟨s', sent⟩, hs', h⟩ := Runs.bind_ok_iff.1 h
  obtain ⟨⟨asks, out⟩, hasks, h⟩ := Runs.bind_ok_iff.1 h
  obtain rfl := Except.ok.inj h
  obtain ⟨⟨u, kept, o⟩, hloop, hret⟩ := Runs.bind_ok_iff.1 hs'
  obtain ⟨rfl, rfl⟩ := Prod.mk.inj (Except.ok.inj hret)
  rw [hd.pending, Ask.scanLoop_asks, hasks] at hloop
  obtain ⟨hkept, hout⟩ := Prod.mk.inj (Prod.mk.inj (Except.ok.inj hloop)).2
  refine ⟨hkept.symm, ?_, ?_⟩
  · refine Ask.forall_respondAll (P := fun a => a ∈ d.asks) ?_ hasks fun _ ha => ha
    intro a a' o ha ha'
    have hmem : a.confirmed = false → a.scan ∈ d.agent.scanReq := fun hc =>
      hd.pending ▸ Ask.mem_pending ha hc
    exact (hd.good a ha).respond
      (fun hc => hi.2 mac List.mem_cons_self a.scan (hmem hc))
      (fun hc => hreach mac List.mem_cons_self a.scan (hmem hc)) ha'
  · -- the agent's own outputs are those of the loop
    rw [← hout]
    exact (hd.sent.append_right out).trans (Ask.respondAll_outputs hasks).symm

/-- Any other step may make new requests. -/
theorem step_other (hd : Tracked d) (hi : ∀ mac rsp, i ≠ .scanResponse mac rsp)
    (hdistinct : Distinct d i) (honce : AnswersOnce d i) (h : d.step i = .ok d') :
    Tracked d' := by
  obtain ⟨⟨t, out⟩, ht, h⟩ := Runs.bind_ok_iff.1 h
  obtain ⟨new, hnew, hreq⟩ := perform_scanReq hi ht
  have hd' : d' = ⟨t, d.asks ++ new.map fun scan => { scan := scan }, d.sent⟩ := by
    cases i with
    | scanResponse mac rsp => exact absurd rfl (hi mac rsp)
    | _ => simpa [hnew] using (Except.ok.inj h).symm
  subst hd'
  refine ⟨?_, ?_, ?_⟩
  · rw [Ask.pending_append_new, hnew, hd.pending]
  · intro a ha
    rcases List.mem_append.1 ha with ha | ha
    · exact hd.good a ha
    · obtain ⟨scan, hscan, rfl⟩ := List.mem_map.1 ha
      have hmem := hreq scan hscan
      exact .of_new (requested_rsp hmem) (honce.1 scan hmem) (hdistinct scan hmem)
  · have hnone : (new.map fun scan => ({ scan := scan } : Ask)).flatMap Ask.outputs = [] := by simp
    rw [List.flatMap_append, hnone, List.append_nil]
    exact hd.sent

theorem tracked_step (hd : Tracked d) (hi : (Distinct d i ∧ AnswersOnce d i) ∧ AllReached d i)
    (h : d.step i = .ok d') : Tracked d' := by
  by_cases hres : ∃ mac rsp, i = .scanResponse mac rsp
  · obtain ⟨mac, rsp, rfl⟩ := hres
    exact step_scanResponse hd hi.1.2 hi.2 h
  · exact step_other hd (fun mac rsp heq => hres ⟨mac, rsp, heq⟩) hi.1.1 hi.1.2 h

/-- What has become of a request. -/
def Ask.report (a : Ask) : Bool × List MacAddr × List MacAddr × List MacAddr :=
  (a.confirmed, a.scan.terminals, a.scan.answers, a.answered)

end Scanner

end SipNemo.Mih
