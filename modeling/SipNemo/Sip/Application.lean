import SipNemo.Sip.Reassembly
import SipNemo.Sip.Relaying

/-!
# The application and its calls

`mysipApp` on top of the SIP agent: it registers with a server, calls, answers and streams.  The
server is an application with the id 88, which answers an INVITE with the contact that its table
has for the callee (method 4).  The other methods are INVITE (0), 200 OK (1), ACK (2), REGISTER
(3), data (7), and the re-INVITEs of an agent (9 and 12).

The accounting of the data is in `LossAccounting`.  A header that is not copied from a received one
starts as what is on the stack.
-/

namespace SipNemo.Sip

open Runs

/-! ### `mysipApp` -/

/-- `URLIPtable`. -/
structure URLIPtable where
  urlId : ℤ
  url : Addr
  ip : Addr
  port : ℤ
  deriving DecidableEq, Repr

/-- `mysipApp`, less the accounting and the media scale; `newAddr` is `new_addr` of its agent, and
`sndTimer` says that `snd_timer_` is pending. -/
structure CallApp where
  running : Bool := false
  seq : ℤ := 0
  cseq : ℤ := 1
  inviteStop : Bool := false
  m200okStop : Bool := false
  ackStop : Bool := false
  myID : ℤ := 0
  myURL : Addr := 0
  toID : ℤ := 0
  toURL : Addr := 0
  contactDstAddr : Addr := 0
  newAddr : Addr := 0
  pktsize : ℕ := 1000
  sndTimer : Bool := false
  urls : List URLIPtable := []
  deriving DecidableEq, Repr

namespace CallApp

variable (junk : HdrMysip) (addr : Addr) (s : CallApp)

/-- The first message tells the agent's address. -/
def learnAddr : CallApp := if s.cseq = 1 then { s with newAddr := addr } else s

/-- `CSeq_++`. -/
def countCSeq : CallApp := { s with cseq := s.cseq + 1 }

/-- `add_urllist`. -/
def addUrllist (urlId : ℤ) (url ip : Addr) (port : ℤ) : CallApp :=
  { s with urls := ⟨urlId, url, ip, port⟩ :: s.urls }

/-- `lookup_table`, which compares the url ids. -/
def lookupTable (urlId : ℤ) : Option URLIPtable := s.urls.find? fun n => urlId = n.urlId

/-- `set_contact`. -/
def setContact (mh : HdrMysip) : CallApp := { s with contactDstAddr := mh.contact }

/-- `send_mysip_data`; the agent is connected to no destination. -/
def sendMysipData : CallApp × List HdrMysip :=
  if s.running then
    ({ s with seq := s.seq + 1, sndTimer := true },
      [{ junk with
        ack := 0
        seq := s.seq
        nbytes := s.pktsize
        method := 7
        requestURL := s.contactDstAddr
        fromURL := addr
        fromId := s.myID
        toURL := noAddr
        toId := s.toID
        contact := s.newAddr
        contactId := s.myID }])
  else (s, [])

/-- The message of `send_invite_pkt`. -/
def inviteMessage : HdrMysip :=
  { junk with
    ack := 1
    seq := -2
    nbytes := 120
    method := 0
    fromId := s.myID
    fromURL := s.myURL
    toId := s.toID
    toURL := s.toURL
    contactId := s.myID
    contact := s.newAddr
    requestURLId := s.toID
    requestURL := s.contactDstAddr
    cip := s.newAddr
    cport := 3 }

/-- `send_invite_pkt`. -/
def sendInvitePkt : CallApp × List HdrMysip :=
  ((s.learnAddr addr).countCSeq, [(s.learnAddr addr).inviteMessage junk])

/-- The message of `send_200ok_pkt`. -/
def okMessage (last : HdrMysip) : HdrMysip :=
  { last with
    ack := 1
    seq := -2
    nbytes := 80
    method := 1
    contactId := s.myID
    contact := s.newAddr
    requestURL := s.contactDstAddr
    cip := s.newAddr
    cport := 3 }

/-- `send_200ok_pkt`. -/
def send200okPkt (last : HdrMysip) : CallApp × List HdrMysip :=
  ((s.learnAddr addr).countCSeq, [(s.learnAddr addr).okMessage last])

/-- `send_ack_for_200ok_pkt`. -/
def sendAckFor200okPkt (last : HdrMysip) : CallApp × List HdrMysip :=
  (s.countCSeq,
    [{ last with
      ack := 1
      seq := -2
      nbytes := 40
      method := 2
      fromURL := addr
      toURL := noAddr
      contact := s.newAddr
      requestURL := s.contactDstAddr }])

/-- The message of `send_register_pkt`. -/
def registerMessage : HdrMysip :=
  { junk with
    ack := 1
    seq := -2
    nbytes := 200
    method := 3
    requestURL := s.myURL
    requestURLId := 88
    fromId := s.myID
    fromURL := s.myURL
    toId := s.myID
    toURL := s.myURL
    contactId := s.myID
    contact := s.newAddr
    cport := 3 }

/-- `send_register_pkt`. -/
def sendRegisterPkt : CallApp × List HdrMysip :=
  ((s.learnAddr addr).countCSeq, [(s.learnAddr addr).registerMessage junk])

/-- `send_temp_move_pkt`, whose condition assigns 88 to `myID`. -/
def sendTempMovePkt (last : HdrMysip) : CallApp × List HdrMysip :=
  ({ s with myID := 88 },
    match s.lookupTable last.requestURLId with
    | none => []
    | some urlentry =>
      [{ last with
        ack := 1
        seq := -2
        nbytes := 300
        method := 4
        requestURL := last.contact
        requestURLId := last.contactId
        contact := urlentry.ip }])

/-- `recv_msg`, less the accounting. -/
def recvMsg (mh : HdrMysip) : CallApp × List HdrMysip :=
  if mh.ack = 1 then
    if mh.method = 0 then
      if s.myID = 88 then (s.setContact mh).sendTempMovePkt mh
      else (s.setContact mh).send200okPkt addr mh
    else if mh.method = 1 then
      let (s, media) := sendMysipData junk addr ({ s with inviteStop := true }.setContact mh)
      let (s, ack) := s.sendAckFor200okPkt addr mh
      (s, media ++ ack)
    else if mh.method = 2 then ({ s with m200okStop := true }, [])
    else if mh.method = 3 then (s.addUrllist mh.fromId mh.fromURL mh.contact 3, [])
    else if mh.method = 4 then (s.setContact mh).sendInvitePkt junk addr
    else if mh.method = 9 ∨ mh.method = 12 then (s.setContact mh, [])
    else (s, [])
  else ({ s with ackStop := true }, [])

/-- `start`, with the callee of the command `send_invite`. -/
def start (toID : ℤ) (toURL : Addr) : CallApp × List HdrMysip :=
  sendInvitePkt junk addr
    { s with
      toID := toID, toURL := toURL, seq := 0, newAddr := addr, running := true
      contactDstAddr := toURL }

/-- `stop`. -/
def stop : CallApp := { s with running := false }

/-- `SendTimer::expire`. -/
def expireSend : CallApp × List HdrMysip := sendMysipData junk addr { s with sndTimer := false }

end CallApp

/-! ### A node with an application -/

/-- An application with its agent.  What it has been told to call, what it has heard, with its own
call at that time, and what it has sent are not kept by the source. -/
structure Endpoint where
  agent : UdpmysipAgent
  size : ℕ := 1000
  mm : MmState
  app : CallApp
  started : List (ℤ × ℤ) := []
  heard : List ((ℤ × ℤ) × HdrMysip) := []
  sent : List HdrMysip := []

namespace Endpoint

variable (junk : HdrMysip) (s : Endpoint)

/-- The call of the application's own. -/
def call : ℤ × ℤ := (s.app.myID, s.app.toID)

/-- The messages of the application go through `sendmsg`. -/
def transmit (r : CallApp × List HdrMysip) : Act (Endpoint × List Packet) := do
  let outs ← r.2.mapM fun mh => sendmsg s.agent s.mm.cport s.size mh.nbytes.toNat mh
  pure ({ s with app := r.1, sent := r.2 ++ s.sent }, outs.flatten.map Out.packet)

/-- A packet arrives. -/
def receive (p : Packet) : Act (Endpoint × List Packet) := do
  let (agent, mm, outs, call) ← recv s.agent s.mm p
  let s := { s with agent := agent, mm := mm }
  match call with
  | some (.recvMsg _ mh) =>
    let (s, sent) ←
      { s with heard := (s.call, mh) :: s.heard }.transmit (s.app.recvMsg junk agent.addr mh)
    pure (s, outs.map Out.packet ++ sent)
  | _ => pure (s, outs.map Out.packet)

/-- The commands of the application, the timer, and what happens at the agent. -/
inductive Op
  | myIdUrl (id : ℤ) (url : Addr)
  | addUrlRecord (id : ℤ) (url ip : Addr)
  | sendInvite (toID : ℤ) (toURL : Addr)
  | stop
  | setAddr (addr : Addr)
  | registration (addr : Addr)
  | expireSend
  | newPrefix (pre : Addr) (iface : NodeId) (bsAddr : Addr)
  | reHoming (iface : NodeId)

/-- The node does something by itself. -/
def operate : Op → Act (Endpoint × List Packet)
  | .myIdUrl id url => .ok ({ s with app := { s.app with myID := id, myURL := url } }, [])
  | .addUrlRecord id url ip => .ok ({ s with app := s.app.addUrllist id url ip 3 }, [])
  | .sendInvite toID toURL =>
    { s with started := (s.app.myID, toID) :: s.started }.transmit
      (s.app.start junk s.agent.addr toID toURL)
  | .stop => .ok ({ s with app := s.app.stop }, [])
  | .setAddr addr =>
    .ok ({ s with
      agent := { s.agent with addr := addr }, app := { s.app with newAddr := addr } }, [])
  | .registration addr =>
    { s with agent := { s.agent with addr := addr } }.transmit
      ({ s.app with newAddr := addr }.sendRegisterPkt junk addr)
  | .expireSend =>
    if s.app.sndTimer then s.transmit (s.app.expireSend junk s.agent.addr) else .ok (s, [])
  | .newPrefix pre iface bsAddr => do
    let (agent, outs) ← mnProcessNewPrefix s.agent pre iface bsAddr
    pure ({ s with agent := agent }, outs.map Out.packet)
  | .reHoming iface => do
    let (agent, outs) ← Sip.reHoming s.agent iface
    pure ({ s with agent := agent }, outs.map Out.packet)

end Endpoint

end SipNemo.Sip
