import SipNemo.Lib.FirstMatch
import SipNemo.Lib.Outcome
import SipNemo.Lib.Runs
import SipNemo.Mih.Types

/-!
# The transmission of frames

What `Mac802_11` has to send, which of its timers run, and what it does when they expire, when
frames arrive and when the interface queue or the MIH ask for something.  Whether the MAC is an
access point (`index_ == bss_id_`) does not change.  Times are left out: a timer may expire whenever
it runs, `nav_` may lie ahead of the clock or not, and what depends on the content of a frame, on
the channels of a scan or on `bss_id_` comes with the input.

`last_tx_` and `pktRetransmit_` are compared with the pointers to the pending frames only, so they
are kept as the pointer they were copied from.  `tx_resume` and `send` call each other, also through
the interface queue: `txResume` counts the calls that nest.  Of the interface timer only
`tx_active_` is kept, of the contention window, the rates and the statistics nothing.
-/

namespace SipNemo.Mac

open FirstMatch Outcome Runs
open Mih (MacAddr)

/-- `MAC_BROADCAST`. -/
def macBroadcast : MacAddr := 0xFFFFFFFF

/-- `MacState`. -/
inductive MacState
  | idle | recv | send | rts | cts | ack | coll
  deriving DecidableEq, Repr

/-- `mhBackoff_`: not busy, busy, or busy and paused. -/
inductive BackoffTimer
  | idle | running | paused
  deriving DecidableEq, Repr

/-- The subtype of `pktCTRL_`. -/
inductive CtrlSubtype
  | cts | ack
  deriving DecidableEq, Repr

/-- The subtypes of the frames that go through `pktManagement_`. -/
inductive MgmtSubtype
  | assocReq | assocRes | probeReq | probeRes
  deriving DecidableEq, Repr

/-- A management frame; `ptr` is its address in memory. -/
structure MgmtFrame where
  ptr : ℕ
  subtype : MgmtSubtype
  ra : MacAddr
  size : ℕ
  deriving DecidableEq, Repr

/-- A data packet. -/
structure DataFrame where
  uid : ℕ
  ra : MacAddr
  size : ℕ
  deriving DecidableEq, Repr

/-- The pointers to the frames that are sent. -/
inductive FramePtr
  | ctrl | beacon | management | rts | tx
  deriving DecidableEq, Repr

/-- `ClientStatus`. -/
inductive ClientStatus
  | pending | associated
  deriving DecidableEq, Repr

/-- A `Client`.  The source does not have `joined`: a response to the station has been acknowledged
since the entry was made. -/
structure Client where
  id : MacAddr
  pkt : ℕ
  status : ClientStatus
  joined : Bool := false
  deriving DecidableEq, Repr

/-- The values of `macmib_` and `phymib_` that are read here. -/
structure Mib where
  rtsThreshold : ℕ
  shortRetryLimit : ℕ
  longRetryLimit : ℕ
  hdrLen11 : ℕ
  assocReqlen : ℕ
  assocResplen : ℕ
  probeReqlen : ℕ
  deriving DecidableEq, Repr

/-- The interval that is passed to `mhDefer_.start`. -/
inductive Ifs
  | sifs | difs
  deriving DecidableEq, Repr

/-- What becomes of the packets of the interface queue, and the link events of an access point.  The
source has no record of the calls of `send` with the clients they find, nor of the packets that are
kept for later, nor of what is pending when the queue is called back. -/
inductive TxOutput
  | handed (p : DataFrame)
  | passed (p : DataFrame) (clients : List Client)
  | sendDATA (p : DataFrame)
  | keep (p : DataFrame)
  | discard (p : DataFrame) (callback : Bool)
  | callback (tmpPacket pktTx : Option DataFrame)
  | linkUp (d : MacAddr)
  | linkDown (d : MacAddr)
  deriving DecidableEq, Repr

/-- The transmitting side of `Mac802_11`, with the interface queue. -/
structure Transmitter where
  ap : Bool
  mib : Mib
  txState : MacState := .idle
  rxState : MacState := .idle
  nav : Bool := false
  txActive : Bool := false
  rxError : Bool := false
  mhDefer : Bool := false
  deferFor : Ifs := .difs
  mhSend : Bool := false
  mhBackoff : BackoffTimer := .idle
  pktCTRL : Option CtrlSubtype := none
  pktBeacon : Bool := false
  pktManagement : Option MgmtFrame := none
  managementQueue : List MgmtFrame := []
  pktRTS : Bool := false
  pktTx : Option DataFrame := none
  tmpPacket : Option DataFrame := none
  callback : Bool := false
  lastTx : Option FramePtr := none
  pktRetransmit : Option FramePtr := none
  scanning : Bool := false
  ssrc : ℕ := 0
  slrc : ℕ := 0
  clients : List Client := []
  ifq : List DataFrame := []
  blocked : Bool := false
  log : List TxOutput := []

/-- The search of `send` for an entry that is associated. -/
def hasAssociated (clients : List Client) : Bool := clients.any (·.status = .associated)

/-- An access point discards a unicast packet when it finds no client that is associated. -/
def Refuses (ap : Bool) (clients : List Client) (p : DataFrame) : Prop :=
  ap = true ∧ p.ra ≠ macBroadcast ∧ hasAssociated clients = false

instance (ap : Bool) (clients : List Client) (p : DataFrame) : Decidable (Refuses ap clients p) :=
  inferInstanceAs (Decidable (_ ∧ _ ∧ _))

/-- `assert`. -/
def assertThat (p : Prop) [Decidable p] : Act Unit := if p then .ok () else .error .assertion

/-- A `u_int32_t` counted up. -/
def countUp (n : ℕ) : ℕ := (n + 1) % 2 ^ 32

/-- A checked condition that holds. -/
theorem meets_assertThat {p : Prop} [Decidable p] {α : Type} {f : Unit → Act α} {E : Abort → Prop}
    {Q : α → Prop} (hp : p) (hf : Meets (f ()) E Q) : Meets (assertThat p >>= f) E Q := by
  simpa [assertThat, hp] using hf

/-- A checked condition that may fail. -/
theorem meets_assertThat_of {p : Prop} [Decidable p] {α : Type} {f : Unit → Act α}
    {E : Abort → Prop} {Q : α → Prop} (hfail : ¬ p → E .assertion)
    (hf : p → Meets (f ()) E Q) : Meets (assertThat p >>= f) E Q := by
  unfold assertThat
  split_ifs with hp
  · exact hf hp
  · exact hfail hp

theorem keeps_assertThat {p : Prop} [Decidable p] {α β : Type} {f : Unit → Act α} {π : α → β}
    {a : α} (hf : Keeps π (f ()) a) : Keeps π (assertThat p >>= f) a :=
  meets_assertThat_of (fun _ => trivial) fun _ => hf

theorem meets_assertNonNull_of {α β : Type} {o : Option α} {f : α → Act β} {E : Abort → Prop}
    {Q : β → Prop} (hfail : o = none → E .assertion) (hf : ∀ a, o = some a → Meets (f a) E Q) :
    Meets (assertNonNull o >>= f) E Q := by
  cases o with
  | none => exact hfail rfl
  | some a => exact hf a rfl

theorem meets_deref_of {α β : Type} {o : Option α} {f : α → Act β} {E : Abort → Prop}
    {Q : β → Prop} (hfail : o = none → E .nullPointer) (hf : ∀ a, o = some a → Meets (f a) E Q) :
    Meets (deref o >>= f) E Q := by
  cases o with
  | none => exact hfail rfl
  | some a => exact hf a rfl

theorem keeps_assertNonNull {α β γ : Type} {o : Option γ} {f : γ → Act α} {π : α → β} {a : α}
    (hf : ∀ c, o = some c → Keeps π (f c) a) : Keeps π (assertNonNull o >>= f) a :=
  meets_assertNonNull_of (fun _ => trivial) hf

/-- A checked pointer that is not null. -/
theorem meets_assertNonNull {α β : Type} {o : Option α} {a : α} {f : α → Act β}
    {E : Abort → Prop} {Q : β → Prop} (ho : o = some a) (hf : Meets (f a) E Q) :
    Meets (assertNonNull o >>= f) E Q := by
  rw [ho]
  exact hf

theorem meets_deref {α β : Type} {o : Option α} {a : α} {f : α → Act β}
    {E : Abort → Prop} {Q : β → Prop} (ho : o = some a) (hf : Meets (f a) E Q) :
    Meets (deref o >>= f) E Q := by
  rw [ho]
  exact hf

namespace Transmitter

variable (s : Transmitter)

def emit (o : TxOutput) : Transmitter := { s with log := s.log ++ [o] }

/-! ### The medium and the timers -/

/-- `is_idle`. -/
def IsIdle : Prop := s.rxState = .idle ∧ s.txState = .idle ∧ s.nav = false

instance : Decidable s.IsIdle := inferInstanceAs (Decidable (_ ∧ _ ∧ _))

/-- `checkBackoffTimer`. -/
def checkBackoffTimer : Transmitter :=
  if s.IsIdle ∧ s.mhBackoff = .paused then { s with mhBackoff := .running }
  else if ¬ s.IsIdle ∧ s.mhBackoff = .running then { s with mhBackoff := .paused }
  else s

def setTxState (x : MacState) : Transmitter := { s with txState := x }.checkBackoffTimer

def setRxState (x : MacState) : Transmitter := { s with rxState := x }.checkBackoffTimer

/-- `mhDefer_.start`. -/
def startDefer (ifs : Ifs) : Act Transmitter := do
  assertThat (s.mhDefer = false)
  .ok { s with mhDefer := true, deferFor := ifs }

/-- `mhBackoff_.start(cw_, is_idle())`. -/
def startBackoff : Act Transmitter := do
  assertThat (s.mhBackoff = .idle)
  .ok { s with mhBackoff := if s.IsIdle then .running else .paused }

/-- `mhSend_.stop`. -/
def stopSend : Act Transmitter := do
  assertThat (s.mhSend = true)
  .ok { s with mhSend := false }

/-- A deferral unless the MAC backs off. -/
def deferUnlessBackoff (ifs : Ifs) : Act Transmitter :=
  if s.mhBackoff = .idle then s.startDefer ifs else .ok s

/-- How a new frame comes to be sent: by a deferral if the medium is idle, else by a back-off. -/
def awaitMedium : Act Transmitter :=
  if s.mhBackoff = .idle then
    if s.IsIdle then
      if s.mhDefer = false then s.startDefer .difs else .ok s
    else s.startBackoff
  else .ok s

/-- `transmit`. -/
def transmit (f : FramePtr) : Act Transmitter := do
  let s := { s with txActive := true, rxError := s.rxError || s.rxState ≠ MacState.idle }
  assertThat (s.mhSend = false)
  .ok { s with mhSend := true, lastTx := some f }

/-! ### Packets of the interface queue -/

/-- `sendRTS`. -/
def sendRTS (dst : MacAddr) : Act Transmitter := do
  let p ← assertNonNull s.pktTx
  assertThat (s.pktRTS = false)
  if p.size < s.mib.rtsThreshold ∨ dst = macBroadcast then .ok s
  else .ok { s with pktRTS := true }

/-- `sendDATA`. -/
def sendDATA (p : DataFrame) : Act Transmitter := do
  assertThat (s.pktTx = none)
  .ok { s.emit (.sendDATA p) with pktTx := some { p with size := p.size + s.mib.hdrLen11 } }

/-- The destination is not associated: the packet is discarded. -/
def discardPacket (p : DataFrame) : Transmitter :=
  let s := { s with callback := true }
  s.emit (.discard p s.callback)

/-- The packet is kept for later. -/
def keepPacket (p : DataFrame) : Transmitter :=
  { s.emit (.keep p) with tmpPacket := some p, callback := true }

/-- The packet is the next data frame. -/
def takePacket (p : DataFrame) : Act Transmitter := do
  let s ← { s with callback := true }.sendDATA p
  let s ← s.sendRTS p.ra
  s.awaitMedium

/-- None of the three timers runs. -/
def TimersIdle : Prop := s.mhBackoff = .idle ∧ s.mhDefer = false ∧ s.mhSend = false

instance : Decidable s.TimersIdle := inferInstanceAs (Decidable (_ ∧ _ ∧ _))

/-- `send`, with `tx_resume` as the first argument. -/
def send (resume : Transmitter → Act Transmitter) (p : DataFrame) : Act Transmitter :=
  let s := s.emit (.passed p s.clients)
  if Refuses s.ap s.clients p then
    let s := s.discardPacket p
    if s.TimersIdle then resume s else .ok s
  else if s.pktManagement.isSome ∨ s.pktBeacon = true then .ok (s.keepPacket p)
  else s.takePacket p

/-- `Queue::resume`. -/
def resumeQueue (resume : Transmitter → Act Transmitter) : Act Transmitter :=
  match s.ifq with
  | [] => .ok { s with blocked := false }
  | p :: q => ({ s with ifq := q }.emit (.handed p)).send resume p

/-- What `tx_resume` defers for before the packet in `pktTx_`, which an RTS and a CTS have gone
before unless it is short. -/
def dataInterval : Ifs :=
  match s.pktTx with
  | some p => if p.size < s.mib.rtsThreshold ∨ p.ra = macBroadcast then .difs else .sifs
  | none => .difs

/-- `tx_resume`, for calls that nest less than the given number of times. -/
def txResume : ℕ → Transmitter → Act Transmitter
  | 0, _ => .error .recursion
  | n + 1, s => do
    assertThat (s.mhSend = false)
    assertThat (s.mhDefer = false)
    let s ← (
      if s.pktCTRL.isSome then s.startDefer .sifs
      else if s.pktBeacon = true then s.deferUnlessBackoff .difs
      else if s.pktManagement.isSome then s.deferUnlessBackoff .difs
      -- this is to forbid sending other types of packets
      else if s.scanning = true then .ok s
      else if s.pktRTS = true then s.deferUnlessBackoff .difs
      else if s.pktTx.isSome then s.deferUnlessBackoff s.dataInterval
      else if s.callback = true then
        match s.tmpPacket with
        | some p => do
          let s ← s.send (txResume n) p
          .ok { s with tmpPacket := none }
        | none =>
          let s := { s.emit (.callback s.tmpPacket s.pktTx) with callback := false }
          s.resumeQueue (txResume n)
      else .ok s)
    .ok (s.setTxState .idle)

/-- `Queue::recv`. -/
def arrive (n : ℕ) (p : DataFrame) : Act Transmitter :=
  let s := { s with ifq := s.ifq ++ [p] }
  if s.blocked = true then .ok s
  else
    match s.ifq with
    | [] => .ok s
    | p :: q => ({ s with ifq := q, blocked := true }.emit (.handed p)).send (txResume n) p

/-! ### The frames that wait to be sent -/

/-- What follows a check that returns at once when the check has done something. -/
def unlessDone (check : Act (Option Transmitter)) (rest : Act Transmitter) : Act Transmitter := do
  match ← check with
  | some s => .ok s
  | none => rest

/-- `check_pktCTRL`; `none` is the result `-1`. -/
def checkPktCTRL : Act (Option Transmitter) :=
  match s.pktCTRL with
  | none => .ok none
  | some subtype =>
    if s.txState = .cts ∨ s.txState = .ack then .ok none
    else
      match subtype with
      | .cts =>
        if s.IsIdle then ((s.setTxState .cts).transmit .ctrl).map some
        else .ok (some { s with pktCTRL := none })
      | .ack => ((s.setTxState .ack).transmit .ctrl).map some

/-- `check_pktBeacon`. -/
def checkPktBeacon : Act (Option Transmitter) := do
  assertThat (s.mhBackoff = .idle)
  if s.pktBeacon = false then .ok none
  else if s.IsIdle then ((s.setTxState .send).transmit .beacon).map some
  else (s.startDefer .difs).map some

/-- `check_pktManagement`. -/
def checkPktManagement : Act (Option Transmitter) := do
  assertThat (s.mhBackoff = .idle)
  if s.pktManagement = none then .ok none
  else if s.IsIdle then ((s.setTxState .send).transmit .management).map some
  else s.startBackoff.map some

/-- `check_pktRTS`. -/
def checkPktRTS : Act (Option Transmitter) := do
  assertThat (s.mhBackoff = .idle)
  if s.pktRTS = false then .ok none
  else if s.IsIdle then ((s.setTxState .rts).transmit .rts).map some
  else s.startBackoff.map some

/-- `check_pktTx`. -/
def checkPktTx : Act (Option Transmitter) := do
  assertThat (s.mhBackoff = .idle)
  match s.pktTx with
  | none => .ok none
  | some p =>
    if s.IsIdle then ((s.setTxState .send).transmit .tx).map some
    else do
      let s ← s.sendRTS p.ra
      s.startBackoff.map some

/-- `backoffHandler`, called with the timer idle. -/
def backoffHandler : Act Transmitter :=
  if s.pktCTRL.isSome then do
    assertThat (s.mhSend = true ∨ s.mhDefer = true)
    .ok s
  else
    unlessDone s.checkPktBeacon <| unlessDone s.checkPktManagement <|
      unlessDone s.checkPktRTS <| unlessDone s.checkPktTx <| .ok s

/-- What `deferHandler` does for a data packet that waited for a `SIFS` only. -/
def checkAfterSIFS : Act (Option Transmitter) :=
  if s.pktManagement = none ∧ s.pktRTS = false then do
    let p ← deref s.pktTx
    if s.mib.rtsThreshold < p.size ∧ p.ra ≠ macBroadcast then s.checkPktTx else .ok none
  else .ok none

/-- `deferHandler`, called with the timer idle. -/
def deferHandler : Act Transmitter := do
  assertThat (s.pktCTRL.isSome ∨ s.pktBeacon = true ∨ s.pktManagement.isSome ∨ s.pktRTS = true ∨
    s.pktTx.isSome)
  unlessDone s.checkPktCTRL <| unlessDone s.checkPktBeacon <| do
    assertThat (s.mhBackoff = .idle)
    unlessDone s.checkAfterSIFS s.startBackoff

/-- `navHandler`. -/
def navHandler : Transmitter :=
  if s.IsIdle ∧ s.mhBackoff = .paused then { s with mhBackoff := .running } else s

/-! ### Commands -/

/-- `clear_tx_rx`. -/
def clearTxRx : Transmitter :=
  { s with
    nav := false
    txState := .idle
    rxState := .idle
    txActive := false
    pktRTS := false
    pktCTRL := none
    pktTx := none
    pktManagement := none
    managementQueue := []
    ssrc := 0
    slrc := 0
    mhDefer := false
    mhSend := false
    mhBackoff := .idle }

/-- `sendAssocRequest`. -/
def sendAssocRequest (dst : MacAddr) (ptr : ℕ) : Act Transmitter := do
  assertThat (s.pktManagement = none)
  { s with
    pktManagement := some
      { ptr := ptr, subtype := .assocReq, ra := dst, size := s.mib.assocReqlen } }.awaitMedium

/-- `link_connect`. -/
def linkConnect (macPoA : MacAddr) (ptr : ℕ) : Act Transmitter :=
  { s.clearTxRx with scanning := false }.sendAssocRequest macPoA ptr

/-- `link_scan`, which clears when the first channel is not the current one. -/
def linkScan (clears : Bool) : Transmitter :=
  if s.scanning = true then s
  else
    let s := { s with scanning := true }
    if clears = true then s.clearTxRx else s

/-- The three branches of `nextScan`. -/
inductive NextScan
  | stop | channel | finish
  deriving DecidableEq, Repr

/-- `nextScan`. -/
def nextScan : NextScan → Transmitter
  | .stop => s
  | .channel => s.clearTxRx
  | .finish => { s.clearTxRx with scanning := false }

/-- `sendProbeRequest`, to the address in `dh_ra`. -/
def sendProbeRequest (dst : MacAddr) (ptr : ℕ) : Act Transmitter :=
  if s.pktManagement.isSome then .ok s
  else
    { s with
      pktManagement := some
        { ptr := ptr, subtype := .probeReq, ra := dst, size := s.mib.probeReqlen } }.awaitMedium

/-- `sendBeacon`. -/
def sendBeacon (n : ℕ) : Act Transmitter := do
  assertThat (s.pktBeacon = false)
  let s := { s with pktBeacon := true, mhBackoff := .idle }
  if s.pktCTRL.isSome then .ok s
  else if s.mhDefer = true then ({ s with mhDefer := false }.txResume n)
  else if s.mhSend = false then s.txResume n
  else .ok s

/-- `process_client_timeout`. -/
def processClientTimeout (addr : MacAddr) : Transmitter :=
  match s.clients.find? (·.id = addr) with
  | none => s
  | some _ =>
    { s.emit (.linkDown addr) with clients := s.clients.eraseP (·.id = addr) }

/-! ### Frames that were not answered -/

/-- `managementQueue_->enque`, or `pktManagement_` itself when it is free. -/
def enque (m : MgmtFrame) : Transmitter :=
  if s.pktManagement = none then { s with pktManagement := some m }
  else { s with managementQueue := s.managementQueue ++ [m] }

/-- `pktManagement_ = managementQueue_->deque()`. -/
def deque : Transmitter :=
  { s with pktManagement := s.managementQueue.head?, managementQueue := s.managementQueue.tail }

/-- `RetransmitRTS`. -/
def retransmitRTS : Act Transmitter := do
  let _ ← assertNonNull s.pktTx
  assertThat (s.pktRTS = true)
  assertThat (s.mhBackoff = .idle)
  let s := { s with ssrc := countUp s.ssrc }
  if s.mib.shortRetryLimit ≤ s.ssrc then .ok { s with pktRTS := false, pktTx := none, ssrc := 0 }
  else s.startBackoff

/-- `RetransmitDATA`. -/
def retransmitDATA : Act Transmitter := do
  assertThat (s.mhBackoff = .idle)
  let p ← assertNonNull s.pktTx
  assertThat (s.pktRTS = false)
  if p.ra = macBroadcast then ({ s with pktTx := none }.startBackoff)
  else if p.size ≤ s.mib.rtsThreshold then
    let s := { s with ssrc := countUp s.ssrc }
    if s.mib.shortRetryLimit ≤ s.ssrc then .ok { s with pktTx := none, ssrc := 0 }
    else do
      let s ← s.sendRTS p.ra
      s.startBackoff
  else
    let s := { s with slrc := countUp s.slrc }
    if s.mib.longRetryLimit ≤ s.slrc then .ok { s with pktTx := none, slrc := 0 }
    else do
      let s ← s.sendRTS p.ra
      s.startBackoff

/-- What `RetransmitManagement` does with a frame that was sent too often. -/
def giveUp (m : MgmtFrame) : Transmitter :=
  let s := { s with clients := s.clients.eraseP (·.pkt = m.ptr) }
  -- `link_disconnect` for an association request
  let s := if m.subtype = .assocReq then s.clearTxRx else s
  s.deque

/-- `RetransmitManagement`. -/
def retransmitManagement : Act Transmitter := do
  assertThat (s.mhBackoff = .idle)
  let m ← assertNonNull s.pktManagement
  if m.ra = macBroadcast then s.deque.startBackoff
  else
    let s := { s with ssrc := countUp s.ssrc }
    if s.mib.shortRetryLimit ≤ s.ssrc then .ok (s.giveUp m) else s.startBackoff

/-- The pointer to a pending beacon, management frame or data packet. -/
def pointer : FramePtr → Option FramePtr
  | .beacon => if s.pktBeacon = true then some .beacon else none
  | .management => if s.pktManagement.isSome then some .management else none
  | .tx => if s.pktTx.isSome then some .tx else none
  | .rts => if s.pktRTS = true then some .rts else none
  | .ctrl => if s.pktCTRL.isSome then some .ctrl else none

/-- The case `MAC_SEND` of `send_timer`, the beacon apart. -/
def retransmit : Act Transmitter :=
  if s.pointer .management = s.lastTx then
    if s.pktBeacon = true then .ok { s with pktRetransmit := s.pointer .management }
    else s.retransmitManagement
  else if s.pointer .tx = s.lastTx then
    if s.pktBeacon = true then .ok { s with pktRetransmit := s.pointer .tx }
    else s.retransmitDATA
  else .ok s

/-- The case `MAC_SEND` of `send_timer`. -/
def sendExpired : Act Transmitter :=
  if s.pointer .beacon = s.lastTx then
    if s.pktBeacon = false then .error .nullPointer
    else
      let s := { s with pktBeacon := false }
      match s.pktRetransmit with
      | some f => { s with lastTx := some f, pktRetransmit := none }.retransmit
      | none => .ok s
  else s.retransmit

/-- The frame in `pktCTRL_` has been sent, or was not answered. -/
def freeCTRL : Act Transmitter := do
  let _ ← assertNonNull s.pktCTRL
  .ok { s with pktCTRL := none }

/-- The switch of `send_timer`. -/
def unansweredFrame : Act Transmitter :=
  match s.txState with
  | .rts => s.retransmitRTS
  | .cts => s.freeCTRL
  | .send => s.sendExpired
  | .ack => s.freeCTRL
  | .idle => .ok s
  | .recv => .error .assertion
  | .coll => .error .assertion

/-- `send_timer`, called with `mhSend_` idle. -/
def sendTimer (n : ℕ) : Act Transmitter := do
  let s ← s.unansweredFrame
  s.txResume n

/-! ### Frames that arrive -/

/-- `sendACK`. -/
def sendACK : Act Transmitter := do
  assertThat (s.pktCTRL = none)
  .ok { s with pktCTRL := some .ack }

/-- `sendCTS`. -/
def sendCTS : Act Transmitter := do
  assertThat (s.pktCTRL = none)
  .ok { s with pktCTRL := some .cts }

/-- `tx_resume` unless a frame is being sent. -/
def resumeUnlessSending (n : ℕ) : Act Transmitter :=
  if s.mhSend = false then s.txResume n else .ok s

/-- `recvRTS`. -/
def recvRTS (n : ℕ) : Act Transmitter :=
  if s.txState ≠ .idle then .ok s
  else if s.pktCTRL.isSome then .ok s
  else do
    let s ← s.sendCTS
    { s with mhDefer := false }.txResume n

/-- `recvCTS`. -/
def recvCTS (n : ℕ) : Act Transmitter :=
  if s.txState ≠ .rts then .ok s
  else do
    assertThat (s.pktRTS = true)
    let s := { s with pktRTS := false }
    let _ ← assertNonNull s.pktTx
    let s ← s.stopSend
    { s with ssrc := 0 }.txResume n

/-- `recvDATA`, for a packet with this MAC's address. -/
def recvDATA (n : ℕ) (size : ℕ) : Act Transmitter :=
  if s.mib.rtsThreshold ≤ size then
    if s.txState = .cts then do
      let s ← s.freeCTRL
      let s ← s.stopSend
      let s ← s.sendACK
      s.txResume n
    else .ok s
  else if s.pktCTRL.isSome then .ok s
  else do
    let s ← s.sendACK
    if s.mhSend = false then ({ s with mhDefer := false }.txResume n) else .ok s

/-- The acknowledgement of the packet in `pktTx_`. -/
def dataAcknowledged : Act Transmitter := do
  let p ← deref s.pktTx
  let s := if p.size ≤ s.mib.rtsThreshold then { s with ssrc := 0 } else { s with slrc := 0 }
  .ok { s with pktTx := none }

/-- The client whose response is acknowledged, with a link up if it was not associated. -/
def associate (m : MgmtFrame) (c : Client) : Transmitter :=
  let s := if c.status ≠ .associated then s.emit (.linkUp m.ra) else s
  let clients := updateFirst (·.pkt = m.ptr) (fun c => { c with status := .associated }) s.clients
  { s with
    clients := clients.map fun c => if c.id = m.ra then { c with joined := true } else c }

/-- The acknowledgement of an association response. -/
def responseAcknowledged (m : MgmtFrame) : Act Transmitter := do
  let c ← assertNonNull (s.clients.find? (·.pkt = m.ptr))
  .ok (s.associate m c)

/-- The acknowledgement of the frame in `pktManagement_`. -/
def managementAcknowledged : Act Transmitter := do
  let m ← deref s.pktManagement
  assertThat (s.pointer .management = s.lastTx)
  let s ← (if m.subtype = .assocRes then s.responseAcknowledged m else .ok s)
  let s := if m.size ≤ s.mib.rtsThreshold then { s with ssrc := 0 } else { s with slrc := 0 }
  .ok s.deque

/-- `recvACK`. -/
def recvACK (n : ℕ) : Act Transmitter :=
  if s.txState ≠ .send then .ok s
  else do
    assertThat (s.pktTx.isSome ∨ s.pktManagement.isSome)
    let s ← s.stopSend
    let s ← (if s.pointer .tx = s.lastTx then s.dataAcknowledged else s.managementAcknowledged)
    assertThat (s.mhBackoff = .idle)
    let s ← (if s.pktBeacon = false then s.startBackoff else .ok s)
    s.txResume n

/-- `sendAssocResponse`. -/
def sendAssocResponse (dst : MacAddr) (ptr : ℕ) : Transmitter :=
  s.enque { ptr := ptr, subtype := .assocRes, ra := dst, size := s.mib.assocResplen }

/-- What `recvAssocRequest` does after its acknowledgement; `ptr` is the address of the response. -/
def admitClient (src : MacAddr) (ptr : ℕ) : Transmitter :=
  match s.clients.find? (·.id = src) with
  | none =>
    { s.sendAssocResponse src ptr with
      clients := { id := src, pkt := ptr, status := .pending } :: s.clients }
  | some c =>
    if c.status = .associated then
      { s.sendAssocResponse src ptr with
        clients := updateFirst (·.id = src) (fun c => { c with pkt := ptr, status := .pending })
          s.clients }
    -- a response is already pending
    else s

/-- `recvAssocRequest`. -/
def recvAssocRequest (n : ℕ) (src : MacAddr) (ptr : ℕ) : Act Transmitter := do
  assertThat (s.ap = true)
  if s.pktCTRL.isSome then .ok s
  else
    let s ← s.sendACK
    let s ← { s with mhDefer := false }.resumeUnlessSending n
    .ok (s.admitClient src ptr)

/-- `recvAssocResponse`; a station that is refused disconnects. -/
def recvAssocResponse (n : ℕ) (refused : Bool) : Act Transmitter :=
  if s.pktCTRL.isSome then .ok s
  else do
    let s ← s.sendACK
    let s ← s.resumeUnlessSending n
    .ok (if refused = true then s.clearTxRx else s)

/-- `recvProbeRequest`; `ptr` is the address of the response. -/
def recvProbeRequest (n : ℕ) (src : MacAddr) (ptr : ℕ) : Act Transmitter :=
  if s.ap = false then .ok s
  else
    let s := s.enque { ptr := ptr, subtype := .probeRes, ra := src, size := s.mib.probeReqlen }
    { s with mhDefer := false }.resumeUnlessSending n

/-- `recvProbeResponse`. -/
def recvProbeResponse (n : ℕ) : Act Transmitter :=
  if s.pktCTRL.isSome then .ok s
  else do
    let s ← s.sendACK
    s.resumeUnlessSending n

/-- `recvBeacon`; a station that is not connected and has no MIH may connect to the sender. -/
def recvBeacon (connects : Option (MacAddr × ℕ)) : Act Transmitter :=
  match connects with
  | some (src, ptr) => if s.ap = false ∧ s.scanning = false then s.linkConnect src ptr else .ok s
  | none => .ok s

/-- A frame that `recv_timer` handles, or drops for its address or for what the station is
attached to. -/
inductive RxFrame
  | rts | cts | ack
  | data (size : ℕ)
  | broadcast
  | assocRequest (src : MacAddr) (ptr : ℕ)
  | assocResponse (refused : Bool)
  | probeRequest (src : MacAddr) (ptr : ℕ)
  | probeResponse
  | beacon (connects : Option (MacAddr × ℕ))
  | dropped
  deriving DecidableEq, Repr

/-- The switch of `recv_timer`. -/
def handle (n : ℕ) : RxFrame → Act Transmitter
  | .rts => s.recvRTS n
  | .cts => s.recvCTS n
  | .ack => s.recvACK n
  | .data size => s.recvDATA n size
  | .broadcast => .ok s
  | .assocRequest src ptr => s.recvAssocRequest n src ptr
  | .assocResponse refused => s.recvAssocResponse n refused
  | .probeRequest src ptr => s.recvProbeRequest n src ptr
  | .probeResponse => s.recvProbeResponse n
  | .beacon connects => s.recvBeacon connects
  | .dropped => .ok s

/-- `recv_timer`.  With `sets` the frame has another address and its duration, or the time after an
erroneous frame, ends later than `nav_`. -/
def recvTimer (n : ℕ) (f : RxFrame) (sets : Bool) : Act Transmitter := do
  assertThat (s.rxState = .recv ∨ s.rxState = .coll)
  let t := { s with nav := s.nav || sets }
  let s ← (
    if s.txActive = true then .ok s
    else if s.rxState = .coll then .ok t
    else if s.rxError = true then .ok t
    else t.handle n f)
  .ok (s.setRxState .idle)

/-- `recv_timer` does not drop the frame that ends. -/
def Handles : Prop := s.txActive = false ∧ s.rxState ≠ .coll ∧ s.rxError = false

instance : Decidable s.Handles := inferInstanceAs (Decidable (_ ∧ _ ∧ _))

/-- The first bit of a frame: it is received, or ignored while another one is received, or collides
with that. -/
inductive FirstBit
  | received (error : Bool)
  | captured (sets : Bool)
  | collided
  deriving DecidableEq, Repr

/-- `Mac802_11::recv` of a frame from the network interface. -/
def recv : FirstBit → Transmitter
  | .received error => { s with rxError := error || s.txActive }.setRxState .recv
  | .captured sets => { s with nav := s.nav || sets }
  | .collided => s.setRxState .coll

/-! ### Steps -/

/-- What the transmitting side is told. -/
inductive Event
  | arrive (p : DataFrame)
  | deferExpires
  | backoffExpires
  | sendExpires
  | ifExpires
  | navExpires
  | navLapses
  | recvStart (b : FirstBit)
  | recvEnd (f : RxFrame) (sets : Bool)
  | linkConnect (macPoA : MacAddr) (ptr : ℕ)
  | linkDisconnect
  | linkScan (clears : Bool)
  | nextScan (branch : NextScan)
  | probeExpires (dst : MacAddr) (ptr : ℕ)
  | beaconExpires
  | clientExpires (d : MacAddr)
  deriving DecidableEq, Repr

/-- What it does; `n` bounds the nesting of `tx_resume`. -/
def step (n : ℕ) : Event → Act Transmitter
  | .arrive p => s.arrive n p
  | .deferExpires => { s with mhDefer := false }.deferHandler
  | .backoffExpires => { s with mhBackoff := .idle }.backoffHandler
  | .sendExpires => { s with mhSend := false }.sendTimer n
  | .ifExpires => .ok { s with txActive := false }
  | .navExpires => .ok { s with nav := false }.navHandler
  | .navLapses => .ok { s with nav := false }
  | .recvStart b => .ok (s.recv b)
  | .recvEnd f sets => s.recvTimer n f sets
  | .linkConnect macPoA ptr => s.linkConnect macPoA ptr
  | .linkDisconnect => .ok s.clearTxRx
  | .linkScan clears => .ok (s.linkScan clears)
  | .nextScan branch => .ok (s.nextScan branch)
  | .probeExpires dst ptr => s.sendProbeRequest dst ptr
  | .beaconExpires => s.sendBeacon n
  | .clientExpires d => .ok (s.processClientTimeout d)

/-- `mhRecv_` runs. -/
def Receiving : Prop := s.rxState = .recv ∨ s.rxState = .coll

instance : Decidable s.Receiving := inferInstanceAs (Decidable (_ ∨ _))

/-- What may happen: a timer expires while it runs, a frame ends after it began, frames come to the
stations they are for, and only a station is told to scan, to connect and to disconnect. -/
def Occurs : Event → Prop
  | .deferExpires => s.mhDefer = true
  | .backoffExpires => s.mhBackoff = .running
  | .sendExpires => s.mhSend = true
  | .recvStart (.received _) => s.rxState = .idle
  | .recvStart _ => s.Receiving
  | .recvEnd (.assocRequest _ _) _ => s.Receiving ∧ s.ap = true
  | .recvEnd (.assocResponse _) _ => s.Receiving ∧ s.ap = false
  | .recvEnd .probeResponse _ => s.Receiving ∧ s.ap = false
  | .recvEnd _ _ => s.Receiving
  | .linkConnect _ _ => s.ap = false
  | .linkDisconnect => s.ap = false
  | .linkScan _ => s.ap = false
  | .nextScan _ => s.ap = false ∧ s.scanning = true
  | .probeExpires _ _ => s.ap = false
  | .beaconExpires => s.ap = true
  | .clientExpires d => s.ap = true ∧ ∃ c ∈ s.clients, c.id = d
  | _ => True

instance decidableOccurs : ∀ e : Event, Decidable (s.Occurs e)
  | .deferExpires => inferInstanceAs (Decidable (s.mhDefer = true))
  | .backoffExpires => inferInstanceAs (Decidable (s.mhBackoff = .running))
  | .sendExpires => inferInstanceAs (Decidable (s.mhSend = true))
  | .recvStart (.received _) => inferInstanceAs (Decidable (s.rxState = .idle))
  | .recvStart (.captured _) => inferInstanceAs (Decidable s.Receiving)
  | .recvStart .collided => inferInstanceAs (Decidable s.Receiving)
  | .recvEnd (.assocRequest _ _) _ => inferInstanceAs (Decidable (s.Receiving ∧ s.ap = true))
  | .recvEnd (.assocResponse _) _ => inferInstanceAs (Decidable (s.Receiving ∧ s.ap = false))
  | .recvEnd .probeResponse _ => inferInstanceAs (Decidable (s.Receiving ∧ s.ap = false))
  | .recvEnd .rts _ => inferInstanceAs (Decidable s.Receiving)
  | .recvEnd .cts _ => inferInstanceAs (Decidable s.Receiving)
  | .recvEnd .ack _ => inferInstanceAs (Decidable s.Receiving)
  | .recvEnd (.data _) _ => inferInstanceAs (Decidable s.Receiving)
  | .recvEnd .broadcast _ => inferInstanceAs (Decidable s.Receiving)
  | .recvEnd (.probeRequest _ _) _ => inferInstanceAs (Decidable s.Receiving)
  | .recvEnd (.beacon _) _ => inferInstanceAs (Decidable s.Receiving)
  | .recvEnd .dropped _ => inferInstanceAs (Decidable s.Receiving)
  | .linkConnect _ _ => inferInstanceAs (Decidable (s.ap = false))
  | .linkDisconnect => inferInstanceAs (Decidable (s.ap = false))
  | .linkScan _ => inferInstanceAs (Decidable (s.ap = false))
  | .nextScan _ => inferInstanceAs (Decidable (s.ap = false ∧ s.scanning = true))
  | .probeExpires _ _ => inferInstanceAs (Decidable (s.ap = false))
  | .beaconExpires => inferInstanceAs (Decidable (s.ap = true))
  | .clientExpires d => inferInstanceAs (Decidable (s.ap = true ∧ ∃ c ∈ s.clients, c.id = d))
  | .arrive _ => isTrue trivial
  | .ifExpires => isTrue trivial
  | .navExpires => isTrue trivial
  | .navLapses => isTrue trivial

/-! ### What the medium does to the timers -/

variable {s : Transmitter}

theorem checkBackoffTimer_running (h : s.checkBackoffTimer.mhBackoff = .running) :
    s.checkBackoffTimer.IsIdle := by
  unfold checkBackoffTimer at h ⊢
  split_ifs at h ⊢ with h1 h2
  · exact h1.1
  · by_contra hno
    exact h2 ⟨hno, h⟩

theorem checkBackoffTimer_eq (s : Transmitter) :
    ∃ b, s.checkBackoffTimer = { s with mhBackoff := b } ∧ (b = .idle ↔ s.mhBackoff = .idle) := by
  unfold checkBackoffTimer
  split_ifs with h1 h2
  · exact ⟨.running, rfl, by simp [h1.2]⟩
  · exact ⟨.paused, rfl, by simp [h2.2]⟩
  · exact ⟨_, rfl, Iff.rfl⟩

theorem setTxState_eq (s : Transmitter) (x : MacState) :
    ∃ b, s.setTxState x = { s with txState := x, mhBackoff := b } ∧
      (b = .idle ↔ s.mhBackoff = .idle) :=
  checkBackoffTimer_eq { s with txState := x }

theorem setRxState_eq (s : Transmitter) (x : MacState) :
    ∃ b, s.setRxState x = { s with rxState := x, mhBackoff := b } ∧
      (b = .idle ↔ s.mhBackoff = .idle) :=
  checkBackoffTimer_eq { s with rxState := x }

theorem awaitMedium_cases (s : Transmitter) :
    s.awaitMedium = .ok s ∧ (s.mhBackoff = .idle → s.IsIdle ∧ s.mhDefer = true) ∨
      s.awaitMedium = .ok { s with mhDefer := true, deferFor := .difs } ∧ s.mhBackoff = .idle ∧
        s.IsIdle ∨
        s.awaitMedium = .ok { s with mhBackoff := .paused } ∧ s.mhBackoff = .idle ∧
          ¬ s.IsIdle := by
  unfold awaitMedium startDefer startBackoff assertThat
  split_ifs with h1 h2 h3
  · exact Or.inr (Or.inl ⟨rfl, h1, h2⟩)
  · exact Or.inl ⟨rfl, fun _ => ⟨h2, by simpa using h3⟩⟩
  · exact Or.inr (Or.inr ⟨rfl, h1, h2⟩)
  · exact Or.inl ⟨rfl, fun h => (h1 h).elim⟩

theorem setTxState_running (s : Transmitter) {x : MacState}
    (h : (s.setTxState x).mhBackoff = .running) :
    x = .idle := by
  have hidle : (s.setTxState x).IsIdle := checkBackoffTimer_running h
  obtain ⟨b, hb, -⟩ := s.setTxState_eq x
  rw [hb] at hidle
  exact hidle.2.1

/-- `transmit` after `setTxState`, when `mhSend_` does not run. -/
theorem transmit_ok (hsend : s.mhSend = false) (x : MacState) (f : FramePtr) :
    ∃ b e, (s.setTxState x).transmit f = .ok { s with
        txState := x, mhBackoff := b, txActive := true, rxError := e, mhSend := true
        lastTx := some f } ∧
      (b = .idle ↔ s.mhBackoff = .idle) ∧ (b = .running → x = .idle) := by
  obtain ⟨b, hb, hiff⟩ := s.setTxState_eq x
  have hrun : b = .running → x = .idle := by
    have hset := s.setTxState_running (x := x)
    rw [hb] at hset
    exact hset
  rw [hb]
  refine ⟨b, s.rxError || s.rxState ≠ MacState.idle, ?_, hiff, hrun⟩
  simp [transmit, assertThat, hsend]

end Transmitter

end SipNemo.Mac
