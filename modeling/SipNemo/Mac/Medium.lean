import SipNemo.Lib.Reception
import SipNemo.Mac.MacTimers

/-!
# The medium as a MAC hears it

The receiving side of `Mac802_11` in time: the frame that is received and the timer of its end, the
frames that are captured or collide, the navigation vector with its timer, and the back-off timer,
which counts down while all of them and the MAC's own transmissions leave the medium idle.  The
transmitting side puts frames on the channel; a `TxAction` is what it does to the medium besides,
also in the handlers of the frame that `recv_timer` passes on.

Time passes up to the next event that is due, in exact arithmetic; events that are due at one time
may come in any order.  Own frames are known by their transmission time.  The records in `air`,
`round` and `rounds` are not in the source; what is on the channel is recorded by the events, from
the last `clear_tx_rx` on, which leaves the frames there are on the channel.
-/

namespace SipNemo.Mac

open Mih (MacAddr)
open MacTimers Runs Spans

/-- The values of `phymib_` that are read here. -/
structure Phy where
  slotTime : ℚ
  sifs : ℚ
  plcpDataRate : ℚ
  ackLen : ℕ
  cwMin : ℕ
  cwMax : ℕ
  slotTime_pos : 0 < slotTime
  micro_le_sifs : 1 / 10 ^ 6 ≤ sifs
  plcpDataRate_pos : 0 < plcpDataRate
  cwMin_le_cwMax : cwMin ≤ cwMax

namespace Phy

variable (phy : Phy)

/-- `getDIFS`. -/
def difs : ℚ := phy.sifs + 2 * phy.slotTime

/-- `getEIFS`. -/
def eifs : ℚ := phy.sifs + phy.difs + (8 * phy.ackLen) / phy.plcpDataRate

theorem difs_nonneg : 0 ≤ phy.difs := by
  have hslot := phy.slotTime_pos
  have hsifs := phy.micro_le_sifs
  unfold difs
  linarith

/-- The values of `ns-default.tcl`. -/
def nsDefault : Phy where
  slotTime := 20 / 10 ^ 6
  sifs := 10 / 10 ^ 6
  plcpDataRate := 10 ^ 6
  ackLen := (144 + 48) / 8 + 14
  cwMin := 31
  cwMax := 1023
  slotTime_pos := by norm_num
  micro_le_sifs := by norm_num
  plcpDataRate_pos := by norm_num
  cwMin_le_cwMax := by norm_num

end Phy

/-- A frame as it comes from the channel: when it is received its common header has `error`, the
MAC header `dh_ra` and `dh_duration`. -/
structure AirFrame where
  ra : MacAddr
  duration : ℕ
  txtime : ℚ
  rxPr : ℚ
  cpThresh : ℚ
  error : Bool
  txtime_nonneg : 0 ≤ txtime
  deriving DecidableEq

/-- A frame and when its first bit came. -/
abbrev Arrival := Reception.Arrival ℚ AirFrame

/-- A time in which the back-off timer counted, after a wait. -/
structure Counting where
  span : Span ℚ
  wait : ℚ
  deriving DecidableEq

/-- A back-off: the number of slots that was drawn and the times in which it was counted down. -/
structure BackoffRound where
  drawn : ℕ
  counted : List Counting
  deriving DecidableEq

/-- What has been on the channel since the last `clear_tx_rx`, the newest first: the frames that
have come and were not captured, those that were, the MAC's own, and the frames that were
received. -/
structure AirRecord where
  onAir : List Arrival := []
  captured : List Arrival := []
  sent : List (Span ℚ) := []
  received : List Arrival := []

/-- What the transmitting side does to the medium without sending. -/
inductive TxAction
  | resume
  | startBackoff (random : ℕ)
  | stopBackoff
  | incCw
  | rstCw
  | clear
  deriving DecidableEq, Repr

/-- What happens at the MAC.  A frame is sent in a state that is not idle, and takes the given time;
`recv_timer` comes with what the handlers of a link event do and with what the handler of the frame
does. -/
inductive RadioEvent
  | wait (t : ℚ)
  | frame (p : AirFrame)
  | action (a : TxAction)
  | transmit (state : MacState) (txtime : ℚ)
  | recvTimer (link content : List TxAction)
  | navTimer
  | ifTimer
  | backoffTimer
  deriving DecidableEq

/-- The receiving side of `Mac802_11`. -/
structure Radio where
  phy : Phy
  index : MacAddr
  clock : ℚ := 0
  rxState : MacState := .idle
  txState : MacState := .idle
  txActive : Bool := false
  pktRx : Option AirFrame := none
  nav : ℚ := 0
  cw : ℕ
  mhRecv : MacTimer := none
  mhNav : MacTimer := none
  mhIF : MacTimer := none
  mhBackoff : MacTimers.BackoffTimer := .idle
  air : AirRecord := {}
  round : BackoffRound := ⟨0, []⟩
  rounds : List BackoffRound := []

/-- `usec`. -/
def usec (t : ℚ) : ℕ := (⌊t * 10 ^ 6 + 1 / 2⌋ % 2 ^ 16).toNat

namespace Radio

variable (s : Radio)

/-- `is_idle`. -/
def IsIdle : Prop := s.rxState = .idle ∧ s.txState = .idle ∧ ¬ s.clock < s.nav

instance : Decidable s.IsIdle := inferInstanceAs (Decidable (_ ∧ _ ∧ _))

/-! ### The back-off timer -/

/-- The timer stops counting. -/
def countedUntil : BackoffRound :=
  match s.mhBackoff with
  | .running stime difsWait _ =>
    { s.round with counted := ⟨⟨stime, s.clock⟩, difsWait⟩ :: s.round.counted }
  | _ => s.round

/-- `mhBackoff_.pause()`. -/
def pauseBackoff : Act Radio := do
  let t ← s.mhBackoff.pause s.phy.slotTime s.clock
  .ok { s with mhBackoff := t, round := s.countedUntil }

/-- `mhBackoff_.resume(phymib_.getDIFS())`. -/
def resumeBackoff : Act Radio := do
  let t ← s.mhBackoff.resume s.phy.difs s.clock
  .ok { s with mhBackoff := t }

/-- `checkBackoffTimer`. -/
def checkBackoffTimer : Act Radio := do
  let s ← if s.IsIdle ∧ s.mhBackoff.status = .paused then s.resumeBackoff else .ok s
  if ¬ s.IsIdle ∧ s.mhBackoff.status = .running then s.pauseBackoff else .ok s

/-- `mhBackoff_.start(cw_, is_idle())`. -/
def startBackoff (random : ℕ) : Act Radio := do
  let slots := random % (s.cw + 1)
  let t ← s.mhBackoff.start s.phy.slotTime s.clock slots (decide s.IsIdle)
  .ok { s with mhBackoff := t, round := ⟨slots, []⟩ }

/-- `inc_cw`. -/
def incCw : Radio := { s with cw := min (2 * s.cw + 1) s.phy.cwMax }

/-- `rst_cw`. -/
def rstCw : Radio := { s with cw := s.phy.cwMin }

def setRxState (x : MacState) : Act Radio := { s with rxState := x }.checkBackoffTimer

def setTxState (x : MacState) : Act Radio := { s with txState := x }.checkBackoffTimer

/-! ### The navigation vector -/

/-- `set_nav`; the NAV timer is stopped, if it is busy, and started. -/
def setNav (us : ℕ) : Radio :=
  let t : ℚ := us / 10 ^ 6
  if s.nav < s.clock + t then { s with nav := s.clock + t, mhNav := some ⟨s.clock, t⟩ } else s

/-! ### Frames of others -/

/-- `capture`. -/
def capture (p : AirFrame) : Radio := s.setNav (usec (s.phy.eifs + p.txtime))

/-- `collision`: the frame that lasts longest becomes `pktRx_`. -/
def collision (p : AirFrame) : Act Radio := do
  let s ← match s.rxState with
    | .recv => s.setRxState .coll
    | .coll => .ok s
    | _ => .error .assertion
  let _ ← assertNonNull s.pktRx
  let c ← assertNonNull s.mhRecv
  if c.due - s.clock < p.txtime then
    .ok { s with pktRx := some p, mhRecv := some ⟨s.clock, p.txtime⟩ }
  else .ok s

/-- `recv`, for a frame from the channel. -/
def recv (p : AirFrame) : Act Radio := do
  let q := if s.txActive = true ∧ p.error = false then { p with error := true } else p
  if s.rxState = .idle then do
    let s ← s.setRxState .recv
    let t ← MacTimer.start s.mhRecv s.clock p.txtime
    .ok { s with pktRx := some q, mhRecv := t }
  else do
    let r ← deref s.pktRx
    if p.cpThresh ≤ r.rxPr / p.rxPr then .ok (s.capture p) else s.collision q

/-! ### Own frames -/

/-- `transmit`: a frame that is being received is lost. -/
def transmit (txtime : ℚ) : Act Radio := do
  let s := { s with txActive := true }
  let s ← if s.rxState ≠ .idle then do
      let r ← assertNonNull s.pktRx
      .ok { s with pktRx := some { r with error := true } }
    else .ok s
  let t ← MacTimer.start s.mhIF s.clock txtime
  .ok { s with mhIF := t }

/-- `clear_tx_rx`. -/
def clearTxRx : Radio :=
  { s with
    nav := 0
    txState := .idle
    rxState := .idle
    txActive := false
    pktRx := none
    cw := s.phy.cwMin
    mhRecv := none
    mhBackoff := .idle
    mhIF := none
    mhNav := none }

/-- The record starts again: `clear_tx_rx` forgets what it was hearing, not what is on the
channel. -/
def listenAnew : Radio := { s with air := {} }

/-- What the transmitting side does without sending. -/
def perform : TxAction → Act Radio
  | .resume => s.setTxState .idle
  | .startBackoff random => s.startBackoff random
  | .stopBackoff => .ok { s with mhBackoff := .idle }
  | .incCw => .ok s.incCw
  | .rstCw => .ok s.rstCw
  | .clear => .ok s.clearTxRx.listenAnew

/-! ### The timers -/

/-- `rx_resume`. -/
def rxResume : Act Radio := do
  assertThat (s.pktRx = none)
  assertThat (s.mhRecv = none)
  s.setRxState .idle

/-- The end of `recv_timer`. -/
def done : Act Radio := { s with pktRx := none }.rxResume

/-- A frame whose last bit has just come is passed on; the navigation vector follows the frames for
others. -/
def overhear (p : AirFrame) : Radio :=
  let received := ⟨s.clock - p.txtime, p⟩ :: s.air.received
  let s := { s with air := { s.air with received := received } }
  if p.ra ≠ s.index then s.setNav p.duration else s

/-- A frame without errors is received. -/
def accept (p : AirFrame) (link content : List TxAction) : Act Radio := do
  let s ← runSteps perform s link
  match s.pktRx with
  | none => .ok s -- a handler processed the link event
  | some _ => do
    let s ← runSteps perform (s.overhear p) content
    s.done

/-- `recv_timer`, called with `mhRecv_` idle. -/
def recvTimer (link content : List TxAction) : Act Radio := do
  let p ← deref s.pktRx
  assertThat (s.rxState = .recv ∨ s.rxState = .coll)
  if s.txActive = true then s.done
  else if s.rxState = .coll then (s.setNav (usec s.phy.eifs)).done
  else if p.error = true then (s.setNav (usec s.phy.eifs)).done
  else s.accept p link content

/-- `navHandler`. -/
def navHandler : Act Radio :=
  if s.IsIdle ∧ s.mhBackoff.status = .paused then s.resumeBackoff else .ok s

/-- `txHandler`. -/
def txHandler : Radio := { s with txActive := false }

/-- The handler of the back-off timer, up to the call of `backoffHandler`. -/
def backoffExpired : Radio :=
  { s with mhBackoff := .idle, rounds := s.countedUntil :: s.rounds }

/-! ### The record of the channel -/

/-- `recv` captures the frame: what is received is that much stronger. -/
def Captures (p : AirFrame) : Prop :=
  s.rxState ≠ .idle ∧ ∃ r ∈ s.pktRx, p.cpThresh ≤ r.rxPr / p.rxPr

instance (p : AirFrame) : Decidable (s.Captures p) :=
  inferInstanceAs (Decidable (_ ∧ ∃ r ∈ s.pktRx, _))

/-- A frame that is not captured. -/
def hear (p : AirFrame) : Radio :=
  { s with air := { s.air with onAir := ⟨s.clock, p⟩ :: s.air.onAir } }

/-- A frame that is captured. -/
def passOver (p : AirFrame) : Radio :=
  { s with air := { s.air with captured := ⟨s.clock, p⟩ :: s.air.captured } }

/-- A frame of the MAC's own. -/
def emit (txtime : ℚ) : Radio :=
  { s with air := { s.air with sent := ⟨s.clock, s.clock + txtime⟩ :: s.air.sent } }

/-- One event.  The frames that come and go are recorded whatever the MAC does with them. -/
def step : RadioEvent → Act Radio
  | .wait t => .ok { s with clock := t }
  | .frame p => do
    let s' ← s.recv p
    .ok (if s.Captures p then s'.passOver p else s'.hear p)
  | .action a => s.perform a
  | .transmit state txtime => do
    let s ← s.setTxState state
    let s ← s.transmit txtime
    .ok (s.emit txtime)
  | .recvTimer link content => { s with mhRecv := none }.recvTimer link content
  | .navTimer => { s with mhNav := none }.navHandler
  | .ifTimer => .ok { s with mhIF := none }.txHandler
  | .backoffTimer => .ok s.backoffExpired

/-! ### What may happen -/

/-- When the events of the busy timers are due. -/
def pending : List ℚ :=
  (s.mhRecv.map Countdown.due).toList ++ (s.mhNav.map Countdown.due).toList ++
    (s.mhIF.map Countdown.due).toList ++ s.mhBackoff.due.toList

/-- The transmitting side starts no timer that is busy. -/
def Allowed : TxAction → Prop
  | .startBackoff _ => s.mhBackoff = .idle
  | _ => True

instance : DecidablePred s.Allowed
  | .startBackoff _ => inferInstanceAs (Decidable (_ = _))
  | .resume | .stopBackoff | .incCw | .rstCw | .clear => isTrue trivial

/-- The handlers of a frame that is received do what they may. -/
def HandlersAllowed (p : AirFrame) (link content : List TxAction) : Prop :=
  StepsMeet perform Allowed s link ∧
    ∀ t, runSteps perform s link = .ok t → StepsMeet perform Allowed (t.overhear p) content

instance (p : AirFrame) (link content : List TxAction) :
    Decidable (s.HandlersAllowed p link content) :=
  match h : runSteps perform s link with
  | .ok t =>
    decidable_of_iff
      (StepsMeet perform Allowed s link ∧ StepsMeet perform Allowed (t.overhear p) content)
      (by simp [HandlersAllowed, h])
  | .error _ => decidable_of_iff (StepsMeet perform Allowed s link) (by simp [HandlersAllowed, h])

/-- The event may come: a timer expires when its event is due, and time passes up to the next
one. -/
def Enabled : RadioEvent → Prop
  | .wait t => s.clock ≤ t ∧ ∀ d ∈ s.pending, t ≤ d
  | .frame _ => True
  | .action a => s.Allowed a
  | .transmit state txtime => s.mhIF = none ∧ state ≠ .idle ∧ 0 ≤ txtime
  | .recvTimer link content =>
    s.mhRecv.map Countdown.due = some s.clock ∧
      ∀ p ∈ s.pktRx, { s with mhRecv := none }.HandlersAllowed p link content
  | .navTimer => s.mhNav.map Countdown.due = some s.clock
  | .ifTimer => s.mhIF.map Countdown.due = some s.clock
  | .backoffTimer => s.mhBackoff.due = some s.clock

instance : DecidablePred s.Enabled
  | .wait t => inferInstanceAs (Decidable (s.clock ≤ t ∧ ∀ d ∈ s.pending, t ≤ d))
  | .frame _ => isTrue trivial
  | .action a => inferInstanceAs (Decidable (s.Allowed a))
  | .transmit _ _ => inferInstanceAs (Decidable (_ ∧ _ ∧ _))
  | .recvTimer _ _ => inferInstanceAs (Decidable (_ ∧ ∀ p ∈ s.pktRx, _))
  | .navTimer | .ifTimer | .backoffTimer => inferInstanceAs (Decidable (_ = _))

/-- A MAC before anything has happened. -/
def fresh (phy : Phy) (index : MacAddr) : Radio := { phy := phy, index := index, cw := phy.cwMin }

end Radio

end SipNemo.Mac
