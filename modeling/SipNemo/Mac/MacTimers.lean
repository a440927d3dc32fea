import SipNemo.Lib.Spans
import SipNemo.Mac.Transmit

/-!
# The timers of the MAC

The timers of `mac-timers.cc`, with the time they were started and the time they have left.  A timer
that is not busy has neither; only the back-off timer can be paused.  Times, doubles in the source,
are rational numbers: what is proved of them holds in exact arithmetic, where a pause at the end of
a slot counts the slot and leaves no remainder below 0.
-/

namespace SipNemo.Mac.MacTimers

open Spans

/-- A busy `MacTimer`. -/
structure Countdown where
  stime : ℚ
  rtime : ℚ
  deriving DecidableEq, Repr

/-- When the event of the timer is due. -/
def Countdown.due (c : Countdown) : ℚ := c.stime + c.rtime

/-- A `MacTimer`. -/
abbrev MacTimer := Option Countdown

namespace MacTimer

/-- `start`. -/
def start (t : MacTimer) (clock time : ℚ) : Act MacTimer := do
  assertThat (t = none)
  assertThat (0 ≤ time)
  .ok (some ⟨clock, time⟩)

theorem start_none {clock time : ℚ} (h : 0 ≤ time) :
    start none clock time = .ok (some ⟨clock, time⟩) := by
  simp [start, assertThat, h]

end MacTimer

/-- `BackoffTimer`: not busy, busy and paused, or busy and counting down. -/
inductive BackoffTimer
  | idle
  | paused (rtime : ℚ)
  | running (stime difsWait rtime : ℚ)
  deriving DecidableEq, Repr

namespace BackoffTimer

/-- The span since the timer was started or resumed. -/
def spanUntil (stime clock : ℚ) : Span ℚ := ⟨stime, clock⟩

/-- `start`, with the number of slots that was drawn. -/
def start (t : BackoffTimer) (slotTime clock : ℚ) (slots : ℕ) (idle : Bool) :
    Act BackoffTimer := do
  assertThat (t = .idle)
  let rtime := slots * slotTime
  if idle = false then .ok (.paused rtime)
  else do
    assertThat (0 ≤ rtime)
    .ok (.running clock 0 rtime)

/-- `pause`; the conversion to `int` truncates, and a negative number of slots counts as none. -/
def pause (slotTime clock : ℚ) : BackoffTimer → Act BackoffTimer
  | .running stime difsWait rtime => do
    let slots := (spanUntil stime clock).slots slotTime difsWait
    let rtime := rtime - slots * slotTime
    assertThat (0 ≤ rtime)
    .ok (.paused rtime)
  | _ => .error .assertion

/-- `resume`. -/
def resume (difs clock : ℚ) : BackoffTimer → Act BackoffTimer
  | .paused rtime => do
    assertThat (0 ≤ rtime + difs)
    .ok (.running clock difs rtime)
  | _ => .error .assertion

/-- When the event of the timer is due. -/
def due : BackoffTimer → Option ℚ
  | .running stime difsWait rtime => some (stime + (rtime + difsWait))
  | _ => none

/-- The state of the timer without its times. -/
def status : BackoffTimer → Mac.BackoffTimer
  | .idle => .idle
  | .paused _ => .paused
  | .running _ _ _ => .running

end BackoffTimer

end SipNemo.Mac.MacTimers
