import SipNemo.Lib.RequestTable
import SipNemo.Lib.Runs
import SipNemo.Net.Packet

/-!
# Timers

`TimerHandler` of `timer-handler.cc`, where only the state of a timer matters: its event may come
at any time while it is pending.
-/

namespace SipNemo

open RequestTable

namespace TimerHandler

/-- `cancel`. -/
def cancel (t : TimerStatus) : Act TimerStatus := if t = .pending then .ok .idle else .error .exit

/-- `if (status() != TIMER_IDLE) cancel()`. -/
def stop (t : TimerStatus) : Act TimerStatus := if t ≠ .idle then cancel t else .ok t

/-- `if (status() == TIMER_PENDING) cancel()`. -/
def cancelPending (t : TimerStatus) : TimerStatus := if t = .pending then .idle else t

/-- `handle`, up to the call of `expire`. -/
def handle (t : TimerStatus) : Act TimerStatus :=
  if t = .pending then .ok .handling else .error .exit

/-- The end of `handle`: a timer that was not started again is idle. -/
def finish (t : TimerStatus) : TimerStatus := if t = .handling then .idle else t

variable {t t' : TimerStatus}

theorem stop_of_ne_handling (h : t ≠ .handling) : stop t = .ok .idle := by
  cases t with
  | handling => exact absurd rfl h
  | _ => rfl

@[simp] theorem cancelPending_ne_pending : cancelPending t ≠ .pending := by
  cases t <;> decide

@[simp] theorem finish_eq_pending : finish t = .pending ↔ t = .pending := by
  cases t <;> decide

theorem handle_eq_ok (h : handle t = .ok t') : t = .pending ∧ t' = .handling := by
  unfold handle at h
  split_ifs at h with ht
  exact ⟨ht, (Except.ok.inj h).symm⟩

end TimerHandler

end SipNemo
