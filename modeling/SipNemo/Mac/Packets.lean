import SipNemo.Lib.Monitor
import SipNemo.Mac.ClientSide

/-!
# The packets of the interface queue

The queue hands down a packet, it is passed to `send`, which gives it to `sendDATA`, discards it or
keeps it to be passed to `send` again, and then the queue is called back (`advance`).
-/

namespace SipNemo.Mac

open Monitor Outcome Runs
open Mih (MacAddr)

/-- How far the MAC is with the packet that the queue has handed down. -/
inductive PacketPhase
  | ready
  | held (p : DataFrame)
  | asked (p : DataFrame) (clients : List Client)
  | consumed
  deriving DecidableEq, Repr

/-- What may become of the packet next.  The clients that `send` finds decide whether the packet is
discarded; the queue is called back when the packet is gone. -/
def advance (ap : Bool) : PacketPhase → TxOutput → Option PacketPhase
  | .asked p clients, .sendDATA q =>
    if q = p ∧ ¬ Refuses ap clients p then some .consumed else none
  | .asked p clients, .keep q =>
    if q = p ∧ ¬ Refuses ap clients p then some (.held p) else none
  | .asked p clients, .discard q callback =>
    if q = p ∧ Refuses ap clients p ∧ callback = true then some .consumed else none
  | .asked _ _, _ => none
  | q, .linkUp _ => some q
  | q, .linkDown _ => some q
  | .ready, .handed p => some (.held p)
  | .held p, .passed q clients => if q = p then some (.asked p clients) else none
  | .consumed, .callback none none => some .ready
  | _, _ => none

theorem advance_passed {ap : Bool} {q q' : PacketPhase} {p : DataFrame} {clients : List Client}
    (h : advance ap q (.passed p clients) = some q') : q' = .asked p clients := by
  cases q with
  | held p' =>
    obtain ⟨rfl, rfl⟩ := Option.ite_some_none_eq_some.1 h
    rfl
  | _ => cases h

namespace Transmitter

variable {s : Transmitter} {q q' : PacketPhase} {p : DataFrame} {o : TxOutput}

/-- The outputs so far lead to the phase. -/
def At (s : Transmitter) (q : PacketPhase) : Prop := phase (advance s.ap) .ready s.log = some q

/-- The phase that `callback_` and `tmpPacket_` stand for. -/
def packetPhase (s : Transmitter) : PacketPhase :=
  match s.callback, s.tmpPacket with
  | false, _ => .ready
  | true, some p => .held p
  | true, none => .consumed

theorem At.emit (h : s.At q) (ho : advance s.ap q o = some q') : (s.emit o).At q' :=
  phase_concat h ho

theorem packetPhase_ne_asked (s : Transmitter) (p : DataFrame) (clients : List Client) :
    s.packetPhase ≠ .asked p clients := by
  unfold packetPhase
  split <;> simp

theorem At.emitLink (h : s.At s.packetPhase) (ho : isLinkEvent o = true) :
    (s.emit o).At s.packetPhase := by
  refine h.emit ?_
  have hnever := s.packetPhase_ne_asked
  cases hq : s.packetPhase with
  | asked p clients => exact (hnever p clients hq).elim
  | _ => cases o <;> first | rfl | cases ho

theorem At.passed (h : s.At (.held p)) :
    (s.emit (.passed p s.clients)).At (.asked p s.clients) :=
  h.emit (if_pos rfl)

theorem At.sendDATA {clients : List Client} (h : s.At (.asked p clients))
    (hp : ¬ Refuses s.ap clients p) : (s.emit (.sendDATA p)).At .consumed :=
  h.emit (if_pos ⟨rfl, hp⟩)

theorem At.keepPacket {clients : List Client} (h : s.At (.asked p clients))
    (hp : ¬ Refuses s.ap clients p) : (s.keepPacket p).At (.held p) :=
  h.emit (if_pos ⟨rfl, hp⟩)

theorem At.discardPacket {clients : List Client} (h : s.At (.asked p clients))
    (hp : Refuses s.ap clients p) : (s.discardPacket p).At .consumed := by
  have hsame : { s with callback := true }.At (.asked p clients) := h
  exact hsame.emit (if_pos ⟨rfl, hp, rfl⟩)

theorem At.handed (h : s.At .ready) (p : DataFrame) : (s.emit (.handed p)).At (.held p) :=
  h.emit rfl

theorem At.callback (h : s.At .consumed) : (s.emit (.callback none none)).At .ready :=
  h.emit rfl

end Transmitter

end SipNemo.Mac
