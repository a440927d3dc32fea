import Mathlib.Data.List.Perm.Basic
import SipNemo.Lib.Spans

/-!
# A receiver that hears one frame at a time

Frames come to a receiver, each for a time `dur`, and the receiver sends frames of its own, which it
does not hear.  A frame that comes while another is heard collides with it, and the receiver goes on
until the last of them is over; a frame that comes alone is received when it is over, unless it is
damaged or the receiver has sent meanwhile.  Frames that the receiver shuts out (because another one
is stronger) do not appear here.

`Hears` is the invariant.  It says of the frames that are over which of them were received: those
that nothing disturbed (`received_of_clear`), and none that overlaps with another one or with what
the receiver sent (`clear_of_received`).
-/

namespace Reception

open Spans

/-- A frame and when it came. -/
structure Arrival (T F : Type*) where
  came : T
  frame : F
  deriving DecidableEq

/-- What is heard: until when, whether frames have collided, and whether the frame is spoilt. -/
structure Current (T : Type*) where
  ends : T
  collided : Bool
  spoilt : Bool

/-- A receiver with what has come and what it has sent and received, the newest first. -/
structure Receiver (T F : Type*) where
  clock : T
  current : Option (Current T)
  sendingUntil : Option T
  onAir : List (Arrival T F)
  sent : List (Span T)
  received : List (Arrival T F)

variable {T F : Type*} [AddCommGroup T] [LinearOrder T] [DecidableEq F] {dur : F → T}
  {damaged : F → Bool}

/-- The time a frame is on the air. -/
def Arrival.span (dur : F → T) (a : Arrival T F) : Span T := ⟨a.came, a.came + dur a.frame⟩

namespace Receiver

variable (r : Receiver T F)

/-- Something was on the air together with the frame. -/
def Disturbed (dur : F → T) (damaged : F → Bool) (a : Arrival T F) : Prop :=
  damaged a.frame = true ∨ (∃ b ∈ r.sent, (a.span dur).Touches b) ∨
    ∃ b ∈ r.onAir.erase a, (a.span dur).Touches (b.span dur)

/-- Nothing overlaps with the frame. -/
def Clear (dur : F → T) (damaged : F → Bool) (a : Arrival T F) : Prop :=
  damaged a.frame = false ∧ (∀ b ∈ r.sent, ¬ (a.span dur).Overlaps b) ∧
    ∀ b ∈ r.onAir.erase a, ¬ (a.span dur).Overlaps (b.span dur)

/-- The frame was received, or disturbed. -/
def Settled (dur : F → T) (damaged : F → Bool) (a : Arrival T F) : Prop :=
  a ∈ r.received ∨ r.Disturbed dur damaged a

/-- The one frame that is heard is the newest. -/
structure Alone (dur : F → T) (damaged : F → Bool) (c : Current T) (a : Arrival T F)
    (rest : List (Arrival T F)) : Prop where
  onAir : r.onAir = a :: rest
  ends : (a.span dur).stop = c.ends
  before : ∀ b ∈ rest, (b.span dur).stop ≤ a.came
  received : r.received.Sublist rest
  unspoilt : c.spoilt = false → damaged a.frame = false ∧ ∀ b ∈ r.sent, b.stop ≤ a.came
  spoilt : c.spoilt = true → r.Disturbed dur damaged a
  settled : ∀ b ∈ rest, r.Settled dur damaged b

/-- What the state of a receiver has to do with what has come. -/
structure Hears (dur : F → T) (damaged : F → Bool) (r : Receiver T F) : Prop where
  came : ∀ a ∈ r.onAir, a.came ≤ r.clock
  start : ∀ b ∈ r.sent, b.start ≤ r.clock
  silent : r.sendingUntil = none → ∀ b ∈ r.sent, b.stop ≤ r.clock
  sending : ∀ u, r.sendingUntil = some u →
    r.clock ≤ u ∧ (∀ b ∈ r.sent, b.stop ≤ u) ∧ ∃ b ∈ r.sent, b.stop = u
  idle : r.current = none → ∀ a ∈ r.onAir, (a.span dur).stop ≤ r.clock
  busy : ∀ c, r.current = some c → r.clock ≤ c.ends ∧ (∀ a ∈ r.onAir, (a.span dur).stop ≤ c.ends) ∧
    ∃ a ∈ r.onAir, (a.span dur).stop = c.ends
  alone : ∀ c, r.current = some c → c.collided = false → ∃ a rest, r.Alone dur damaged c a rest
  settled : (∀ c, r.current = some c → c.collided = true) →
    ∀ a ∈ r.onAir, r.Settled dur damaged a
  received : r.received.Sublist r.onAir
  clear : ∀ a ∈ r.received, (a.span dur).stop ≤ r.clock ∧ r.Clear dur damaged a

/-! ### The operations -/

/-- Time passes. -/
def wait (t : T) : Receiver T F := { r with clock := t }

/-- A frame comes while nothing is heard. -/
def begin_ (dur : F → T) (damaged : F → Bool) (f : F) : Receiver T F :=
  { r with
    current := some ⟨r.clock + dur f, false, damaged f || r.sendingUntil.isSome⟩
    onAir := ⟨r.clock, f⟩ :: r.onAir }

/-- A frame comes while `c` is heard. -/
def collide (dur : F → T) (c : Current T) (spoilt : Bool) (f : F) : Receiver T F :=
  { r with
    current := some ⟨max c.ends (r.clock + dur f), true, spoilt⟩
    onAir := ⟨r.clock, f⟩ :: r.onAir }

/-- The receiver sends. -/
def send (d : T) : Receiver T F :=
  { r with
    sendingUntil := some (r.clock + d)
    sent := ⟨r.clock, r.clock + d⟩ :: r.sent
    current := r.current.map fun c => { c with spoilt := true } }

/-- What was sent is over. -/
def sendEnds : Receiver T F := { r with sendingUntil := none }

/-- The frame is received. -/
def accept : Receiver T F :=
  { r with current := none, received := r.onAir.head?.toList ++ r.received }

/-- What is heard is over, and nothing is received. -/
def drop : Receiver T F := { r with current := none }

/-! ### What they keep -/

variable {r} {a b : Arrival T F} {c : Current T} {t d : T} {f : F}

omit [DecidableEq F] in
theorem came_le_stop [IsOrderedAddMonoid T] (hdur : ∀ f, 0 ≤ dur f) (a : Arrival T F) :
    a.came ≤ (a.span dur).stop :=
  le_add_of_nonneg_right (hdur a.frame)

section Erase

omit [AddCommGroup T]

variable {l : List (Arrival T F)} {x : Arrival T F}

/-- The other frames after one more has come. -/
theorem mem_erase_cons_of_mem (h : b ∈ l.erase a) (x : Arrival T F) : b ∈ (x :: l).erase a := by
  by_cases hx : x = a
  · subst hx
    rw [List.erase_cons_head]
    exact List.mem_of_mem_erase h
  · rw [List.erase_cons_tail (by simpa using hx)]
    exact List.mem_cons_of_mem x h

theorem mem_of_mem_erase_cons (h : b ∈ (x :: l).erase a) : b ∈ l.erase a ∨ b = x := by
  by_cases hx : x = a
  · subst hx
    rw [List.erase_cons_head] at h
    by_cases hb : b = x
    · exact Or.inr hb
    · exact Or.inl ((List.mem_erase_of_ne hb).2 h)
  · rw [List.erase_cons_tail (by simpa using hx), List.mem_cons] at h
    exact h.symm

/-- One more frame is another one for each that has come. -/
theorem self_mem_erase_cons (h : a ∈ l) : x ∈ (x :: l).erase a := by
  by_cases hx : x = a
  · subst hx
    rwa [List.erase_cons_head]
  · rw [List.erase_cons_tail (by simpa using hx)]
    exact List.mem_cons_self

end Erase

/-- What disturbs a frame is not forgotten. -/
theorem Disturbed.mono {r' : Receiver T F} (h : r.Disturbed dur damaged a)
    (hsent : ∀ b ∈ r.sent, b ∈ r'.sent) (honAir : ∀ b ∈ r.onAir.erase a, b ∈ r'.onAir.erase a) :
    r'.Disturbed dur damaged a := by
  rcases h with h | ⟨b, hb, htouch⟩ | ⟨b, hb, htouch⟩
  · exact Or.inl h
  · exact Or.inr (Or.inl ⟨b, hsent b hb, htouch⟩)
  · exact Or.inr (Or.inr ⟨b, honAir b hb, htouch⟩)

theorem Settled.mono {r' : Receiver T F} (h : r.Settled dur damaged a)
    (hreceived : ∀ b ∈ r.received, b ∈ r'.received) (hsent : ∀ b ∈ r.sent, b ∈ r'.sent)
    (honAir : ∀ b ∈ r.onAir.erase a, b ∈ r'.onAir.erase a) : r'.Settled dur damaged a :=
  h.imp (hreceived a) fun hd => hd.mono hsent honAir

/-- A frame that is over stays clear when another one comes. -/
theorem Clear.cons {r' : Receiver T F} (h : r.Clear dur damaged a) (hsent : r'.sent = r.sent)
    (honAir : r'.onAir = ⟨r.clock, f⟩ :: r.onAir) (hover : (a.span dur).stop ≤ r.clock) :
    r'.Clear dur damaged a := by
  refine ⟨h.1, hsent ▸ h.2.1, fun b hb => ?_⟩
  rw [honAir] at hb
  rcases mem_of_mem_erase_cons hb with hb | rfl
  · exact h.2.2 b hb
  · exact Span.not_overlaps_of_le hover

namespace Hears

variable (h : r.Hears dur damaged)
include h

theorem wait (ht : r.clock ≤ t) (hcurrent : ∀ c, r.current = some c → t ≤ c.ends)
    (hsending : ∀ u, r.sendingUntil = some u → t ≤ u) : (r.wait t).Hears dur damaged where
  came a ha := (h.came a ha).trans ht
  start b hb := (h.start b hb).trans ht
  silent hno b hb := (h.silent hno b hb).trans ht
  sending u hu := ⟨hsending u hu, (h.sending u hu).2⟩
  idle hno a ha := (h.idle hno a ha).trans ht
  busy c hc := ⟨hcurrent c hc, (h.busy c hc).2⟩
  alone c hc hcol := by
    obtain ⟨a, rest, ha⟩ := h.alone c hc hcol
    exact ⟨a, rest, ha.onAir, ha.ends, ha.before, ha.received, ha.unspoilt, ha.spoilt, ha.settled⟩
  settled := h.settled
  received := h.received
  clear a ha := ⟨(h.clear a ha).1.trans ht, (h.clear a ha).2⟩

/-- What is sent touches every frame that is on the air. -/
theorem disturbed_of_sending {u : T} (hu : r.sendingUntil = some u) (ha : a.came ≤ r.clock)
    (hstop : r.clock ≤ (a.span dur).stop) : r.Disturbed dur damaged a := by
  obtain ⟨hle, -, b, hb, hend⟩ := h.sending u hu
  refine Or.inr (Or.inl ⟨b, hb, ?_, (h.start b hb).trans hstop⟩)
  rw [hend]
  exact ha.trans hle

theorem begin_ [IsOrderedAddMonoid T] (hdur : ∀ f, 0 ≤ dur f) (hidle : r.current = none) (f : F) :
    (r.begin_ dur damaged f).Hears dur damaged := by
  set a : Arrival T F := ⟨r.clock, f⟩ with ha
  have hstop : r.clock ≤ (a.span dur).stop := came_le_stop hdur a
  have hmono : ∀ b ∈ r.onAir, r.Settled dur damaged b →
      (r.begin_ dur damaged f).Settled dur damaged b := fun b _ hb =>
    hb.mono (fun _ => id) (fun _ => id) fun e he => mem_erase_cons_of_mem he a
  refine ⟨?_, h.start, h.silent, h.sending, (fun hno => by cases hno), ?_, ?_, ?_, ?_, ?_⟩
  · intro b hb
    rcases List.mem_cons.1 hb with rfl | hb
    · exact le_rfl
    · exact h.came b hb
  · rintro c ⟨⟩
    refine ⟨hstop, fun b hb => ?_, a, List.mem_cons_self, rfl⟩
    rcases List.mem_cons.1 hb with rfl | hb
    · exact le_rfl
    · exact (h.idle hidle b hb).trans hstop
  · rintro c ⟨⟩ -
    refine ⟨a, r.onAir, rfl, rfl, h.idle hidle, h.received, fun hno => ?_, fun hyes => ?_, ?_⟩
    · obtain ⟨hdamaged, hsilent⟩ := Bool.or_eq_false_iff.1 hno
      exact ⟨hdamaged, h.silent (by simpa using hsilent)⟩
    · rcases Bool.or_eq_true_iff.1 hyes with hdamaged | hsending
      · exact Or.inl hdamaged
      · obtain ⟨u, hu⟩ := Option.isSome_iff_exists.1 hsending
        exact (h.disturbed_of_sending hu le_rfl hstop).mono (fun _ => id)
          fun e he => mem_erase_cons_of_mem he a
    · exact fun b hb => hmono b hb (h.settled (fun c hc => by rw [hidle] at hc; cases hc) b hb)
  · intro hall
    exact absurd (hall _ rfl) (by simp)
  · exact h.received.cons a
  · exact fun b hb => ⟨(h.clear b hb).1, (h.clear b hb).2.cons rfl rfl (h.clear b hb).1⟩

theorem collide [IsOrderedAddMonoid T] (hdur : ∀ f, 0 ≤ dur f) (hc : r.current = some c)
    (spoilt : Bool) (f : F) :
    (r.collide dur c spoilt f).Hears dur damaged := by
  set a : Arrival T F := ⟨r.clock, f⟩ with ha
  have hstop : r.clock ≤ (a.span dur).stop := came_le_stop hdur a
  obtain ⟨hends, hall, e, he, hlast⟩ := h.busy c hc
  refine ⟨?_, h.start, h.silent, h.sending, (fun hno => by cases hno), ?_, ?_, ?_, ?_, ?_⟩
  · intro b hb
    rcases List.mem_cons.1 hb with rfl | hb
    · exact le_rfl
    · exact h.came b hb
  · rintro c' ⟨⟩
    refine ⟨hends.trans (le_max_left _ _), fun b hb => ?_, ?_⟩
    · rcases List.mem_cons.1 hb with rfl | hb
      · exact le_max_right _ _
      · exact (hall b hb).trans (le_max_left _ _)
    · rcases le_total c.ends (r.clock + dur f) with hle | hle
      · exact ⟨a, List.mem_cons_self, (max_eq_right hle).symm⟩
      · exact ⟨e, List.mem_cons_of_mem a he, hlast.trans (max_eq_left hle).symm⟩
  · rintro c' ⟨⟩ hno
    cases hno
  · intro _ b hb
    rcases List.mem_cons.1 hb with rfl | hb
    · -- the frame that is heard disturbs the new one
      refine Or.inr (Or.inr (Or.inr ⟨e, ?_, ?_, (h.came e he).trans hstop⟩))
      · rw [Receiver.collide, List.erase_cons_head]
        exact he
      · rw [hlast]
        exact hends
    · have hmono (hb : r.Settled dur damaged b) :
          (r.collide dur c spoilt f).Settled dur damaged b :=
        hb.mono (fun _ => id) (fun _ => id) fun e he => mem_erase_cons_of_mem he a
      cases hcol : c.collided with
      | true =>
        refine hmono (h.settled (fun c' hc' => ?_) b hb)
        rw [hc] at hc'
        cases hc'
        exact hcol
      | false =>
        obtain ⟨a', rest, halone⟩ := h.alone c hc hcol
        rw [halone.onAir] at hb
        rcases List.mem_cons.1 hb with rfl | hb
        · -- and the new one that frame
          have hmem : b ∈ r.onAir := halone.onAir ▸ List.mem_cons_self
          refine Or.inr (Or.inr (Or.inr ⟨a, self_mem_erase_cons hmem, ?_, ?_⟩))
          · exact (h.came b hmem).trans hstop
          · rw [halone.ends]
            exact hends
        · exact hmono (halone.settled b hb)
  · exact h.received.cons a
  · exact fun b hb => ⟨(h.clear b hb).1, (h.clear b hb).2.cons rfl rfl (h.clear b hb).1⟩

theorem send [IsOrderedAddMonoid T] (hd : 0 ≤ d) (hsilent : r.sendingUntil = none) :
    (r.send d).Hears dur damaged := by
  have hafter : r.clock ≤ r.clock + d := le_add_of_nonneg_right hd
  have hmono : ∀ b, r.Settled dur damaged b → (r.send d).Settled dur damaged b := fun b hb =>
    hb.mono (fun _ => id) (fun _ => List.mem_cons_of_mem _) fun _ => id
  refine ⟨h.came, ?_, (fun hno => by cases hno), ?_, ?_, ?_, ?_, ?_, h.received, ?_⟩
  · intro b hb
    rcases List.mem_cons.1 hb with rfl | hb
    · exact le_rfl
    · exact h.start b hb
  · rintro u ⟨⟩
    refine ⟨hafter, fun b hb => ?_, _, List.mem_cons_self, rfl⟩
    rcases List.mem_cons.1 hb with rfl | hb
    · exact le_rfl
    · exact (h.silent hsilent b hb).trans hafter
  · intro hno
    exact h.idle (Option.map_eq_none_iff.1 hno)
  · intro c' hc'
    obtain ⟨c, hc, rfl⟩ := Option.map_eq_some_iff.1 hc'
    exact h.busy c hc
  · intro c' hc' hcol
    obtain ⟨c, hc, rfl⟩ := Option.map_eq_some_iff.1 hc'
    obtain ⟨a, rest, ha⟩ := h.alone c hc hcol
    have hmem : a ∈ r.onAir := ha.onAir ▸ List.mem_cons_self
    refine ⟨a, rest, ha.onAir, ha.ends, ha.before, ha.received, (fun hno => by cases hno),
      fun _ => ?_,
      fun b hb => hmono b (ha.settled b hb)⟩
    refine Or.inr (Or.inl ⟨_, List.mem_cons_self, (h.came a hmem).trans hafter, ?_⟩)
    rw [ha.ends]
    exact (h.busy c hc).1
  · intro hall b hb
    refine hmono b (h.settled (fun c hc => ?_) b hb)
    exact hall { c with spoilt := true } (by simp [Receiver.send, hc])
  · intro a ha
    obtain ⟨hover, hclear⟩ := h.clear a ha
    refine ⟨hover, hclear.1, fun b hb => ?_, hclear.2.2⟩
    rcases List.mem_cons.1 hb with rfl | hb
    · exact Span.not_overlaps_of_le hover
    · exact hclear.2.1 b hb

theorem sendEnds (hu : r.sendingUntil = some r.clock) : r.sendEnds.Hears dur damaged where
  came := h.came
  start := h.start
  silent _ := (h.sending _ hu).2.1
  sending u hno := by cases hno
  idle := h.idle
  busy := h.busy
  alone c hc hcol := by
    obtain ⟨a, rest, ha⟩ := h.alone c hc hcol
    exact ⟨a, rest, ha.onAir, ha.ends, ha.before, ha.received, ha.unspoilt, ha.spoilt, ha.settled⟩
  settled := h.settled
  received := h.received
  clear := h.clear

/-- The frame that is over was heard alone and is not spoilt. -/
theorem accept (hc : r.current = some c) (hends : c.ends = r.clock) (hcol : c.collided = false)
    (hspoilt : c.spoilt = false) : r.accept.Hears dur damaged := by
  obtain ⟨a, rest, ha⟩ := h.alone c hc hcol
  obtain ⟨hdamaged, hsent⟩ := ha.unspoilt hspoilt
  have hover : ∀ b ∈ r.onAir, (b.span dur).stop ≤ r.clock := hends ▸ (h.busy c hc).2.1
  have hreceived : r.accept.received = a :: r.received := by simp [Receiver.accept, ha.onAir]
  have hmem : a ∈ r.onAir := ha.onAir ▸ List.mem_cons_self
  refine ⟨h.came, h.start, h.silent, h.sending, fun _ => hover, (fun c' hc' => by cases hc'),
    (fun c' hc' => by cases hc'), fun _ b hb => ?_, ?_, ?_⟩
  · change b ∈ r.onAir at hb
    rw [ha.onAir] at hb
    rcases List.mem_cons.1 hb with rfl | hb
    · exact Or.inl (hreceived ▸ List.mem_cons_self)
    · refine (ha.settled b hb).mono (fun e he => ?_) (fun _ => id) fun _ => id
      exact hreceived ▸ List.mem_cons_of_mem a he
  · rw [hreceived]
    show (a :: r.received).Sublist r.onAir
    rw [ha.onAir]
    exact ha.received.cons_cons a
  · intro b hb
    rw [hreceived] at hb
    rcases List.mem_cons.1 hb with rfl | hb
    · refine ⟨hover b hmem, hdamaged, fun e he => ?_, fun e he => ?_⟩
      · exact Span.not_overlaps_comm.1 (Span.not_overlaps_of_le (hsent e he))
      · change e ∈ r.onAir.erase b at he
        rw [ha.onAir, List.erase_cons_head] at he
        exact Span.not_overlaps_comm.1 (Span.not_overlaps_of_le (ha.before e he))
    · exact h.clear b hb

/-- Frames that have collided, or the frame that is spoilt, are over. -/
theorem drop (hc : r.current = some c) (hends : c.ends = r.clock)
    (hlost : c.collided = true ∨ c.spoilt = true ∨ r.sendingUntil.isSome = true) :
    r.drop.Hears dur damaged := by
  have hover : ∀ b ∈ r.onAir, (b.span dur).stop ≤ r.clock := hends ▸ (h.busy c hc).2.1
  refine ⟨h.came, h.start, h.silent, h.sending, fun _ => hover, (fun c' hc' => by cases hc'),
    (fun c' hc' => by cases hc'), fun _ b hb => ?_, h.received, h.clear⟩
  show r.Settled dur damaged b
  cases hcol : c.collided with
  | true => exact h.settled (fun c' hc' => by rw [hc] at hc'; cases hc'; exact hcol) b hb
  | false =>
    obtain ⟨a, rest, ha⟩ := h.alone c hc hcol
    change b ∈ r.onAir at hb
    rw [ha.onAir] at hb
    rcases List.mem_cons.1 hb with rfl | hb
    · refine Or.inr ?_
      rcases hlost with hlost | hlost | hlost
      · rw [hcol] at hlost
        cases hlost
      · exact ha.spoilt hlost
      · obtain ⟨u, hu⟩ := Option.isSome_iff_exists.1 hlost
        refine h.disturbed_of_sending hu (h.came b (ha.onAir ▸ List.mem_cons_self)) ?_
        rw [ha.ends, hends]
    · exact ha.settled b hb

/-! ### What was received -/

/-- A frame that is over and that nothing disturbed was received. -/
theorem received_of_clear (ha : a ∈ r.onAir) (hover : (a.span dur).stop < r.clock)
    (hclear : ¬ r.Disturbed dur damaged a) : a ∈ r.received := by
  have hsettled : r.Settled dur damaged a := by
    by_cases hall : ∀ c, r.current = some c → c.collided = true
    · exact h.settled hall a ha
    · push Not at hall
      obtain ⟨c, hc, hcol⟩ := hall
      obtain ⟨b, rest, hb⟩ := h.alone c hc (by simpa using hcol)
      rw [hb.onAir] at ha
      rcases List.mem_cons.1 ha with rfl | ha
      · -- the frame that is heard is not over
        rw [hb.ends] at hover
        exact absurd hover (not_lt.2 (h.busy c hc).1)
      · exact hb.settled a ha
  exact hsettled.resolve_right hclear

/-- A frame that was received overlapped with nothing. -/
theorem clear_of_received (ha : a ∈ r.received) : r.Clear dur damaged a := (h.clear a ha).2

end Hears

/-- Where nothing has come. -/
theorem hears_of_nil (hcurrent : r.current = none) (hsending : r.sendingUntil = none)
    (honAir : r.onAir = []) (hsent : r.sent = []) (hreceived : r.received = []) :
    r.Hears dur damaged := by
  constructor <;> simp [hcurrent, hsending, honAir, hsent, hreceived]

end Receiver

end Reception
