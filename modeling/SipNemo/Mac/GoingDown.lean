import SipNemo.Mac.Transmit

/-!
# Going-down and rollback events of an access point

The part of `recv_timer` in which an access point compares the power of a frame with a threshold and
with the power of the frame before it.  It announces that the link of an associated client goes
down, and takes that back when the power has risen.  What happens to the entries of the clients
otherwise comes as an event of its own.  Powers are rational numbers; the confidence of an event is
left out, and frames without a source, with an error or from strangers change nothing here.

The flag is kept for each client, but `eventId_` is one counter: a rollback takes `eventId_ - 1` for
the number of the event it cancels (`rollbacks_paired_iff`).
-/

namespace SipNemo.Mac

open FirstMatch Runs
open Mih (MacAddr)

/-- A `Client`, with the power of its last frame. -/
structure PowerClient where
  id : MacAddr
  status : ClientStatus := .pending
  packetPr : ℚ := 0
  goingDown : Bool := false
  deriving DecidableEq, Repr

/-- The events for the MIH, with `uniqueEventIdentifier`. -/
inductive PowerEvent
  | goingDown (client : MacAddr) (eventId : ℕ)
  | rollback (client : MacAddr) (eventId : ℕ)
  deriving DecidableEq, Repr

/-- The client of an event. -/
def PowerEvent.client : PowerEvent → MacAddr
  | .goingDown c _ => c
  | .rollback c _ => c

/-- The access point as far as the power of the frames it receives is concerned.  The source does
not have `log`; the newest event comes first. -/
structure PowerWatch where
  prLimit : ℚ
  rxThreshold : ℚ
  eventId : ℕ := 0
  clients : List PowerClient := []
  log : List PowerEvent := []
  deriving DecidableEq, Repr

/-- `eventId_ - 1`, for an unsigned counter. -/
def countDown (n : ℕ) : ℕ := (n + (2 ^ 32 - 1)) % 2 ^ 32

/-! ### What the events say -/

/-- The newest event for the client. -/
def lastAbout (c : MacAddr) (log : List PowerEvent) : Option PowerEvent := log.find? (·.client = c)

/-- How many links went down since the newest going-down event for the client. -/
def downsSince (c : MacAddr) : List PowerEvent → ℕ
  | [] => 0
  | .goingDown d _ :: log => if d = c then 0 else downsSince c log + 1
  | .rollback _ _ :: log => downsSince c log

/-- Each rollback cancels the event before it for its client, which is a going-down event and has
the number that the rollback names. -/
def Paired (log : List PowerEvent) : Prop :=
  ∀ c i newer older, log = newer ++ .rollback c i :: older →
    lastAbout c older = some (.goingDown c i)

theorem paired_goingDown {c : MacAddr} {i : ℕ} {log : List PowerEvent} :
    Paired (.goingDown c i :: log) ↔ Paired log := by
  constructor
  · exact fun h d j newer older hlog => h d j (.goingDown c i :: newer) older (by rw [hlog]; rfl)
  · intro h d j newer older hlog
    cases newer with
    | nil => cases hlog
    | cons e newer => exact h d j newer older (List.cons.inj hlog).2

theorem paired_rollback {c : MacAddr} {i : ℕ} {log : List PowerEvent} :
    Paired (.rollback c i :: log) ↔ lastAbout c log = some (.goingDown c i) ∧ Paired log := by
  constructor
  · intro h
    refine ⟨h c i [] log rfl, fun d j newer older hlog => ?_⟩
    exact h d j (.rollback c i :: newer) older (by rw [hlog]; rfl)
  · rintro ⟨hlast, h⟩ d j newer older hlog
    cases newer with
    | nil =>
      cases hlog
      exact hlast
    | cons e newer => exact h d j newer older (List.cons.inj hlog).2

namespace PowerWatch

variable (s : PowerWatch)

/-- The frame is so weak that the link of a client goes down, given the power of the client's last
frame. -/
def Weak (n : PowerClient) (rxPr : ℚ) : Prop :=
  rxPr < s.prLimit * s.rxThreshold ∧ rxPr < n.packetPr

instance (n : PowerClient) (rxPr : ℚ) : Decidable (s.Weak n rxPr) :=
  inferInstanceAs (Decidable (_ ∧ _))

/-- A frame from the associated client `n`. -/
def hear (n : PowerClient) (rxPr : ℚ) : PowerWatch × PowerClient :=
  if s.Weak n rxPr then
    ({ s with log := .goingDown n.id s.eventId :: s.log, eventId := countUp s.eventId },
      { n with goingDown := true, packetPr := rxPr })
  else if n.goingDown = true then
    ({ s with log := .rollback n.id (countDown s.eventId) :: s.log },
      { n with goingDown := false, packetPr := rxPr })
  else (s, { n with packetPr := rxPr })

/-- The loop over the list of the clients. -/
def hearFrom (src : MacAddr) (rxPr : ℚ) :
    PowerWatch → List PowerClient → PowerWatch × List PowerClient
  | s, [] => (s, [])
  | s, n :: rest =>
    if n.id = src ∧ n.status = .associated then
      let (s, n) := s.hear n rxPr
      let (s, rest) := hearFrom src rxPr s rest
      (s, n :: rest)
    else
      let (s, rest) := hearFrom src rxPr s rest
      (s, n :: rest)

/-- What happens to the access point: a frame with this source ends without an error, a station asks
for an association, a response is acknowledged, the entry of a client is removed. -/
inductive Event
  | frame (src : MacAddr) (rxPr : ℚ)
  | assocRequest (src : MacAddr)
  | assocAcknowledged (client : MacAddr)
  | removed (client : MacAddr)
  deriving DecidableEq, Repr

/-- What `recv_timer` does with the power of a frame. -/
def recvPower (src : MacAddr) (rxPr : ℚ) : PowerWatch :=
  let (t, clients) := hearFrom src rxPr s s.clients
  { t with clients := clients }

/-- What `recvAssocRequest` does with the entries. -/
def recvAssocRequest (src : MacAddr) : PowerWatch :=
  match s.clients.find? (·.id = src) with
  | none => { s with clients := { id := src } :: s.clients }
  | some n =>
    if n.status = .associated then
      { s with
        clients := updateFirst (·.id = src) (fun n => { n with status := .pending }) s.clients }
    -- a response is already pending
    else s

/-- The state after an event. -/
def after : Event → PowerWatch
  | .frame src rxPr => s.recvPower src rxPr
  | .assocRequest src => s.recvAssocRequest src
  | .assocAcknowledged c =>
    { s with
      clients := updateFirst (·.id = c) (fun n => { n with status := .associated }) s.clients }
  | .removed c => { s with clients := s.clients.eraseP (·.id = c) }

def step (e : Event) : Act PowerWatch := .ok (s.after e)

/-- A frame with this source and power has the access point take back a going-down event. -/
def RollsBack (src : MacAddr) (rxPr : ℚ) : Prop :=
  ∃ n ∈ s.clients, n.id = src ∧ n.status = .associated ∧ n.goingDown = true ∧ ¬ s.Weak n rxPr

instance (src : MacAddr) (rxPr : ℚ) : Decidable (s.RollsBack src rxPr) :=
  inferInstanceAs (Decidable (∃ _ ∈ _, _))

/-- A going-down event is taken back before another link goes down. -/
def Prompt : Event → Prop
  | .frame src rxPr => s.RollsBack src rxPr → downsSince src s.log % 2 ^ 32 = 0
  | _ => True

/-! ### One frame -/

variable {s : PowerWatch} {src : MacAddr} {rxPr : ℚ} {l : List PowerClient}

theorem hearFrom_of_forall_ne (h : ∀ n ∈ l, n.id ≠ src) : hearFrom src rxPr s l = (s, l) := by
  induction l with
  | nil => rfl
  | cons n l ih =>
    have hn : ¬ (n.id = src ∧ n.status = .associated) := fun hsrc => h n List.mem_cons_self hsrc.1
    rw [hearFrom, if_neg hn, ih fun m hm => h m (List.mem_cons_of_mem n hm)]

/-- Only the entry of the sender is looked at. -/
theorem hearFrom_of_nodup (h : (l.map (·.id)).Nodup) :
    hearFrom src rxPr s l =
      match l.find? (·.id = src) with
      | none => (s, l)
      | some n =>
        if n.status = .associated then
          ((s.hear n rxPr).1, updateFirst (·.id = src) (fun _ => (s.hear n rxPr).2) l)
        else (s, l) := by
  induction l with
  | nil => rfl
  | cons n l ih =>
    obtain ⟨hn, hl⟩ := List.nodup_cons.1 h
    by_cases hsrc : n.id = src
    · have hrest : ∀ t, hearFrom src rxPr t l = (t, l) := fun t =>
        hearFrom_of_forall_ne fun m hm heq => hn (List.mem_map.2 ⟨m, hm, heq.trans hsrc.symm⟩)
      rw [hearFrom, List.find?_cons_of_pos (by simpa using hsrc)]
      dsimp only
      rw [updateFirst_cons_pos (by simpa using hsrc)]
      simp only [hsrc, true_and, hrest]
    · rw [hearFrom, if_neg fun hboth => hsrc hboth.1, ih hl,
        List.find?_cons_of_neg (by simpa using hsrc)]
      cases l.find? (·.id = src) with
      | none => rfl
      | some m =>
        dsimp only
        rw [updateFirst_cons_neg (by simpa using hsrc)]
        split_ifs
        · rfl
        · rfl

/-- What a frame does: nothing, or what the access point does with the entry of its sender. -/
theorem recvPower_cases (src : MacAddr) (rxPr : ℚ) (h : (s.clients.map (·.id)).Nodup) :
    s.recvPower src rxPr = s ∧ ¬ s.RollsBack src rxPr ∨
      ∃ n ∈ s.clients, n.id = src ∧
        (s.RollsBack src rxPr ↔ n.goingDown = true ∧ ¬ s.Weak n rxPr) ∧
        s.recvPower src rxPr = { (s.hear n rxPr).1 with
          clients := updateFirst (·.id = src) (fun _ => (s.hear n rxPr).2) s.clients } := by
  unfold recvPower
  rw [hearFrom_of_nodup h]
  cases hfind : s.clients.find? (·.id = src) with
  | none =>
    refine Or.inl ⟨rfl, ?_⟩
    rintro ⟨n, hn, hsrc, -⟩
    exact List.find?_eq_none.1 hfind n hn (by simpa using hsrc)
  | some n =>
    have hn : n ∈ s.clients := List.mem_of_find?_eq_some hfind
    have hsrc : n.id = src := by simpa using List.find?_some hfind
    have honly : ∀ m ∈ s.clients, m.id = src → m = n := fun m hm hid =>
      List.inj_on_of_nodup_map h hm hn (hid.trans hsrc.symm)
    dsimp only
    by_cases hassoc : n.status = .associated
    · rw [if_pos hassoc]
      refine Or.inr ⟨n, hn, hsrc, ⟨?_, fun hdown => ⟨n, hn, hsrc, hassoc, hdown⟩⟩, rfl⟩
      rintro ⟨m, hm, hid, -, hdown⟩
      rwa [honly m hm hid] at hdown
    · rw [if_neg hassoc]
      refine Or.inl ⟨rfl, ?_⟩
      rintro ⟨m, hm, hid, hstatus, -⟩
      exact hassoc (honly m hm hid ▸ hstatus)

/-! ### The numbers of the events -/

/-- The entries have different identifiers; the newest event of a client whose flag is set is a
going-down event; and `eventId_` is ahead of the number of a going-down event by one and the events
for other clients since. -/
structure Numbered (s : PowerWatch) : Prop where
  nodup : (s.clients.map (·.id)).Nodup
  going : ∀ n ∈ s.clients, n.goingDown = true →
    ∃ i, lastAbout n.id s.log = some (.goingDown n.id i)
  counted : ∀ c i, lastAbout c s.log = some (.goingDown c i) →
    i < 2 ^ 32 ∧ s.eventId = (i + 1 + downsSince c s.log) % 2 ^ 32
  bounded : s.eventId < 2 ^ 32
  paired : Paired s.log

/-- A change of the list that sets no flag. -/
theorem Numbered.of_clients (h : s.Numbered) (hnodup : (l.map (·.id)).Nodup)
    (hgoing : ∀ n ∈ l, n.goingDown = true → ∃ m ∈ s.clients, m.id = n.id ∧ m.goingDown = true) :
    { s with clients := l }.Numbered := by
  refine { h with nodup := hnodup, going := fun n hn hdown => ?_ }
  obtain ⟨m, hm, hid, hdown'⟩ := hgoing n hn hdown
  rw [← hid]
  exact h.going m hm hdown'

/-- A change of the status of an entry. -/
theorem Numbered.setStatus (h : s.Numbered) (c : MacAddr) (status : ClientStatus) :
    { s with
      clients := updateFirst (·.id = c) (fun n => { n with status := status })
        s.clients }.Numbered := by
  refine h.of_clients ?_ fun n hn hdown => ?_
  · rw [map_updateFirst (f := fun n : PowerClient => { n with status := status }) fun _ => rfl]
    exact h.nodup
  · rcases mem_updateFirst hn with hn | ⟨m, hm, rfl⟩
    · exact ⟨n, hn, rfl, hdown⟩
    · exact ⟨m, List.mem_of_find?_eq_some hm, rfl, hdown⟩

/-- The entries after a frame from the client `n`, with the new entry for it. -/
theorem Numbered.mem_update_iff (h : s.Numbered) {n n' m : PowerClient} (hn : n ∈ s.clients) :
    m ∈ updateFirst (·.id = n.id) (fun _ => n') s.clients ↔
      m = n' ∨ m ∈ s.clients ∧ m.id ≠ n.id := by
  have hfind : ∃ a, s.clients.find? (·.id = n.id) = some a :=
    Option.isSome_iff_exists.1 (List.find?_isSome.2 ⟨n, hn, by simp⟩)
  obtain ⟨a, ha⟩ := hfind
  have hid : a.id = n.id := by simpa using List.find?_some ha
  rw [mem_updateFirst_iff h.nodup ha, hid]

theorem Numbered.nodup_update (h : s.Numbered) {n n' : PowerClient} (hid : n'.id = n.id) :
    ((updateFirst (·.id = n.id) (fun _ => n') s.clients).map (·.id)).Nodup := by
  rw [map_updateFirst_of_match fun m hm => hid.trans (of_decide_eq_true hm).symm]
  exact h.nodup

/-- A link goes down. -/
theorem Numbered.goDown (h : s.Numbered) {n : PowerClient} (hn : n ∈ s.clients) (n' : PowerClient)
    (hid : n'.id = n.id) :
    { s with
      log := .goingDown n.id s.eventId :: s.log, eventId := countUp s.eventId
      clients := updateFirst (·.id = n.id) (fun _ => n') s.clients }.Numbered where
  nodup := h.nodup_update hid
  going m hm hdown := by
    rcases (h.mem_update_iff hn).1 hm with rfl | ⟨hold, hne⟩
    · exact ⟨s.eventId, by simp [lastAbout, PowerEvent.client, hid]⟩
    · obtain ⟨i, hi⟩ := h.going m hold hdown
      exact ⟨i, by simpa [lastAbout, PowerEvent.client, hne.symm] using hi⟩
  counted c i hlast := by
    by_cases hc : n.id = c
    · obtain ⟨-, rfl⟩ : n.id = c ∧ s.eventId = i := by
        simpa [lastAbout, PowerEvent.client, hc] using hlast
      refine ⟨h.bounded, ?_⟩
      simp [downsSince, hc, countUp]
    · have hold : lastAbout c s.log = some (.goingDown c i) := by
        simpa [lastAbout, PowerEvent.client, hc] using hlast
      obtain ⟨hi, hcount⟩ := h.counted c i hold
      refine ⟨hi, ?_⟩
      simp only [downsSince, if_neg hc, countUp, hcount]
      omega
  bounded := Nat.mod_lt _ (by norm_num)
  paired := paired_goingDown.2 h.paired

/-- A going-down event is taken back. -/
theorem Numbered.rollBack (h : s.Numbered) {n : PowerClient} (hn : n ∈ s.clients)
    (n' : PowerClient) (hid : n'.id = n.id) (hup : n'.goingDown = false) {i : ℕ}
    (hpaired : Paired (.rollback n.id i :: s.log)) :
    { s with
      log := .rollback n.id i :: s.log
      clients := updateFirst (·.id = n.id) (fun _ => n') s.clients }.Numbered where
  nodup := h.nodup_update hid
  going m hm hdown := by
    rcases (h.mem_update_iff hn).1 hm with rfl | ⟨hold, hne⟩
    · rw [hup] at hdown
      cases hdown
    · obtain ⟨j, hj⟩ := h.going m hold hdown
      exact ⟨j, by simpa [lastAbout, PowerEvent.client, hne.symm] using hj⟩
  counted c j hlast := by
    by_cases hc : n.id = c
    · simp [lastAbout, PowerEvent.client, hc] at hlast
    · exact h.counted c j (by simpa [lastAbout, PowerEvent.client, hc] using hlast)
  bounded := h.bounded
  paired := hpaired

/-- The number of a rollback is the right one if the links of other clients did not go down since,
or went down a multiple of `2 ^ 32` times. -/
theorem Numbered.paired_iff (h : s.Numbered) {n : PowerClient} (hn : n ∈ s.clients)
    (hdown : n.goingDown = true) :
    Paired (.rollback n.id (countDown s.eventId) :: s.log) ↔
      downsSince n.id s.log % 2 ^ 32 = 0 := by
  obtain ⟨i, hlast⟩ := h.going n hn hdown
  obtain ⟨hi, hcount⟩ := h.counted n.id i hlast
  rw [paired_rollback, hlast, hcount]
  simp only [countDown, Option.some.injEq, PowerEvent.goingDown.injEq, true_and, h.paired,
    and_true]
  omega

/-- A frame leaves the events paired exactly when it is prompt. -/
theorem Numbered.recvPower (h : s.Numbered) :
    (Paired (s.recvPower src rxPr).log ↔ s.Prompt (.frame src rxPr)) ∧
      (s.Prompt (.frame src rxPr) → (s.recvPower src rxPr).Numbered) := by
  rcases recvPower_cases src rxPr h.nodup with ⟨heq, hno⟩ | ⟨n, hn, rfl, hiff, heq⟩
  · rw [heq]
    exact ⟨iff_of_true h.paired fun hback => (hno hback).elim, fun _ => h⟩
  · rw [heq]
    unfold hear
    split_ifs with hweak hdown
    · have hno : ¬ s.RollsBack n.id rxPr := fun hback => (hiff.1 hback).2 hweak
      have hnumbered := h.goDown hn { n with goingDown := true, packetPr := rxPr } rfl
      exact ⟨iff_of_true hnumbered.paired fun hback => (hno hback).elim, fun _ => hnumbered⟩
    · have hback : s.RollsBack n.id rxPr := hiff.2 ⟨hdown, hweak⟩
      have hpaired := h.paired_iff hn hdown
      refine ⟨hpaired.trans ⟨fun hsince _ => hsince, fun hprompt => hprompt hback⟩, ?_⟩
      intro hprompt
      exact h.rollBack hn { n with goingDown := false, packetPr := rxPr } rfl rfl
        (hpaired.2 (hprompt hback))
    · have hno : ¬ s.RollsBack n.id rxPr := fun hback => hdown (hiff.1 hback).1
      refine ⟨iff_of_true h.paired fun hback => (hno hback).elim, fun _ => ?_⟩
      refine h.of_clients (h.nodup_update rfl) fun m hm hflag => ?_
      rcases (h.mem_update_iff hn).1 hm with rfl | ⟨hold, -⟩
      · exact ⟨n, hn, rfl, hflag⟩
      · exact ⟨m, hold, rfl, hflag⟩

theorem Numbered.recvAssocRequest (h : s.Numbered) : (s.recvAssocRequest src).Numbered := by
  unfold PowerWatch.recvAssocRequest
  cases hfind : s.clients.find? (·.id = src) with
  | none =>
    refine h.of_clients (List.nodup_cons.2 ⟨?_, h.nodup⟩) fun n hn hdown => ?_
    · intro hmem
      obtain ⟨m, hm, hid⟩ := List.mem_map.1 hmem
      exact List.find?_eq_none.1 hfind m hm (by simpa using hid)
    · rcases List.mem_cons.1 hn with rfl | hn
      · cases hdown
      · exact ⟨n, hn, rfl, hdown⟩
  | some n =>
    dsimp only
    split_ifs
    · exact h.setStatus src .pending
    · exact h

/-- What one event does to the pairing. -/
theorem Numbered.after (h : s.Numbered) (e : Event) :
    (Paired (s.after e).log ↔ s.Prompt e) ∧ (s.Prompt e → (s.after e).Numbered) := by
  cases e with
  | frame src rxPr => exact h.recvPower
  | assocRequest src =>
    have ht : (s.recvAssocRequest src).Numbered := h.recvAssocRequest
    exact ⟨iff_of_true ht.paired trivial, fun _ => ht⟩
  | assocAcknowledged c =>
    have ht := h.setStatus c .associated
    exact ⟨iff_of_true ht.paired trivial, fun _ => ht⟩
  | removed c =>
    refine ⟨iff_of_true h.paired trivial, fun _ => ?_⟩
    refine h.of_clients (h.nodup.sublist (List.Sublist.map _ List.eraseP_sublist)) ?_
    exact fun n hn hdown => ⟨n, List.mem_of_mem_eraseP hn, rfl, hdown⟩

end PowerWatch

end SipNemo.Mac
