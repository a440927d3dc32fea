import SipNemo.Lib.Alternation
import SipNemo.Mac.ClientList

/-!
# The link events of an access point

A link up is sent for the acknowledgement of a response to an entry that is not associated, a link
down when the timer of an entry expires.  Each step that may send one or remove an entry has the
condition under which the events of every station go on to alternate (`links_alternate_iff`).
-/

namespace SipNemo.Mac

open Alternation FirstMatch Outcome Runs
open Mih (MacAddr)

/-- The link events that are sent for a station; `true` is a link up. -/
def linkEvent (d : MacAddr) : TxOutput → Option Bool
  | .linkUp d' => if d' = d then some true else none
  | .linkDown d' => if d' = d then some false else none
  | _ => none

namespace ClientSide

variable {c c' : ClientSide} {m : MgmtFrame} {ptr : ℕ} {src d : MacAddr}

def linkEvents (c : ClientSide) (d : MacAddr) : List Bool := c.links.filterMap (linkEvent d)

/-- The station has an entry for which some response has been acknowledged. -/
def Joined (c : ClientSide) (d : MacAddr) : Prop := ∃ cl ∈ c.clients, cl.id = d ∧ cl.joined = true

instance (c : ClientSide) (d : MacAddr) : Decidable (c.Joined d) :=
  inferInstanceAs (Decidable (∃ _ ∈ _, _))

/-- The link events of every station alternate, and the last one agrees with its entry. -/
def Alternating (c : ClientSide) : Prop :=
  ∀ d, Alternates (c.linkEvents d) ∧ (last (c.linkEvents d) = true ↔ c.Joined d)

/-- No two entries have one station, and the link events alternate. -/
structure Linked (c : ClientSide) : Prop where
  ids : (c.clients.map (·.id)).Nodup
  alternating : c.Alternating

/-- What the link events and `Joined` depend on. -/
def joinedIds (c : ClientSide) : List (MacAddr × Bool) := c.clients.map fun cl => (cl.id, cl.joined)

theorem joined_iff (c : ClientSide) (d : MacAddr) : c.Joined d ↔ (d, true) ∈ c.joinedIds := by
  simp [Joined, joinedIds]

theorem Linked.congr (h : c.Linked) (hclients : c'.joinedIds = c.joinedIds)
    (hlinks : c'.links = c.links) : c'.Linked := by
  refine ⟨?_, fun d => ?_⟩
  · have hids : ∀ x : ClientSide, x.clients.map (·.id) = x.joinedIds.map Prod.fst :=
      fun x => by simp [joinedIds]
    rw [hids, hclients, ← hids]
    exact h.ids
  · rw [linkEvents, hlinks, joined_iff, hclients, ← joined_iff]
    exact h.alternating d

/-- The entry of a station, joined or not. -/
theorem Linked.joined_of_mem (h : c.Linked) {cl : Client} (hcl : cl ∈ c.clients) :
    c.Joined cl.id ↔ cl.joined = true := by
  constructor
  · rintro ⟨a, ha, hid, hjoined⟩
    rwa [← List.inj_on_of_nodup_map h.ids ha hcl hid]
  · exact fun hjoined => ⟨cl, hcl, rfl, hjoined⟩

/-! ### What the operations do to the link events -/

/-- No event is sent: the stations that are joined have to stay the same. -/
theorem Linked.alternating_of_silent (h : c.Linked) (hlinks : c'.links = c.links) :
    c'.Alternating ↔ ∀ d, c'.Joined d ↔ c.Joined d := by
  have hevents : ∀ d, c'.linkEvents d = c.linkEvents d := fun d => by rw [linkEvents, hlinks]; rfl
  constructor
  · intro halt d
    rw [← (halt d).2, hevents d]
    exact (h.alternating d).2
  · intro hjoined d
    rw [hevents d, hjoined d]
    exact h.alternating d

/-- An event is sent for one station: it has to be the other one, and agree with the entry. -/
theorem Linked.alternating_of_event (h : c.Linked) {up : Bool}
    (hevent : c'.linkEvents d = c.linkEvents d ++ [up])
    (hothers : ∀ d' ≠ d, c'.linkEvents d' = c.linkEvents d' ∧ (c'.Joined d' ↔ c.Joined d')) :
    c'.Alternating ↔ ¬ (c.Joined d ↔ up = true) ∧ (up = true ↔ c'.Joined d) := by
  obtain ⟨halternates, hlast⟩ := h.alternating d
  have hfits : last (c.linkEvents d) ≠ up ↔ ¬ (c.Joined d ↔ up = true) := by
    rw [← hlast, ← Bool.eq_iff_iff]
  constructor
  · intro halt
    have hd := halt d
    rw [hevent, alternates_concat, last_concat] at hd
    exact ⟨hfits.1 hd.1.2, hd.2⟩
  · rintro ⟨hother, hagrees⟩ d'
    by_cases hd : d' = d
    · subst hd
      rw [hevent, alternates_concat, last_concat]
      exact ⟨⟨halternates, hfits.2 hother⟩, hagrees⟩
    · obtain ⟨hsame, hjoined⟩ := hothers d' hd
      rw [hsame, hjoined]
      exact h.alternating d'

/-- The entries without one of them. -/
theorem Linked.joined_eraseP (h : c.Linked) {p : Client → Bool} {cl : Client}
    (hfind : c.clients.find? p = some cl) (hclients : c'.clients = c.clients.eraseP p)
    (d : MacAddr) : c'.Joined d ↔ c.Joined d ∧ d ≠ cl.id := by
  unfold Joined
  rw [hclients]
  constructor
  · rintro ⟨a, ha, hid, hjoined⟩
    obtain ⟨ha', hne⟩ := (mem_eraseP_of_find? h.ids hfind).1 ha
    exact ⟨⟨a, ha', hid, hjoined⟩, fun hd => hne (hid.trans hd)⟩
  · rintro ⟨⟨a, ha, hid, hjoined⟩, hne⟩
    exact ⟨a, (mem_eraseP_of_find? h.ids hfind).2 ⟨ha, fun heq => hne (hid.symm.trans heq)⟩, hid,
      hjoined⟩

/-- An entry that is not joined may be removed without an event, and no other. -/
theorem Linked.alternating_eraseP (h : c.Linked) {p : Client → Bool}
    (hclients : c'.clients = c.clients.eraseP p) (hlinks : c'.links = c.links) :
    c'.Alternating ↔ ∀ cl ∈ c.clients.find? p, cl.joined = false := by
  rw [h.alternating_of_silent hlinks]
  cases hfind : c.clients.find? p with
  | none =>
    have hsame : c'.clients = c.clients := by
      rw [hclients, List.eraseP_of_forall_not (List.find?_eq_none.1 hfind)]
    refine iff_of_true (fun d => ?_) (by simp)
    unfold Joined
    rw [hsame]
  | some cl =>
    have hmem := List.mem_of_find?_eq_some hfind
    have hcl := h.joined_of_mem hmem
    constructor
    · rintro hjoined _ ⟨⟩
      by_contra hno
      have hafter := (hjoined cl.id).2 (hcl.2 (by simpa using hno))
      exact ((h.joined_eraseP hfind hclients cl.id).1 hafter).2 rfl
    · intro hno d
      rw [h.joined_eraseP hfind hclients d]
      refine ⟨And.left, fun hjoined => ⟨hjoined, ?_⟩⟩
      rintro rfl
      cases (hcl.1 hjoined).symm.trans (hno cl rfl)

/-! ### Frames that were not answered -/

/-- The entry that goes with a dropped frame is not joined. -/
def DropsUnjoined (c : ClientSide) (ssrc : ℕ) : Prop :=
  ∀ m ∈ c.pktManagement, m.ra ≠ macBroadcast → c.mib.shortRetryLimit ≤ countUp ssrc →
    ∀ cl ∈ c.clients.find? (·.pkt = m.ptr), cl.joined = false

instance (c : ClientSide) (ssrc : ℕ) : Decidable (c.DropsUnjoined ssrc) :=
  inferInstanceAs (Decidable (∀ _ ∈ _, _))

theorem giveUp_links (c : ClientSide) (m : MgmtFrame) : (c.giveUp m).links = c.links := by
  unfold giveUp
  dsimp only
  split_ifs
  · rfl
  · rfl

theorem giveUp_clients (c : ClientSide) (m : MgmtFrame) :
    (c.giveUp m).clients = c.clients.eraseP (·.pkt = m.ptr) := by
  unfold giveUp
  dsimp only
  split_ifs
  · rfl
  · rfl

theorem Linked.unanswered (h : c.Linked) (ssrc : ℕ) :
    ((c.unanswered ssrc).clients.map (·.id)).Nodup ∧
      ((c.unanswered ssrc).Alternating ↔ c.DropsUnjoined ssrc) := by
  unfold ClientSide.unanswered DropsUnjoined
  cases c.pktManagement with
  | none => exact ⟨h.ids, iff_of_true h.alternating (by simp)⟩
  | some m =>
    dsimp only
    split_ifs with hcast hlimit
    · exact ⟨h.ids, iff_of_true h.alternating (by simp [hcast])⟩
    · refine ⟨?_, ?_⟩
      · rw [giveUp_clients]
        exact h.ids.sublist (List.eraseP_sublist.map _)
      · rw [h.alternating_eraseP (c.giveUp_clients m) (c.giveUp_links m)]
        simp [hcast, hlimit]
    · exact ⟨h.ids, iff_of_true h.alternating (by simp [hlimit])⟩

/-! ### Responses that are acknowledged -/

/-- A link up is sent for the first response to the entry of the station, and none is left out. -/
def UpOnce (c : ClientSide) (m : MgmtFrame) (cl : Client) : Prop :=
  if cl.status = .associated then ∀ a ∈ c.clients, a.id = m.ra → a.joined = true
  else ∃ a ∈ c.clients, a.id = m.ra ∧ a.joined = false

instance (c : ClientSide) (m : MgmtFrame) (cl : Client) : Decidable (c.UpOnce m cl) :=
  inferInstanceAs (Decidable (ite _ _ _))

/-- The response that is acknowledged is the first one to the entry. -/
def AnsweredOnce (c : ClientSide) : Prop :=
  ∀ m ∈ c.pktManagement, m.subtype = .assocRes →
    ∀ cl ∈ c.clients.find? (·.pkt = m.ptr), c.UpOnce m cl

instance (c : ClientSide) : Decidable c.AnsweredOnce :=
  inferInstanceAs (Decidable (∀ _ ∈ _, _))

theorem joinedIds_associate (c : ClientSide) (m : MgmtFrame) (cl : Client) :
    (c.associate m cl).joinedIds =
      c.joinedIds.map fun x => if x.1 = m.ra then (x.1, true) else x := by
  have hkept : (updateFirst (·.pkt = m.ptr) (fun cl => { cl with status := .associated })
      c.clients).map (fun cl => (cl.id, cl.joined)) = c.joinedIds :=
    map_updateFirst (f := fun cl : Client => { cl with status := .associated }) (fun _ => rfl)
      c.clients
  unfold joinedIds at hkept ⊢
  rw [associate_clients, ← hkept, List.map_map, List.map_map]
  refine List.map_congr_left fun a _ => ?_
  dsimp only [Function.comp]
  split_ifs
  · rfl
  · rfl

theorem joined_associate (c : ClientSide) (m : MgmtFrame) (cl : Client) (d : MacAddr) :
    (c.associate m cl).Joined d ↔ c.Joined d ∨ d = m.ra ∧ ∃ a ∈ c.clients, a.id = d := by
  rw [joined_iff, joinedIds_associate, joined_iff, List.mem_map]
  constructor
  · rintro ⟨⟨i, j⟩, hmem, heq⟩
    dsimp only at heq
    split_ifs at heq with hi
    · obtain ⟨a, ha, hsame⟩ := List.mem_map.1 hmem
      obtain ⟨rfl, -⟩ := Prod.mk.inj heq
      exact Or.inr ⟨hi, a, ha, (Prod.mk.inj hsame).1⟩
    · exact Or.inl (heq ▸ hmem)
  · rintro (hmem | ⟨rfl, a, ha, hid⟩)
    · refine ⟨(d, true), hmem, ?_⟩
      split_ifs
      · rfl
      · rfl
    · exact ⟨(a.id, a.joined), List.mem_map_of_mem ha, by simp [hid]⟩

/-- The link up for the station of a response. -/
theorem linkEvents_associate (c : ClientSide) (m : MgmtFrame) (cl : Client) (d : MacAddr) :
    (c.associate m cl).linkEvents d =
      if cl.status ≠ .associated ∧ m.ra = d then c.linkEvents d ++ [true] else c.linkEvents d := by
  unfold associate linkEvents
  dsimp only
  by_cases hstatus : cl.status ≠ .associated
  · rw [if_pos hstatus, List.filterMap_append]
    by_cases hd : m.ra = d
    · simp [linkEvent, hd, hstatus]
    · simp [linkEvent, hd]
  · rw [if_neg hstatus, if_neg fun hboth => hstatus hboth.1]

theorem Linked.associate (h : c.Linked) (m : MgmtFrame) (cl : Client) :
    (c.associate m cl).Alternating ↔ c.UpOnce m cl := by
  unfold UpOnce
  have hmem : ∀ a ∈ c.clients, a.id = m.ra → (c.Joined m.ra ↔ a.joined = true) :=
    fun a ha hid => hid ▸ h.joined_of_mem ha
  split_ifs with hstatus
  · have hlinks : (c.associate m cl).links = c.links := by
      unfold ClientSide.associate
      simp [hstatus]
    rw [h.alternating_of_silent hlinks]
    constructor
    · intro hjoined a ha hid
      refine (hmem a ha hid).1 ((hjoined m.ra).1 ?_)
      exact (c.joined_associate m cl m.ra).2 (Or.inr ⟨rfl, a, ha, hid⟩)
    · intro hall d
      rw [joined_associate]
      refine ⟨?_, Or.inl⟩
      rintro (hjoined | ⟨rfl, a, ha, hid⟩)
      · exact hjoined
      · exact (hmem a ha hid).2 (hall a ha hid)
  · have hevent : (c.associate m cl).linkEvents m.ra = c.linkEvents m.ra ++ [true] := by
      rw [linkEvents_associate, if_pos ⟨hstatus, rfl⟩]
    rw [h.alternating_of_event hevent fun d hd => ⟨?_, ?_⟩]
    · constructor
      · rintro ⟨hno, hagrees⟩
        rcases (c.joined_associate m cl m.ra).1 (hagrees.1 rfl) with hjoined | ⟨-, a, ha, hid⟩
        · exact (hno (iff_of_true hjoined rfl)).elim
        · refine ⟨a, ha, hid, ?_⟩
          by_contra hjoined
          exact hno (iff_of_true ((hmem a ha hid).2 (by simpa using hjoined)) rfl)
      · rintro ⟨a, ha, hid, hjoined⟩
        refine ⟨fun hiff => ?_, iff_of_true rfl ?_⟩
        · cases hjoined.symm.trans ((hmem a ha hid).1 (hiff.2 rfl))
        · exact (c.joined_associate m cl m.ra).2 (Or.inr ⟨rfl, a, ha, hid⟩)
    · rw [linkEvents_associate, if_neg fun hboth => hd hboth.2.symm]
    · rw [joined_associate]
      exact or_iff_left fun hboth => hd hboth.1

theorem Linked.acknowledged (h : c.Linked) :
    (c.acknowledged.clients.map (·.id)).Nodup ∧ (c.acknowledged.Alternating ↔ c.AnsweredOnce) := by
  unfold ClientSide.acknowledged AnsweredOnce
  cases c.pktManagement with
  | none => exact ⟨h.ids, iff_of_true h.alternating (by simp)⟩
  | some m =>
    dsimp only
    split_ifs with hres
    · cases hfind : c.clients.find? (·.pkt = m.ptr) with
      | none => exact ⟨h.ids, iff_of_true h.alternating (by simp [hfind])⟩
      | some cl =>
        refine ⟨?_, ?_⟩
        · have hids : ((c.associate m cl).clients.map (·.id)).Nodup := by
            rw [associate_ids]
            exact h.ids
          exact hids
        · have hiff : (c.associate m cl).deque.Alternating ↔ c.UpOnce m cl := h.associate m cl
          rw [hiff]
          simp [hres, hfind]
    · exact ⟨h.ids, iff_of_true h.alternating (by simp [hres])⟩

/-! ### Requests and timers -/

theorem enque_links (c : ClientSide) (m : MgmtFrame) : (c.enque m).links = c.links := by
  unfold enque
  split_ifs
  · rfl
  · rfl

/-- A request sends no event, and the entry it makes or changes is not joined by it. -/
theorem Linked.admitClient (h : c.Linked) (src : MacAddr) (ptr : ℕ) :
    (c.admitClient src ptr).Linked := by
  unfold ClientSide.admitClient
  dsimp only
  split
  · rename_i hnone
    refine ⟨List.nodup_cons.2 ⟨not_mem_of_find? hnone, h.ids⟩, ?_⟩
    refine (h.alternating_of_silent ?_).2 fun d => ?_
    · exact c.enque_links _
    · simp [Joined]
  · split_ifs
    · refine h.congr ?_ (c.enque_links _)
      exact map_updateFirst (f := fun cl : Client => { cl with pkt := ptr, status := .pending })
        (fun _ => rfl) c.clients
    · exact h

theorem Linked.probe (h : c.Linked) (src : MacAddr) (ptr : ℕ) : (c.probe src ptr).Linked := by
  unfold ClientSide.probe
  refine h.congr ?_ (c.enque_links _)
  unfold joinedIds
  rw [enque_eq]

/-- A link down is sent for an entry, which is removed: it has to be joined. -/
theorem Linked.timeout (h : c.Linked) (hmem : ∃ cl ∈ c.clients, cl.id = d) :
    ((c.timeout d).clients.map (·.id)).Nodup ∧ ((c.timeout d).Alternating ↔ c.Joined d) := by
  unfold ClientSide.timeout
  cases hfind : c.clients.find? (·.id = d) with
  | none =>
    obtain ⟨cl, hcl, hid⟩ := hmem
    exact (List.find?_eq_none.1 hfind cl hcl (by simpa using hid)).elim
  | some cl =>
    have hid : cl.id = d := id_of_find? hfind
    refine ⟨h.ids.sublist (List.eraseP_sublist.map _), ?_⟩
    let t : ClientSide :=
      { c with links := c.links ++ [.linkDown d], clients := c.clients.eraseP (·.id = d) }
    have hjoined : ∀ d', t.Joined d' ↔ c.Joined d' ∧ d' ≠ cl.id := h.joined_eraseP hfind rfl
    have hevent : t.linkEvents d = c.linkEvents d ++ [false] := by
      simp [t, linkEvents, linkEvent]
    rw [h.alternating_of_event hevent fun d' hd => ⟨?_, ?_⟩]
    · rw [hjoined d]
      simp [hid]
    · simp [t, linkEvents, linkEvent, hd.symm]
    · rw [hjoined d']
      exact and_iff_left (hid ▸ hd)

end ClientSide

namespace Transmitter

variable {s : Transmitter} {e : Event} {n : ℕ}

/-- The link events that are sent for a station. -/
def linkEvents (s : Transmitter) (d : MacAddr) : List Bool := s.log.filterMap (linkEvent d)

/-- The station has an entry for which some response has been acknowledged. -/
def Joined (s : Transmitter) (d : MacAddr) : Prop := ∃ c ∈ s.clients, c.id = d ∧ c.joined = true

/-- The link events of every station alternate, beginning with a link up, and the last one is a link
up exactly when the station has an entry for which some response has been acknowledged. -/
def Alternating (s : Transmitter) : Prop :=
  ∀ d, Alternates (s.linkEvents d) ∧ (last (s.linkEvents d) = true ↔ s.Joined d)

/-- The first response to an entry is the only one that is acknowledged, no other entry goes with a
dropped frame than one without an acknowledged response, and no other's timer expires than one
with. -/
def Regular (s : Transmitter) : Event → Prop
  | .recvEnd f _ => f = .ack → s.Handles → s.ManagementAnswered → s.clientSide.AnsweredOnce
  | .sendExpires => s.ManagementExpires → s.clientSide.DropsUnjoined s.ssrc
  | .clientExpires d => s.Joined d
  | _ => True

instance (s : Transmitter) : ∀ e, Decidable (s.Regular e)
  | .recvEnd f _ => inferInstanceAs (Decidable (f = .ack → s.Handles → s.ManagementAnswered →
      s.clientSide.AnsweredOnce))
  | .sendExpires =>
    inferInstanceAs (Decidable (s.ManagementExpires → s.clientSide.DropsUnjoined s.ssrc))
  | .clientExpires d => inferInstanceAs (Decidable (∃ c ∈ s.clients, c.id = d ∧ c.joined = true))
  | .arrive _ => isTrue trivial
  | .deferExpires => isTrue trivial
  | .backoffExpires => isTrue trivial
  | .ifExpires => isTrue trivial
  | .navExpires => isTrue trivial
  | .navLapses => isTrue trivial
  | .recvStart _ => isTrue trivial
  | .linkConnect _ _ => isTrue trivial
  | .linkDisconnect => isTrue trivial
  | .linkScan _ => isTrue trivial
  | .nextScan _ => isTrue trivial
  | .probeExpires _ _ => isTrue trivial
  | .beaconExpires => isTrue trivial

end Transmitter

end SipNemo.Mac
