import SipNemo.Mac.Exchange

/-!
# The list of clients

An entry of `list_client_head_` and the response to its station live in two structures.  As long as
no entry is removed while its response is outstanding, each outstanding response has its entry
(`Listed`), and the acknowledgement of a response finds it.
-/

namespace SipNemo.Mac

open FirstMatch Outcome Runs
open Mih (MacAddr)

namespace ClientSide

variable {c : ClientSide} {m : MgmtFrame} {ptr : ℕ} {src d : MacAddr}

/-- The management frames that are outstanding, the one to be sent first. -/
def frames (c : ClientSide) : List MgmtFrame := c.pktManagement.toList ++ c.managementQueue

/-- The response in `m` is the pending packet of the first entry that holds its address. -/
def Awaited (c : ClientSide) (m : MgmtFrame) : Prop :=
  ∃ cl, c.clients.find? (·.pkt = m.ptr) = some cl ∧ cl.id = m.ra ∧ cl.status = .pending

/-- Every outstanding response has its entry. -/
structure Listed (c : ClientSide) : Prop where
  queue : c.pktManagement = none → c.managementQueue = []
  ids : (c.clients.map (·.id)).Nodup
  ptrs : (c.frames.map (·.ptr)).Nodup
  kinds : ∀ m ∈ c.frames, m.subtype ≠ .assocReq
  awaited : ∀ m ∈ c.frames, m.subtype = .assocRes → c.Awaited m

/-! ### The frames -/

theorem frames_enque (hqueue : c.pktManagement = none → c.managementQueue = []) (m : MgmtFrame) :
    (c.enque m).frames = c.frames ++ [m] := by
  unfold enque frames
  split_ifs with hnone
  · simp [hnone, hqueue hnone]
  · simp

theorem frames_of_some (h : c.pktManagement = some m) : c.frames = m :: c.managementQueue := by
  simp [frames, h]

theorem frames_deque (h : c.pktManagement = some m) : c.frames = m :: c.deque.frames := by
  rw [frames_of_some h]
  unfold frames deque
  cases c.managementQueue with
  | nil => rfl
  | cons m' q => rfl

theorem enque_eq (c : ClientSide) (m : MgmtFrame) :
    c.enque m = { c.enque m with clients := c.clients } := by
  unfold enque
  split_ifs
  · rfl
  · rfl

theorem pkt_of_find? {clients : List Client} {cl : Client}
    (h : clients.find? (·.pkt = ptr) = some cl) : cl.pkt = ptr := by
  simpa using List.find?_some h

theorem id_of_find? {clients : List Client} {cl : Client}
    (h : clients.find? (·.id = d) = some cl) : cl.id = d := by
  simpa using List.find?_some h

theorem not_mem_of_find? {clients : List Client} (h : clients.find? (·.id = d) = none) :
    d ∉ clients.map (·.id) := by
  intro hmem
  obtain ⟨cl, hcl, hid⟩ := List.mem_map.1 hmem
  exact List.find?_eq_none.1 h cl hcl (by simpa using hid)

/-! ### What the operations do to the list -/

/-- A new frame, with the clients after it. -/
theorem Listed.enque (h : c.Listed) (hptr : ∀ m' ∈ c.frames, m'.ptr ≠ m.ptr)
    (hkind : m.subtype ≠ .assocReq) {clients : List Client} (hids : (clients.map (·.id)).Nodup)
    (hawaited : ∀ m' ∈ c.frames ++ [m], m'.subtype = .assocRes →
      ∃ cl, clients.find? (·.pkt = m'.ptr) = some cl ∧ cl.id = m'.ra ∧ cl.status = .pending) :
    { c.enque m with clients := clients }.Listed := by
  have hframes : { c.enque m with clients := clients }.frames = c.frames ++ [m] :=
    frames_enque h.queue m
  refine ⟨?_, hids, ?_, ?_, ?_⟩
  · unfold ClientSide.enque
    split_ifs with hnone
    · simp
    · exact fun hno => (hnone hno).elim
  · rw [hframes, List.map_append, List.nodup_append]
    refine ⟨h.ptrs, by simp, ?_⟩
    rintro p hp p' hp' rfl
    obtain ⟨m', hm', hsame⟩ := List.mem_map.1 hp
    exact hptr m' hm' (hsame.trans (by simpa using hp'))
  · rw [hframes]
    intro m' hm'
    rcases List.mem_append.1 hm' with hold | hnew
    · exact h.kinds m' hold
    · rwa [List.mem_singleton.1 hnew]
  · rw [hframes]
    exact hawaited

/-- The next frame, with the clients after the one that is done. -/
theorem Listed.deque (h : c.Listed) (hm : c.pktManagement = some m) {clients : List Client}
    {links : List TxOutput} (hids : (clients.map (·.id)).Nodup)
    (hawaited : ∀ m' ∈ c.deque.frames, m'.ptr ≠ m.ptr → m'.subtype = .assocRes →
      ∃ cl, clients.find? (·.pkt = m'.ptr) = some cl ∧ cl.id = m'.ra ∧ cl.status = .pending) :
    { c.deque with clients := clients, links := links }.Listed := by
  have hframes := frames_deque hm
  have hptrs : (m.ptr :: c.deque.frames.map (·.ptr)).Nodup := by
    have hall := h.ptrs
    rwa [hframes] at hall
  obtain ⟨hnew, hrest⟩ := List.nodup_cons.1 hptrs
  have hmem : ∀ m' ∈ c.deque.frames, m' ∈ c.frames := fun m' hm' => by
    rw [hframes]
    exact List.mem_cons_of_mem m hm'
  refine ⟨?_, hids, hrest, fun m' hm' => h.kinds m' (hmem m' hm'), fun m' hm' hres => ?_⟩
  · intro hnone
    have hnil : c.managementQueue = [] := List.head?_eq_none_iff.1 hnone
    simp [ClientSide.deque, hnil]
  · exact hawaited m' hm' (fun heq => hnew (heq ▸ List.mem_map_of_mem hm')) hres

theorem Listed.awaited_deque (h : c.Listed) (hm : c.pktManagement = some m) {m' : MgmtFrame}
    (hm' : m' ∈ c.deque.frames) (hres : m'.subtype = .assocRes) : c.Awaited m' := by
  refine h.awaited m' ?_ hres
  rw [frames_deque hm]
  exact List.mem_cons_of_mem m hm'

/-- A frame is dropped, with the entry that holds its address. -/
theorem Listed.giveUp (h : c.Listed) (hm : c.pktManagement = some m) : (c.giveUp m).Listed := by
  have hkind := h.kinds m (by simp [frames_of_some hm])
  unfold ClientSide.giveUp
  dsimp only
  rw [if_neg hkind]
  refine h.deque hm (h.ids.sublist ((List.eraseP_sublist).map _)) fun m' hm' hne hres => ?_
  obtain ⟨cl, hfind, hcl⟩ := h.awaited_deque hm hm' hres
  refine ⟨cl, ?_, hcl⟩
  exact find?_eraseP_of_ne hfind (decide_eq_false (pkt_of_find? hfind ▸ hne))

theorem Listed.unanswered (h : c.Listed) (ssrc : ℕ) : (c.unanswered ssrc).Listed := by
  unfold ClientSide.unanswered
  split
  · exact h
  · rename_i m hm
    split_ifs
    · exact h.deque hm h.ids fun m' hm' _ hres => h.awaited_deque hm hm' hres
    · exact h.giveUp hm
    · exact h

/-- The entries after the acknowledgement of a response. -/
theorem associate_clients (c : ClientSide) (m : MgmtFrame) (cl : Client) :
    (c.associate m cl).clients =
      (updateFirst (·.pkt = m.ptr) (fun cl => { cl with status := .associated }) c.clients).map
        fun cl => if cl.id = m.ra then { cl with joined := true } else cl := by
  unfold associate
  dsimp only
  split_ifs
  · rfl
  · rfl

/-- What only `joined` differs in. -/
theorem map_join {β : Type*} {g : Client → β} (hg : ∀ cl, g { cl with joined := true } = g cl)
    (d : MacAddr) (clients : List Client) :
    (clients.map fun cl => if cl.id = d then { cl with joined := true } else cl).map g =
      clients.map g := by
  rw [List.map_map]
  refine List.map_congr_left fun cl _ => ?_
  dsimp only [Function.comp]
  split_ifs
  · exact hg cl
  · rfl

theorem associate_ids (c : ClientSide) (m : MgmtFrame) (cl : Client) :
    (c.associate m cl).clients.map (·.id) = c.clients.map (·.id) := by
  rw [associate_clients, map_join fun _ => rfl]
  exact map_updateFirst (f := fun cl : Client => { cl with status := .associated })
    (fun _ => rfl) c.clients

theorem associate_deque (c : ClientSide) (m : MgmtFrame) (cl : Client) :
    (c.associate m cl).deque = { c.deque with
      clients := (c.associate m cl).clients
      links := (c.associate m cl).links } := by
  unfold associate
  dsimp only
  split_ifs
  · rfl
  · rfl

/-- An entry is found again by its packet, and all but `joined` is as it was. -/
theorem find?_join {q : Client → Bool} (hq : ∀ cl, q { cl with joined := true } = q cl)
    (d : MacAddr) {clients : List Client} {cl : Client} (h : clients.find? q = some cl) :
    ∃ cl', (clients.map fun cl => if cl.id = d then { cl with joined := true } else cl).find? q =
      some cl' ∧ cl'.id = cl.id ∧ cl'.pkt = cl.pkt ∧ cl'.status = cl.status := by
  have hcomp : q ∘ (fun cl => if cl.id = d then { cl with joined := true } else cl) = q := by
    funext a
    dsimp only [Function.comp]
    split_ifs
    · exact hq a
    · rfl
  rw [List.find?_map, hcomp, h]
  refine ⟨_, rfl, ?_⟩
  dsimp only
  split_ifs
  · exact ⟨rfl, rfl, rfl⟩
  · exact ⟨rfl, rfl, rfl⟩

/-- A response is acknowledged: the entries of the others stay. -/
theorem Listed.acknowledged (h : c.Listed) : c.acknowledged.Listed := by
  unfold ClientSide.acknowledged
  split
  · exact h
  rename_i m hm
  split_ifs with hres
  · obtain ⟨cl, hfind, -⟩ := h.awaited m (by simp [frames_of_some hm]) hres
    rw [hfind]
    dsimp only
    rw [associate_deque]
    have hids : ((c.associate m cl).clients.map (·.id)).Nodup := by
      rw [associate_ids]
      exact h.ids
    refine h.deque hm hids fun m' hm' hne hres' => ?_
    obtain ⟨cl', hfind', hid, hstatus⟩ := h.awaited_deque hm hm' hres'
    have hkept : (updateFirst (·.pkt = m.ptr) (fun cl => { cl with status := .associated })
        c.clients).find? (·.pkt = m'.ptr) = some cl' := by
      rw [find?_updateFirst_of_disjoint, hfind']
      intro a _ ha
      have hne' : a.pkt ≠ m'.ptr := of_decide_eq_true ha ▸ hne.symm
      exact ⟨decide_eq_false hne', decide_eq_false hne'⟩
    obtain ⟨a, ha, haid, -, hastatus⟩ := find?_join (fun _ => rfl) m.ra hkept
    rw [associate_clients]
    exact ⟨a, ha, haid.trans hid, hastatus.trans hstatus⟩
  · exact h.deque hm h.ids fun m' hm' _ hres => h.awaited_deque hm hm' hres

/-- What the acknowledgement of a response comes to for its station. -/
theorem Listed.acknowledged_station (h : c.Listed) (hm : c.pktManagement = some m)
    (hres : m.subtype = .assocRes) :
    ∃ cl, c.clients.filter (·.id = m.ra) = [cl] ∧ cl.pkt = m.ptr ∧
      c.clients.find? (·.pkt = m.ptr) = some cl ∧
        ∃ cl', c.acknowledged.clients.filter (·.id = m.ra) = [cl'] ∧ cl'.status = .associated := by
  obtain ⟨cl, hfind, hid, -⟩ := h.awaited m (by simp [frames_of_some hm]) hres
  have hmem := List.mem_of_find?_eq_some hfind
  refine ⟨cl, hid ▸ filter_key_eq_singleton h.ids hmem, pkt_of_find? hfind, hfind, ?_⟩
  have hack : c.acknowledged = (c.associate m cl).deque := by
    unfold ClientSide.acknowledged
    rw [hm]
    simp [hres, hfind]
  have hfound : (updateFirst (·.pkt = m.ptr) (fun cl => { cl with status := .associated })
      c.clients).find? (·.pkt = m.ptr) = some { cl with status := .associated } := by
    rw [find?_updateFirst_self (f := fun cl : Client => { cl with status := .associated })
      (fun _ => rfl), hfind]
    rfl
  obtain ⟨cl', hfind', hid', -, hstatus⟩ := find?_join (fun _ => rfl) m.ra hfound
  rw [← associate_clients c m cl] at hfind'
  refine ⟨cl', ?_, hstatus⟩
  have hids : (c.acknowledged.clients.map (·.id)).Nodup := h.acknowledged.ids
  rw [hack] at hids ⊢
  have hmem' : cl' ∈ (c.associate m cl).deque.clients := List.mem_of_find?_eq_some hfind'
  have hkey : cl'.id = m.ra := hid'.trans hid
  exact hkey ▸ filter_key_eq_singleton hids hmem'

/-- The station has an entry, and no response is outstanding. -/
def Reassociates (c : ClientSide) (src : MacAddr) : Prop :=
  ∃ cl, c.clients.find? (·.id = src) = some cl ∧ cl.status = .associated

/-- A response with a new address, unless an entry before the station's holds that. -/
theorem Listed.admitClient (h : c.Listed) (hptr : ∀ m ∈ c.frames, m.ptr ≠ ptr)
    (hbefore : c.Reassociates src → ∀ cl ∈ c.clients.takeWhile (·.id ≠ src), cl.pkt ≠ ptr) :
    (c.admitClient src ptr).Listed := by
  unfold ClientSide.admitClient
  dsimp only
  split
  · rename_i hnone
    refine h.enque hptr (by simp) ?_ fun m' hm' hres => ?_
    · exact List.nodup_cons.2 ⟨not_mem_of_find? hnone, h.ids⟩
    · rcases List.mem_append.1 hm' with hold | hnew
      · obtain ⟨cl, hfind, hcl⟩ := h.awaited m' hold hres
        refine ⟨cl, ?_, hcl⟩
        simpa [(hptr m' hold).symm] using hfind
      · rw [List.mem_singleton.1 hnew]
        exact ⟨{ id := src, pkt := ptr, status := .pending }, by simp, rfl, rfl⟩
  · rename_i cl hcl
    split_ifs with hassoc
    · have hid : cl.id = src := id_of_find? hcl
      refine h.enque hptr (by simp) ?_ fun m' hm' hres => ?_
      · rw [map_updateFirst (f := fun cl : Client => { cl with pkt := ptr, status := .pending })
          (fun _ => rfl)]
        exact h.ids
      · rcases List.mem_append.1 hm' with hold | hnew
        · obtain ⟨cl', hfind, hcl'⟩ := h.awaited m' hold hres
          refine ⟨cl', ?_, hcl'⟩
          refine find?_updateFirst_of_ne hfind ?_ fun _ => decide_eq_false (hptr m' hold).symm
          -- the entry of the station is associated, that of the response is not
          refine decide_eq_false fun hsame => ?_
          have hboth : cl' = cl := by
            refine List.inj_on_of_nodup_map h.ids ?_ ?_ (hsame.trans hid.symm)
            · exact List.mem_of_find?_eq_some hfind
            · exact List.mem_of_find?_eq_some hcl
          rw [hboth, hassoc] at hcl'
          cases hcl'.2
        · rw [List.mem_singleton.1 hnew]
          refine ⟨_, find?_updateFirst_of_before hcl (by simp) fun a ha => ?_, hid, rfl⟩
          refine decide_eq_false (hbefore ⟨cl, hcl, hassoc⟩ a ?_)
          simpa using ha
    · exact h

theorem Listed.probe (h : c.Listed) (hptr : ∀ m ∈ c.frames, m.ptr ≠ ptr) :
    (c.probe src ptr).Listed := by
  unfold ClientSide.probe
  rw [enque_eq]
  refine h.enque (fun m hm => hptr m hm) (by simp) h.ids
    fun m' hm' hres => ?_
  rcases List.mem_append.1 hm' with hold | hnew
  · exact h.awaited m' hold hres
  · rw [List.mem_singleton.1 hnew] at hres
    cases hres

/-- The timer of a client expires while no response to it is outstanding. -/
theorem Listed.timeout (h : c.Listed)
    (hnone : ∀ m ∈ c.frames, m.subtype = .assocRes → m.ra ≠ d) : (c.timeout d).Listed := by
  unfold ClientSide.timeout
  split
  · exact h
  · refine { h with ids := h.ids.sublist (List.eraseP_sublist.map _), awaited := ?_ }
    intro m hm hres
    obtain ⟨cl, hfind, hid, hstatus⟩ := h.awaited m hm hres
    refine ⟨cl, find?_eraseP_of_ne hfind ?_, hid, hstatus⟩
    exact decide_eq_false (hid ▸ hnone m hm hres)

end ClientSide

namespace Transmitter

variable {s : Transmitter} {e : Event} {n : ℕ}

/-- The address of the response to a request. -/
def Event.allocated : Event → Option ℕ
  | .recvEnd (.assocRequest _ ptr) _ => some ptr
  | .recvEnd (.probeRequest _ ptr) _ => some ptr
  | _ => none

/-- A new packet has the address of no management frame that is outstanding. -/
def Allocates (s : Transmitter) (e : Event) : Prop :=
  ∀ ptr ∈ e.allocated, ∀ m ∈ s.clientSide.frames, m.ptr ≠ ptr

instance (s : Transmitter) (e : Event) : Decidable (s.Allocates e) :=
  inferInstanceAs (Decidable (∀ _ ∈ _, _))

/-- The timer of a client expires only while no response to it is outstanding, and when a station
associates again no entry before its own holds the address of the new response. -/
def Orderly (s : Transmitter) : Event → Prop
  | .clientExpires d => ∀ m ∈ s.clientSide.frames, m.subtype = .assocRes → m.ra ≠ d
  | .recvEnd (.assocRequest src ptr) _ => s.Handles → s.pktCTRL = none →
      s.clientSide.Reassociates src → ∀ cl ∈ s.clients.takeWhile (·.id ≠ src), cl.pkt ≠ ptr
  | _ => True

/-- Every step of an access point that meets the condition keeps the list. -/
theorem after_listed (h : s.clientSide.Listed) (hptr : s.Allocates e) (hok : s.Orderly e) :
    (s.after e).Listed := by
  cases e with
  | sendExpires =>
    simp only [after, expired]
    split_ifs
    · exact h.unanswered s.ssrc
    · exact h
  | recvEnd f sets =>
    simp only [after]
    split_ifs with hhandles
    · cases f with
      | ack =>
        simp only [handled, answered]
        split_ifs
        · exact h.acknowledged
        · exact h
      | assocRequest src ptr =>
        simp only [handled, requested]
        split_ifs with hctrl
        · exact h
        · exact h.admitClient (hptr ptr rfl) (hok hhandles (Option.not_isSome_iff_eq_none.1 hctrl))
      | probeRequest src ptr => exact h.probe (hptr ptr rfl)
      | _ => exact h
    · exact h
  | clientExpires d => exact h.timeout hok
  | _ => exact h

/-- `recvACK` handles the acknowledgement of the association response `m`. -/
def AnswersResponse (s : Transmitter) (e : Event) (m : MgmtFrame) : Prop :=
  (∃ sets, e = .recvEnd .ack sets) ∧ s.Handles ∧ s.ManagementAnswered ∧
    s.pktManagement = some m ∧ m.subtype = .assocRes

/-- The station of the response has one entry, the response is its pending packet, the search of
`recvACK` does not fail, and the step leaves the entry associated. -/
structure Admitted (n : ℕ) (s : Transmitter) (e : Event) (m : MgmtFrame) : Prop where
  entry : ∃ c, s.clients.filter (·.id = m.ra) = [c] ∧ c.pkt = m.ptr
  found : ∃ t, s.responseAcknowledged m = .ok t
  associated : ∀ t, s.step n e = .ok t →
    ∃ c, t.clients.filter (·.id = m.ra) = [c] ∧ c.status = .associated

theorem admitted_of_listed (hap : s.ap = true) (he : s.Occurs e) (h : s.clientSide.Listed)
    {m : MgmtFrame} (hm : s.AnswersResponse e m) : s.Admitted n e m := by
  obtain ⟨⟨sets, rfl⟩, hhandles, hack, hmgmt, hres⟩ := hm
  obtain ⟨c, hentry, hpkt, hfind, c', hentry', hassoc⟩ := h.acknowledged_station hmgmt hres
  refine ⟨⟨c, hentry, hpkt⟩, ⟨s.associate m c, ?_⟩, fun t ht => ?_⟩
  · have hfind' : s.clients.find? (·.pkt = m.ptr) = some c := hfind
    unfold responseAcknowledged
    rw [hfind']
    rfl
  · have hside : t.clientSide = s.clientSide.acknowledged := by
      refine ((step_clientSide hap he).of_ok ht).trans ?_
      simp [after, handled, answered, hhandles, hack]
    refine ⟨c', ?_, hassoc⟩
    rw [← hside] at hentry'
    exact hentry'

/-- In a run of an access point whose steps all meet the condition, every association response that
is acknowledged belongs to a listed client. -/
theorem response_listed (mib : Mib) (n : ℕ) {es : List Event}
    (hoccurs : StepsMeet (step · n) Occurs { ap := true, mib := mib } es)
    (halloc : StepsMeet (step · n) Allocates { ap := true, mib := mib } es)
    (hok : StepsMeet (step · n) Orderly { ap := true, mib := mib } es) :
    StepsMeet (step · n) (fun s e => ∀ m, s.AnswersResponse e m → s.Admitted n e m)
      { ap := true, mib := mib } es := by
  have hnew : { ap := true, mib := mib : Transmitter }.clientSide.Listed :=
    ⟨fun _ => rfl, by simp [clientSide], by simp [clientSide, ClientSide.frames],
      by simp [clientSide, ClientSide.frames], by simp [clientSide, ClientSide.frames]⟩
  refine StepsMeet.imp (I := fun s => s.ap = true ∧ s.clientSide.Listed) ?_ ?_ ⟨rfl, hnew⟩
    ((hoccurs.and halloc).and hok)
  · rintro s e t ⟨hap, hlisted⟩ ⟨⟨he, hptr⟩, hok⟩ ht
    refine ⟨((s.step_ap e).of_ok ht).trans hap, ?_⟩
    rw [(step_clientSide hap he).of_ok ht]
    exact after_listed hlisted hptr hok
  · rintro s e ⟨hap, hlisted⟩ ⟨⟨he, -⟩, -⟩ m hm
    exact admitted_of_listed hap he hlisted hm

/-- A station asks for an association, and the response is sent. -/
def requests (d : MacAddr) (ptr : ℕ) : List Event :=
  receives (.assocRequest d ptr) ++
    [.deferExpires, .ifExpires, .sendExpires, .deferExpires, .backoffExpires, .ifExpires]

/-- A station associates. -/
def associates (d : MacAddr) (ptr : ℕ) : List Event :=
  requests d ptr ++ receives .ack ++ [.backoffExpires]

instance (c : ClientSide) (src : MacAddr) : Decidable (c.Reassociates src) :=
  match h : c.clients.find? (·.id = src) with
  | none => isFalse fun ⟨_, hcl, _⟩ => by rw [h] at hcl; cases hcl
  | some cl => decidable_of_iff (cl.status = .associated)
      ⟨fun hs => ⟨cl, h, hs⟩, fun ⟨_, hcl, hs⟩ => Option.some.inj (h.symm.trans hcl) ▸ hs⟩

instance (s : Transmitter) : ∀ e, Decidable (s.Orderly e)
  | .clientExpires d =>
    inferInstanceAs (Decidable (∀ m ∈ s.clientSide.frames, m.subtype = .assocRes → m.ra ≠ d))
  | .recvEnd (.assocRequest src ptr) _ =>
    inferInstanceAs (Decidable (s.Handles → s.pktCTRL = none → s.clientSide.Reassociates src →
      ∀ cl ∈ s.clients.takeWhile (·.id ≠ src), cl.pkt ≠ ptr))
  | .recvEnd (.probeRequest _ _) _ => isTrue trivial
  | .recvEnd .rts _ => isTrue trivial
  | .recvEnd .cts _ => isTrue trivial
  | .recvEnd .ack _ => isTrue trivial
  | .recvEnd (.data _) _ => isTrue trivial
  | .recvEnd .broadcast _ => isTrue trivial
  | .recvEnd (.assocResponse _) _ => isTrue trivial
  | .recvEnd .probeResponse _ => isTrue trivial
  | .recvEnd (.beacon _) _ => isTrue trivial
  | .recvEnd .dropped _ => isTrue trivial
  | .arrive _ => isTrue trivial
  | .deferExpires => isTrue trivial
  | .backoffExpires => isTrue trivial
  | .sendExpires => isTrue trivial
  | .ifExpires => isTrue trivial
  | .navExpires => isTrue trivial
  | .navLapses => isTrue trivial
  | .recvStart _ => isTrue trivial
  | .linkConnect _ _ => isTrue trivial
  | .linkDisconnect => isTrue trivial
  | .linkScan _ => isTrue trivial
  | .nextScan _ => isTrue trivial
  | .probeExpires _ _ => isTrue trivial
  | .beaconExpires => isTrue trivial

theorem response_listed_of_two :
    StepsMeet (step · 1) (fun s e => ∀ m, s.AnswersResponse e m → s.Admitted 1 e m)
      { ap := true, mib := sampleMib } (associates 1 10 ++ associates 2 11 ++ associates 1 12) :=
  response_listed sampleMib 1 (by decide +kernel) (by decide +kernel) (by decide +kernel)

/-- The timer of a client removes its entry while the response is sent: `assert(found)` fails.  And
a station that associates again is sent a response at the address of an older one, which the search
of `recvACK` finds in the entry of another station. -/
theorem response_unlisted :
    (∃ s, runSteps (step · 1) { ap := true, mib := sampleMib } (requests 1 10 ++ [.clientExpires 1,
          .recvStart (.received false)]) = .ok s ∧
      StepsMeet (step · 1) (fun s e => s.Occurs e ∧ s.Allocates e) { ap := true, mib := sampleMib }
        (requests 1 10 ++ [.clientExpires 1] ++ receives .ack) ∧
      ∃ m, s.AnswersResponse (.recvEnd .ack false) m ∧ s.clients = [] ∧
        s.step 1 (.recvEnd .ack false) = .error .assertion) ∧
    ∃ s, runSteps (step · 1) { ap := true, mib := sampleMib } (associates 1 10 ++ associates 2 11 ++
          requests 1 11 ++ [.recvStart (.received false)]) = .ok s ∧
      StepsMeet (step · 1) (fun s e => s.Occurs e ∧ s.Allocates e) { ap := true, mib := sampleMib }
        (associates 1 10 ++ associates 2 11 ++ requests 1 11 ++ receives .ack) ∧
      ∃ m, s.AnswersResponse (.recvEnd .ack false) m ∧ ¬ s.Admitted 1 (.recvEnd .ack false) m := by
  refine ⟨⟨_, rfl, by decide +kernel, _, ⟨⟨false, rfl⟩, ?_, ?_, rfl, rfl⟩, rfl, rfl⟩, _, rfl,
    by decide +kernel, _, ⟨⟨false, rfl⟩, ?_, ?_, rfl, rfl⟩, fun hadmitted => ?_⟩
  · decide +kernel
  · decide +kernel
  · decide +kernel
  · decide +kernel
  · obtain ⟨c, hc, hassoc⟩ := hadmitted.associated _ rfl
    cases hc
    cases hassoc

end Transmitter

end SipNemo.Mac
