import SipNemo.Mih.Frames

/-!
# The records of peers

`peer_mihfs_` as capability discovery fills it.  `Discovery` keeps, beside the agent, what its
peers have announced, the latest first.  The records are current when they have different ids and
the lookup of each id gives the latest announcement from it.

`recv_cap_disc_rsp` replaces the record of a known peer.  `recv_cap_disc_req` always appends one, so
the records stay current exactly as long as requests come from peers without a record
(`recordsCurrent_iff`).
-/

namespace SipNemo.Mih

open Runs FirstMatch

/-- What a capability discovery message announces about its sender. -/
def MihPacket.announcement (p : MihPacket) : Option (BitVec 32 × Addr × CapDisc) :=
  match p.mihh.payload with
  | .capDiscReq m | .capDiscRsp m => some (p.mihh.mihfId, p.iph.saddr, m)
  | _ => none

namespace MIHAgent

/-- What a step announces to the agent. -/
def Step.announcement : Step → Option (BitVec 32 × Addr × CapDisc)
  | .recv p _ => p.announcement
  | _ => none

/-- The announcements the records hold, in the order of `peer_mihfs_`. -/
def announcements (s : MIHAgent) : List (BitVec 32 × Addr × CapDisc) :=
  s.peerMihfs.map fun m => (s.mihf m).announced

variable {s s' : MIHAgent} {out : List Output} {i : Step} {p : MihPacket} {m : CapDisc}
  {a : BitVec 32 × Addr × CapDisc} {id : BitVec 32}

/-- The lookup of a record, as a lookup of its announcement. -/
theorem map_getMihfInfo (s : MIHAgent) (id : BitVec 32) :
    (s.getMihfInfo id).map (fun m => (s.mihf m).announced) =
      s.announcements.find? fun a => a.1 = id := by
  rw [announcements, List.find?_map]
  rfl

theorem getMihfInfo_eq_none :
    s.getMihfInfo id = none ↔ ∀ a ∈ s.announcements, a.1 ≠ id := by
  rw [← Option.map_eq_none_iff (f := fun m => (s.mihf m).announced), map_getMihfInfo,
    List.find?_eq_none]
  simp

/-- The records are references that have been handed out, with different ids. -/
structure PeersOk (s : MIHAgent) : Prop where
  lt_next : ∀ m ∈ s.peerMihfs, m < s.nextMihf
  unique : (s.announcements.map Prod.fst).Nodup

/-! ### The two handlers -/

/-- A new record comes last. -/
theorem announcements_pushMihf (hs : ∀ m ∈ s.peerMihfs, m < s.nextMihf) (info : MihfInfo) :
    (s.pushMihf info).announcements = s.announcements ++ [info.announced] := by
  simp only [announcements, pushMihf, List.map_append, List.map_cons, List.map_nil,
    Function.update_self]
  congr 1
  refine List.map_congr_left fun m hm => ?_
  rw [Function.update_of_ne (hs m hm).ne]

theorem lt_next_pushMihf (hs : ∀ m ∈ s.peerMihfs, m < s.nextMihf) (info : MihfInfo) :
    ∀ m ∈ (s.pushMihf info).peerMihfs, m < (s.pushMihf info).nextMihf := by
  intro m hm
  rcases List.mem_append.1 hm with hm | hm
  · exact (hs m hm).trans (Nat.lt_succ_self _)
  · obtain rfl := List.mem_singleton.1 hm
    exact Nat.lt_succ_self _

/-- The record that is found under an id is replaced. -/
theorem announcements_modifyMihf (hs : s.PeersOk) {r : MihfRef} {f : MihfInfo → MihfInfo}
    (hr : s.getMihfInfo a.1 = some r) (hf : (f (s.mihf r)).announced = a) :
    (s.modifyMihf r f).announcements = upsert Prod.fst a s.announcements := by
  have hid : (s.mihf r).id = a.1 := by simpa using List.find?_some hr
  have hunique : (s.peerMihfs.map fun m => ((s.mihf m).announced).1).Nodup := by
    have h := hs.unique
    rwa [announcements, List.map_map] at h
  have hwrite : (s.modifyMihf r f).announcements =
      s.peerMihfs.map (Function.update (fun m => (s.mihf m).announced) r a) := by
    refine List.map_congr_left fun x _ => ?_
    by_cases hx : x = r
    · subst hx
      simpa [modifyMihf] using hf
    · simp [modifyMihf, hx]
  rw [hwrite]
  exact map_update_eq_upsert hunique (List.mem_of_find?_eq_some hr) hid

/-- A response replaces the record of its sender, or appends one. -/
theorem announcements_recordPeer (hs : s.PeersOk) :
    (s.recordPeer p m).announcements =
      upsert Prod.fst (p.mihh.mihfId, p.iph.saddr, m) s.announcements := by
  simp only [recordPeer]
  split
  next r hr => exact announcements_modifyMihf hs hr rfl
  next hnone =>
    rw [announcements_pushMihf hs.lt_next, upsert_of_forall_ne (getMihfInfo_eq_none.1 hnone)]
    rfl

theorem peersOk_recordPeer (hs : s.PeersOk) : (s.recordPeer p m).PeersOk where
  lt_next := by
    simp only [recordPeer]
    split
    · exact hs.lt_next
    · exact lt_next_pushMihf hs.lt_next _
  unique := by
    rw [announcements_recordPeer hs]
    exact nodup_map_upsert hs.unique

/-- A request appends a record, whatever records there are. -/
theorem announcements_recvCapDiscReq (hs : s.PeersOk)
    (h : s.recvCapDiscReq p m = .ok (s', out)) :
    s'.announcements = s.announcements ++ [(p.mihh.mihfId, p.iph.saddr, m)] := by
  obtain rfl := (Prod.mk.inj (Except.ok.inj h)).1
  exact announcements_pushMihf hs.lt_next _

/-- From a peer without a record, that is what a response does. -/
theorem recvCapDiscReq_upsert (hs : s.PeersOk) (hnew : s.getMihfInfo p.mihh.mihfId = none)
    (h : s.recvCapDiscReq p m = .ok (s', out)) :
    s'.announcements = upsert Prod.fst (p.mihh.mihfId, p.iph.saddr, m) s.announcements := by
  rw [announcements_recvCapDiscReq hs h, upsert_of_forall_ne (getMihfInfo_eq_none.1 hnew)]

theorem PeersOk.of_recvCapDiscReq (hs : s.PeersOk) (hnew : s.getMihfInfo p.mihh.mihfId = none)
    (h : s.recvCapDiscReq p m = .ok (s', out)) : s'.PeersOk where
  lt_next := by
    obtain rfl := (Prod.mk.inj (Except.ok.inj h)).1
    exact lt_next_pushMihf hs.lt_next _
  unique := by
    rw [recvCapDiscReq_upsert hs hnew h]
    exact nodup_map_upsert hs.unique

/-! ### The other steps -/

/-- The peer records, but for their sessions, are the same. -/
structure SamePeers (s s' : MIHAgent) : Prop where
  peerMihfs : s'.peerMihfs = s.peerMihfs
  nextMihf : s'.nextMihf = s.nextMihf
  announced : ∀ m, (s'.mihf m).announced = (s.mihf m).announced

theorem Frame.samePeers (h : Frame s s') : SamePeers s s' :=
  ⟨h.peerMihfs, h.nextMihf, h.announced⟩

theorem SamePeers.announcements (h : SamePeers s s') : s'.announcements = s.announcements := by
  simp only [MIHAgent.announcements, h.peerMihfs, h.announced]

theorem SamePeers.peersOk (h : SamePeers s s') (hs : s.PeersOk) : s'.PeersOk where
  lt_next := by
    rw [h.peerMihfs, h.nextMihf]
    exact hs.lt_next
  unique := by
    rw [h.announcements]
    exact hs.unique

/-- A step that announces nothing leaves the peer records alone. -/
theorem perform_samePeers (hi : i.announcement = none) (h : s.perform i = .ok (s', out)) :
    SamePeers s s' := by
  cases perform_effect h with
  | frame hframe => exact hframe.samePeers
  | addMac | localSubscribe | localUnsubscribe | localScan | scanResponse =>
    exact ⟨rfl, rfl, fun _ => rfl⟩
  | peers _ _ _ hp => rcases hp with hp | hp <;>
      simp [Step.announcement, MihPacket.announcement, hp] at hi
  | remoteScan _ h =>
    obtain ⟨session, scans, rfl⟩ := recvMihScanReq_ok h
    exact ⟨rfl, rfl, fun _ => rfl⟩

end MIHAgent

/-! ### Runs -/

/-- An agent, with the announcements its peers have made, the latest first. -/
structure Discovery where
  agent : MIHAgent
  heard : List (BitVec 32 × Addr × CapDisc)

namespace Discovery

open MIHAgent

variable {d d' : Discovery} {i : Step}

/-- A step of the agent. -/
def step (d : Discovery) (i : Step) : Act Discovery := do
  let agent ← d.agent.step i
  pure ⟨agent, i.announcement.toList ++ d.heard⟩

/-- The records have different ids, and the lookup of an id gives its latest announcement. -/
structure Current (d : Discovery) : Prop where
  unique : (d.agent.peerMihfs.map fun m => (d.agent.mihf m).id).Nodup
  latest : ∀ id, (d.agent.getMihfInfo id).map (fun m => (d.agent.mihf m).announced) =
    d.heard.find? fun a => a.1 = id

/-- A capability discovery request comes from a peer without a record. -/
def FirstContact (d : Discovery) : Step → Prop
  | .recv p _ =>
    match p.mihh.payload with
    | .capDiscReq _ => d.agent.getMihfInfo p.mihh.mihfId = none
    | _ => True
  | _ => True

/-- The references are in order, and each id has in the records what it has announced last. -/
structure Tracked (d : Discovery) : Prop where
  peers : d.agent.PeersOk
  latest : ∀ id, d.agent.announcements.find? (fun a => a.1 = id) =
    d.heard.find? fun a => a.1 = id

theorem Tracked.current (h : Tracked d) : Current d where
  unique := by
    have hunique := h.peers.unique
    rwa [announcements, List.map_map] at hunique
  latest id := by rw [map_getMihfInfo, h.latest]

/-- An announcement that has been entered in the records is the latest one. -/
theorem Tracked.announce {s' : MIHAgent} {a : BitVec 32 × Addr × CapDisc} (h : Tracked d)
    (hs' : s'.PeersOk) (ha : s'.announcements = upsert Prod.fst a d.agent.announcements) :
    Tracked ⟨s', a :: d.heard⟩ where
  peers := hs'
  latest id := by
    rw [ha, find?_upsert, List.find?_cons, h.latest]
    by_cases hid : a.1 = id <;> simp [hid]

theorem step_ok (h : d.step i = .ok d') :
    ∃ out, d.agent.perform i = .ok (d'.agent, out) ∧
      d'.heard = i.announcement.toList ++ d.heard := by
  obtain ⟨s', hs', h⟩ := Runs.bind_ok_iff.1 h
  obtain ⟨⟨t, out⟩, ht, rfl⟩ := Runs.map_ok_iff.1 hs'
  obtain rfl := Except.ok.inj h
  exact ⟨out, ht, rfl⟩

theorem tracked_step (hd : Tracked d) (hi : FirstContact d i) (h : d.step i = .ok d') :
    Tracked d' := by
  obtain ⟨out, hs', hheard⟩ := step_ok h
  obtain ⟨s', heard⟩ := d'
  subst hheard
  cases ha : i.announcement with
  | none =>
    have hsame := perform_samePeers ha hs'
    refine ⟨hsame.peersOk hd.peers, fun id => ?_⟩
    rw [hsame.announcements]
    exact hd.latest id
  | some a =>
    cases i with
    | recv p junk =>
      cases hpayload : p.mihh.payload <;>
        simp only [Step.announcement, MihPacket.announcement, hpayload, reduceCtorEq,
          Option.some.injEq] at ha
      case capDiscReq m =>
        subst ha
        have hnew : d.agent.getMihfInfo p.mihh.mihfId = none := by
          simpa [FirstContact, hpayload] using hi
        simp only [perform, recv, hpayload] at hs'
        exact hd.announce (hd.peers.of_recvCapDiscReq hnew hs')
          (recvCapDiscReq_upsert hd.peers hnew hs')
      case capDiscRsp m =>
        subst ha
        simp only [perform, recv, hpayload] at hs'
        obtain ⟨mac, -, hs'⟩ := Runs.bind_ok_iff.1 hs'
        have hsame := (frame_confirm hs').samePeers
        refine hd.announce (hsame.peersOk (peersOk_recordPeer hd.peers)) ?_
        rw [hsame.announcements, announcements_recordPeer hd.peers]
    | _ => cases ha

/-- A request from a peer that has a record leaves it with two. -/
theorem step_of_known (hd : Tracked d) (hi : ¬ FirstContact d i) :
    ∃ d', d.step i = .ok d' ∧ ¬ Current d' := by
  cases i with
  | recv p junk =>
    cases hpayload : p.mihh.payload <;> simp only [FirstContact, hpayload, not_true_eq_false] at hi
    case capDiscReq m =>
      obtain ⟨r, hr⟩ := Option.ne_none_iff_exists'.1 hi
      have hrecv : d.agent.perform (.recv p junk) = d.agent.recvCapDiscReq p m := by
        simp only [perform, recv, hpayload]
      obtain ⟨⟨s', out⟩, hs'⟩ : ∃ res, d.agent.recvCapDiscReq p m = .ok res := ⟨_, rfl⟩
      refine ⟨⟨s', [(p.mihh.mihfId, p.iph.saddr, m)] ++ d.heard⟩, ?_, fun hcur => ?_⟩
      · simp [step, MIHAgent.step, hrecv, hs', Step.announcement, MihPacket.announcement, hpayload]
      · have hunique : (s'.announcements.map Prod.fst).Nodup := by
          rw [announcements, List.map_map]
          exact hcur.unique
        rw [announcements_recvCapDiscReq hd.peers hs', List.map_append] at hunique
        -- the old record has the same id
        have hold : p.mihh.mihfId ∈ d.agent.announcements.map Prod.fst := by
          have hid : (d.agent.mihf r).id = p.mihh.mihfId := by simpa using List.find?_some hr
          exact List.mem_map.2 ⟨_, List.mem_map_of_mem (List.mem_of_find?_eq_some hr), hid⟩
        exact (List.nodup_append.1 hunique).2.2 _ hold _ List.mem_cons_self rfl
  | _ => exact absurd trivial hi

/-- An agent that has no records and has heard nothing. -/
theorem tracked_start (s : MIHAgent) (h : s.peerMihfs = []) : Tracked ⟨s, []⟩ := by
  have hnil : s.announcements = [] := by rw [announcements, h, List.map_nil]
  refine ⟨⟨?_, ?_⟩, fun id => ?_⟩
  · simp [h]
  · simp [hnil]
  · simp [hnil]

/-- From an agent without records on, the records are current throughout a run if and only if no
capability discovery request of the run comes from a peer that has a record. -/
theorem recordsCurrent_iff (s : MIHAgent) (h : s.peerMihfs = []) (is : List Step) :
    Throughout step Current ⟨s, []⟩ is ↔ StepsMeet step FirstContact ⟨s, []⟩ is := by
  refine throughout_iff_of_any (I := Tracked) ?_ (fun _ => Tracked.current) ?_
    (tracked_start s h) is
  · exact fun _ _ _ hd hi hstep => tracked_step hd hi hstep
  · exact fun _ _ hd hi => step_of_known hd hi

/-! ### A peer that comes back with a new address -/

/-- An agent that has no records yet. -/
def loneAgent : MIHAgent := { sampleAgent 0x202 with peerMihfs := [], nextMihf := 0 }

/-- A request of a peer, from the given address. -/
def discovery (mihfId : BitVec 32) (saddr : Addr) : Step :=
  .recv ⟨{ saddr := saddr }, { mihfId := mihfId, payload := .capDiscReq ⟨0x1FF, 0, 0x202, 0⟩ }⟩ 0

/-- Two peers announce themselves, and one answers a request of the agent from a new address. -/
def peersMove : List Step :=
  [discovery 2 20, discovery 3 30, .capDiscReq (some 0) (some sampleMac),
    .recv ⟨{ saddr := 40, daddr := 10 },
      { mihfId := 2, payload := .capDiscRsp ⟨0x1FF, 0, 0x202, 0⟩ }⟩ 0]

theorem recordsCurrent_peersMove :
    (∃ d, runSteps step ⟨loneAgent, []⟩ peersMove = .ok d ∧
      d.agent.peerMihfs.map (fun m => ((d.agent.mihf m).id, (d.agent.mihf m).address)) =
        [(2, 40), (3, 30)]) ∧ Throughout step Current ⟨loneAgent, []⟩ peersMove := by
  refine ⟨⟨_, rfl, by decide⟩, (recordsCurrent_iff loneAgent rfl peersMove).2 ?_⟩
  refine .cons rfl rfl (.cons rfl rfl (.cons trivial rfl ⟨trivial, fun _ _ => trivial⟩))

/-- A second request, from the address 30: there are two records, and the lookup gives the
first. -/
theorem second_request_appends :
    ∃ d, runSteps step ⟨loneAgent, []⟩ [discovery 2 20, discovery 2 30] = .ok d ∧
      (d.agent.peerMihfs.map fun m => (d.agent.mihf m).id) = [2, 2] ∧
      (d.agent.getMihfInfo 2).map (fun m => (d.agent.mihf m).address) = some 20 ∧
      (d.heard.find? fun a => a.1 = 2).map (fun a => a.2.1) = some 30 ∧ ¬ Current d :=
  ⟨_, rfl, by decide, by decide, by decide, fun h => absurd h.unique (by decide)⟩

end Discovery

end SipNemo.Mih
