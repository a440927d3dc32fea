import SipNemo.Mih.Dispatch

/-!
# Registration

The ids of sessions, and what the steps of a registration exchange do to the sessions of an agent.
Sessions come into being in `recv_reg_req` and `recv_reg_rsp` only; what else an exchange writes
(the pending request, the session of a peer record) leaves the sessions and the identities of the
peers as they are, which is `SameSessions`.
-/

namespace SipNemo.Mih

/-! ### The id of a session -/

/-- The two halves of an id, as the one number that the id shows of them. -/
def halves (a b : BitVec 32) : ℕ := a.toNat * 2 ^ b.toNat

/-- The second half is a shift count that C defines. -/
def FitsShift (b : BitVec 32) : Prop := b.toNat < 16

instance (b : BitVec 32) : Decidable (FitsShift b) := inferInstanceAs (Decidable (b.toNat < 16))

section Ids

variable {a b a' b' id : BitVec 32}

theorem FitsShift.toNat_add (h : FitsShift b) : (16 + b).toNat = 16 + b.toNat := by
  have hb : b.toNat < 16 := h
  rw [BitVec.toNat_add]
  exact Nat.mod_eq_of_lt (by simp; omega)

theorem shiftedId_of_fits (a : BitVec 32) (h : FitsShift b) :
    shiftedId a b = .ok (a <<< (16 + b).toNat) := by
  have hb : b.toNat < 16 := h
  have hlt : (16 + b).toNat < 32 := by
    rw [h.toNat_add]
    omega
  exact if_pos hlt

/-- Of the 16-bit identifiers no other gives an id. -/
theorem fits_of_ok (hb : b.toNat < 2 ^ 16) (h : shiftedId a b = .ok id) : FitsShift b := by
  unfold shiftedId at h
  split at h
  next hlt =>
    rw [BitVec.toNat_add] at hlt
    have hsum : (16 + b.toNat) % 2 ^ 32 < 32 := hlt
    show b.toNat < 16
    omega
  next => cases h

/-- Only the low half of the first identifier matters. -/
theorem shiftedId_setWidth (a : BitVec 32) (h : FitsShift b) :
    shiftedId ((a.setWidth 16).setWidth 32) b = shiftedId a b := by
  rw [shiftedId_of_fits _ h, shiftedId_of_fits _ h, h.toNat_add]
  congr 1
  apply BitVec.eq_of_getLsbD_eq
  intro i hi
  simp only [BitVec.getLsbD_shiftLeft, BitVec.getLsbD_setWidth]
  grind

theorem setWidth_setWidth_of_fits (h : FitsShift b) : (b.setWidth 16).setWidth 32 = b := by
  have hb : b.toNat < 16 := h
  apply BitVec.eq_of_toNat_eq
  rw [BitVec.toNat_setWidth, BitVec.toNat_setWidth]
  omega

theorem shiftedId_toNat (hb : FitsShift b) (h : shiftedId a b = .ok id) :
    id.toNat = 2 ^ 16 * (halves a b % 2 ^ 16) := by
  rw [shiftedId_of_fits a hb] at h
  obtain rfl := Except.ok.inj h
  -- the low 16 bits of the id are zero, and the high ones show the number modulo 2¹⁶
  have hmul : a.toNat * 2 ^ (16 + b.toNat) = 2 ^ 16 * halves a b := by
    rw [halves, pow_add]
    ring
  rw [BitVec.toNat_shiftLeft, hb.toNat_add, Nat.shiftLeft_eq, hmul,
    show (2 : ℕ) ^ 32 = 2 ^ 16 * 2 ^ 16 by norm_num, Nat.mul_mod_mul_left]

/-- Two ids are the same if and only if the numbers of their halves agree modulo 2¹⁶. -/
theorem shiftedId_eq_iff {id' : BitVec 32} (hb : FitsShift b) (hb' : FitsShift b')
    (h : shiftedId a b = .ok id) (h' : shiftedId a' b' = .ok id') :
    id = id' ↔ halves a b ≡ halves a' b' [MOD 2 ^ 16] := by
  rw [← BitVec.toNat_inj, shiftedId_toNat hb h, shiftedId_toNat hb' h', Nat.ModEq]
  omega

end Ids

namespace MIHAgent

/-- Two states with the same sessions and the same peers. -/
structure SameSessions (s s' : MIHAgent) : Prop where
  mihfId : s'.mihfId = s.mihfId
  session : s'.session = s.session
  nextSession : s'.nextSession = s.nextSession
  sessions : s'.sessions = s.sessions
  getMihfInfo : ∀ id, s'.getMihfInfo id = s.getMihfInfo id

variable {s t s' : MIHAgent} {out : List Output} {p : MihPacket}

theorem SameSessions.refl (s : MIHAgent) : SameSessions s s := ⟨rfl, rfl, rfl, rfl, fun _ => rfl⟩

theorem SameSessions.trans (h : SameSessions s t) (h' : SameSessions t s') :
    SameSessions s s' where
  mihfId := h'.mihfId.trans h.mihfId
  session := h'.session.trans h.session
  nextSession := h'.nextSession.trans h.nextSession
  sessions := h'.sessions.trans h.sessions
  getMihfInfo id := (h'.getMihfInfo id).trans (h.getMihfInfo id)

/-- A write to a peer record that leaves its id alone. -/
theorem mihf_id_modifyMihf {m : MihfRef} {f : MihfInfo → MihfInfo}
    (hf : ∀ i, (f i).id = i.id) (x : MihfRef) :
    ((s.modifyMihf m f).mihf x).id = (s.mihf x).id := by
  by_cases hx : x = m
  · subst hx
    simp [modifyMihf, hf]
  · simp [modifyMihf, hx]

theorem getMihfInfo_modifyMihf {m : MihfRef} {f : MihfInfo → MihfInfo}
    (hf : ∀ i, (f i).id = i.id) (id : BitVec 32) :
    (s.modifyMihf m f).getMihfInfo id = s.getMihfInfo id := by
  simp only [getMihfInfo, mihf_id_modifyMihf hf]
  rfl

theorem sameSessions_setSession (s : MIHAgent) (m : MihfRef) (r : Option SessionRef) :
    SameSessions s (s.modifyMihf m fun i => { i with session := r }) :=
  ⟨rfl, rfl, rfl, rfl, getMihfInfo_modifyMihf fun _ => rfl⟩

theorem mihf_of_getMihfInfo {id : BitVec 32} {m : MihfRef} (h : s.getMihfInfo id = some m) :
    (s.mihf m).id = id := by
  simpa using List.find?_some h

/-! ### The steps of an exchange -/

/-- A registration request carries the low half of the sender's identifier. -/
theorem sendRegRequest_ok {user : Option UserId} {id : BitVec 32}
    (h : s.sendRegRequest user id = .ok (s', out)) :
    SameSessions s s' ∧ ∃ q m, out = [.packet none q] ∧ q.mihh.mihfId = s.mihfId ∧
      q.mihh.payload = .regReq m ∧ m.msbSession = s.mihfId.setWidth 16 := by
  obtain ⟨m, -, h⟩ := Runs.bind_ok_iff.1 h
  obtain ⟨mac, -, h⟩ := Runs.bind_ok_iff.1 h
  obtain ⟨rfl, rfl⟩ := Prod.mk.inj (Except.ok.inj h)
  exact ⟨⟨rfl, rfl, rfl, rfl, fun _ => rfl⟩, _, _, rfl, rfl, rfl, rfl⟩

/-- With a result of 1 the sessions stay as they are. -/
theorem sameSessions_sendRegResponse {mihfId : BitVec 32} {failureCode : BitVec 8}
    {validity : BitVec 32} {tid : BitVec 16}
    (h : s.sendRegResponse mihfId 1 failureCode validity tid = .ok (s', out)) :
    SameSessions s s' := by
  obtain ⟨m, id, -, -, rfl, -⟩ := sendRegResponse_ok h
  rw [if_neg (by decide)]
  exact sameSessions_setSession s m _

theorem sameSessions_confirm {tid : BitVec 16} {call : UserCall}
    (h : s.confirm tid call = .ok (s', out)) : SameSessions s s' := by
  obtain ⟨r, -, rfl⟩ := confirm_ok h
  exact ⟨rfl, rfl, rfl, rfl, fun _ => rfl⟩

/-- A successful registration response opens a session with the peer of its header. -/
theorem recvRegRsp_ok {m : RegRsp} (hm : m.regResult = 1)
    (h : s.recvRegRsp p m = .ok (s', out)) :
    ∃ id mac peer, shiftedId s.mihfId (m.lsbSession.setWidth 32) = .ok id ∧
      s.getMihfInfo p.mihh.mihfId = some peer ∧
      SameSessions (s.pushSession { id := id, macAddr := mac, mihf := some peer }) s' := by
  rw [recvRegRsp, if_pos hm] at h
  obtain ⟨t, ht, hconfirm⟩ := Runs.bind_ok_iff.1 h
  obtain ⟨id, mac, peer, hid, hpeer, rfl⟩ := openSession_ok ht
  refine ⟨id, mac, peer, hid, hpeer, ?_⟩
  exact (sameSessions_setSession _ peer _).trans (sameSessions_confirm hconfirm)

/-! ### No shift count but that of the id is ever out of range -/

theorem deref_ne_shiftCount {α : Type} (o : Option α) : deref o ≠ .error .shiftCount := by
  cases o <;> simp [deref]

theorem shiftedId_ne_shiftCount (a : BitVec 32) {b : BitVec 32} (hb : FitsShift b) :
    shiftedId a b ≠ .error .shiftCount := by
  simp [shiftedId_of_fits a hb]

theorem confirm_ne_shiftCount (s : MIHAgent) (tid : BitVec 16) (call : UserCall) :
    s.confirm tid call ≠ .error .shiftCount := by
  refine Runs.bind_ne_error ?_ fun r _ => ?_
  · unfold findRequest
    split <;> simp
  · exact Runs.bind_ne_error (deref_ne_shiftCount _) fun u _ => by simp

theorem sendRegRequest_ne_shiftCount (s : MIHAgent) (user : Option UserId) (id : BitVec 32) :
    s.sendRegRequest user id ≠ .error .shiftCount :=
  Runs.bind_ne_error (deref_ne_shiftCount _) fun m _ =>
    Runs.bind_ne_error (deref_ne_shiftCount _) fun mac _ => by simp

theorem recvRegReq_ne_shiftCount (m : RegReq) (hs : FitsShift s.mihfId) :
    s.recvRegReq p m ≠ .error .shiftCount :=
  Runs.bind_ne_error (shiftedId_ne_shiftCount _ hs) fun id _ =>
    Runs.bind_ne_error (deref_ne_shiftCount _) fun mac _ => by simp

theorem sendRegResponse_ne_shiftCount {mihfId : BitVec 32} {regResult failureCode : BitVec 8}
    {validity : BitVec 32} {tid : BitVec 16} (hs : FitsShift s.mihfId) :
    s.sendRegResponse mihfId regResult failureCode validity tid ≠ .error .shiftCount :=
  Runs.bind_ne_error (deref_ne_shiftCount _) fun m _ =>
    Runs.bind_ne_error (deref_ne_shiftCount _) fun mac _ =>
      Runs.bind_ne_error (shiftedId_ne_shiftCount _ hs) fun id _ => by simp

theorem recvRegRsp_ne_shiftCount {m : RegRsp} (hm : FitsShift (m.lsbSession.setWidth 32)) :
    s.recvRegRsp p m ≠ .error .shiftCount := by
  unfold recvRegRsp
  split
  · refine Runs.bind_ne_error ?_ fun t _ => confirm_ne_shiftCount t _ _
    exact Runs.bind_ne_error (shiftedId_ne_shiftCount _ hm) fun id _ =>
      Runs.bind_ne_error (deref_ne_shiftCount _) fun mac _ =>
        Runs.bind_ne_error (deref_ne_shiftCount _) fun peer _ => by simp
  · exact confirm_ne_shiftCount s _ _

end MIHAgent

end SipNemo.Mih
