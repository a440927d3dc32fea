import SipNemo.Sip.Redirect

/-!
# What the agents do with the messages of a call

An INVITE, its redirection and repetition, a 200 OK, an ACK and data pass through the agents of
routers and home agents.  Whatever the type of its node, an agent keeps such a message for its
application or sends one for it, of the same call; it never makes one of its own
(`passes_recvSip`), and what it sends when an interface changes is of other methods.
-/

namespace SipNemo.HdrMysip

variable (mh : HdrMysip)

/-- The caller and the callee of a message. -/
def call : ℤ × ℤ := (mh.fromId, mh.toId)

/-- The redirection by a home agent (method 6) is on behalf of the INVITE (method 0). -/
def kind : ℤ := if mh.method = 6 then 0 else mh.method

/-- INVITE, 200 OK, ACK, temporarily moved (of a server and of an agent) and data. -/
def IsCall : Prop := mh.method ∈ ([0, 1, 2, 4, 6, 7] : List ℤ)

instance : Decidable mh.IsCall := inferInstanceAs (Decidable (_ ∈ _))

variable {mh}

/-- A method that is none of a call. -/
theorem not_isCall {k : ℤ} (h : mh.method = k)
    (hmethod : k ∉ ([0, 1, 2, 4, 6, 7] : List ℤ)) : ¬ mh.IsCall := by
  subst h
  exact hmethod

end SipNemo.HdrMysip

namespace SipNemo.Sip

open Runs HdrMysip

/-- What becomes of the packet `p`, given what is sent and what is left for the application. -/
inductive Passes (p : Packet) : List Out → Packet → Prop
  | kept {q : Packet} (hmh : q.mh = p.mh) : Passes p [] q
  | relayed {o : Out} {q : Packet} (hprio : q.iph.prio = 14) (hack : o.packet.mh.ack = p.mh.ack)
      (hkind : o.packet.mh.kind = p.mh.kind) (hcall : o.packet.mh.call = p.mh.call) :
      Passes p [o] q
  | other {outs : List Out} {q : Packet} (hp : ¬ p.mh.IsCall) (hq : ¬ q.mh.IsCall)
      (houts : ∀ o ∈ outs, ¬ o.packet.mh.IsCall) : Passes p outs q

section

variable {a : UdpmysipAgent} {p : Packet} {r : Received}

/-- A message sent on as it is. -/
theorem passes_same {o : Out} {q : Packet} (hprio : q.iph.prio = 14) (hmh : o.packet.mh = p.mh) :
    Passes p [o] q :=
  .relayed hprio (congrArg HdrMysip.ack hmh) (congrArg HdrMysip.kind hmh)
    (congrArg HdrMysip.call hmh)

theorem sendInside_ok {add : Addr} {s : List Out × Packet} (h : sendInside a add p = .ok s) :
    ∃ o, s.1 = [o] ∧ o.packet.mh = p.mh ∧ s.2.iph.prio = 14 ∧ s.2.mh = p.mh := by
  obtain ⟨q, hq, h⟩ := bind_ok_iff.1 h
  obtain ⟨f, -, h⟩ := bind_ok_iff.1 h
  cases h
  have hmh : q.mh = (p.setDaddr add).mh := throughMrBs_mh hq
  exact ⟨.via f q, rfl, hmh, rfl, hmh⟩

/-! ### A mobile router -/

theorem passes_recvInvite (h : recvInvite a p = .ok r) : Passes p r.2.1 r.2.2 := by
  unfold recvInvite at h
  split at h
  · obtain ⟨bu, -, h⟩ := bind_ok_iff.1 h
    obtain ⟨⟨outs, q⟩, hsend, h⟩ := bind_ok_iff.1 h
    cases h
    obtain ⟨o, rfl, hmh, hprio, -⟩ := sendInside_ok hsend
    exact passes_same hprio hmh
  · obtain ⟨bu, -, h⟩ := bind_ok_iff.1 h
    obtain ⟨f, -, h⟩ := bind_ok_iff.1 h
    cases h
    exact .relayed rfl rfl rfl rfl

theorem passes_recvOk (h : recvOk a p = .ok r) : Passes p r.2.1 r.2.2 := by
  unfold recvOk at h
  dsimp only at h
  generalize FirstMatch.updateFirst _ _ _ = l at h
  cases hmn : getMnEntryByUrlId l p.mh.fromId with
  | none =>
    rw [hmn] at h
    obtain ⟨cn, -, h⟩ := bind_ok_iff.1 h
    obtain ⟨mn, -, h⟩ := bind_ok_iff.1 h
    obtain ⟨bu, -, h⟩ := bind_ok_iff.1 h
    obtain ⟨f, -, h⟩ := bind_ok_iff.1 h
    cases h
    exact .relayed rfl rfl rfl rfl
  | some mn =>
    rw [hmn] at h
    obtain ⟨⟨outs, q⟩, hsend, h⟩ := bind_ok_iff.1 h
    cases h
    obtain ⟨o, rfl, hmh, hprio, -⟩ := sendInside_ok hsend
    exact passes_same hprio hmh

theorem passes_recvTempMove (hp : p.mh.method = 6) (h : recvTempMove a p = .ok r) :
    Passes p r.2.1 r.2.2 := by
  obtain ⟨mn, -, h⟩ := bind_ok_iff.1 h
  obtain ⟨bu, -, h⟩ := bind_ok_iff.1 h
  obtain ⟨f, -, h⟩ := bind_ok_iff.1 h
  cases h
  refine .relayed rfl rfl ?_ rfl
  rw [kind, kind, if_pos hp]
  rfl

/-- One message of another method. -/
theorem passes_other {o : Out} {q : Packet} {m k : ℤ} (hp : ¬ p.mh.IsCall)
    (hq : q.mh.method = m) (ho : o.packet.mh.method = k)
    (hm : m ∉ ([0, 1, 2, 4, 6, 7] : List ℤ)) (hk : k ∉ ([0, 1, 2, 4, 6, 7] : List ℤ)) :
    Passes p [o] q := by
  refine .other hp (not_isCall hq hm) fun o' ho' => ?_
  rw [List.mem_singleton.1 ho']
  exact not_isCall ho hk

theorem reinviteToCn_ok {mh : HdrMysip} {daddr : Addr} {outs : List Out}
    (h : reinviteToCn a mh daddr = .ok outs) : ∃ o, outs = [o] ∧ o.packet.mh.method = 12 := by
  obtain ⟨bu, -, h⟩ := bind_ok_iff.1 h
  obtain ⟨f, -, h⟩ := bind_ok_iff.1 h
  cases h
  exact ⟨_, rfl, rfl⟩

theorem passes_recvRegister (hp : p.mh.method = 5) (h : recvRegister a p = .ok r) :
    Passes p r.2.1 r.2.2 := by
  obtain ⟨⟨bu, sel⟩, -, h⟩ := bind_ok_iff.1 h
  obtain ⟨bu, -, h⟩ := bind_ok_iff.1 h
  obtain ⟨mn, -, h⟩ := bind_ok_iff.1 h
  obtain ⟨f, -, h⟩ := bind_ok_iff.1 h
  cases h
  exact passes_other (not_isCall hp (by decide)) hp hp (by decide) (by decide)

theorem passes_recvRehome (hp : p.mh.method = 9) (h : recvRehome a p = .ok r) :
    Passes p r.2.1 r.2.2 := by
  obtain ⟨mn, -, h⟩ := bind_ok_iff.1 h
  obtain ⟨f, -, h⟩ := bind_ok_iff.1 h
  cases h
  exact passes_other (not_isCall hp (by decide)) hp hp (by decide) (by decide)

theorem passes_recvRefer (hp : p.mh.method = 11) (h : recvRefer a p = .ok r) :
    Passes p r.2.1 r.2.2 := by
  obtain ⟨outs, hout, h⟩ := bind_ok_iff.1 h
  cases h
  obtain ⟨o, rfl, ho⟩ := reinviteToCn_ok hout
  exact passes_other (not_isCall hp (by decide)) hp ho (by decide) (by decide)

theorem passes_recvReinvite (h : recvReinvite a p = .ok r) :
    Passes p r.2.1 r.2.2 := by
  obtain ⟨cn, -, h⟩ := bind_ok_iff.1 h
  obtain ⟨mn, -, h⟩ := bind_ok_iff.1 h
  obtain ⟨⟨outs, q⟩, hsend, h⟩ := bind_ok_iff.1 h
  cases h
  obtain ⟨o, rfl, hmh, hprio, -⟩ := sendInside_ok hsend
  exact passes_same hprio hmh

theorem passes_recvBuMn (hp : p.mh.method = 13) (h : recvBuMn a p = .ok r) :
    Passes p r.2.1 r.2.2 := by
  obtain ⟨bu, -, h⟩ := bind_ok_iff.1 h
  obtain ⟨mn, -, h⟩ := bind_ok_iff.1 h
  obtain ⟨f, -, h⟩ := bind_ok_iff.1 h
  cases h
  exact passes_other (m := 12) (k := 12) (not_isCall hp (by decide)) rfl rfl
    (by decide) (by decide)

theorem passes_recvEfaceRefer (hp : p.mh.method = 14) (h : recvEfaceRefer a p = .ok r) :
    Passes p r.2.1 r.2.2 := by
  obtain ⟨outs, hout, h⟩ := bind_ok_iff.1 h
  cases h
  obtain ⟨o, rfl, ho⟩ := reinviteToCn_ok hout
  exact passes_other (not_isCall hp (by decide)) hp ho (by decide) (by decide)

theorem passes_recvMr (h : recvMr a p = .ok r) : Passes p r.2.1 r.2.2 := by
  unfold recvMr at h
  split_ifs at h with h5 h0 h1 h9 h10 h11 h6 h12 h13 h14
  · exact passes_recvRegister h5 h
  · exact passes_recvInvite h
  · exact passes_recvOk h
  · exact passes_recvRehome h9 h
  · cases h
    exact .kept rfl
  · exact passes_recvRefer h11 h
  · exact passes_recvTempMove h6 h
  · exact passes_recvReinvite h
  · exact passes_recvBuMn h13 h
  · exact passes_recvEfaceRefer h14 h
  · cases h
    exact .kept rfl

/-! ### The other nodes -/

theorem passes_sendTempMovePkt {outs : List Out} {q : Packet} (hp : p.mh.method = 0)
    (h : sendTempMovePkt a p = .ok (outs, q)) : Passes p outs { q with iph.prio := 14 } := by
  rw [sendTempMovePkt_eq] at h
  obtain ⟨t, -, h⟩ := map_ok_iff.1 h
  cases h
  refine .relayed rfl rfl ?_ rfl
  rw [kind, kind, hp]
  rfl

theorem passes_recvMrHa (h : recvMrHa a p = .ok r) : Passes p r.2.1 r.2.2 := by
  unfold recvMrHa at h
  split_ifs at h with h5 hd h0 h9 h14
  · cases h
    exact .kept rfl
  · cases h
    exact .kept rfl
  · obtain ⟨⟨outs, q⟩, hsend, h⟩ := bind_ok_iff.1 h
    cases h
    exact passes_sendTempMovePkt h0 hsend
  · cases h
    exact .kept rfl
  · obtain ⟨mr, -, h⟩ := bind_ok_iff.1 h
    cases h
    exact passes_same rfl rfl
  · cases h
    exact .kept rfl

theorem passes_recvMnHa (h : recvMnHa a p = .ok r) : Passes p r.2.1 r.2.2 := by
  unfold recvMnHa at h
  split_ifs at h with h5 h0
  · cases h
    exact .kept rfl
  · obtain ⟨⟨outs, q⟩, hsend, h⟩ := bind_ok_iff.1 h
    cases h
    exact passes_sendTempMovePkt h0 hsend
  · cases h
    exact .kept rfl

theorem passes_mnInviteToTempMove {outs : List Out} {q : Packet} (hp : p.mh.method = 6)
    (hprio : q.iph.prio = 14) (h : mnInviteToTempMove a (stripHeader p) = .ok outs) :
    Passes p outs q := by
  obtain ⟨bu, -, h⟩ := bind_ok_iff.1 h
  obtain ⟨q', hq, h⟩ := bind_ok_iff.1 h
  obtain ⟨f, -, h⟩ := bind_ok_iff.1 h
  cases h
  have hmh := throughMrBs_mh hq
  refine .relayed hprio ((congrArg HdrMysip.ack hmh).trans rfl) ?_
    ((congrArg HdrMysip.call hmh).trans rfl)
  refine (congrArg HdrMysip.kind hmh).trans ?_
  rw [kind, kind, if_pos hp]
  rfl

/-- What a mobile node or a router sends when it registers. -/
theorem sendRegMsg_other {a' : UdpmysipAgent} {pre : Addr} {iface : NodeId} {outs : List Out}
    (h : sendRegMsg a pre iface = .ok (a', outs)) : ∀ o ∈ outs, ¬ o.packet.mh.IsCall := by
  obtain ⟨sip, -, h⟩ := bind_ok_iff.1 h
  dsimp only at h
  split_ifs at h with hmr
  · obtain ⟨⟨l, sel⟩, -, h⟩ := bind_ok_iff.1 h
    cases h
    intro o ho
    rw [List.mem_singleton.1 ho]
    exact not_isCall (k := 5) rfl (by decide)
  · obtain ⟨q, hq, h⟩ := bind_ok_iff.1 h
    obtain ⟨f, -, h⟩ := bind_ok_iff.1 h
    cases h
    intro o ho
    rw [List.mem_singleton.1 ho]
    exact not_isCall (k := 5) (congrArg HdrMysip.method (throughMrBs_mh hq)) (by decide)

theorem passes_recvMn (h : recvMn a p = .ok r) : Passes p r.2.1 r.2.2 := by
  unfold recvMn at h
  split_ifs at h with h0 h1 h6 h9 h11
  · cases h
    exact .kept rfl
  · cases h
    exact .kept rfl
  · obtain ⟨outs, hsend, h⟩ := bind_ok_iff.1 h
    cases h
    exact passes_mnInviteToTempMove h6 rfl hsend
  · cases h
    exact .kept rfl
  · obtain ⟨⟨a', outs⟩, hnew, h⟩ := bind_ok_iff.1 h
    cases h
    obtain ⟨bu, -, hnew⟩ := bind_ok_iff.1 hnew
    obtain ⟨port, -, hnew⟩ := bind_ok_iff.1 hnew
    obtain ⟨f, -, hnew⟩ := bind_ok_iff.1 hnew
    have hp := not_isCall h11 (by decide)
    exact .other hp hp (sendRegMsg_other hnew)
  · cases h
    exact .kept rfl

theorem passes_recvCn (h : recvCn a p = .ok r) : Passes p r.2.1 r.2.2 := by
  unfold recvCn at h
  split_ifs at h with h0 h6 h9
  · cases h
    exact .kept rfl
  · cases h
    refine .relayed rfl rfl ?_ rfl
    rw [kind, kind, if_pos h6]
    rfl
  · cases h
    exact .kept rfl
  · cases h
    exact .kept rfl

/-- A message of a call is kept for the application, or one is sent for it, whatever the node. -/
theorem passes_recvSip (h : recvSip a p = .ok r) : Passes p r.2.1 r.2.2 := by
  unfold recvSip at h
  split at h
  · exact passes_recvMr h
  · exact passes_recvMrHa h
  · exact passes_recvMnHa h
  · exact passes_recvMn h
  · exact passes_recvCn h
  · cases h
    exact .kept rfl

end

/-! ### An interface changes -/

section

variable {a a' : UdpmysipAgent} {outs : List Out}

theorem mnSendBuCn_other (h : mnSendBuCn a = .ok outs) : ∀ o ∈ outs, ¬ o.packet.mh.IsCall := by
  unfold mnSendBuCn at h
  split at h
  · cases h
    intro o ho
    cases ho
  · obtain ⟨mn, -, h⟩ := bind_ok_iff.1 h
    obtain ⟨q, hq, h⟩ := bind_ok_iff.1 h
    obtain ⟨f, -, h⟩ := bind_ok_iff.1 h
    cases h
    intro o ho
    rw [List.mem_singleton.1 ho]
    exact not_isCall (k := 13) (congrArg HdrMysip.method (throughMrBs_mh hq)) (by decide)

theorem mnProcessNewPrefix_other {pre : Addr} {iface : NodeId} {bsAddr : Addr}
    (h : mnProcessNewPrefix a pre iface bsAddr = .ok (a', outs)) :
    ∀ o ∈ outs, ¬ o.packet.mh.IsCall := by
  have hsent : ∀ {a₁ a₂ : UdpmysipAgent} {sent bu : List Out},
      sendRegMsg a₁ pre iface = .ok (a₂, sent) → (bu = [] ∨ mnSendBuCn a₂ = .ok bu) →
      ∀ o ∈ sent ++ bu, ¬ o.packet.mh.IsCall := by
    intro a₁ a₂ sent bu hreg hbu o ho
    rcases List.mem_append.1 ho with ho | ho
    · exact sendRegMsg_other hreg o ho
    · rcases hbu with rfl | hbu
      · cases ho
      · exact mnSendBuCn_other hbu o ho
  unfold mnProcessNewPrefix at h
  dsimp only at h
  split at h
  all_goals
    obtain ⟨a₁, -, h⟩ := bind_ok_iff.1 h
    obtain ⟨⟨a₂, sent⟩, hreg, h⟩ := bind_ok_iff.1 h
    dsimp only at h
    split at h
  all_goals
    obtain ⟨bu, hbu, h⟩ := bind_ok_iff.1 h
    cases h
  · exact hsent hreg (Or.inr hbu)
  · exact hsent hreg (Or.inl (Except.ok.inj hbu).symm)
  · exact hsent hreg (Or.inr hbu)
  · exact hsent hreg (Or.inl (Except.ok.inj hbu).symm)

theorem sendReferToMn_other (h : sendReferToMn a = .ok outs) :
    ∀ o ∈ outs, ¬ o.packet.mh.IsCall := by
  obtain ⟨mn, -, h⟩ := bind_ok_iff.1 h
  obtain ⟨cn, -, h⟩ := bind_ok_iff.1 h
  obtain ⟨mr, -, h⟩ := bind_ok_iff.1 h
  obtain ⟨q, hq, h⟩ := bind_ok_iff.1 h
  obtain ⟨bu, -, h⟩ := bind_ok_iff.1 h
  obtain ⟨f, -, h⟩ := bind_ok_iff.1 h
  cases h
  intro o ho
  rw [List.mem_singleton.1 ho]
  exact not_isCall (k := 11) (congrArg HdrMysip.method (throughMrBs_mh hq)) (by decide)

theorem sendReferToMr_other (h : sendReferToMr a = .ok outs) :
    ∀ o ∈ outs, ¬ o.packet.mh.IsCall := by
  obtain ⟨mn, -, h⟩ := bind_ok_iff.1 h
  obtain ⟨cn, -, h⟩ := bind_ok_iff.1 h
  obtain ⟨mr, -, h⟩ := bind_ok_iff.1 h
  obtain ⟨bu, -, h⟩ := bind_ok_iff.1 h
  obtain ⟨f, -, h⟩ := bind_ok_iff.1 h
  cases h
  intro o ho
  rw [List.mem_singleton.1 ho]
  exact not_isCall (k := 11) rfl (by decide)

theorem reHomingSelect_other {iface : NodeId}
    {rehome : Addr → List SIPEntry → Selector → Act (List SIPEntry × Selector)}
    (h : reHomingSelect a iface rehome = .ok (a', outs)) : ∀ o ∈ outs, ¬ o.packet.mh.IsCall := by
  obtain ⟨brk, -, h⟩ := bind_ok_iff.1 h
  obtain ⟨new, -, h⟩ := bind_ok_iff.1 h
  obtain ⟨⟨l, sel⟩, -, h⟩ := bind_ok_iff.1 h
  cases h
  intro o ho
  cases ho

theorem reHomingRefer_other {iface : NodeId} (h : reHomingRefer a iface = .ok (a', outs)) :
    ∀ o ∈ outs, ¬ o.packet.mh.IsCall := by
  obtain ⟨brk, -, h⟩ := bind_ok_iff.1 h
  obtain ⟨mn, -, h⟩ := bind_ok_iff.1 h
  obtain ⟨outsMn, hmn, h⟩ := bind_ok_iff.1 h
  obtain ⟨outsMr, hmr, h⟩ := bind_ok_iff.1 h
  cases h
  intro o ho
  rcases List.mem_append.1 ho with ho | ho
  · exact sendReferToMn_other hmn o ho
  · exact sendReferToMr_other hmr o ho

theorem reHomingDefault_other {iface : NodeId} (h : reHomingDefault a iface = .ok (a', outs)) :
    ∀ o ∈ outs, ¬ o.packet.mh.IsCall := by
  obtain ⟨brk, -, h⟩ := bind_ok_iff.1 h
  obtain ⟨new, -, h⟩ := bind_ok_iff.1 h
  obtain ⟨mn, -, h⟩ := bind_ok_iff.1 h
  obtain ⟨f, -, h⟩ := bind_ok_iff.1 h
  cases h
  intro o ho
  have hmethod : o.packet.mh.method = 9 := by
    rcases List.mem_cons.1 ho with rfl | ho
    · rfl
    · split at ho
      · cases ho
      · rw [List.mem_singleton.1 ho]
        rfl
  exact not_isCall hmethod (by decide)

theorem reHoming_other {iface : NodeId} (h : reHoming a iface = .ok (a', outs)) :
    ∀ o ∈ outs, ¬ o.packet.mh.IsCall := by
  unfold reHoming at h
  split_ifs at h
  · exact reHomingSelect_other h
  · exact reHomingSelect_other h
  · exact reHomingSelect_other h
  · exact reHomingSelect_other h
  · exact reHomingRefer_other h
  · exact reHomingDefault_other h

end

end SipNemo.Sip
