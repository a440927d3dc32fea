import SipNemo.Mih.Requests

/-!
# Request timers

A pending request is supervised by a timer: each expiry sends the request again or, after
`retryLimit_` times, drops it.  Two places leave an entry without a timer: the expiry of a request
that went over layer 2, where nothing is sent and the timer is not started again, and the
acknowledgement of a scan request, which cancels the timer and keeps the entry.

`requests_supervised`: in every run in which neither happens, every entry has its timer running in
every state, and at its next expiry it is sent again, at most `retryLimit_` times, or removed.
-/

namespace SipNemo.Mih

open RequestTable

namespace MIHAgent

/-- The steps that leave no entry without its timer: not the expiry of a layer 2 request that
may still be repeated, and not the acknowledgement of a scan request. -/
def KeepsTimers (s : MIHAgent) : Step → Prop
  | .expire r =>
    let o := s.requests.obj r
    ¬ (s.requests.index o.key = some r ∧ o.data.l2transport = true ∧
      o.data.retx < s.mib.retryLimit)
  | .recv p _ => p.mihh.ackRsp = true → ∀ l, p.mihh.payload ≠ .scanRsp l
  | _ => True

/-- Every entry has its timer running and has not used up more than its tries. -/
structure Supervised (s : MIHAgent) : Prop where
  wellFormed : s.requests.WellFormed
  timed : s.requests.Timed
  budget : ∀ tid r, s.requests.index tid = some r →
    (s.requests.obj r).data.retx ≤ max 0 s.mib.retryLimit

/-- What the next expiry does with the entry `r` under `tid`: it is sent again and kept, with its
timer running, or it is removed. -/
def ExpiryHandles (s : MIHAgent) (tid : BitVec 16) (r : ℕ) : Prop :=
  let req := (s.requests.obj r).data
  ∃ s' out, s.handleTimer r = .ok (s', out) ∧
    ((req.retx < s.mib.retryLimit ∧ out = [.packet req.session req.pkt] ∧
        s'.requests.index tid = some r ∧ (s'.requests.obj r).timer = .pending ∧
        (s'.requests.obj r).data.retx = req.retx + 1) ∨
      (¬ req.retx < s.mib.retryLimit ∧ out = [] ∧ s'.requests.index tid = none))

/-! ### Entries after a step -/

variable {s s' : MIHAgent} {i : Step} {out : List Output} {r : ℕ}

/-- A timer that does not belong to an entry may change as it likes. -/
theorem not_indexed_of_ne {q : ℕ} (hw : s.requests.WellFormed)
    (hq : s.requests.index (s.requests.obj r).key = some q) (hne : q ≠ r) (tid : BitVec 16) :
    s.requests.index tid ≠ some r := by
  intro htid
  rw [hw.key_eq tid r htid, htid] at hq
  exact hne (Option.some.inj hq).symm

/-- The entry `x` was there before, and either it is unchanged or it has used one more try, with
its timer running if it was. -/
def EntryKept (s s' : MIHAgent) (tid : BitVec 16) (x : ℕ) : Prop :=
  s.requests.index tid = some x ∧
    (s'.requests.obj x = s.requests.obj x ∨
      ((s.requests.obj x).data.retx < s.mib.retryLimit ∧
        (s'.requests.obj x).data.retx = (s.requests.obj x).data.retx + 1 ∧
        ((s'.requests.obj x).timer = .pending ∨
          (s'.requests.obj x).timer = (s.requests.obj x).timer)))

/-- One more try of the entry `q`, at the expiry of the timer of another object. -/
theorem EntryKept.of_retry {tid : BitVec 16} {q x : ℕ}
    {f : Obj (BitVec 16) PendingReq → Obj (BitVec 16) PendingReq}
    (hf : ∀ o, (f o).data.retx = o.data.retx + 1 ∧
      ((f o).timer = .pending ∨ (f o).timer = o.timer))
    (hqr : q ≠ r) (hretx : (s.requests.obj q).data.retx < s.mib.retryLimit)
    (ht : s'.requests = ((s.requests.modify r timerHandling).modify q f).modify r timerDone)
    (hx : s.requests.index tid = some x) (hxr : x ≠ r) : EntryKept s s' tid x := by
  refine ⟨hx, ?_⟩
  rw [ht]
  by_cases hxq : x = q
  · subst hxq
    simpa [Table.modify_obj, hqr] using Or.inr ⟨hretx, hf (s.requests.obj x)⟩
  · exact Or.inl (by simp [Table.modify_obj, hxq, hxr])

/-- An entry after an expiry that meets the condition. -/
theorem handleTimer_entry (hw : s.requests.WellFormed) (hok : s.KeepsTimers (.expire r))
    (h : s.handleTimer r = .ok (s', out)) {tid : BitVec 16} {x : ℕ}
    (hx : s'.requests.index tid = some x) : EntryKept s s' tid x := by
  obtain ⟨-, q, hq, hcases⟩ := handleTimer_cases h
  by_cases hqr : q = r
  · -- the timer is the entry's own: over layer 2 the condition is violated
    subst hqr
    rcases hcases with ⟨hretx, hl2, ht⟩ | ⟨hretx, -, -, ht⟩ | ⟨-, -, ht⟩
    · exact absurd ⟨hq, hl2, hretx⟩ hok
    · rw [ht] at hx
      refine ⟨hx, ?_⟩
      rw [ht]
      by_cases hxq : x = q
      · subst hxq
        refine Or.inr ⟨hretx, ?_, Or.inl ?_⟩
        · simp [Table.modify_obj, timerDone, resend, incRetx, Obj.setTimer, timerHandling]
        · simp [Table.modify_obj, timerDone, resend, incRetx, Obj.setTimer]
      · exact Or.inl (by simp [Table.modify_obj, hxq])
    · rw [ht] at hx
      have hne := (hw.modify inner_timerHandling q).ne_of_release hx
      refine ⟨(Table.release_index hx).1, Or.inl ?_⟩
      rw [ht, Table.modify_obj, if_neg hne, Table.release_obj_of_ne hne, Table.modify_obj,
        if_neg hne]
  · -- the timer is that of a request which is not in the table
    have hxr : s.requests.index tid = some x → x ≠ r := by
      rintro htid rfl
      exact not_indexed_of_ne hw hq hqr tid htid
    rcases hcases with ⟨hretx, -, ht⟩ | ⟨hretx, -, -, ht⟩ | ⟨-, -, ht⟩
    · rw [ht] at hx
      exact .of_retry (f := incRetx) (fun _ => ⟨rfl, Or.inr rfl⟩) hqr hretx ht hx (hxr hx)
    · rw [ht] at hx
      exact .of_retry (f := resend) (fun _ => ⟨rfl, Or.inl rfl⟩) hqr hretx ht hx (hxr hx)
    · rw [ht] at hx
      have hne := (hw.modify inner_timerHandling r).ne_of_release hx
      have hold := (Table.release_index hx).1
      refine ⟨hold, Or.inl ?_⟩
      rw [ht, Table.modify_obj, if_neg (hxr hold), Table.release_obj_of_ne hne,
        Table.modify_obj, if_neg (hxr hold)]

/-- An entry after a step: it is new, or it was there before. -/
theorem perform_entry (hw : s.requests.WellFormed) (hok : s.KeepsTimers i)
    (h : s.perform i = .ok (s', out)) {tid : BitVec 16} {x : ℕ}
    (hx : s'.requests.index tid = some x) :
    ((s'.requests.obj x).timer = .pending ∧ (s'.requests.obj x).data.retx = 0) ∨
      EntryKept s s' tid x := by
  obtain ⟨-, hchange⟩ := perform_requests h
  generalize hT : s'.requests = t at hchange hx
  cases hchange with
  | same => exact Or.inr ⟨hx, Or.inl (by rw [hT])⟩
  | create req hnew hopen =>
    rcases Table.create_index hx with hold | ⟨-, rfl, -⟩
    · exact Or.inr ⟨hold, Or.inl (by rw [hT, Table.create_obj_of_lt _ (hw.lt_next tid x hold)])⟩
    · rw [Table.create_obj_next]
      exact Or.inl ⟨rfl, hnew⟩
  | clear k r hr =>
    have hne := (hw.modify inner_cancelTimer r).ne_of_release hx
    refine Or.inr ⟨(Table.release_index hx).1, Or.inl ?_⟩
    rw [hT, Table.release_obj_of_ne hne, Table.modify_obj, if_neg hne]
  | ack p junk l r hi hscan hack hr =>
    subst hi
    exact absurd hscan (hok hack l)
  | expire r s₁ out₁ hi hexp =>
    subst hi
    obtain ⟨rfl, rfl⟩ : s' = s₁ ∧ out = out₁ := by simpa [perform, hexp] using h.symm
    exact Or.inr (handleTimer_entry hw hok hexp hx)

/-- A step that meets the condition keeps every entry under its timer. -/
theorem Supervised.perform (hs : Supervised s) (hok : s.KeepsTimers i)
    (h : s.perform i = .ok (s', out)) : Supervised s' where
  wellFormed := perform_wellFormed hs.wellFormed h
  timed := by
    intro tid x hx
    rcases perform_entry hs.wellFormed hok h hx with ⟨htimer, -⟩ | ⟨hold, hkept⟩
    · exact htimer
    · have hpending := hs.timed tid x hold
      rcases hkept with heq | ⟨-, -, htimer | htimer⟩
      · rw [heq]
        exact hpending
      · exact htimer
      · rw [htimer]
        exact hpending
  budget := by
    intro tid x hx
    rw [(perform_requests h).1]
    rcases perform_entry hs.wellFormed hok h hx with ⟨-, hretx⟩ | ⟨hold, hkept⟩
    · rw [hretx]
      exact le_max_left _ _
    · rcases hkept with heq | ⟨hlt, hretx, -⟩
      · rw [heq]
        exact hs.budget tid x hold
      · rw [hretx]
        exact le_max_of_le_right hlt

theorem Supervised.of_blank (h : s.requests.Blank) : Supervised s where
  wellFormed := h.wellFormed
  timed := h.timed
  budget := by
    intro tid r hr
    simp [h.index] at hr

/-- The expiry of a running timer finds its entry. -/
theorem handleTimer_returns {q : ℕ} (htimer : (s.requests.obj r).timer = .pending)
    (hq : s.requests.index (s.requests.obj r).key = some q) :
    ∃ s' out, s.handleTimer r = .ok (s', out) := by
  have hindex : (s.requests.modify r timerHandling).index (s.requests.obj r).key = some q := hq
  unfold handleTimer processRequestTimer findRequest
  simp only [htimer, if_true, hindex, Runs.ok_bind]
  split_ifs <;> exact ⟨_, _, rfl⟩

/-- The next expiry of an entry, unless it is the one the condition excludes. -/
theorem Supervised.expiryHandles (hs : Supervised s) {tid : BitVec 16}
    (hr : s.requests.index tid = some r) (hok : s.KeepsTimers (.expire r)) :
    ExpiryHandles s tid r := by
  have hkey : (s.requests.obj r).key = tid := hs.wellFormed.key_eq tid r hr
  have hown : s.requests.index (s.requests.obj r).key = some r := by rw [hkey, hr]
  obtain ⟨s', out, h⟩ := handleTimer_returns (hs.timed tid r hr) hown
  obtain ⟨-, q, hq, hcases⟩ := handleTimer_cases h
  obtain rfl : r = q := Option.some.inj (hown.symm.trans hq)
  refine ⟨s', out, h, ?_⟩
  rcases hcases with ⟨hretx, hl2, -⟩ | ⟨hretx, -, hout, ht⟩ | ⟨hretx, hout, ht⟩
  · exact absurd ⟨hown, hl2, hretx⟩ hok
  · refine Or.inl ⟨hretx, hout, ?_⟩
    rw [ht]
    refine ⟨hr, ?_, ?_⟩
    · simp [Table.modify_obj, timerDone, resend, incRetx, Obj.setTimer]
    · simp [Table.modify_obj, timerDone, resend, incRetx, Obj.setTimer, timerHandling]
  · refine Or.inr ⟨hretx, hout, ?_⟩
    rw [ht, ← hkey]
    simp [Table.release, Table.modify, timerHandling, Obj.setTimer]

/-- In every run from an agent without requests in which no layer 2 request that may still be
repeated expires and no scan request is acknowledged, every entry of `pending_req_` is under a
running timer in every state, and its next expiry sends it again or removes it. -/
theorem requests_supervised {s₀ s : MIHAgent} {steps : List Step} (h₀ : s₀.requests.Blank)
    (hok : Runs.StepsMeet MIHAgent.step KeepsTimers s₀ steps)
    (hrun : Runs.runSteps MIHAgent.step s₀ steps = .ok s) :
    Supervised s ∧ ∀ tid r, s.requests.index tid = some r → s.KeepsTimers (.expire r) →
      ExpiryHandles s tid r := by
  have hs : Supervised s := by
    refine Runs.runSteps_invariant ?_ (Supervised.of_blank h₀) hok hrun
    intro t i t' ht hi hstep
    obtain ⟨out, hperform⟩ := step_ok hstep
    exact ht.perform hi hperform
  exact ⟨hs, fun tid r hr hexp => hs.expiryHandles hr hexp⟩

/-- A status request and the first expiry of its timer. -/
def sampleTimeout : List Step := [.getStatus (some 7) 2 0, .expire 0]

theorem requests_supervised_sample :
    ∃ s, Runs.runSteps MIHAgent.step (sampleAgent 0x202) sampleTimeout = .ok s ∧
      s.requests.index 0 = some 0 ∧ (s.requests.obj 0).data.retx = 1 ∧
      Supervised s ∧ ∀ tid r, s.requests.index tid = some r → s.KeepsTimers (.expire r) →
        ExpiryHandles s tid r := by
  have hok : Runs.StepsMeet MIHAgent.step KeepsTimers (sampleAgent 0x202) sampleTimeout := by
    refine Runs.StepsMeet.cons trivial rfl (Runs.StepsMeet.cons ?_ rfl trivial)
    rintro ⟨-, hl2, -⟩
    exact absurd hl2 (by decide)
  exact ⟨_, rfl, rfl, rfl,
    @requests_supervised (sampleAgent 0x202) _ sampleTimeout (Table.blank_empty _) hok rfl⟩

/-- A request over layer 2 stays in the table without a timer after its first expiry, and so does a
scan request after its acknowledgement. -/
theorem requests_lose_timer :
    (∃ s, (sampleAgent 0x101).requests.Blank ∧
      Runs.runSteps MIHAgent.step (sampleAgent 0x101) sampleTimeout = .ok s ∧
      s.requests.index 0 = some 0 ∧ (s.requests.obj 0).timer = .idle ∧ ¬ s.requests.Timed) ∧
    ∃ s, (sampleAgent 0x202).requests.Blank ∧
      Runs.runSteps MIHAgent.step (sampleAgent 0x202)
        [.scan (some 7) 2 [], .recv sampleScanAck 0] = .ok s ∧
      s.requests.index 0 = some 0 ∧ (s.requests.obj 0).timer = .idle ∧ ¬ s.requests.Timed := by
  refine ⟨⟨_, Table.blank_empty _, rfl, rfl, rfl, ?_⟩, _, Table.blank_empty _, rfl, rfl, rfl, ?_⟩
  all_goals
    intro htimed
    exact absurd (htimed 0 0 rfl) (by decide)

end MIHAgent

end SipNemo.Mih
