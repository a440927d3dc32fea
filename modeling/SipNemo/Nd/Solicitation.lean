import SipNemo.Nd.Neighbors

/-!
# The tries of a solicitation

A host that solicits tries again when `rsTimer_` expires, until it has sent to its targets
`max_rtr_solicitation_` times.  The counter of the tries is 0 again after the last of them; an
advertisement stops the timer and leaves the counter as it is, so that the next solicitation has
fewer tries.  `full_tries_iff` says so for every history of a host, in terms of the solicitations
that it sends.
-/

namespace SipNemo.Nd

open EventQueue EventQueue.Scheduler RequestTable Runs

/-- Where a solicitation goes. -/
def NdOutput.solicits : NdOutput → Option Addr
  | .rsol daddr _ => some daddr
  | _ => none

/-- Where one round of solicitations goes. -/
def NdSettings.rsTargets (c : NdSettings) : List Addr :=
  if c.broadcast then [ipBroadcast] else c.rsDaddrs

/-- The prefix timer times out as the RS timer. -/
def NdTimer.isStray : NdTimer → Bool
  | .ofPrefix _ p => p = timerRS
  | _ => false

/-- The counter after the next timeout: after the last try it is 0. -/
def NDAgent.nextTry (a : NDAgent) : ℤ :=
  if a.nbRtrSol + 1 < a.settings.maxRtrSolicitation then a.nbRtrSol + 1 else 0

namespace NdRun

variable (r : NdRun)

/-- The state of `rsTimer_`. -/
def rsStatus : TimerStatus := r.sched.status ((), .rs)

/-- `rsTimer_` is to expire. -/
def RsScheduled : Prop := ((), NdTimer.rs) ∈ r.sched.queue.map Prod.snd

/-- The destinations of the solicitations, in the order in which they were sent. -/
def solicited : List Addr := r.log.reverse.filterMap NdOutput.solicits

/-- No advertisement comes, `send_rs` is not called again and the settings stay as they are; what
expires is not a prefix timer that times out as the RS timer. -/
def Unanswered : Input → Prop
  | .now (.rads _ _) | .now .sendRs | .now (.set _) => False
  | .now _ => True
  | .fire _ => ∀ e ∈ r.sched.queue.head?, e.2.2.isStray = false
  | .wait _ => True

instance : DecidablePred r.Unanswered
  | .now (.rads _ _) | .now .sendRs | .now (.set _) => isFalse id
  | .now (.rsol _ _) | .now (.startRa _) | .now .stopRa | .now (.sendAds _) => isTrue trivial
  | .fire _ => inferInstanceAs (Decidable (∀ e ∈ r.sched.queue.head?, e.2.2.isStray = false))
  | .wait _ => isTrue trivial

/-- `rsTimer_` expires. -/
def rsExpires : Input → Bool
  | .fire _ => r.sched.queue.head?.any fun e => e.2.2 = .rs
  | _ => false

/-- How often `rsTimer_` expires along a run. -/
def expiries : NdRun → List Input → ℕ
  | _, [] => 0
  | r, i :: is =>
    (if r.rsExpires i then 1 else 0) +
      match r.step i with
      | .ok r' => expiries r' is
      | .error _ => 0

/-- From the call of `send_rs` in `r` to `t` the timer has expired as often as there may be tries,
and each time the host had sent one round to all of its targets. -/
def FullTries (r t : NdRun) (expiries : ℕ) : Prop :=
  (expiries : ℤ) = r.agent.settings.maxRtrSolicitation ∧
    t.solicited = r.solicited ++ (List.replicate expiries r.agent.settings.rsTargets).flatten

end NdRun

/-! ### What the agent does -/

section Agent

variable {a a' : NDAgent} {s s' : NdScheduler Unit} {out : List NdOutput} {rand : Rand}

/-- The settings, the counter and the state of the RS timer stay as they are, and nothing is
solicited. -/
structure RsSame (a : NDAgent) (s : NdScheduler Unit) (a' : NDAgent) (s' : NdScheduler Unit)
    (out : List NdOutput) : Prop where
  settings : a'.settings = a.settings
  nbRtrSol : a'.nbRtrSol = a.nbRtrSol
  status : s'.status ((), .rs) = s.status ((), .rs)
  silent : ∀ o ∈ out, o.solicits = none

theorem RsSame.of_unchanged {out₀ : List NdOutput} (hout : ∀ o ∈ out₀, o.solicits = none)
    (h : (.ok ((a, s), out₀) : Act (NdState Unit × List NdOutput)) = .ok ((a', s'), out)) :
    RsSame a s a' s' out := by
  obtain ⟨hstate, rfl⟩ := Prod.mk.inj (Except.ok.inj h)
  obtain ⟨rfl, rfl⟩ := Prod.mk.inj hstate
  exact ⟨rfl, rfl, rfl, hout⟩

theorem sendAds_solicits {daddr : Addr} {random : ℕ} {o : NdOutput}
    (h : o ∈ a.sendAds daddr random) : o.solicits = none := by
  unfold NDAgent.sendAds at h
  split_ifs at h
  · split at h
    · cases h
    · obtain rfl := List.mem_singleton.1 h
      rfl
  · obtain rfl := List.mem_singleton.1 h
    rfl

theorem advertise_solicits {o : NdOutput} (h : o ∈ a.advertise rand) : o.solicits = none := by
  unfold NDAgent.advertise at h
  split_ifs at h
  · exact sendAds_solicits h
  · obtain ⟨d, -, ho⟩ := List.mem_flatMap.1 h
    exact sendAds_solicits ho

/-- One round of solicitations. -/
theorem sendRs_round (hhost : a.settings.router = false) (hrs : s.status ((), .rs) ≠ .pending)
    (h : NDAgent.sendRs () a s = ((a', s'), out)) :
    a'.settings = a.settings ∧ a'.nbRtrSol = a.nbRtrSol ∧ s'.status ((), .rs) = .pending ∧
      out.filterMap NdOutput.solicits = a.settings.rsTargets := by
  unfold NDAgent.sendRs at h
  rw [if_neg (by simp [hhost]), if_neg hrs] at h
  obtain ⟨hstate, rfl⟩ := Prod.mk.inj h
  obtain ⟨rfl, rfl⟩ := Prod.mk.inj hstate
  refine ⟨rfl, rfl, ?_, ?_⟩
  · rw [status_resched, Function.update_self]
  · simp [List.filterMap_map, Function.comp_def, NdOutput.solicits, NdSettings.rsTargets]

/-- A call of `send_rs` leaves the settings and the counter alone. -/
theorem sendRs_counter (h : NDAgent.sendRs () a s = ((a', s'), out)) :
    a'.settings = a.settings ∧ a'.nbRtrSol = a.nbRtrSol := by
  unfold NDAgent.sendRs at h
  split_ifs at h <;> obtain ⟨⟨rfl, rfl⟩, rfl⟩ := by simpa using h
  all_goals exact ⟨rfl, rfl⟩

theorem timeout_rs : NDAgent.timeout () a s timerRS rand =
    if a.nbRtrSol + 1 < a.settings.maxRtrSolicitation then
      .ok (NDAgent.sendRs () { a with nbRtrSol := a.nbRtrSol + 1 } s)
    else .ok (({ a with nbRtrSol := 0 }, s), []) := by
  unfold NDAgent.timeout
  rw [if_neg (by decide), if_pos rfl]

theorem timeout_rs_counter (h : NDAgent.timeout () a s timerRS rand = .ok ((a', s'), out)) :
    a'.settings = a.settings ∧ a'.nbRtrSol = a.nextTry := by
  rw [timeout_rs] at h
  unfold NDAgent.nextTry
  split_ifs at h ⊢ with hmore
  · exact sendRs_counter (a := { a with nbRtrSol := a.nbRtrSol + 1 }) (Except.ok.inj h)
  · obtain ⟨hstate, -⟩ := Prod.mk.inj (Except.ok.inj h)
    obtain ⟨rfl, -⟩ := Prod.mk.inj hstate
    exact ⟨rfl, rfl⟩

/-- The RS timer times out: one more round, or the last try is over. -/
theorem timeout_rs_round (hhost : a.settings.router = false)
    (hrs : s.status ((), .rs) = .handling)
    (h : NDAgent.timeout () a s timerRS rand = .ok ((a', s'), out)) :
    if a.nbRtrSol + 1 < a.settings.maxRtrSolicitation then
      s'.status ((), .rs) = .pending ∧ out.filterMap NdOutput.solicits = a.settings.rsTargets
    else s'.status ((), .rs) = .handling ∧ out = [] := by
  rw [timeout_rs] at h
  split_ifs at h ⊢ with hmore
  · have hround := sendRs_round (a := { a with nbRtrSol := a.nbRtrSol + 1 }) hhost
      (by rw [hrs]; decide) (Except.ok.inj h)
    exact hround.2.2
  · obtain ⟨hstate, rfl⟩ := Prod.mk.inj (Except.ok.inj h)
    obtain ⟨-, rfl⟩ := Prod.mk.inj hstate
    exact ⟨hrs, rfl⟩

/-- Another timer leaves all this alone, or its prefix times out as the RS timer. -/
theorem expire_other {x : NdTimer} (hx : x ≠ .rs)
    (h : NDAgent.expire () a s x rand = .ok ((a', s'), out)) :
    RsSame a s a' s' out ∨
      x.isStray = true ∧ NDAgent.timeout () a s timerRS rand = .ok ((a', s'), out) := by
  have hra : NDAgent.timeout () a s timerRA rand = .ok ((a', s'), out) →
      RsSame a s a' s' out := by
    intro h
    obtain ⟨hstate, rfl⟩ := Prod.mk.inj (Except.ok.inj h)
    obtain ⟨rfl, rfl⟩ := Prod.mk.inj hstate
    refine ⟨rfl, rfl, ?_, fun o ho => advertise_solicits ho⟩
    rw [status_resched, Function.update_of_ne (by decide)]
  cases x with
  | ra => exact Or.inl (hra h)
  | rs => exact absurd rfl hx
  | ofPrefix id p =>
    by_cases hp : Special p
    · rcases hp with rfl | rfl
      · exact Or.inl (hra h)
      · exact Or.inr ⟨rfl, h⟩
    · rw [NDAgent.expire, timeout_plain hp] at h
      obtain ⟨e, -, he⟩ := map_ok_iff.1 h
      obtain ⟨hstate, rfl⟩ := Prod.mk.inj he
      obtain ⟨rfl, rfl⟩ := Prod.mk.inj hstate
      refine Or.inl ⟨rfl, rfl, rfl, fun o ho => ?_⟩
      split_ifs at ho
      · obtain rfl := List.mem_singleton.1 ho
        rfl
      · cases ho
  | reply id daddr =>
    obtain ⟨hstate, rfl⟩ := Prod.mk.inj (Except.ok.inj h)
    obtain ⟨rfl, rfl⟩ := Prod.mk.inj hstate
    exact Or.inl ⟨rfl, rfl, rfl, fun o ho => sendAds_solicits ho⟩

/-- An advertisement leaves the settings and the counter alone. -/
theorem recvAds_counter {rh : RtAds} {saddr : Addr}
    (h : NDAgent.recvAds () a s rh saddr = .ok ((a', s'), out)) :
    a'.settings = a.settings ∧ a'.nbRtrSol = a.nbRtrSol := by
  unfold NDAgent.recvAds at h
  obtain ⟨s₁, -, h⟩ := bind_ok_iff.1 h
  cases hlookup : a.lookupEntry rh.prefix_ with
  | some e =>
    rw [hlookup] at h
    obtain ⟨hstate, -⟩ := Prod.mk.inj (Except.ok.inj h)
    obtain ⟨rfl, -⟩ := Prod.mk.inj hstate
    exact ⟨rfl, rfl⟩
  | none =>
    rw [hlookup] at h
    obtain ⟨state, hadd, h⟩ := bind_ok_iff.1 h
    obtain ⟨rfl, -⟩ := Prod.mk.inj (Except.ok.inj h)
    obtain ⟨-, rfl, -⟩ := addPrefix_eq_ok hadd
    exact ⟨rfl, rfl⟩

variable {i : NDAgent.NdStep}

/-- What a host does, apart from its timers, that has nothing to do with solicitations. -/
theorem perform_same (hhost : a.settings.router = false) (hrads : ∀ rh saddr, i ≠ .rads rh saddr)
    (hcall : i ≠ .sendRs) (hset : ∀ settings, i ≠ .set settings)
    (h : NDAgent.perform () a s i = .ok ((a', s'), out)) : RsSame a s a' s' out := by
  cases i with
  | rads rh saddr => exact absurd rfl (hrads rh saddr)
  | sendRs => exact absurd rfl hcall
  | set settings => exact absurd rfl (hset settings)
  | sendAds rand => exact .of_unchanged (fun o ho => sendAds_solicits ho) h
  | rsol saddr rand =>
    simp only [NDAgent.perform, hhost] at h
    exact .of_unchanged (fun o ho => absurd ho List.not_mem_nil) h
  | startRa rand =>
    simp only [NDAgent.perform, hhost] at h
    exact .of_unchanged (fun o ho => absurd ho List.not_mem_nil) h
  | stopRa =>
    simp only [NDAgent.perform, hhost] at h
    exact .of_unchanged (fun o ho => absurd ho List.not_mem_nil) h

/-- Apart from its timers, nothing that happens to a host changes the counter. -/
theorem perform_counter (hhost : a.settings.router = false) (hset : ∀ settings, i ≠ .set settings)
    (h : NDAgent.perform () a s i = .ok ((a', s'), out)) :
    a'.settings = a.settings ∧ a'.nbRtrSol = a.nbRtrSol := by
  by_cases hrads : ∃ rh saddr, i = .rads rh saddr
  · obtain ⟨rh, saddr, rfl⟩ := hrads
    simp only [NDAgent.perform, hhost] at h
    exact recvAds_counter h
  · by_cases hcall : i = .sendRs
    · subst hcall
      exact sendRs_counter (Except.ok.inj h)
    · have hsame := perform_same hhost (fun rh saddr hi => hrads ⟨rh, saddr, hi⟩) hcall hset h
      exact ⟨hsame.settings, hsame.nbRtrSol⟩

end Agent

namespace NdRun

variable {r r' r₁ t : NdRun} {i : Input} {e : ℕ}

/-! ### Before the call -/

/-- The counter of a host is below the number of tries. -/
structure Counts (r : NdRun) : Prop where
  host : r.agent.settings.router = false
  nonneg : 0 ≤ r.agent.nbRtrSol
  lt : r.agent.nbRtrSol < r.agent.settings.maxRtrSolicitation
  orderly : r.sched.Orderly

/-- The settings stay, and the counter stays or goes on. -/
theorem step_counter (hhost : r.agent.settings.router = false)
    (hset : ∀ settings, i ≠ .now (.set settings)) (h : r.step i = .ok r') :
    r'.agent.settings = r.agent.settings ∧
      (r'.agent.nbRtrSol = r.agent.nbRtrSol ∨ r'.agent.nbRtrSol = r.agent.nextTry) := by
  cases i with
  | now i =>
    obtain ⟨⟨⟨a, s⟩, out⟩, hperform, h⟩ := bind_ok_iff.1 h
    obtain rfl := Except.ok.inj h
    obtain ⟨hsettings, hnb⟩ :=
      perform_counter hhost (fun settings heq => hset settings (congrArg _ heq)) hperform
    exact ⟨hsettings, Or.inl hnb⟩
  | fire rand =>
    obtain ⟨⟨⟨⟨⟩, x⟩, s₁⟩, -, h⟩ := bind_ok_iff.1 h
    obtain ⟨⟨⟨a, s⟩, out⟩, hhandle, h⟩ := bind_ok_iff.1 h
    obtain rfl := Except.ok.inj h
    obtain ⟨⟨⟨a₁, s₂⟩, out₁⟩, hexpire, h⟩ := bind_ok_iff.1 hhandle
    obtain ⟨hstate, -⟩ := Prod.mk.inj (Except.ok.inj h)
    obtain ⟨rfl, -⟩ := Prod.mk.inj hstate
    by_cases hx : x = .rs
    · subst hx
      obtain ⟨hsettings, hnb⟩ := timeout_rs_counter hexpire
      exact ⟨hsettings, Or.inr hnb⟩
    · rcases expire_other hx hexpire with hsame | ⟨-, htimeout⟩
      · exact ⟨hsame.settings, Or.inl hsame.nbRtrSol⟩
      · obtain ⟨hsettings, hnb⟩ := timeout_rs_counter htimeout
        exact ⟨hsettings, Or.inr hnb⟩
  | wait t =>
    obtain ⟨s, -, h⟩ := bind_ok_iff.1 h
    obtain rfl := Except.ok.inj h
    exact ⟨rfl, Or.inl rfl⟩

/-- A step keeps the queue in order, and one event for each pending timer in it. -/
theorem step_orderly (hs : r.sched.Orderly) (h : r.step i = .ok r') : r'.sched.Orderly := by
  have hresched : ∀ {s : NdScheduler Unit}, s.Orderly → ∀ x d, (s.resched x d).Orderly :=
    fun hs x d => (hs.resched (P := fun _ => False) id d).orderly
  cases i with
  | now i =>
    obtain ⟨⟨⟨a, s⟩, out⟩, hperform, h⟩ := bind_ok_iff.1 h
    obtain rfl := Except.ok.inj h
    rcases perform_cases hs hperform with
      ⟨hquiet, -⟩ | ⟨-, -, -, rfl, -⟩ | ⟨rh, saddr, -, -, hrecv⟩
    · exact hquiet.spares.orderly
    · exact hs
    · obtain ⟨s₁, hs₁, ⟨e, -, heq, -⟩ | ⟨hadd, -⟩⟩ := recvAds_cases hs hrecv
      · obtain ⟨-, rfl⟩ := Prod.mk.inj heq
        exact hresched hs₁.orderly _ _
      · obtain ⟨-, -, rfl⟩ := addPrefix_eq_ok hadd
        exact hresched hs₁.orderly _ _
  | fire rand =>
    obtain ⟨⟨⟨⟨⟩, x⟩, s₁⟩, hd, h⟩ := bind_ok_iff.1 h
    obtain ⟨⟨⟨a, s⟩, out⟩, hhandle, h⟩ := bind_ok_iff.1 h
    obtain rfl := Except.ok.inj h
    obtain ⟨⟨⟨a₁, s₂⟩, out₁⟩, hexpire, h⟩ := bind_ok_iff.1 hhandle
    obtain ⟨hstate, -⟩ := Prod.mk.inj (Except.ok.inj h)
    obtain ⟨-, rfl⟩ := Prod.mk.inj hstate
    have hs₁ : s₁.Orderly := hs.dispatch (orAbort_eq_ok.1 hd)
    have hs₂ : s₂.Orderly := by
      by_cases hplain : ∃ id p, x = .ofPrefix id p ∧ ¬ Special p
      · obtain ⟨id, p, rfl, hp⟩ := hplain
        rw [NDAgent.expire, timeout_plain hp] at hexpire
        obtain ⟨e, -, he⟩ := map_ok_iff.1 hexpire
        obtain ⟨-, rfl⟩ := Prod.mk.inj (Prod.mk.inj he).1
        exact hs₁
      · refine (expire_quiet hs₁ (fun id p hx => ?_) hexpire).spares.orderly
        by_contra hp
        exact hplain ⟨id, p, hx, hp⟩
    exact (hs₂.finish (P := fun _ => False) ((), x)).orderly
  | wait t =>
    obtain ⟨s, hwait, h⟩ := bind_ok_iff.1 h
    obtain rfl := Except.ok.inj h
    exact hs.wait (orAbort_eq_ok.1 hwait)

theorem Counts.step (h : r.Counts) (hset : ∀ settings, i ≠ .now (.set settings))
    (hstep : r.step i = .ok r') : r'.Counts := by
  obtain ⟨hsettings, hnb⟩ := step_counter h.host hset hstep
  have hnonneg := h.nonneg
  have hlt := h.lt
  unfold NDAgent.nextTry at hnb
  refine ⟨by rw [hsettings]; exact h.host, ?_, ?_, step_orderly h.orderly hstep⟩
  · rcases hnb with hnb | hnb
    · omega
    · split_ifs at hnb <;> omega
  · rw [hsettings]
    rcases hnb with hnb | hnb
    · omega
    · split_ifs at hnb <;> omega

/-! ### After the call -/

theorem solicited_append (a : NDAgent) (s : NdScheduler Unit) (out : List NdOutput)
    (heard : Addr → Option ℚ) : solicited ⟨a, s, out.reverse ++ r.log, heard⟩ =
      r.solicited ++ out.filterMap NdOutput.solicits := by
  simp [solicited]

theorem filterMap_silent {out : List NdOutput} (h : ∀ o ∈ out, o.solicits = none) :
    out.filterMap NdOutput.solicits = [] := List.filterMap_eq_nil_iff.2 h

/-- The call: the first round. -/
theorem step_sendRs (h : r.Counts) (hidle : r.rsStatus = .idle)
    (hcall : r.step (.now .sendRs) = .ok r₁) :
    r₁.Counts ∧ r₁.agent.settings = r.agent.settings ∧ r₁.agent.nbRtrSol = r.agent.nbRtrSol ∧
      r₁.rsStatus = .pending ∧ r₁.solicited = r.solicited ++ r.agent.settings.rsTargets := by
  have hcounts := h.step (fun settings heq => by cases heq) hcall
  obtain ⟨⟨⟨a, s⟩, out⟩, hperform, hr₁⟩ := bind_ok_iff.1 hcall
  obtain rfl := Except.ok.inj hr₁
  have hne : r.sched.status ((), .rs) ≠ .pending := by
    rw [show r.sched.status ((), .rs) = .idle from hidle]
    decide
  obtain ⟨hsettings, hnb, hrs, hout⟩ := sendRs_round h.host hne (Except.ok.inj hperform)
  refine ⟨hcounts, hsettings, hnb, hrs, ?_⟩
  rw [solicited_append, hout]

/-- What an expiry of the RS timer does. -/
structure Expires (r r' : NdRun) : Prop where
  pending : r.rsStatus = .pending
  nbRtrSol : r'.agent.nbRtrSol = r.agent.nextTry
  round : if r.agent.nbRtrSol + 1 < r.agent.settings.maxRtrSolicitation then
      r'.rsStatus = .pending ∧ r'.solicited = r.solicited ++ r.agent.settings.rsTargets
    else r'.rsStatus = .idle ∧ r'.solicited = r.solicited

/-- Nothing that has to do with solicitations changes. -/
structure Rests (r r' : NdRun) : Prop where
  nbRtrSol : r'.agent.nbRtrSol = r.agent.nbRtrSol
  rsStatus : r'.rsStatus = r.rsStatus
  solicited : r'.solicited = r.solicited

theorem Rests.of_same {a : NDAgent} {s : NdScheduler Unit} {out : List NdOutput}
    (h : RsSame r.agent r.sched a s out) (heard : Addr → Option ℚ) :
    Rests r ⟨a, s, out.reverse ++ r.log, heard⟩ where
  nbRtrSol := h.nbRtrSol
  rsStatus := h.status
  solicited := by rw [solicited_append, filterMap_silent h.silent, List.append_nil]

/-- The first event of the queue says whether the RS timer expires. -/
theorem rsExpires_fire {x : NdTimer} {s : NdScheduler Unit} (rand : Rand)
    (hd : r.sched.dispatch = some (((), x), s)) :
    (r.rsExpires (.fire rand) = true ↔ x = .rs) ∧
      (r.Unanswered (.fire rand) → x.isStray = false) := by
  obtain ⟨t, q, hq, -, -, -⟩ := dispatch_eq_some hd
  refine ⟨by simp [rsExpires, hq], fun h => h (t, (), x) ?_⟩
  rw [hq]
  rfl

/-- The timer that is up expires, as long as nobody answers. -/
theorem fire_unanswered {rand : Rand} (hhost : r.agent.settings.router = false)
    (hi : r.Unanswered (.fire rand)) (h : r.step (.fire rand) = .ok r') :
    if r.rsExpires (.fire rand) then Expires r r' else Rests r r' := by
  obtain ⟨⟨⟨⟨⟩, x⟩, s₁⟩, hd, h⟩ := bind_ok_iff.1 h
  obtain ⟨⟨⟨a, s⟩, out⟩, hhandle, h⟩ := bind_ok_iff.1 h
  obtain rfl := Except.ok.inj h
  obtain ⟨⟨⟨a₁, s₂⟩, out₁⟩, hexpire, h⟩ := bind_ok_iff.1 hhandle
  obtain ⟨hstate, rfl⟩ := Prod.mk.inj (Except.ok.inj h)
  obtain ⟨rfl, rfl⟩ := Prod.mk.inj hstate
  have hdispatch := orAbort_eq_ok.1 hd
  obtain ⟨hexpires, hstray⟩ := rsExpires_fire rand hdispatch
  obtain ⟨hpending, hstatus⟩ := status_dispatch hdispatch
  by_cases hx : x = .rs
  · subst hx
    rw [if_pos (hexpires.2 rfl)]
    have hhandling : s₁.status ((), .rs) = .handling := by rw [hstatus, Function.update_self]
    have hround := timeout_rs_round hhost hhandling hexpire
    refine ⟨hpending, (timeout_rs_counter hexpire).2, ?_⟩
    rw [solicited_append, rsStatus, status_finish_self]
    split_ifs at hround ⊢ with hmore hsend hsend
    · rw [hround.1] at hsend
      cases hsend
    · rw [hround.2]
      exact ⟨hround.1, rfl⟩
    · rw [hround.2]
      exact ⟨rfl, List.append_nil _⟩
    · exact absurd hround.1 hsend
  · rw [if_neg fun hrs => hx (hexpires.1 hrs)]
    rcases expire_other hx hexpire with hsame | ⟨htrue, -⟩
    · -- the state of the RS timer is not touched by another one
      have hne : ((), NdTimer.rs) ≠ ((), x) := fun heq => hx (Prod.mk.inj heq).2.symm
      refine .of_same ⟨hsame.settings, hsame.nbRtrSol, ?_, hsame.silent⟩ r.heard
      rw [status_finish_of_ne hne, hsame.status, hstatus, Function.update_of_ne hne]
    · rw [hstray hi] at htrue
      cases htrue

theorem step_unanswered (hhost : r.agent.settings.router = false) (hi : r.Unanswered i)
    (h : r.step i = .ok r') : if r.rsExpires i then Expires r r' else Rests r r' := by
  cases i with
  | fire rand => exact fire_unanswered hhost hi h
  | now i =>
    obtain ⟨⟨⟨a, s⟩, out⟩, hperform, h⟩ := bind_ok_iff.1 h
    obtain rfl := Except.ok.inj h
    refine Rests.of_same (perform_same hhost ?_ ?_ ?_ hperform) _
    · rintro rh saddr rfl
      exact hi
    · rintro rfl
      exact hi
    · rintro settings rfl
      exact hi
  | wait t =>
    obtain ⟨s, hwait, h⟩ := bind_ok_iff.1 h
    obtain rfl := Except.ok.inj h
    obtain ⟨-, rfl⟩ := wait_eq_some (orAbort_eq_ok.1 hwait)
    exact Rests.mk rfl rfl rfl

/-- The solicitation that began in `r` with `tries` tries left, after `e` expiries. -/
structure Tries (r : NdRun) (tries e : ℕ) (t : NdRun) : Prop where
  counts : t.Counts
  settings : t.agent.settings = r.agent.settings
  le : e ≤ tries
  going : e < tries → t.rsStatus = .pending ∧
    t.agent.nbRtrSol + tries = r.agent.settings.maxRtrSolicitation + e
  ended : e = tries → t.rsStatus = .idle
  solicited : t.solicited =
    r.solicited ++ (List.replicate (min (e + 1) tries) r.agent.settings.rsTargets).flatten

/-- One step while nobody answers. -/
theorem Tries.step {tries : ℕ} (h : Tries r tries e t) (hi : t.Unanswered i)
    (hstep : t.step i = .ok r') : Tries r tries (e + if t.rsExpires i then 1 else 0) r' := by
  have hset : ∀ settings, i ≠ .now (.set settings) := by
    rintro settings rfl
    exact hi
  have hcounts := h.counts.step hset hstep
  have hsettings := (step_counter h.counts.host hset hstep).1.trans h.settings
  have hcases := step_unanswered h.counts.host hi hstep
  have hle := h.le
  split_ifs at hcases ⊢ with hrs
  · -- an expiry: there was a try left
    have hlt : e < tries := by
      refine lt_of_le_of_ne hle fun heq => ?_
      have hidle := h.ended heq
      rw [hcases.pending] at hidle
      cases hidle
    obtain ⟨-, hnb⟩ := h.going hlt
    have hround := hcases.round
    rw [h.settings] at hround
    have hnext := hcases.nbRtrSol
    unfold NDAgent.nextTry at hnext
    rw [h.settings] at hnext
    have hmin : min (e + 1) tries = e + 1 := by omega
    rw [h.solicited, hmin] at hround
    split_ifs at hround hnext with hmore
    · have hmin' : min (e + 1 + 1) tries = e + 1 + 1 := by omega
      refine ⟨hcounts, hsettings, hlt, fun _ => ⟨hround.1, by omega⟩, fun heq => by omega, ?_⟩
      rw [hround.2, hmin', List.append_assoc, List.replicate_succ' (n := e + 1),
        List.flatten_concat]
    · have hmin' : min (e + 1 + 1) tries = e + 1 := by omega
      refine ⟨hcounts, hsettings, hlt, fun hlt' => by omega, fun _ => hround.1, ?_⟩
      rw [hround.2, hmin']
  · rw [add_zero]
    refine ⟨hcounts, hsettings, hle, fun hlt => ?_, fun heq => ?_, ?_⟩
    · rw [hcases.rsStatus, hcases.nbRtrSol]
      exact h.going hlt
    · rw [hcases.rsStatus]
      exact h.ended heq
    · rw [hcases.solicited]
      exact h.solicited

theorem Tries.run {tries : ℕ} {u : NdRun} {is : List Input} (h : Tries r tries e u)
    (his : StepsMeet NdRun.step Unanswered u is) (hrun : runSteps NdRun.step u is = .ok t) :
    Tries r tries (e + expiries u is) t := by
  induction is generalizing u e with
  | nil =>
    obtain rfl : u = t := Except.ok.inj hrun
    exact h
  | cons i is ih =>
    obtain ⟨v, hv, hrest⟩ := runSteps_cons_ok.1 hrun
    have htries := ih (h.step his.1 hv) (his.2 v hv) hrest
    rwa [expiries, hv, ← add_assoc]

/-- After any history of a host whose settings stay as they are, let `send_rs` be called while the
RS timer is idle, and let nobody answer.  The timer is scheduled, with fewer expiries than there may
be tries, until it is idle; and then the solicitation has had all its tries if and only if the
counter was 0. -/
theorem full_tries_iff (clock : ℚ) (addr : Addr) (node : NodeId) (settings : NdSettings)
    (is js : List Input) (r r₁ t : NdRun) (hhost : settings.router = false)
    (htries : 1 ≤ settings.maxRtrSolicitation) (hset : ∀ settings, .now (.set settings) ∉ is)
    (hrun : runSteps step (start clock addr node settings) is = .ok r)
    (hidle : r.rsStatus = .idle) (hcall : r.step (.now .sendRs) = .ok r₁)
    (hjs : StepsMeet step Unanswered r₁ js) (hafter : runSteps step r₁ js = .ok t) :
    (t.rsStatus = .idle ∨
      t.RsScheduled ∧ (expiries r₁ js : ℤ) < r.agent.settings.maxRtrSolicitation) ∧
    (t.rsStatus = .idle → (FullTries r t (expiries r₁ js) ↔ r.agent.nbRtrSol = 0)) := by
  have hstart : (start clock addr node settings).Counts :=
    ⟨hhost, le_rfl, by show (0 : ℤ) < settings.maxRtrSolicitation; omega,
      (start_inv clock addr node settings).orderly⟩
  have hmeets : StepsMeet step (fun _ i => ∀ settings, i ≠ .now (.set settings))
      (start clock addr node settings) is := by
    refine stepsMeet_of_mem ?_ _
    rintro i hi - settings rfl
    exact hset settings hi
  have hcounts : r.Counts := runSteps_invariant (fun _ _ _ h hi hs => h.step hi hs) hstart hmeets hrun
  obtain ⟨hcounts₁, hsettings, hnb, hrs, hsol⟩ := step_sendRs hcounts hidle hcall
  -- the tries that the counter leaves
  obtain ⟨tries, hleft⟩ := Int.eq_ofNat_of_zero_le
    (show 0 ≤ r.agent.settings.maxRtrSolicitation - r.agent.nbRtrSol by linarith [hcounts.lt])
  have hpos : 1 ≤ tries := by
    have := hcounts.lt
    omega
  have hfirst : Tries r tries 0 r₁ := by
    refine ⟨hcounts₁, hsettings, Nat.zero_le _, fun _ => ⟨hrs, by omega⟩, fun heq => by omega, ?_⟩
    rw [hsol, show min (0 + 1) tries = 1 by omega]
    simp
  have hend := hfirst.run hjs hafter
  rw [zero_add] at hend
  have hnonneg := hcounts.nonneg
  constructor
  · rcases hend.le.lt_or_eq with hlt | heq
    · refine Or.inr ⟨?_, by omega⟩
      exact (hend.counts.orderly.consistent.pending_iff _).1 (hend.going hlt).1
    · exact Or.inl (hend.ended heq)
  · intro hdone
    have hall : expiries r₁ js = tries := by
      by_contra hne
      have hpending := (hend.going (lt_of_le_of_ne hend.le hne)).1
      rw [hdone] at hpending
      cases hpending
    have hsent := hend.solicited
    rw [hall, show min (tries + 1) tries = tries by omega] at hsent
    rw [FullTries, hall, and_iff_left hsent]
    omega

/-- The RS timer expires. -/
def rsExpiry : Input := .fire ⟨0, fun _ => 0⟩

/-- A solicitation that nobody answers. -/
def unanswered : List Input := [.now .sendRs, rsExpiry, rsExpiry, rsExpiry]

/-- What there is to see of the solicitations of a run. -/
structure Report where
  rsStatus : TimerStatus
  nbRtrSol : ℤ
  maxRtrSolicitation : ℤ
  solicited : List Addr
  deriving DecidableEq

def report (r : NdRun) : Report where
  rsStatus := r.rsStatus
  nbRtrSol := r.agent.nbRtrSol
  maxRtrSolicitation := r.agent.settings.maxRtrSolicitation
  solicited := r.solicited

/-- A history of the sample host, a call of `send_rs` and what comes after it: the reports before
and after, the expiries, and whether nobody answers. -/
def calls (is js : List Input) : Act (Report × Report × ℕ × Bool) := do
  let r ← runSteps step (start 0 1 1 sampleHost) is
  let r₁ ← r.step (.now .sendRs)
  let t ← runSteps step r₁ js
  pure (r.report, t.report, expiries r₁ js, decide (StepsMeet step Unanswered r₁ js))

theorem calls_ok (is js : List Input) (before after : Report) (e : ℕ)
    (h : calls is js = .ok (before, after, e, true)) :
    ∃ r r₁ t, runSteps step (start 0 1 1 sampleHost) is = .ok r ∧ r.step (.now .sendRs) = .ok r₁ ∧
      runSteps step r₁ js = .ok t ∧ r.report = before ∧ t.report = after ∧ expiries r₁ js = e ∧
      StepsMeet step Unanswered r₁ js := by
  obtain ⟨r, hr, h⟩ := bind_ok_iff.1 h
  obtain ⟨r₁, hr₁, h⟩ := bind_ok_iff.1 h
  obtain ⟨t, ht, h⟩ := bind_ok_iff.1 h
  obtain ⟨hbefore, hafter, he, hmeet⟩ := by simpa using h
  exact ⟨r, r₁, t, hr, hr₁, ht, hbefore, hafter, he, hmeet⟩

/-- The second of two solicitations that nobody answers. -/
theorem full_tries_of_unanswered :
    ∃ r r₁ t, runSteps step (start 0 1 1 sampleHost) unanswered = .ok r ∧
      r.step (.now .sendRs) = .ok r₁ ∧ runSteps step r₁ [rsExpiry, rsExpiry, rsExpiry] = .ok t ∧
      t.rsStatus = .idle ∧ FullTries r t (expiries r₁ [rsExpiry, rsExpiry, rsExpiry]) := by
  obtain ⟨r, r₁, t, hr, hr₁, ht, hbefore, hafter, -, hmeet⟩ := calls_ok
    unanswered [rsExpiry, rsExpiry, rsExpiry] ⟨.idle, 0, 3, List.replicate 3 ipBroadcast⟩
    ⟨.idle, 0, 3, List.replicate 6 ipBroadcast⟩ 3 (by decide +kernel)
  obtain ⟨hidle, hnb, -, -⟩ := Report.mk.inj hbefore
  obtain ⟨hdone, -, -, -⟩ := Report.mk.inj hafter
  have hset : ∀ settings, .now (.set settings) ∉ unanswered := by simp [unanswered, rsExpiry]
  refine ⟨r, r₁, t, hr, hr₁, ht, hdone, ?_⟩
  exact ((full_tries_iff 0 1 1 sampleHost unanswered _ r r₁ t rfl (by decide) hset hr hidle hr₁
    hmeet ht).2 hdone).2 hnb

/-- A solicitation that is answered after its second try. -/
def answered : List Input := [.now .sendRs, rsExpiry, .now (.rads ⟨3, 0, 0, 2048, 0⟩ 2049)]

/-- The next one has two tries, and not three. -/
theorem not_full_tries :
    ∃ r r₁ t, runSteps step (start 0 1 1 sampleHost) answered = .ok r ∧ r.rsStatus = .idle ∧
      r.agent.settings.maxRtrSolicitation = 3 ∧ r.step (.now .sendRs) = .ok r₁ ∧
      runSteps step r₁ [rsExpiry, rsExpiry] = .ok t ∧
      StepsMeet step Unanswered r₁ [rsExpiry, rsExpiry] ∧ t.rsStatus = .idle ∧
      t.solicited = r.solicited ++ [ipBroadcast, ipBroadcast] ∧
      ¬ FullTries r t (expiries r₁ [rsExpiry, rsExpiry]) := by
  obtain ⟨r, r₁, t, hr, hr₁, ht, hbefore, hafter, he, hmeet⟩ := calls_ok
    answered [rsExpiry, rsExpiry] ⟨.idle, 1, 3, List.replicate 2 ipBroadcast⟩
    ⟨.idle, 0, 3, List.replicate 4 ipBroadcast⟩ 2 (by decide +kernel)
  obtain ⟨hidle, -, hmax, hsol⟩ := Report.mk.inj hbefore
  obtain ⟨hdone, -, -, hsol'⟩ := Report.mk.inj hafter
  refine ⟨r, r₁, t, hr, hidle, hmax, hr₁, ht, hmeet, hdone, ?_, fun h => ?_⟩
  · rw [hsol, hsol']
    rfl
  · have hthree := h.1
    rw [he, hmax] at hthree
    exact absurd hthree (by decide)

end NdRun

end SipNemo.Nd
