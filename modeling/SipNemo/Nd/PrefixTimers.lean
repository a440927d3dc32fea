import SipNemo.Nd.Agent

/-!
# The neighbor list and the timers of its prefixes

`InStep` ties the list of an agent to the queue of events: an entry has an event at its expiry, and
an event of a prefix timer is of an entry.  It is kept by whatever the agent does, given that its
prefixes are not `-1` or `-2`, whose timers time out as other timers: `InStep.insertEntry`,
`InStep.updateEntry` and `InStep.removeEntry` are for the three operations that touch both
structures, `InStep.spares` for all others.

`NdRun` is one agent on its scheduler with the events its interface manager has got.
-/

namespace SipNemo.Nd

open EventQueue EventQueue.Scheduler Runs

/-- The timer of an entry. -/
def Entry.timer (e : Entry) : NdTimer := .ofPrefix e.id e.prefix_

/-- A prefix whose timer times out as another timer of the agent. -/
def Special (p : Addr) : Prop := p = timerRA ∨ p = timerRS

instance (p : Addr) : Decidable (Special p) := inferInstanceAs (Decidable (_ ∨ _))

/-- The event about the prefix `p`, if the output is one. -/
def NdOutput.about (p : Addr) : NdOutput → Option NdEvent
  | .ndEvent .newPrefix q _ _ => if p = q then some .newPrefix else none
  | .ndEvent .prefixExpired q _ _ => if p = q then some .prefixExpired else none
  | .setMrBsPrefix q _ _ _ => if p = q then some .newPrefix else none
  | _ => none

section Steps

variable {ι : Type} {me : ι} {a a' : NDAgent} {s s' : NdScheduler ι} {out : List NdOutput}
  {p : Addr} {l : ℚ} {e : Entry} {rand : Rand}

/-- The timer is of a prefix. -/
def OfPrefix : ι × NdTimer → Prop
  | (_, .ofPrefix _ _) => True
  | _ => False

/-- The list of the agent `me` and the events of its prefix timers. -/
structure InStep (me : ι) (a : NDAgent) (s : NdScheduler ι) : Prop where
  unique : (a.nlist.map Entry.prefix_).Nodup
  fresh : ∀ e ∈ a.nlist, e.id < a.nextEntry
  timer : ∀ e ∈ a.nlist, ¬ Special e.prefix_ → (e.expire, (me, e.timer)) ∈ s.queue
  listed : ∀ t id p, (t, (me, NdTimer.ofPrefix id p)) ∈ s.queue →
    ∃ e ∈ a.nlist, e.timer = .ofPrefix id p ∧ e.expire = t

/-! ### Lookups -/

theorem lookupEntry_some (h : a.lookupEntry p = some e) : e ∈ a.nlist ∧ e.prefix_ = p :=
  ⟨List.mem_of_find?_eq_some h, by simpa using List.find?_some h⟩

theorem lookupEntry_eq_none : a.lookupEntry p = none ↔ ∀ e ∈ a.nlist, e.prefix_ ≠ p := by
  simp [NDAgent.lookupEntry]

/-- Entries with the same prefix are the same. -/
theorem InStep.eq_of_prefix (h : InStep me a s) {e f : Entry} (he : e ∈ a.nlist)
    (hf : f ∈ a.nlist) (hef : e.prefix_ = f.prefix_) : e = f :=
  List.inj_on_of_nodup_map h.unique he hf hef

theorem InStep.lookupEntry (h : InStep me a s) (he : e ∈ a.nlist) :
    a.lookupEntry e.prefix_ = some e := by
  cases hf : a.lookupEntry e.prefix_ with
  | none => exact absurd rfl (lookupEntry_eq_none.1 hf e he)
  | some f =>
    obtain ⟨hfmem, hfp⟩ := lookupEntry_some hf
    rw [h.eq_of_prefix hfmem he hfp]

/-! ### The operations on the list and the timers -/

theorem InStep.congr (h : InStep me a s) (hlist : a'.nlist = a.nlist)
    (hnext : a'.nextEntry = a.nextEntry) : InStep me a' s where
  unique := hlist ▸ h.unique
  fresh := by
    rw [hlist, hnext]
    exact h.fresh
  timer := hlist ▸ h.timer
  listed := hlist ▸ h.listed

theorem InStep.spares {P : ι × NdTimer → Prop} (h : InStep me a s) (hs : s.Spares P s')
    (hP : ∀ id p, P (me, .ofPrefix id p)) : InStep me a s' where
  unique := h.unique
  fresh := h.fresh
  timer e he hp := (hs.mem _ (hP _ _)).2 (h.timer e he hp)
  listed t id p ht := h.listed t id p ((hs.mem _ (hP _ _)).1 ht)

variable [DecidableEq ι]

theorem addPrefix_eq_ok (h : NDAgent.addPrefix me a s p l = .ok (a', s')) :
    a.lookupEntry p = none ∧
      a' = a.insertEntry p s.clock l ∧
      s' = s.resched (me, .ofPrefix a.nextEntry p) l := by
  unfold NDAgent.addPrefix at h
  split at h
  · cases h
  · next hlookup =>
    obtain ⟨rfl, rfl⟩ := Prod.mk.inj (Except.ok.inj h)
    exact ⟨hlookup, rfl, rfl⟩

theorem addPrefix_of_none (h : a.lookupEntry p = none) :
    NDAgent.addPrefix me a s p l =
      .ok (a.insertEntry p s.clock l, s.resched (me, .ofPrefix a.nextEntry p) l) := by
  simp [NDAgent.addPrefix, h]

theorem InStep.insertEntry (h : InStep me a s) (hs : s.Orderly) (hno : a.lookupEntry p = none) :
    InStep me (a.insertEntry p s.clock l) (s.resched (me, .ofPrefix a.nextEntry p) l) := by
  have hmem := fun f => mem_resched (x := (me, .ofPrefix a.nextEntry p)) (d := l) (f := f)
    hs.consistent
  refine ⟨?_, ?_, ?_, ?_⟩
  · refine List.nodup_cons.2 ⟨?_, h.unique⟩
    simpa using lookupEntry_eq_none.1 hno
  · intro e he
    rcases List.mem_cons.1 he with rfl | he
    · exact Nat.lt_succ_self _
    · exact (h.fresh e he).trans (Nat.lt_succ_self _)
  · intro e he hp
    rw [hmem]
    rcases List.mem_cons.1 he with rfl | he
    · exact Or.inl rfl
    · have hid := (h.fresh e he).ne
      exact Or.inr ⟨h.timer e he hp, by simp [Entry.timer, hid]⟩
  · intro t id q ht
    rcases (hmem _).1 ht with heq | ⟨ht, -⟩
    · obtain ⟨rfl, hx⟩ := Prod.mk.inj heq
      obtain ⟨rfl, rfl⟩ := NdTimer.ofPrefix.inj (Prod.mk.inj hx).2
      exact ⟨_, List.mem_cons_self, rfl, rfl⟩
    · obtain ⟨e, he, hte⟩ := h.listed t id q ht
      exact ⟨e, List.mem_cons_of_mem _ he, hte⟩

/-- The entry with its new expiry. -/
theorem mem_updateEntry {f : Entry} (he : e ∈ a.nlist) :
    f ∈ (NDAgent.updateEntry me a s e l).1.nlist ↔
      f = { e with time := s.clock, lftm := l } ∨ f ∈ a.nlist ∧ f ≠ e := by
  simp only [NDAgent.updateEntry, List.mem_map]
  constructor
  · rintro ⟨x, hx, rfl⟩
    by_cases hxe : x = e
    · exact Or.inl (if_pos hxe)
    · rw [if_neg hxe]
      exact Or.inr ⟨hx, hxe⟩
  · rintro (rfl | ⟨hf, hfe⟩)
    · exact ⟨e, he, if_pos rfl⟩
    · exact ⟨f, hf, if_neg hfe⟩

@[simp] theorem map_prefix_updateEntry :
    (NDAgent.updateEntry me a s e l).1.nlist.map Entry.prefix_ = a.nlist.map Entry.prefix_ := by
  simp only [NDAgent.updateEntry, List.map_map]
  refine List.map_congr_left fun x _ => ?_
  by_cases hx : x = e <;> simp [hx]

theorem InStep.updateEntry (h : InStep me a s) (hs : s.Orderly) (he : e ∈ a.nlist) :
    InStep me (NDAgent.updateEntry me a s e l).1 (NDAgent.updateEntry me a s e l).2 := by
  have hmem := fun f => mem_resched (x := (me, e.timer)) (d := l) (f := f) hs.consistent
  -- the timer of another entry has another prefix
  have hother : ∀ f ∈ a.nlist, f ≠ e → f.timer ≠ e.timer := by
    intro f hf hne heq
    exact hne (h.eq_of_prefix hf he (NdTimer.ofPrefix.inj heq).2)
  refine ⟨?_, ?_, ?_, ?_⟩
  · rw [map_prefix_updateEntry]
    exact h.unique
  · intro f hf
    rcases (mem_updateEntry he).1 hf with rfl | ⟨hf, -⟩
    · exact h.fresh e he
    · exact h.fresh f hf
  · intro f hf hp
    refine (hmem _).2 ?_
    rcases (mem_updateEntry he).1 hf with rfl | ⟨hf, hne⟩
    · exact Or.inl rfl
    · refine Or.inr ⟨h.timer f hf hp, fun heq => ?_⟩
      exact hother f hf hne (Prod.mk.inj heq).2
  · intro t id q ht
    rcases (hmem _).1 ht with heq | ⟨ht, hne⟩
    · obtain ⟨rfl, hx⟩ := Prod.mk.inj heq
      exact ⟨_, (mem_updateEntry he).2 (Or.inl rfl), (Prod.mk.inj hx).2.symm, rfl⟩
    · obtain ⟨f, hf, htf, hexp⟩ := h.listed t id q ht
      refine ⟨f, (mem_updateEntry he).2 (Or.inr ⟨hf, ?_⟩), htf, hexp⟩
      rintro rfl
      exact hne (by rw [htf])

/-- The timer that is up is the one of a listed entry. -/
theorem InStep.dispatch {id : ℕ} (h : InStep me a s)
    (hd : s.dispatch = some ((me, .ofPrefix id p), s')) :
    ∃ e ∈ a.nlist, e.timer = .ofPrefix id p ∧ e.expire = s'.clock := by
  obtain ⟨t, q, hq, -, hclock, -⟩ := dispatch_eq_some hd
  rw [hclock]
  exact h.listed t id p (by simp [hq])

/-- The timer that is up is not one on which an entry depends. -/
theorem InStep.dispatch_other {x : ι × NdTimer} (h : InStep me a s) (hs : s.Orderly)
    (hd : s.dispatch = some (x, s'))
    (hx : ∀ e ∈ a.nlist, ¬ Special e.prefix_ → (me, e.timer) ≠ x) : InStep me a s' where
  unique := h.unique
  fresh := h.fresh
  timer e he hp := (mem_dispatch hs.consistent hd).2 ⟨h.timer e he hp, hx e he hp⟩
  listed t id p ht := h.listed t id p ((mem_dispatch hs.consistent hd).1 ht).1

theorem InStep.removeEntry (h : InStep me a s) (hs : s.Orderly) (he : e ∈ a.nlist)
    (hd : s.dispatch = some ((me, e.timer), s')) :
    InStep me (a.removeEntry e) s' := by
  have hnodup : a.nlist.Nodup := .of_map _ h.unique
  have hmem : ∀ f, f ∈ a.nlist.erase e ↔ f ≠ e ∧ f ∈ a.nlist := fun f => hnodup.mem_erase_iff
  refine ⟨h.unique.sublist (List.erase_sublist.map _), ?_, ?_, ?_⟩
  · exact fun f hf => h.fresh f ((hmem f).1 hf).2
  · intro f hf hp
    obtain ⟨hne, hf⟩ := (hmem f).1 hf
    refine (mem_dispatch hs.consistent hd).2 ⟨h.timer f hf hp, fun heq => hne ?_⟩
    exact h.eq_of_prefix hf he (NdTimer.ofPrefix.inj (Prod.mk.inj heq).2).2
  · intro t id q ht
    obtain ⟨ht, hne⟩ := (mem_dispatch hs.consistent hd).1 ht
    obtain ⟨f, hf, htf, hexp⟩ := h.listed t id q ht
    refine ⟨f, (hmem f).2 ⟨?_, hf⟩, htf, hexp⟩
    rintro rfl
    exact hne (by rw [htf])

/-! ### What a step does to them -/

/-- The list and the events of the prefix timers are as before, and nothing is said of a prefix. -/
structure Quiet (a : NDAgent) (s : NdScheduler ι) (a' : NDAgent) (s' : NdScheduler ι)
    (out : List NdOutput) : Prop where
  settings : a'.settings = a.settings
  node : a'.node = a.node
  nlist : a'.nlist = a.nlist
  nextEntry : a'.nextEntry = a.nextEntry
  spares : s.Spares OfPrefix s'
  silent : ∀ o ∈ out, ∀ p, o.about p = none

omit [DecidableEq ι] in
theorem Quiet.inStep (hq : Quiet a s a' s' out) (h : InStep me a s) : InStep me a' s' :=
  (h.spares hq.spares fun _ _ => trivial).congr hq.nlist hq.nextEntry

theorem sendAds_silent {daddr : Addr} {random : ℕ} {o : NdOutput} (h : o ∈ a.sendAds daddr random)
    (p : Addr) : o.about p = none := by
  unfold NDAgent.sendAds at h
  split_ifs at h
  · split at h
    · cases h
    · obtain rfl := List.mem_singleton.1 h
      rfl
  · obtain rfl := List.mem_singleton.1 h
    rfl

theorem advertise_silent {o : NdOutput} (h : o ∈ a.advertise rand) (p : Addr) :
    o.about p = none := by
  unfold NDAgent.advertise at h
  split_ifs at h
  · exact sendAds_silent h p
  · obtain ⟨d, -, ho⟩ := List.mem_flatMap.1 h
    exact sendAds_silent ho p

theorem sendRs_quiet (hs : s.Orderly) (h : NDAgent.sendRs me a s = ((a', s'), out)) :
    Quiet a s a' s' out := by
  unfold NDAgent.sendRs at h
  split_ifs at h <;> obtain ⟨⟨rfl, rfl⟩, rfl⟩ := by simpa using h
  · exact ⟨rfl, rfl, rfl, rfl, hs.spares, by simp⟩
  · exact ⟨rfl, rfl, rfl, rfl, hs.spares, by simp⟩
  · exact ⟨rfl, rfl, rfl, rfl, hs.resched id _, by simp [NdOutput.about]⟩
  · exact ⟨rfl, rfl, rfl, rfl, hs.resched id _, by simp [NdOutput.about]⟩

theorem recvRs_quiet {saddr : Addr} (hs : s.Orderly)
    (h : NDAgent.recvRs me a s saddr rand = .ok ((a', s'), out)) : Quiet a s a' s' out := by
  unfold NDAgent.recvRs at h
  split at h
  · obtain ⟨⟨rfl, rfl⟩, rfl⟩ := by simpa using h
    exact ⟨rfl, rfl, rfl, rfl, hs.spares, by simp⟩
  · obtain ⟨t, ht, h⟩ := bind_ok_iff.1 h
    obtain ⟨⟨rfl, rfl⟩, rfl⟩ := by simpa using h
    exact ⟨rfl, rfl, rfl, rfl, hs.sched id (orAbort_eq_ok.1 ht), by simp⟩

theorem recvAds_cases {rh : RtAds} {saddr : Addr} (hs : s.Orderly)
    (h : NDAgent.recvAds me a s rh saddr = .ok ((a', s'), out)) :
    ∃ s₁, s.Spares OfPrefix s₁ ∧
      ((∃ e, a.lookupEntry rh.prefix_ = some e ∧
          (a', s') = NDAgent.updateEntry me a s₁ e (a.lifetimeOf rh) ∧ out = []) ∨
        NDAgent.addPrefix me a s₁ rh.prefix_ (a.lifetimeOf rh) = .ok (a', s') ∧
          out = a.announceNew rh saddr) := by
  unfold NDAgent.recvAds at h
  obtain ⟨s₁, hs₁, h⟩ := bind_ok_iff.1 h
  refine ⟨s₁, ?_, ?_⟩
  · split_ifs at hs₁
    · exact hs.cancel id (orAbort_eq_ok.1 hs₁)
    · obtain rfl := Except.ok.inj hs₁
      exact hs.spares
  · cases hlookup : a.lookupEntry rh.prefix_ with
    | some e =>
      rw [hlookup] at h
      obtain ⟨hstate, rfl⟩ := Prod.mk.inj (Except.ok.inj h)
      exact Or.inl ⟨e, rfl, hstate.symm, rfl⟩
    | none =>
      rw [hlookup] at h
      obtain ⟨state, hstate, h⟩ := bind_ok_iff.1 h
      obtain ⟨rfl, rfl⟩ := Prod.mk.inj (Except.ok.inj h)
      exact Or.inr ⟨hstate, rfl⟩

theorem perform_cases {i : NDAgent.NdStep} (hs : s.Orderly)
    (h : NDAgent.perform me a s i = .ok ((a', s'), out)) :
    (Quiet a s a' s' out ∧ ∀ rh saddr, i = .rads rh saddr → a.settings.router) ∨
      (∃ settings, i = .set settings ∧ a' = { a with settings := settings } ∧ s' = s ∧ out = []) ∨
      ∃ rh saddr, i = .rads rh saddr ∧ a.settings.router = false ∧
        NDAgent.recvAds me a s rh saddr = .ok ((a', s'), out) := by
  cases i with
  | rads rh saddr =>
    cases hr : a.settings.router with
    | false =>
      exact Or.inr (Or.inr ⟨rh, saddr, rfl, rfl, by simpa [NDAgent.perform, hr] using h⟩)
    | true =>
      refine Or.inl ⟨?_, fun _ _ _ => rfl⟩
      simp only [NDAgent.perform, hr, if_true] at h
      obtain ⟨⟨rfl, rfl⟩, rfl⟩ := by simpa using h
      refine ⟨rfl, rfl, rfl, rfl, hs.spares, fun o ho p => ?_⟩
      unfold NDAgent.recvAdsMr at ho
      split_ifs at ho
      · obtain rfl := List.mem_singleton.1 ho
        rfl
      · cases ho
  | rsol saddr rand =>
    refine Or.inl ⟨?_, nofun⟩
    simp only [NDAgent.perform] at h
    split_ifs at h
    · exact recvRs_quiet hs h
    · obtain ⟨⟨rfl, rfl⟩, rfl⟩ := by simpa using h
      exact ⟨rfl, rfl, rfl, rfl, hs.spares, by simp⟩
  | startRa rand =>
    refine Or.inl ⟨?_, nofun⟩
    obtain ⟨heq, rfl⟩ := Prod.mk.inj (Except.ok.inj h)
    split_ifs at heq
    · obtain ⟨rfl, rfl⟩ := Prod.mk.inj heq
      exact ⟨rfl, rfl, rfl, rfl, hs.resched id _, by simp⟩
    · obtain ⟨rfl, rfl⟩ := Prod.mk.inj heq
      exact ⟨rfl, rfl, rfl, rfl, hs.spares, by simp⟩
  | stopRa =>
    refine Or.inl ⟨?_, nofun⟩
    simp only [NDAgent.perform] at h
    split_ifs at h
    · obtain ⟨t, ht, h⟩ := bind_ok_iff.1 h
      obtain ⟨⟨rfl, rfl⟩, rfl⟩ := by simpa using h
      exact ⟨rfl, rfl, rfl, rfl, hs.cancel id (orAbort_eq_ok.1 ht), by simp⟩
    · obtain ⟨⟨rfl, rfl⟩, rfl⟩ := by simpa using h
      exact ⟨rfl, rfl, rfl, rfl, hs.spares, by simp⟩
  | sendRs =>
    refine Or.inl ⟨?_, nofun⟩
    exact sendRs_quiet hs (Except.ok.inj h)
  | sendAds rand =>
    refine Or.inl ⟨?_, nofun⟩
    obtain ⟨⟨rfl, rfl⟩, rfl⟩ := by simpa [NDAgent.perform] using h
    exact ⟨rfl, rfl, rfl, rfl, hs.spares, fun o ho => sendAds_silent ho⟩
  | set settings =>
    right; left
    obtain ⟨⟨rfl, rfl⟩, rfl⟩ := by simpa [NDAgent.perform] using h
    exact ⟨settings, rfl, rfl, rfl, rfl⟩

/-- What ends the simulation in a step is a misused timer, never the assertion of `add_prefix`. -/
theorem perform_ne_error {i : NDAgent.NdStep} {err : Abort} (herr : err ≠ .exit) :
    NDAgent.perform me a s i ≠ .error err := by
  have hpure : ∀ y : NdState ι × List NdOutput, (Except.ok y : Act _) ≠ .error err := fun _ => nofun
  cases i with
  | rads rh saddr =>
    simp only [NDAgent.perform]
    split_ifs
    · exact hpure _
    · refine bind_ne_error ?_ fun s₁ _ => ?_
      · split_ifs
        · exact orAbort_ne_error herr _
        · exact nofun
      · cases hlookup : a.lookupEntry rh.prefix_ with
        | some e => exact hpure _
        | none =>
          refine bind_ne_error ?_ fun _ _ => hpure _
          simp [NDAgent.addPrefix, hlookup]
  | rsol saddr rand =>
    simp only [NDAgent.perform, NDAgent.recvRs]
    split_ifs
    · split
      · exact hpure _
      · exact bind_ne_error (orAbort_ne_error herr _) fun _ _ => hpure _
    · exact hpure _
  | stopRa =>
    simp only [NDAgent.perform]
    split_ifs
    · exact bind_ne_error (orAbort_ne_error herr _) fun _ _ => hpure _
    · exact hpure _
  | startRa rand => exact hpure _
  | sendRs => exact hpure _
  | sendAds rand => exact hpure _
  | set settings => exact hpure _

/-- A timeout of one of the two timers that have an id of their own. -/
theorem timeout_quiet (hs : s.Orderly) (hp : Special p)
    (h : NDAgent.timeout me a s p rand = .ok ((a', s'), out)) : Quiet a s a' s' out := by
  unfold NDAgent.timeout at h
  by_cases hra : p = timerRA
  · rw [if_pos hra] at h
    obtain ⟨heq, rfl⟩ := Prod.mk.inj (Except.ok.inj h)
    obtain ⟨rfl, rfl⟩ := Prod.mk.inj heq
    exact ⟨rfl, rfl, rfl, rfl, hs.resched id _, fun o ho => advertise_silent ho⟩
  · rw [if_neg hra, if_pos (hp.resolve_left hra)] at h
    dsimp only at h
    split_ifs at h
    · have hquiet := sendRs_quiet hs (Except.ok.inj h)
      exact ⟨hquiet.settings, hquiet.node, hquiet.nlist, hquiet.nextEntry, hquiet.spares,
        hquiet.silent⟩
    · obtain ⟨⟨rfl, rfl⟩, rfl⟩ := by simpa using h
      exact ⟨rfl, rfl, rfl, rfl, hs.spares, by simp⟩

theorem timeout_total (hp : Special p) : ∃ y, NDAgent.timeout me a s p rand = .ok y := by
  unfold NDAgent.timeout
  by_cases hra : p = timerRA
  · exact ⟨_, if_pos hra⟩
  · rw [if_neg hra, if_pos (hp.resolve_left hra)]
    dsimp only
    split_ifs <;> exact ⟨_, rfl⟩

theorem timeout_plain (hp : ¬ Special p) :
    NDAgent.timeout me a s p rand = (deref (a.lookupEntry p)).map fun e =>
      ((a.removeEntry e, s),
        if a.settings.iMngmnt then [.ndEvent .prefixExpired p a.node none] else []) := by
  unfold NDAgent.timeout
  rw [if_neg fun h => hp (Or.inl h), if_neg fun h => hp (Or.inr h)]
  cases a.lookupEntry p <;> rfl

theorem expire_quiet {x : NdTimer} (hs : s.Orderly)
    (hx : ∀ id p, x = .ofPrefix id p → Special p)
    (h : NDAgent.expire me a s x rand = .ok ((a', s'), out)) : Quiet a s a' s' out := by
  cases x with
  | ra => exact timeout_quiet hs (Or.inl rfl) h
  | rs => exact timeout_quiet hs (Or.inr rfl) h
  | ofPrefix id p => exact timeout_quiet hs (hx id p rfl) h
  | reply id daddr =>
    obtain ⟨heq, rfl⟩ := Prod.mk.inj (Except.ok.inj h)
    obtain ⟨rfl, rfl⟩ := Prod.mk.inj heq
    exact ⟨rfl, rfl, rfl, rfl, hs.spares, fun o ho => sendAds_silent ho⟩

end Steps

end SipNemo.Nd
