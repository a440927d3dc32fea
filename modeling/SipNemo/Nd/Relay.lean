import SipNemo.Mip6.Agent
import SipNemo.Nd.PrefixTimers

/-!
# The prefixes of a mobile base station

An `MR_BS` node hears advertisements on an external interface and advertises their prefixes on an
internal one.  The list of the internal agent gets a prefix when the external one first hears of it,
with a timer of its own, and is not told of later advertisements.

The prefixes heard outside are listed inside as long as no advertisement moves the expiry of a
prefix to or past the one inside, and none is heard of a prefix that is listed inside only: of two
timers started together the external one is up first.
-/

namespace SipNemo.Nd

open EventQueue EventQueue.Scheduler Runs NDAgent Mip6

/-- The interfaces of a base station. -/
inductive Side
  | external | internal
  deriving DecidableEq, Repr

/-- The two agents, the MIPv6 agent they report to, and its table from the MAC of an interface to
the agent there. -/
structure Relay where
  nd : Side → NDAgent
  mip : MIPV6Agent
  ndByMac : NodeId → Option Side
  sched : NdScheduler Side

namespace Relay

/-- `set_mr_bs_prefix`. -/
def setMrBsPrefix (r : Relay) (prefix_ : Addr) (interface : NodeId) (lifetime : ℚ) : Act Relay := do
  let mip := { r.mip with bslist := prefix_ :: r.mip.bslist }
  let bu ← assertNonNull (getMrBsEntryByMface mip.bulist interface)
  let iface ← deref bu.iface
  let side ← deref (r.ndByMac iface.iface)
  let (a, s) ← addPrefix side (r.nd side) r.sched prefix_ lifetime
  pure { r with nd := Function.update r.nd side a, mip := mip, sched := s }

/-- What the MIPv6 agent does to the lists when it is told of a prefix. -/
def report (r : Relay) : NdOutput → Act Relay
  | .setMrBsPrefix prefix_ interface _ lifetime => r.setMrBsPrefix prefix_ interface lifetime
  | _ => pure r

/-- One of the agents acts, the next timer is up, time passes, or the MIPv6 agent changes. -/
inductive Input
  | now (side : Side) (i : NdStep)
  | fire (rand : Rand)
  | wait (t : ℚ)
  | mip (m : MIPV6Agent)

def step (r : Relay) : Input → Act Relay
  | .now side i => do
    let ((a, s), out) ← (r.nd side).perform side r.sched i
    out.foldlM report { r with nd := Function.update r.nd side a, sched := s }
  | .fire rand => do
    let ((side, x), s) ← orAbort r.sched.dispatch
    let ((a, s), out) ← (r.nd side).handle side s x rand
    out.foldlM report { r with nd := Function.update r.nd side a, sched := s }
  | .wait t => do
    let s ← orAbort (r.sched.wait t)
    pure { r with sched := s }
  | .mip m => pure { r with mip := m }

/-! ### The setting -/

/-- The external agent is a host that reports to the MIPv6 agent, which has an `MR_BS` entry from
its interface to the one of the internal agent. -/
structure Wired (a : NDAgent) (bulist : List BUEntry) (ndByMac : NodeId → Option Side) : Prop where
  host : a.settings.router = false
  mrBs : a.settings.mrBs = true
  iMngmnt : a.settings.iMngmnt = true
  entry : ∃ bu f, getMrBsEntryByMface bulist a.node = some bu ∧ bu.iface = some f ∧
    ndByMac f.iface = some .internal

/-- A base station that has heard nothing yet. -/
structure Fresh (r : Relay) : Prop where
  wired : Wired (r.nd .external) r.mip.bulist r.ndByMac
  nlist : ∀ side, (r.nd side).nlist = []
  queue : r.sched.queue = []
  status : ∀ x, r.sched.status x = .idle

/-- Advertisements are heard on the external side, and the station stays as it was set up. -/
def InUse (r : Relay) : Input → Prop
  | .now .external (.set settings) =>
    settings.router = false ∧ settings.mrBs = true ∧ settings.iMngmnt = true
  | .now .internal (.rads _ _) => (r.nd .internal).settings.router = true
  | .mip m => getMrBsEntryByMface m.bulist (r.nd .external).node =
      getMrBsEntryByMface r.mip.bulist (r.nd .external).node
  | _ => True

/-- The advertisement that the external agent hears. -/
def Input.heard : Input → Option RtAds
  | .now .external (.rads rh _) => some rh
  | _ => none

/-- An advertisement of a prefix that the external agent lists sets an expiry before the one of the
internal agent; any other is of a prefix that the internal agent does not list. -/
def InTime (r : Relay) (i : Input) : Prop :=
  ∀ rh ∈ i.heard,
    if ((r.nd .external).lookupEntry rh.prefix_).isSome then
      Special rh.prefix_ ∨ ∀ f ∈ (r.nd .internal).nlist, f.prefix_ = rh.prefix_ →
        r.sched.clock + (r.nd .external).lifetimeOf rh < f.expire
    else (r.nd .internal).lookupEntry rh.prefix_ = none

instance (r : Relay) (i : Input) : Decidable (r.InTime i) :=
  inferInstanceAs (Decidable (∀ rh ∈ i.heard, _))

/-- The internal agent lists the prefixes of the external one. -/
def Relays (r : Relay) : Prop :=
  ∀ e ∈ (r.nd .external).nlist, e.prefix_ ∈ (r.nd .internal).nlist.map Entry.prefix_

instance (r : Relay) : Decidable r.Relays := inferInstanceAs (Decidable (∀ e ∈ _, _))

/-! ### The invariant -/

/-- The internal entry of a prefix expires after the external one. -/
def Outlived (r : Relay) (e : Entry) : Prop :=
  ∃ f ∈ (r.nd .internal).nlist, f.prefix_ = e.prefix_ ∧ (Special e.prefix_ ∨
    [(e.expire, (Side.external, e.timer)), (f.expire, (Side.internal, f.timer))].Sublist
      r.sched.queue)

structure Inv (r : Relay) : Prop where
  wired : Wired (r.nd .external) r.mip.bulist r.ndByMac
  orderly : r.sched.Orderly
  inStep : ∀ side, InStep side (r.nd side) r.sched
  outlived : ∀ e ∈ (r.nd .external).nlist, r.Outlived e

theorem Fresh.inv {r : Relay} (h : r.Fresh) : r.Inv where
  wired := h.wired
  orderly := ⟨⟨by simp [h.queue], fun x => by simp [h.queue, h.status]⟩, by
    rw [Sorted, h.queue]
    exact .nil⟩
  inStep side := ⟨by simp [h.nlist], by simp [h.nlist], by simp [h.nlist], by simp [h.queue]⟩
  outlived := by simp [h.nlist]

theorem Inv.relays {r : Relay} (h : r.Inv) : r.Relays := by
  intro e he
  obtain ⟨f, hf, hp, -⟩ := h.outlived e he
  exact hp ▸ List.mem_map_of_mem hf

/-! ### Steps that leave the lists alone -/

section

variable {r : Relay} {side : Side} {a : NDAgent} {s : NdScheduler Side} {out : List NdOutput}

theorem Wired.congr {b : NDAgent} {bulist : List BUEntry} {ndByMac : NodeId → Option Side}
    (h : Wired b bulist ndByMac) (hset : a.settings = b.settings) (hnode : a.node = b.node) :
    Wired a bulist ndByMac := by
  refine ⟨?_, ?_, ?_, ?_⟩
  · rw [hset, h.host]
  · rw [hset, h.mrBs]
  · rw [hset, h.iMngmnt]
  · rw [hnode]
    exact h.entry

/-- Another queue in which the prefix timers of the entries are as they were. -/
theorem Inv.later (h : r.Inv) (hs : s.Orderly) (hstep : ∀ side, InStep side (r.nd side) s)
    (hpair : ∀ e ∈ (r.nd .external).nlist, ¬ Special e.prefix_ → ∀ g,
      [(e.expire, (Side.external, e.timer)), g].Sublist r.sched.queue →
        [(e.expire, (Side.external, e.timer)), g].Sublist s.queue) :
    Inv { r with sched := s } where
  wired := h.wired
  orderly := hs
  inStep := hstep
  outlived e he := by
    obtain ⟨f, hf, hp, hout⟩ := h.outlived e he
    refine ⟨f, hf, hp, ?_⟩
    by_cases hspecial : Special e.prefix_
    · exact Or.inl hspecial
    · exact Or.inr (hpair e he hspecial _ (hout.resolve_left hspecial))

theorem Inv.spares (h : r.Inv) (hs : r.sched.Spares OfPrefix s) : Inv { r with sched := s } where
  wired := h.wired
  orderly := hs.orderly
  inStep side := (h.inStep side).spares hs fun _ _ => trivial
  outlived e he := by
    obtain ⟨f, hf, hp, hout⟩ := h.outlived e he
    exact ⟨f, hf, hp, hout.imp_right (hs.pair _ _ trivial trivial)⟩

/-- An agent whose list is as it was. -/
theorem Inv.congr (h : r.Inv)
    (hw : Wired (Function.update r.nd side a .external) r.mip.bulist r.ndByMac)
    (hlist : a.nlist = (r.nd side).nlist) (hnext : a.nextEntry = (r.nd side).nextEntry) :
    Inv { r with nd := Function.update r.nd side a } := by
  have hsame : ∀ side', (Function.update r.nd side a side').nlist = (r.nd side').nlist := by
    intro side'
    by_cases hside : side' = side
    · subst hside
      simpa using hlist
    · simp [hside]
  refine ⟨hw, h.orderly, fun side' => ?_, fun e he => ?_⟩
  · by_cases hside : side' = side
    · subst hside
      simpa using (h.inStep side').congr hlist hnext
    · simpa [hside] using h.inStep side'
  · obtain ⟨f, hf, hp, hout⟩ := h.outlived e ((hsame _) ▸ he)
    exact ⟨f, (hsame _).symm ▸ hf, hp, hout⟩

theorem Inv.quiet (h : r.Inv) (hq : Quiet (r.nd side) r.sched a s out) :
    Inv { r with nd := Function.update r.nd side a, sched := s } := by
  refine (h.spares hq.spares).congr ?_ hq.nlist hq.nextEntry
  by_cases hside : side = .external
  · subst hside
    simpa using h.wired.congr hq.settings hq.node
  · simpa [Function.update_of_ne (Ne.symm hside)] using h.wired

/-- The timer that is up is not the one of an entry that goes with it. -/
theorem Inv.dispatch_other {x : Side × NdTimer} (h : r.Inv)
    (hd : r.sched.dispatch = some (x, s))
    (hx : ∀ side, ∀ e ∈ (r.nd side).nlist, ¬ Special e.prefix_ → (side, e.timer) ≠ x) :
    Inv { r with sched := s } :=
  h.later (h.orderly.dispatch hd)
    (fun side => (h.inStep side).dispatch_other h.orderly hd (hx side))
    fun e he hspecial _ hpair => pair_dispatch hd hpair (hx _ e he hspecial)

/-! ### Steps that change the lists -/

theorem Inv.forget_external {e : Entry} (h : r.Inv) (he : e ∈ (r.nd .external).nlist)
    (hd : r.sched.dispatch = some ((.external, e.timer), s)) :
    Inv { r with
      nd := Function.update r.nd .external ((r.nd .external).removeEntry e)
      sched := s } := by
  have hstep := h.inStep .external
  have hmem : ∀ f ∈ (r.nd .external).nlist.erase e, f ≠ e ∧ f ∈ (r.nd .external).nlist :=
    fun f hf => (List.Nodup.of_map _ hstep.unique).mem_erase_iff.1 hf
  refine ⟨?_, h.orderly.dispatch hd, fun side => ?_, ?_⟩
  · simp only [Function.update_self]
    exact h.wired.congr rfl rfl
  · cases side with
    | external => simpa using hstep.removeEntry h.orderly he hd
    | internal =>
      simpa using (h.inStep .internal).dispatch_other h.orderly hd fun f _ _ => by simp
  · intro e' he'
    obtain ⟨hne, he'⟩ := hmem e' (by simpa using he')
    obtain ⟨f, hf, hp, hout⟩ := h.outlived e' he'
    refine ⟨f, by simpa using hf, hp, hout.imp_right fun hpair => ?_⟩
    refine pair_dispatch hd hpair fun heq => hne ?_
    exact hstep.eq_of_prefix he' he (NdTimer.ofPrefix.inj (Prod.mk.inj heq).2).2

theorem Inv.forget_internal {f : Entry} (h : r.Inv) (hf : f ∈ (r.nd .internal).nlist)
    (hspecial : ¬ Special f.prefix_)
    (hd : r.sched.dispatch = some ((.internal, f.timer), s)) :
    Inv { r with
      nd := Function.update r.nd .internal ((r.nd .internal).removeEntry f)
      sched := s } := by
  have hstep := h.inStep .internal
  have hmem : ∀ g, g ∈ (r.nd .internal).nlist.erase f ↔ g ≠ f ∧ g ∈ (r.nd .internal).nlist :=
    fun g => (List.Nodup.of_map _ hstep.unique).mem_erase_iff
  refine ⟨by simpa using h.wired, h.orderly.dispatch hd, fun side => ?_, ?_⟩
  · cases side with
    | external =>
      simpa using (h.inStep .external).dispatch_other h.orderly hd fun e _ _ => by simp
    | internal => simpa using hstep.removeEntry h.orderly hf hd
  · intro e he
    obtain ⟨g, hg, hp, hout⟩ := h.outlived e (by simpa using he)
    -- the entry that goes is not the one that outlives `e`, whose event would come first
    have hne : g ≠ f := by
      rintro rfl
      rcases hout with hspecial' | hpair
      · exact hspecial (hp ▸ hspecial')
      · exact ne_of_pair_dispatch h.orderly.consistent hd hpair rfl
    refine ⟨g, by simpa using (hmem g).2 ⟨hne, hg⟩, hp, hout.imp_right fun hpair => ?_⟩
    exact pair_dispatch hd hpair (by simp)

theorem Inv.refresh {e : Entry} {l : ℚ} (h : r.Inv) (he : e ∈ (r.nd .external).nlist)
    (hok : Special e.prefix_ ∨ ∀ f ∈ (r.nd .internal).nlist, f.prefix_ = e.prefix_ →
      r.sched.clock + l < f.expire) :
    Inv { r with
      nd := Function.update r.nd .external
        (updateEntry Side.external (r.nd .external) r.sched e l).1
      sched := (updateEntry Side.external (r.nd .external) r.sched e l).2 } := by
  have hstep := h.inStep .external
  have hspares : r.sched.Spares (fun x => x.1 = .internal)
      (r.sched.resched (Side.external, e.timer) l) :=
    h.orderly.resched (by simp) l
  refine ⟨?_, hspares.orderly, fun side => ?_, ?_⟩
  · simp only [Function.update_self]
    exact h.wired.congr rfl rfl
  · cases side with
    | external => simpa using hstep.updateEntry h.orderly he
    | internal =>
      have hint := (h.inStep .internal).spares hspares fun _ _ => rfl
      simpa [updateEntry, Entry.timer] using hint
  · intro e' he'
    rcases (mem_updateEntry he).1 (by simpa using he') with rfl | ⟨he', hne⟩
    · obtain ⟨f, hf, hp, -⟩ := h.outlived e he
      refine ⟨f, by simpa using hf, hp, ?_⟩
      by_cases hspecial : Special e.prefix_
      · exact Or.inl hspecial
      · -- the new event of the prefix comes before that of the internal entry
        have hlater := hok.resolve_left hspecial f hf hp
        have hevent := (h.inStep .internal).timer f hf (hp ▸ hspecial)
        exact Or.inr (pair_resched_of_lt h.orderly.consistent hlater hevent (by simp))
    · obtain ⟨f, hf, hp, hout⟩ := h.outlived e' he'
      refine ⟨f, by simpa using hf, hp, hout.imp_right fun hpair => ?_⟩
      refine pair_resched hpair (fun heq => hne ?_) (by simp)
      exact hstep.eq_of_prefix he' he (NdTimer.ofPrefix.inj (Prod.mk.inj heq).2).2

/-- A new prefix is added on the external side, and then on the internal one: the timer outside is
up first. -/
theorem Inv.learn {p : Addr} (h : r.Inv) (l : ℚ) (bslist : List Addr)
    (hext : (r.nd .external).lookupEntry p = none)
    (hint : (r.nd .internal).lookupEntry p = none)
    (hs : s = r.sched.resched (Side.external, .ofPrefix (r.nd .external).nextEntry p) l) :
    Inv { r with
      nd := Function.update
        (Function.update r.nd .external ((r.nd .external).insertEntry p r.sched.clock l)) .internal
          ((r.nd .internal).insertEntry p s.clock l)
      mip := { r.mip with bslist := bslist }
      sched := s.resched (Side.internal, .ofPrefix (r.nd .internal).nextEntry p) l } := by
  have hs₁ : r.sched.Spares (fun x => x ≠ (Side.external, .ofPrefix (r.nd .external).nextEntry p))
      s := hs ▸ h.orderly.resched (by simp) l
  have hs₂ : s.Spares (fun x => x ≠ (Side.internal, .ofPrefix (r.nd .internal).nextEntry p))
      (s.resched (Side.internal, .ofPrefix (r.nd .internal).nextEntry p) l) :=
    hs₁.orderly.resched (by simp) l
  have hstep₁ : InStep .external ((r.nd .external).insertEntry p r.sched.clock l) s :=
    hs ▸ (h.inStep .external).insertEntry h.orderly hext
  have hstep₂ : InStep .internal (r.nd .internal) s :=
    (h.inStep .internal).spares hs₁ (by simp)
  refine ⟨?_, hs₂.orderly, fun side => ?_, fun e he => ?_⟩
  · have hwired : Wired ((r.nd .external).insertEntry p r.sched.clock l) r.mip.bulist r.ndByMac :=
      h.wired.congr rfl rfl
    simpa using hwired
  · cases side with
    | external => simpa using hstep₁.spares hs₂ (by simp)
    | internal => simpa using hstep₂.insertEntry hs₁.orderly hint
  · rcases List.mem_cons.1 (by simpa using he) with rfl | he
    · refine ⟨⟨(r.nd .internal).nextEntry, p, s.clock, l⟩, by simp, rfl, Or.inr ?_⟩
      -- both are due at the same time, and the external one was scheduled first
      have hevent : (r.sched.clock + l,
          (Side.external, NdTimer.ofPrefix (r.nd .external).nextEntry p)) ∈ s.queue := by
        rw [hs, mem_resched h.orderly.consistent]
        exact Or.inl rfl
      refine pair_resched_of_le hs₁.orderly.consistent hs₁.orderly.sorted ?_ hevent (by simp)
      rw [hs₁.clock]
      exact le_rfl
    · have hnew : e.id ≠ (r.nd .external).nextEntry := ((h.inStep .external).fresh e he).ne
      obtain ⟨f, hf, hp, hout⟩ := h.outlived e he
      have hnew' : f.id ≠ (r.nd .internal).nextEntry := ((h.inStep .internal).fresh f hf).ne
      refine ⟨f, by simp [hf], hp, hout.imp_right fun hpair => ?_⟩
      refine hs₂.pair _ _ (by simp) (by simp [Entry.timer, hnew']) ?_
      exact hs₁.pair _ _ (by simp [Entry.timer, hnew]) (by simp) hpair

/-! ### The run -/

theorem foldlM_report (h : ∀ o ∈ out, ∀ p i b l, o ≠ .setMrBsPrefix p i b l) (r : Relay) :
    out.foldlM report r = .ok r := by
  induction out with
  | nil => rfl
  | cons o out ih =>
    have hreport : report r o = .ok r := by
      cases o with
      | setMrBsPrefix p i b l => exact absurd rfl (h _ List.mem_cons_self p i b l)
      | _ => rfl
    rw [List.foldlM_cons, hreport]
    exact ih fun o ho => h o (List.mem_cons_of_mem _ ho)

theorem foldlM_report_silent (h : ∀ o ∈ out, ∀ p, o.about p = none) (r : Relay) :
    out.foldlM report r = .ok r := by
  refine foldlM_report (fun o ho p i b l heq => ?_) r
  have hsilent := h o ho p
  simp [heq, NdOutput.about] at hsilent

/-- An advertisement on the external side. -/
theorem Inv.rads {rh : RtAds} {saddr : Addr} (h : r.Inv)
    (hok : r.InTime (.now .external (.rads rh saddr)))
    (hrecv : recvAds Side.external (r.nd .external) r.sched rh saddr = .ok ((a, s), out)) :
    ∃ r', out.foldlM report { r with nd := Function.update r.nd .external a, sched := s } =
      .ok r' ∧ r'.Inv := by
  obtain ⟨s₁, hs₁, hcases⟩ := recvAds_cases h.orderly hrecv
  have h₁ : Inv { r with sched := s₁ } := h.spares hs₁
  rcases hcases with ⟨e, hlookup, heq, rfl⟩ | ⟨hadd, rfl⟩
  · obtain ⟨he, hp⟩ := lookupEntry_some hlookup
    obtain ⟨rfl, rfl⟩ := Prod.mk.inj heq
    refine ⟨_, rfl, h₁.refresh he ?_⟩
    have htime := hok rh rfl
    rw [hlookup, if_pos Option.isSome_some] at htime
    rwa [hp, hs₁.clock]
  · obtain ⟨hext, rfl, rfl⟩ := addPrefix_eq_ok hadd
    have hint : (r.nd .internal).lookupEntry rh.prefix_ = none := by
      have htime := hok rh rfl
      rwa [hext, if_neg (by simp)] at htime
    obtain ⟨bu, f, hbu, hf, hside⟩ := h.wired.entry
    have hout : (r.nd .external).announceNew rh saddr =
        [.setMrBsPrefix rh.prefix_ (r.nd .external).node saddr
          ((r.nd .external).lifetimeOf rh)] := by
      simp [announceNew, h.wired.iMngmnt, h.wired.mrBs]
    refine ⟨_, ?_, h₁.learn ((r.nd .external).lifetimeOf rh) (rh.prefix_ :: r.mip.bslist)
      hext hint rfl⟩
    simp [hout, report, setMrBsPrefix, hbu, hf, hside, assertNonNull, deref,
      addPrefix_of_none hint]

theorem now_inv {i : NdStep} (h : r.Inv) (huse : r.InUse (.now side i))
    (hok : r.InTime (.now side i))
    (hperform : perform side (r.nd side) r.sched i = .ok ((a, s), out)) :
    ∃ r', out.foldlM report { r with nd := Function.update r.nd side a, sched := s } =
      .ok r' ∧ r'.Inv := by
  rcases perform_cases h.orderly hperform with
    ⟨hquiet, -⟩ | ⟨settings, rfl, rfl, rfl, rfl⟩ | ⟨rh, saddr, rfl, hrouter, hrecv⟩
  · exact ⟨_, foldlM_report_silent hquiet.silent _, h.quiet hquiet⟩
  · refine ⟨_, rfl, h.congr ?_ rfl rfl⟩
    cases side with
    | external =>
      obtain ⟨hhost, hmrBs, hmanager⟩ := huse
      simpa using (⟨hhost, hmrBs, hmanager, h.wired.entry⟩ : Wired
        { r.nd .external with settings := settings } r.mip.bulist r.ndByMac)
    | internal => simpa using h.wired
  · cases side with
    | external => exact h.rads hok hrecv
    | internal =>
      have huse : (r.nd .internal).settings.router = true := huse
      rw [hrouter] at huse
      cases huse

/-- The timer that is up finds what it needs. -/
theorem expire_inv {x : NdTimer} (rand : Rand) (h : r.Inv)
    (hd : r.sched.dispatch = some ((side, x), s)) :
    ∃ a s' out, expire side (r.nd side) s x rand = .ok ((a, s'), out) ∧
      (∀ r : Relay, out.foldlM report r = .ok r) ∧
      Inv { r with nd := Function.update r.nd side a, sched := s' } := by
  have hs : s.Orderly := h.orderly.dispatch hd
  have hother : (∀ id p, x = .ofPrefix id p → Special p) →
      (∃ y, expire side (r.nd side) s x rand = .ok y) →
      ∃ a s' out, expire side (r.nd side) s x rand = .ok ((a, s'), out) ∧
        (∀ r : Relay, out.foldlM report r = .ok r) ∧
        Inv { r with nd := Function.update r.nd side a, sched := s' } := by
    rintro hx ⟨⟨⟨a, s'⟩, out⟩, hy⟩
    have h₁ : Inv { r with sched := s } := h.dispatch_other hd fun side' e _ hspecial heq =>
      hspecial (hx e.id e.prefix_ (Prod.mk.inj heq).2.symm)
    have hquiet := expire_quiet hs hx hy
    exact ⟨a, s', out, hy, foldlM_report_silent hquiet.silent, h₁.quiet hquiet⟩
  cases x with
  | ra => exact hother nofun (timeout_total (Or.inl rfl))
  | rs => exact hother nofun (timeout_total (Or.inr rfl))
  | reply id daddr => exact hother nofun ⟨_, rfl⟩
  | ofPrefix id p =>
    by_cases hspecial : Special p
    · refine hother ?_ (timeout_total hspecial)
      intro id' p' heq
      exact (NdTimer.ofPrefix.inj heq).2 ▸ hspecial
    · obtain ⟨e, he, htimer, -⟩ := (h.inStep side).dispatch hd
      obtain ⟨rfl, rfl⟩ := NdTimer.ofPrefix.inj htimer
      have hfound : (r.nd side).lookupEntry e.prefix_ = some e := (h.inStep side).lookupEntry he
      have hexpire : NDAgent.timeout side (r.nd side) s e.prefix_ rand = _ := timeout_plain hspecial
      rw [hfound] at hexpire
      refine ⟨_, _, _, hexpire, foldlM_report ?_, ?_⟩
      · split_ifs <;> simp
      · cases side with
        | external => exact h.forget_external he hd
        | internal => exact h.forget_internal he hspecial hd

end

theorem step_inv (r : Relay) (i : Input) (r' : Relay) (h : r.Inv)
    (hok : r.InUse i ∧ r.InTime i) (hstep : r.step i = .ok r') : r'.Inv := by
  cases i with
  | now side i =>
    obtain ⟨⟨⟨a, s⟩, out⟩, hperform, hreport⟩ := bind_ok_iff.1 hstep
    obtain ⟨r'', heq, hinv⟩ := now_inv h hok.1 hok.2 hperform
    obtain rfl : r'' = r' := Except.ok.inj (heq.symm.trans hreport)
    exact hinv
  | fire rand =>
    obtain ⟨⟨⟨side, x⟩, s⟩, hd, hstep⟩ := bind_ok_iff.1 hstep
    obtain ⟨a, s', out, hexpire, hreport, hinv⟩ := expire_inv rand h (orAbort_eq_ok.1 hd)
    simp only [handle, hexpire, ok_bind, pure_eq_ok, hreport] at hstep
    obtain rfl := Except.ok.inj hstep
    exact hinv.spares (hinv.orderly.finish _)
  | wait t =>
    obtain ⟨s, hs, hr⟩ := bind_ok_iff.1 hstep
    obtain rfl := Except.ok.inj hr
    have hwait := orAbort_eq_ok.1 hs
    have hsame := wait_eq_some hwait
    obtain ⟨-, rfl⟩ := hsame
    exact ⟨h.wired, h.orderly.wait hwait, fun side => ⟨(h.inStep side).unique,
      (h.inStep side).fresh, (h.inStep side).timer, (h.inStep side).listed⟩, h.outlived⟩
  | mip m =>
    obtain rfl := Except.ok.inj hstep
    obtain ⟨bu, f, hbu, hf⟩ := h.wired.entry
    exact ⟨⟨h.wired.host, h.wired.mrBs, h.wired.iMngmnt, bu, f, hok.1.trans hbu, hf⟩, h.orderly,
      h.inStep, h.outlived⟩

theorem step_ne_error (r : Relay) (i : Input) {err : Abort} (herr : err ≠ .exit) (h : r.Inv)
    (hok : r.InUse i ∧ r.InTime i) : r.step i ≠ .error err := by
  cases i with
  | now side i =>
    refine bind_ne_error (perform_ne_error herr) ?_
    rintro ⟨⟨a, s⟩, out⟩ hperform
    obtain ⟨r', heq, -⟩ := now_inv h hok.1 hok.2 hperform
    simp [heq]
  | fire rand =>
    refine bind_ne_error (orAbort_ne_error herr _) ?_
    rintro ⟨⟨side, x⟩, s⟩ hd
    obtain ⟨a, s', out, hexpire, hreport, -⟩ := expire_inv rand h (orAbort_eq_ok.1 hd)
    simp [handle, hexpire, hreport]
  | wait t => exact bind_ne_error (orAbort_ne_error herr _) fun _ _ => nofun
  | mip m => exact nofun

/-- As long as no advertisement of a listed prefix moves its expiry past the one on the internal
side and no new one is of a prefix that is listed there, the internal agent lists every prefix of
the external one, and no assertion fails. -/
theorem relays_of_inTime {r : Relay} {is : List Input} (h : r.Fresh)
    (huse : StepsMeet step InUse r is) (hok : StepsMeet step InTime r is) :
    Throughout step Relays r is ∧ ∀ err, runSteps step r is = .error err → err = .exit := by
  have hsteps := huse.and hok
  refine ⟨throughout_of_invariant step_inv (fun _ => Inv.relays) h.inv hsteps, fun err hrun => ?_⟩
  by_contra herr
  exact runSteps_ne_error step_inv (fun r i h hok => step_ne_error r i herr h hok) h.inv hsteps
    hrun

/-- The settings of an agent of a base station. -/
def sampleSettings (router : Bool) : NdSettings where
  router := router
  mrBs := true
  useAdvInterval := false
  broadcast := true
  rtrlftm := 18
  prefixLifetime := 18
  minRtrAdvInterval := 1
  maxRtrAdvInterval := 2
  minDelayBetweenRA := 1
  maxRADelay := 1
  rsTimeout := 1
  maxRtrSolicitation := 3
  raDaddrs := []
  rsDaddrs := []
  nodeAddress := 1
  iMngmnt := true

/-- A base station with interfaces `1` and `2`. -/
def sampleStation : Relay where
  nd
    | .external => { addr := 1, node := 1, settings := sampleSettings false }
    | .internal => { addr := 2, node := 2, settings := sampleSettings true }
  mip :=
    { nodeType := .mrBs
      bulist := [{ type := .mrBs, eface := some ⟨1, 1, 0⟩, iface := some ⟨2, 2, 0⟩ }] }
  ndByMac n := if n = 2 then some .internal else none
  sched := ⟨0, [], fun _ => .idle⟩

theorem sampleStation_fresh : sampleStation.Fresh where
  wired := ⟨rfl, rfl, rfl, _, _, rfl, rfl, rfl⟩
  nlist side := by cases side <;> rfl
  queue := rfl
  status _ := rfl

/-- A prefix with the given lifetime is advertised. -/
def advert (lifetime : ℚ) : Input := .now .external (.rads ⟨lifetime, 0, 0, 2048, 0⟩ 2049)

def up : Input := .fire ⟨0, fun _ => 0⟩

/-- The second advertisement shortens the lifetime of the prefix. -/
theorem relays_of_shorter :
    Throughout step Relays sampleStation [advert 3, .wait 1, advert 1, up, up] ∧
      ∀ err, runSteps step sampleStation [advert 3, .wait 1, advert 1, up, up] = .error err →
        err = .exit := by
  refine relays_of_inTime sampleStation_fresh ?_ (by decide +kernel)
  exact ⟨trivial, fun _ _ => ⟨trivial, fun _ _ => ⟨trivial, fun _ _ => ⟨trivial, fun _ _ =>
    ⟨trivial, fun _ _ => trivial⟩⟩⟩⟩⟩

/-- A prefix that is advertised again in time is dropped inside, and one that is advertised again
after its lifetime was shortened hits the assertion of `add_prefix`. -/
theorem refreshed_prefix_dropped :
    sampleStation.Fresh ∧
      ¬ Throughout step Relays sampleStation [advert 3, .wait 2, advert 3, up] ∧
      runSteps step sampleStation [advert 3, .wait 1, advert 1, up, advert 3] =
        .error .assertion := by
  refine ⟨sampleStation_fresh, fun h => ?_, ?_⟩
  · have hrun : (runSteps step sampleStation [advert 3, .wait 2, advert 3, up]).map
        (fun r => decide r.Relays) = .ok false := by decide +kernel
    obtain ⟨r, hr, hfalse⟩ := map_ok_iff.1 hrun
    exact of_decide_eq_false hfalse (h.last hr)
  · have hrun : (runSteps step sampleStation [advert 3, .wait 1, advert 1, up, advert 3]).map
        (fun _ => ()) = .error .assertion := by decide +kernel
    exact map_error_iff.1 hrun

end Relay

end SipNemo.Nd
