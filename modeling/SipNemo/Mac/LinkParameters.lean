import SipNemo.Mac.StatWatch
import SipNemo.Mih.Types

/-!
# Parameters reports

The MAC watches three averages and four throughputs.  `link_configure_thresholds` sets the
thresholds of the watch of a parameter, and an update of the watch that announces an action sends a
parameters report to the MIH, if that has subscribed to such reports.

The delay of these watches is 0, so no action is ever pending: a report is sent by exactly the
updates with which the average rises beyond a threshold (`reported_iff`), as long as no throughput
is measured over a time of 0.
-/

namespace SipNemo.Mac

open Dwell Runs
open Mih (MacAddr MihEvent inEventList link80211)

/-- The values of `parameter_type_t` that the MAC watches. -/
inductive WatchedParameter
  | frameLoss | packetDelay | packetJitter
  | rxDataThroughput | rxTrafficThroughput | txDataThroughput | txTrafficThroughput
  deriving DecidableEq, Repr

namespace WatchedParameter

/-- The value of the enumeration. -/
def code : WatchedParameter → BitVec 32
  | .frameLoss => 2
  | .packetDelay => 5
  | .packetJitter => 6
  | .rxDataThroughput => 7
  | .rxTrafficThroughput => 8
  | .txDataThroughput => 9
  | .txTrafficThroughput => 10

/-- The `switch` of `link_configure_thresholds`. -/
def ofCode (parameterType : BitVec 32) : Option WatchedParameter :=
  match parameterType.toNat with
  | 2 => some .frameLoss
  | 5 => some .packetDelay
  | 6 => some .packetJitter
  | 7 => some .rxDataThroughput
  | 8 => some .rxTrafficThroughput
  | 9 => some .txDataThroughput
  | 10 => some .txTrafficThroughput
  | _ => none

/-- The watch of a parameter, when the MAC has been constructed with the weight `alpha` for it. -/
def newWatch (alpha : ℚ) : WatchedParameter → MacWatch
  | .frameLoss | .packetDelay | .packetJitter => .stat { alpha := alpha }
  | .rxDataThroughput | .rxTrafficThroughput | .txDataThroughput | .txTrafficThroughput =>
    .throughput ({ posGradient := false : ThroughputWatch }.setAlpha alpha)

end WatchedParameter

/-- `LINK_GENERIC`. -/
def linkGeneric : BitVec 32 := 0

/-- `link_param_th`. -/
structure LinkParamTh where
  linkType : BitVec 32
  parameterType : BitVec 32
  initActionTh : ℚ
  rollbackActionTh : ℚ
  exectActionTh : ℚ
  deriving DecidableEq, Repr

/-- `link_param_th_status`. -/
structure LinkParamThStatus where
  linkType : BitVec 32
  parameterType : BitVec 32
  status : Bool
  deriving DecidableEq, Repr

/-- `link_parameters_report_t` with its one parameter, whose values are not cut to eight bytes. -/
structure ParametersReport where
  type : BitVec 32
  macMobileTerminal : MacAddr
  macPoA : MacAddr
  linkType : BitVec 32
  parameterType : BitVec 32
  oldValue : ℚ
  newValue : ℚ
  deriving DecidableEq, Repr

/-- What the MAC has to do with parameters reports. -/
structure ParameterMac where
  addr : MacAddr
  bssId : MacAddr
  mih : Bool
  eventList : BitVec 32 := 0x1BF
  subscribedEventList : BitVec 32 := 0
  watch : WatchedParameter → MacWatch

namespace ParameterMac

variable (s : ParameterMac)

/-- `link_event_subscribe`. -/
def linkEventSubscribe (events : BitVec 32) : ParameterMac :=
  { s with subscribedEventList := s.subscribedEventList ||| (events &&& s.eventList) }

/-- `link_event_unsubscribe`, which takes `!*status` for the events that are left. -/
def linkEventUnsubscribe (events : BitVec 32) : ParameterMac :=
  { s with
    subscribedEventList := s.subscribedEventList &&&
      if events &&& s.subscribedEventList = 0 then 1 else 0 }

/-- One parameter of `link_configure_thresholds`. -/
def configureThreshold (th : LinkParamTh) : Act (ParameterMac × LinkParamThStatus) :=
  if th.linkType ≠ linkGeneric ∧ th.linkType ≠ link80211 then
    .ok (s, ⟨th.linkType, th.parameterType, false⟩)
  else
    match WatchedParameter.ofCode th.parameterType with
    | none => .ok (s, ⟨th.linkType, th.parameterType, false⟩)
    | some p => do
      let w ← (s.watch p).setThresholds th.initActionTh th.rollbackActionTh th.exectActionTh
      .ok ({ s with watch := Function.update s.watch p w },
        ⟨th.linkType, th.parameterType, true⟩)

/-- `link_configure_thresholds`. -/
def linkConfigureThresholds (s : ParameterMac) :
    List LinkParamTh → Act (ParameterMac × List LinkParamThStatus)
  | [] => .ok (s, [])
  | th :: ths => do
    let (s, status) ← s.configureThreshold th
    let (s, result) ← s.linkConfigureThresholds ths
    .ok (s, status :: result)

/-- `send_link_parameters_report`. -/
def sendLinkParametersReport (p : WatchedParameter) (oldValue newValue : ℚ) :
    List ParametersReport :=
  if s.mih ∧ inEventList s.subscribedEventList .linkParametersReport then
    [{ type := link80211
       macMobileTerminal := s.addr
       macPoA := s.bssId
       linkType := linkGeneric
       parameterType := p.code
       oldValue := oldValue
       newValue := newValue }]
  else []

/-- `update_watch` and `update_throughput`, which differ in the class of the watch. -/
def updateWatch (p : WatchedParameter) (x now : ℚ) :
    Act (ParameterMac × List ParametersReport) := do
  let (w, action) ← (s.watch p).update x now
  .ok ({ s with watch := Function.update s.watch p w },
    if action ≠ .noAction then s.sendLinkParametersReport p w.base.oldAverage w.base.average
    else [])

/-- `queue_packet_loss`. -/
def queuePacketLoss (now : ℚ) : Act (ParameterMac × List ParametersReport) :=
  s.updateWatch .frameLoss 1 now

/-- What happens to the MAC. -/
inductive Event
  | subscribe (events : BitVec 32)
  | unsubscribe (events : BitVec 32)
  | configure (thresholds : List LinkParamTh)
  | attach (bssId : MacAddr)
  | update (p : WatchedParameter) (x now : ℚ)
  | packetLoss (now : ℚ)

/-- One event. -/
def step : Event → Act ParameterMac
  | .subscribe events => .ok (s.linkEventSubscribe events)
  | .unsubscribe events => .ok (s.linkEventUnsubscribe events)
  | .configure thresholds => (s.linkConfigureThresholds thresholds).map (·.1)
  | .attach bssId => .ok { s with bssId := bssId }
  | .update p x now => (s.updateWatch p x now).map (·.1)
  | .packetLoss now => (s.queuePacketLoss now).map (·.1)

/-- A MAC that has been constructed. -/
def fresh (addr bssId : MacAddr) (mih : Bool) (alpha : WatchedParameter → ℚ) : ParameterMac :=
  { addr := addr, bssId := bssId, mih := mih, watch := fun p => p.newWatch (alpha p) }

/-- The MIH gets parameters reports. -/
def Listening : Prop := s.mih ∧ inEventList s.subscribedEventList .linkParametersReport

instance : Decidable s.Listening := inferInstanceAs (Decidable (_ ∧ _))

/-- The report of an update. -/
def report (p : WatchedParameter) (x now : ℚ) : ParametersReport :=
  { type := link80211
    macMobileTerminal := s.addr
    macPoA := s.bssId
    linkType := linkGeneric
    parameterType := p.code
    oldValue := (s.watch p).base.average
    newValue := (s.watch p).measured x now }

/-- The thresholds in an event. -/
def Event.thresholds : Event → List LinkParamTh
  | .configure thresholds => thresholds
  | _ => []

end ParameterMac

/-- The parameter that `link_configure_thresholds` sets the thresholds of. -/
def LinkParamTh.parameter (th : LinkParamTh) : Option WatchedParameter :=
  if th.linkType ≠ linkGeneric ∧ th.linkType ≠ link80211 then none
  else WatchedParameter.ofCode th.parameterType

/-- The last thresholds for a parameter that were accepted. -/
def lastAccepted (p : WatchedParameter) (ths : List LinkParamTh) : Option LinkParamTh :=
  (ths.filter fun th => th.parameter = some p).getLast?

namespace WatchedParameter

/-- Whether the gradient is positive: a throughput is to be announced when it falls. -/
def posGradient : WatchedParameter → Bool
  | .frameLoss | .packetDelay | .packetJitter => true
  | .rxDataThroughput | .rxTrafficThroughput | .txDataThroughput | .txTrafficThroughput => false

/-- The level of a value: 1 beyond `initActionTh`, 2 beyond `exectActionTh`. -/
def level (p : WatchedParameter) (th : LinkParamTh) (a : ℚ) : ℕ :=
  levelOf p.posGradient th.initActionTh th.exectActionTh a

/-- The value rises beyond one of the thresholds, if there are any. -/
def Rises (p : WatchedParameter) (th : Option LinkParamTh) (old new : ℚ) : Prop :=
  ∃ t ∈ th, p.level t old < p.level t new

instance (p : WatchedParameter) (old new : ℚ) : (th : Option LinkParamTh) →
    Decidable (p.Rises th old new)
  | none => isFalse fun ⟨_, ht, _⟩ => by cases ht
  | some t => decidable_of_iff (p.level t old < p.level t new) (by simp [Rises])

end WatchedParameter

/-! ### A watch without delay -/

namespace StatWatch

variable {w : StatWatch}

/-- Nothing is pending, and nothing will be. -/
structure Prompt (w : StatWatch) : Prop where
  delay : w.delay = 0
  initSent : w.initSent = false
  pendingAction : w.pendingAction = .noAction
  ordered : w.thSet = true → w.Ordered w.initTh w.rollbackTh w.execTh

/-- A watch without delay announces a rise at once. -/
theorem Prompt.evaluate (h : w.Prompt) (a total instant : ℚ) (n : ℕ) (now : ℚ) :
    ((w.withAverage a total instant n).evaluate now).1.Prompt ∧
      ((w.withAverage a total instant n).evaluate now).2 =
        if w.thSet = true ∧ w.level w.average < w.level a then .ofLevel (w.level a)
        else .noAction := by
  by_cases hset : w.thSet = true
  · have hidle : w.Detects ⟨w.level w.average, none⟩ :=
      ⟨hset, h.initSent, h.ordered hset, rfl, fun _ => h.pendingAction, fun u hu => by cases hu⟩
    obtain ⟨hdetects, hannounced⟩ := hidle.evaluate a total instant n now
    obtain ⟨p, t, heq⟩ := (w.withAverage a total instant n).evaluate_eq now
    have hfire : Detector.sample w.delay ⟨w.level w.average, none⟩ now (w.level a) =
        (⟨w.level a, none⟩, if w.level w.average < w.level a then some (w.level a) else none) := by
      unfold Detector.sample Detector.fire Detector.dueAt
      rw [h.delay]
      dsimp only
      by_cases hlt : w.level w.average < w.level a
      · rw [if_pos hlt, if_pos hlt]
        exact if_pos (add_zero now).le
      · rw [if_neg hlt, if_neg hlt, ite_self]
    rw [hfire] at hdetects hannounced
    refine ⟨⟨?_, hdetects.initSent, hdetects.idle rfl, fun _ => hdetects.ordered⟩, ?_⟩
    · rw [heq]
      exact h.delay
    · rw [hannounced]
      by_cases hlt : w.level w.average < w.level a
      · rw [if_pos hlt, if_pos ⟨hset, hlt⟩]
        rfl
      · rw [if_neg hlt, if_neg fun hboth => hlt hboth.2]
        rfl
  · have heq : (w.withAverage a total instant n).evaluate now =
        (w.withAverage a total instant n, .noAction) := if_neg hset
    rw [heq, if_neg fun hboth => hset hboth.1]
    exact ⟨⟨h.delay, h.initSent, h.pendingAction, fun hset' => absurd hset' hset⟩, rfl⟩

end StatWatch

namespace MacWatch

variable {w w' : MacWatch} {r : MacWatch × ThresholdAction} {x now : ℚ}

theorem prompt_update (h : w.base.Prompt) (hr : w.update x now = .ok r) : r.1.base.Prompt := by
  obtain ⟨total, instant, n, hbase, -⟩ := update_eq hr
  rw [hbase]
  exact (h.evaluate (w.measured x now) total instant n now).1

theorem prompt_setThresholds {initTh rollbackTh execTh : ℚ} (h : w.base.Prompt)
    (hw : w.setThresholds initTh rollbackTh execTh = .ok w') : w'.base.Prompt := by
  obtain ⟨hordered, hbase⟩ := setThresholds_ok hw
  rw [hbase]
  exact ⟨h.delay, h.initSent, h.pendingAction, fun _ => hordered⟩

/-- The gradient, and the thresholds if they have been set. -/
def thresholds (w : MacWatch) : Bool × Option (ℚ × ℚ) :=
  (w.base.posGradient, if w.base.thSet then some (w.base.initTh, w.base.execTh) else none)

theorem thresholds_update (hr : w.update x now = .ok r) : r.1.thresholds = w.thresholds := by
  obtain ⟨total, instant, n, p, t, hbase⟩ := update_base hr
  unfold thresholds
  rw [hbase]
  rfl

theorem thresholds_setThresholds {initTh rollbackTh execTh : ℚ}
    (hw : w.setThresholds initTh rollbackTh execTh = .ok w') :
    w'.thresholds = (w.thresholds.1, some (initTh, execTh)) := by
  obtain ⟨-, hbase⟩ := setThresholds_ok hw
  unfold thresholds
  rw [hbase]
  rfl

end MacWatch

/-! ### The watches of the MAC -/

namespace ParameterMac

variable {s s' : ParameterMac}

/-- The invariant, with the thresholds that were accepted. -/
structure Configured (s : ParameterMac) (ths : List LinkParamTh) : Prop where
  prompt : ∀ p, (s.watch p).base.Prompt
  thresholds : ∀ p, (s.watch p).thresholds = (p.posGradient,
    (lastAccepted p ths).map fun th => (th.initActionTh, th.exectActionTh))

theorem lastAccepted_concat (p : WatchedParameter) (ths : List LinkParamTh) (th : LinkParamTh) :
    lastAccepted p (ths ++ [th]) =
      if th.parameter = some p then some th else lastAccepted p ths := by
  unfold lastAccepted
  rw [List.filter_append, List.filter_cons, List.filter_nil]
  by_cases h : th.parameter = some p
  · simp [h]
  · simp [h]

variable {ths ths' : List LinkParamTh} {th : LinkParamTh}

/-- Thresholds for no parameter change nothing. -/
theorem Configured.skip (h : s.Configured ths) (hnone : th.parameter = none) :
    s.Configured (ths ++ [th]) := by
  refine ⟨h.prompt, fun p => ?_⟩
  rw [lastAccepted_concat, if_neg (by simp [hnone])]
  exact h.thresholds p

/-- One watch changes. -/
theorem Configured.update (h : s.Configured ths) {q : WatchedParameter} {w : MacWatch}
    (hprompt : w.base.Prompt) (hthresholds : w.thresholds = (q.posGradient,
      (lastAccepted q ths').map fun th => (th.initActionTh, th.exectActionTh)))
    (hrest : ∀ p, p ≠ q → lastAccepted p ths' = lastAccepted p ths) :
    Configured { s with watch := Function.update s.watch q w } ths' := by
  refine ⟨fun p => ?_, fun p => ?_⟩
  · dsimp only
    by_cases hp : p = q
    · subst hp
      rwa [Function.update_self]
    · rw [Function.update_of_ne hp]
      exact h.prompt p
  · dsimp only
    by_cases hp : p = q
    · subst hp
      rwa [Function.update_self]
    · rw [Function.update_of_ne hp, hrest p hp]
      exact h.thresholds p

theorem Configured.configureThreshold {status : LinkParamThStatus} (h : s.Configured ths)
    (hs : s.configureThreshold th = .ok (s', status)) : s'.Configured (ths ++ [th]) := by
  unfold ParameterMac.configureThreshold at hs
  split_ifs at hs with htype
  · cases hs
    exact h.skip (if_pos htype)
  · have hparameter : th.parameter = WatchedParameter.ofCode th.parameterType := if_neg htype
    cases hcode : WatchedParameter.ofCode th.parameterType with
    | none =>
      rw [hcode] at hs hparameter
      cases hs
      exact h.skip hparameter
    | some q =>
      rw [hcode] at hs hparameter
      obtain ⟨w, hw, hs⟩ := bind_ok_iff.1 hs
      cases hs
      refine h.update (MacWatch.prompt_setThresholds (h.prompt q) hw) ?_ fun p hp => ?_
      · rw [MacWatch.thresholds_setThresholds hw, h.thresholds, lastAccepted_concat,
          if_pos hparameter]
        rfl
      · rw [lastAccepted_concat, hparameter, if_neg fun hq => hp (Option.some.inj hq).symm]

theorem Configured.linkConfigureThresholds {result : List LinkParamThStatus}
    (h : s.Configured ths) (hs : s.linkConfigureThresholds ths' = .ok (s', result)) :
    s'.Configured (ths ++ ths') := by
  induction ths' generalizing s ths result with
  | nil =>
    cases hs
    rwa [List.append_nil]
  | cons th ths' ih =>
    obtain ⟨⟨s₁, status⟩, hone, hs⟩ := bind_ok_iff.1 hs
    obtain ⟨⟨s₂, result'⟩, hrest, hs⟩ := bind_ok_iff.1 hs
    cases hs
    have hall := ih (h.configureThreshold hone) hrest
    rwa [List.append_assoc, List.singleton_append] at hall

theorem Configured.updateWatch {p : WatchedParameter} {x now : ℚ}
    {r : ParameterMac × List ParametersReport} (h : s.Configured ths)
    (hr : s.updateWatch p x now = .ok r) : r.1.Configured ths := by
  obtain ⟨⟨w, action⟩, hw, hr⟩ := bind_ok_iff.1 hr
  cases hr
  refine h.update (MacWatch.prompt_update (h.prompt p) hw) ?_ fun _ _ => rfl
  rw [MacWatch.thresholds_update hw]
  exact h.thresholds p

theorem Configured.step {e : Event} (h : s.Configured ths) (hs : s.step e = .ok s') :
    s'.Configured (ths ++ e.thresholds) := by
  cases e with
  | configure thresholds =>
    obtain ⟨⟨s₁, result⟩, hconfigure, rfl⟩ := map_ok_iff.1 hs
    exact h.linkConfigureThresholds hconfigure
  | update p x now =>
    obtain ⟨r, hr, rfl⟩ := map_ok_iff.1 hs
    rw [show (Event.update p x now).thresholds = [] from rfl, List.append_nil]
    exact h.updateWatch hr
  | packetLoss now =>
    obtain ⟨r, hr, rfl⟩ := map_ok_iff.1 hs
    rw [show (Event.packetLoss now).thresholds = [] from rfl, List.append_nil]
    exact h.updateWatch hr
  | subscribe events =>
    cases hs
    rw [show (Event.subscribe events).thresholds = [] from rfl, List.append_nil]
    exact ⟨h.prompt, h.thresholds⟩
  | unsubscribe events =>
    cases hs
    rw [show (Event.unsubscribe events).thresholds = [] from rfl, List.append_nil]
    exact ⟨h.prompt, h.thresholds⟩
  | attach bssId =>
    cases hs
    rw [show (Event.attach bssId).thresholds = [] from rfl, List.append_nil]
    exact ⟨h.prompt, h.thresholds⟩

theorem configured_run {es : List Event} (h : s.Configured ths)
    (hrun : runSteps ParameterMac.step s es = .ok s') :
    s'.Configured (ths ++ es.flatMap Event.thresholds) := by
  induction es generalizing s ths with
  | nil =>
    cases hrun
    rwa [List.flatMap_nil, List.append_nil]
  | cons e es ih =>
    obtain ⟨s₁, hs, hrun⟩ := runSteps_cons_ok.1 hrun
    have hall := ih (h.step hs) hrun
    rwa [List.append_assoc, ← List.flatMap_cons] at hall

theorem configured_fresh (addr bssId : MacAddr) (mih : Bool) (alpha : WatchedParameter → ℚ) :
    (fresh addr bssId mih alpha).Configured [] := by
  refine ⟨fun p => ?_, fun p => ?_⟩
  · cases p <;> exact ⟨rfl, rfl, rfl, fun hset => by cases hset⟩
  · cases p <;> rfl

/-- The level of an average is that by the thresholds that were accepted. -/
theorem Configured.level_eq (h : s.Configured ths) {p : WatchedParameter}
    (hth : lastAccepted p ths = some th) (a : ℚ) :
    (s.watch p).base.thSet = true ∧ (s.watch p).base.level a = p.level th a := by
  have hthresholds := h.thresholds p
  rw [hth] at hthresholds
  obtain ⟨hgradient, hset⟩ := Prod.mk.inj hthresholds
  split_ifs at hset with hthSet
  · obtain ⟨hinit, hexec⟩ := Prod.mk.inj (Option.some.inj hset)
    refine ⟨hthSet, ?_⟩
    unfold StatWatch.level WatchedParameter.level
    rw [hgradient, hinit, hexec]
  · cases hset

theorem Configured.thSet_iff (h : s.Configured ths) (p : WatchedParameter) :
    (s.watch p).base.thSet = true ↔ (lastAccepted p ths).isSome := by
  have hthresholds := congrArg (fun x => x.2.isSome) (h.thresholds p)
  unfold MacWatch.thresholds at hthresholds
  dsimp only at hthresholds
  rw [Option.isSome_map] at hthresholds
  rw [← hthresholds]
  split_ifs with hset
  · simp [hset]
  · simp [hset]

/-- The average of a watch rises beyond the thresholds that it has. -/
theorem Configured.rises_iff (h : s.Configured ths) (p : WatchedParameter) (a : ℚ) :
    (s.watch p).base.thSet = true ∧
        (s.watch p).base.level (s.watch p).base.average < (s.watch p).base.level a ↔
      p.Rises (lastAccepted p ths) (s.watch p).base.average a := by
  have hset := h.thSet_iff p
  cases hth : lastAccepted p ths with
  | none =>
    rw [hth] at hset
    constructor
    · rintro ⟨hthSet, -⟩
      cases hset.1 hthSet
    · rintro ⟨th, hmem, -⟩
      cases hmem
  | some th =>
    have hlevel := h.level_eq hth
    constructor
    · rintro ⟨-, hlt⟩
      rw [(hlevel _).2, (hlevel _).2] at hlt
      exact ⟨th, rfl, hlt⟩
    · rintro ⟨th', hmem, hlt⟩
      obtain rfl := Option.some.inj hmem
      rw [(hlevel _).2, (hlevel _).2]
      exact ⟨(hlevel a).1, hlt⟩

theorem sendLinkParametersReport_eq (s : ParameterMac) (p : WatchedParameter) (x now : ℚ) :
    s.sendLinkParametersReport p (s.watch p).base.average ((s.watch p).measured x now) =
      if s.Listening then [s.report p x now] else [] := rfl

/-- What an update sends. -/
theorem Configured.reports {p : WatchedParameter} {x now : ℚ}
    {r : ParameterMac × List ParametersReport} (h : s.Configured ths)
    (hr : s.updateWatch p x now = .ok r) :
    r.2 = if s.Listening ∧ p.Rises (lastAccepted p ths)
        (s.watch p).base.average ((s.watch p).measured x now)
      then [s.report p x now] else [] := by
  obtain ⟨⟨w, action⟩, hw, hr⟩ := bind_ok_iff.1 hr
  cases hr
  obtain ⟨total, instant, n, hbase, haction⟩ := MacWatch.update_eq hw
  obtain ⟨pending, ts, heq⟩ := ((s.watch p).base.withAverage ((s.watch p).measured x now) total
    instant n).evaluate_eq now
  have hupdated := ((h.prompt p).evaluate ((s.watch p).measured x now) total instant n now).2
  rw [← haction] at hupdated
  have hvalues : w.base.oldAverage = (s.watch p).base.average ∧
      w.base.average = (s.watch p).measured x now := by
    rw [hbase, heq]
    exact ⟨rfl, rfl⟩
  dsimp only at hupdated ⊢
  rw [hvalues.1, hvalues.2]
  by_cases hrises : p.Rises (lastAccepted p ths) (s.watch p).base.average
      ((s.watch p).measured x now)
  · have hboth := (h.rises_iff p _).2 hrises
    rw [if_pos hboth] at hupdated
    have hne : action ≠ .noAction := by
      rw [hupdated]
      exact StatWatch.ofLevel_ne_noAction hboth.2.pos ((s.watch p).base.level_le _)
    rw [if_pos hne, sendLinkParametersReport_eq]
    by_cases hlistening : s.Listening
    · rw [if_pos hlistening, if_pos ⟨hlistening, hrises⟩]
    · rw [if_neg hlistening, if_neg fun hand => hlistening hand.1]
  · rw [if_neg (mt (h.rises_iff p _).1 hrises)] at hupdated
    rw [if_neg (fun hne => hne hupdated), if_neg fun hand => hrises hand.2]

/-- A watch is updated where it has a number to divide by. -/
theorem updateWatch_returns {p : WatchedParameter} {x now : ℚ} (h : (s.watch p).Measures x now) :
    ∃ r, s.updateWatch p x now = .ok r := by
  obtain ⟨⟨w, action⟩, hw⟩ := MacWatch.update_returns h
  exact ⟨_, bind_ok_iff.2 ⟨_, hw, rfl⟩⟩

/-- In every run of a MAC, an update of a watch that has a number to divide by sends one parameters
report if the MIH has subscribed to such reports and the average rises beyond one of the thresholds
that were last accepted for the parameter, and none otherwise. -/
theorem reported_iff (addr bssId : MacAddr) (mih : Bool) (alpha : WatchedParameter → ℚ)
    {es : List Event} (hrun : runSteps step (fresh addr bssId mih alpha) es = .ok s)
    {p : WatchedParameter} {x now : ℚ} (hmeasures : (s.watch p).Measures x now) :
    ∃ r, s.updateWatch p x now = .ok r ∧
      r.2 = if s.Listening ∧ p.Rises (lastAccepted p (es.flatMap Event.thresholds))
          (s.watch p).base.average ((s.watch p).measured x now)
        then [s.report p x now] else [] := by
  obtain ⟨r, hr⟩ := updateWatch_returns hmeasures
  exact ⟨r, hr, (configured_run (configured_fresh addr bssId mih alpha) hrun).reports hr⟩

/-- The MIH subscribes to parameters reports and sets thresholds for a throughput; packets are
received and lost meanwhile. -/
def throughputFalls : List Event :=
  [.packetLoss 1, .subscribe 0x10, .update .rxDataThroughput 100 1,
    .configure [⟨0, 7, 50, 60, 20⟩, ⟨0, 2, 1 / 3, 1 / 5, 1 / 2⟩]]

theorem throughputFalls_ok :
    (runSteps step (fresh 1 2 true fun _ => 1 / 4) throughputFalls).map (fun s =>
      (decide ((s.watch .rxDataThroughput).Measures 10 2),
        decide (s.Listening ∧ WatchedParameter.rxDataThroughput.Rises
          (lastAccepted .rxDataThroughput (throughputFalls.flatMap Event.thresholds))
          (s.watch .rxDataThroughput).base.average
          ((s.watch .rxDataThroughput).measured 10 2)))) = .ok (true, true) := by
  decide +kernel

theorem reported_iff_throughputFalls :
    ∃ s, runSteps step (fresh 1 2 true fun _ => 1 / 4) throughputFalls = .ok s ∧
      ∃ r, s.updateWatch .rxDataThroughput 10 2 = .ok r ∧
        r.2 = [s.report .rxDataThroughput 10 2] := by
  obtain ⟨s, hrun, hs⟩ := map_ok_iff.1 throughputFalls_ok
  obtain ⟨hmeasures, hreports⟩ := Prod.mk.inj hs
  obtain ⟨r, hr, hsent⟩ := reported_iff 1 2 true (fun _ => 1 / 4) hrun
    (of_decide_eq_true hmeasures)
  rw [if_pos (of_decide_eq_true hreports)] at hsent
  exact ⟨s, hrun, r, hr, hsent⟩

end ParameterMac

end SipNemo.Mac
