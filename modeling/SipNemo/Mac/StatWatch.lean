import Mathlib.Algebra.Order.Field.Rat
import SipNemo.Lib.Dwell
import SipNemo.Lib.Runs
import SipNemo.Net.Packet

/-!
# Watches

`StatWatch` and `ThroughputWatch` of `mac-stats.h`: a moving average with three thresholds.  The
values, doubles in the source, are rational numbers and the averages exact, so nothing here speaks
of rounding.  Where a throughput would be divided by a time of 0 the model stops.

An action is announced when the average has crossed a threshold and has stayed beyond it for
`delay_`.  `init_sent_` stays false, so there is never a rollback, and what is announced is that the
average has risen to a level and has been held there (`announced_iff`).
-/

namespace SipNemo.Mac

open Dwell Runs

/-- `threshold_action_t`. -/
inductive ThresholdAction
  | noAction | initAction | rollbackAction | execAction
  deriving DecidableEq, Repr

/-- `StatWatch`, less its timer. -/
structure StatWatch where
  alpha : ℚ := 1
  posGradient : Bool := true
  current : ℚ := 0
  average : ℚ := 0
  oldAverage : ℚ := 0
  instant : ℚ := 0
  total : ℚ := 0
  sampleNumber : ℕ := 0
  delay : ℚ := 0
  pendingAction : ThresholdAction := .noAction
  ts : ℚ := 0
  thSet : Bool := false
  initSent : Bool := false
  initTh : ℚ := 0
  rollbackTh : ℚ := 0
  execTh : ℚ := 0
  deriving DecidableEq, Repr

/-- The average `new` has crossed a threshold, upwards if the gradient is positive. -/
def crosses (pos : Bool) (th old new : ℚ) : Prop :=
  if pos then old < th ∧ th ≤ new else th < old ∧ new ≤ th

/-- The average has not reached a threshold. -/
def misses (pos : Bool) (th new : ℚ) : Prop := if pos then new < th else th < new

instance (pos : Bool) (th old new : ℚ) : Decidable (crosses pos th old new) := by
  unfold crosses
  infer_instance

instance (pos : Bool) (th new : ℚ) : Decidable (misses pos th new) := by
  unfold misses
  infer_instance

namespace StatWatch

variable (w : StatWatch)

/-- The order that `set_thresholds` asserts. -/
def Ordered (initTh rollbackTh execTh : ℚ) : Prop :=
  if w.posGradient then rollbackTh ≤ initTh ∧ initTh ≤ execTh
  else initTh ≤ rollbackTh ∧ execTh ≤ initTh

instance (initTh rollbackTh execTh : ℚ) : Decidable (w.Ordered initTh rollbackTh execTh) := by
  unfold Ordered
  infer_instance

/-- `set_thresholds`. -/
def setThresholds (initTh rollbackTh execTh : ℚ) : Act StatWatch :=
  if w.Ordered initTh rollbackTh execTh then
    .ok { w with initTh := initTh, rollbackTh := rollbackTh, execTh := execTh, thSet := true }
  else .error .assertion

/-- The action for the threshold that has been crossed. -/
def newAction : ThresholdAction :=
  if crosses (!w.posGradient) w.rollbackTh w.oldAverage w.average ∧ w.initSent then .rollbackAction
  else if crosses w.posGradient w.execTh w.oldAverage w.average then .execAction
  else if crosses w.posGradient w.initTh w.oldAverage w.average then .initAction
  else .noAction

/-- The pending action is canceled. -/
def IsCanceled : Prop :=
  w.pendingAction = .rollbackAction ∧ misses (!w.posGradient) w.rollbackTh w.average ∨
    w.pendingAction = .execAction ∧ misses w.posGradient w.execTh w.average ∨
      w.pendingAction = .initAction ∧ misses w.posGradient w.initTh w.average

instance : Decidable w.IsCanceled := inferInstanceAs (Decidable (_ ∨ _ ∨ _))

/-- The pending action, after a threshold has been crossed or not. -/
def pend (now : ℚ) : StatWatch :=
  if w.newAction ≠ .noAction then { w with pendingAction := w.newAction, ts := now + w.delay }
  else if w.IsCanceled then { w with pendingAction := .noAction }
  else w

/-- The evaluation of the thresholds, at the end of both functions `update`. -/
def evaluate (now : ℚ) : StatWatch × ThresholdAction :=
  if w.thSet then
    let w := w.pend now
    if w.pendingAction ≠ .noAction ∧ w.ts ≤ now then
      ({ w with pendingAction := .noAction }, w.pendingAction)
    else (w, .noAction)
  else (w, .noAction)

/-- `update`. -/
def update (newVal now : ℚ) : StatWatch × ThresholdAction :=
  { w with
    oldAverage := w.average
    average := w.alpha * newVal + (1 - w.alpha) * w.average
    total := w.total + newVal
    sampleNumber := w.sampleNumber + 1
    instant := newVal }.evaluate now

end StatWatch

/-- A quotient, which by 0 is no finite number. -/
def quotient (a b : ℚ) : Act ℚ := if b = 0 then .error .divisionByZero else .ok (a / b)

theorem quotient_eq_ok {a b q : ℚ} : quotient a b = .ok q ↔ b ≠ 0 ∧ a / b = q := by
  unfold quotient
  split_ifs with hb
  · simp [hb]
  · simp [hb]

/-- `ThroughputWatch`. -/
structure ThroughputWatch extends StatWatch where
  size : StatWatch := {}
  time : StatWatch := {}
  deriving DecidableEq, Repr

namespace ThroughputWatch

variable (w : ThroughputWatch)

/-- `set_alpha`. -/
def setAlpha (a : ℚ) : ThroughputWatch :=
  { w with size := { w.size with alpha := a }, time := { w.time with alpha := a } }

/-- The two watches of a throughput, after a packet. -/
def measure (size time now : ℚ) : ThroughputWatch :=
  let w := { w with size := (w.size.update size now).1 }
  let w := { w with time := (w.time.update (time - w.time.current) now).1 }
  { w with time := { w.time with current := time } }

/-- `update`. -/
def update (size time now : ℚ) : Act (ThroughputWatch × ThresholdAction) := do
  let w := w.measure size time now
  let average ← quotient w.size.average w.time.average
  let r := { w.toStatWatch with oldAverage := w.average, average := average }.evaluate now
  .ok ({ w with toStatWatch := r.1 }, r.2)

end ThroughputWatch

/-- A watch of either class. -/
inductive MacWatch
  | stat (w : StatWatch)
  | throughput (w : ThroughputWatch)
  deriving DecidableEq, Repr

namespace MacWatch

/-- The `StatWatch` of a watch. -/
def base : MacWatch → StatWatch
  | .stat w => w
  | .throughput w => w.toStatWatch

/-- `set_thresholds`. -/
def setThresholds (initTh rollbackTh execTh : ℚ) : MacWatch → Act MacWatch
  | .stat w => do
    let w ← w.setThresholds initTh rollbackTh execTh
    .ok (.stat w)
  | .throughput w => do
    let b ← w.toStatWatch.setThresholds initTh rollbackTh execTh
    .ok (.throughput { w with toStatWatch := b })

/-- `update`; a throughput is measured at the present time. -/
def update (x now : ℚ) : MacWatch → Act (MacWatch × ThresholdAction)
  | .stat w => .ok (.stat (w.update x now).1, (w.update x now).2)
  | .throughput w => do
    let (w, action) ← w.update x now now
    .ok (.throughput w, action)

end MacWatch

/-! ### Levels -/

/-- The action that announces a level: 1 beyond `init_th_`, 2 beyond `exec_th_`. -/
def ThresholdAction.ofLevel : ℕ → ThresholdAction
  | 1 => .initAction
  | 2 => .execAction
  | _ => .noAction

/-- A value has reached a threshold. -/
def reaches (pos : Bool) (th a : ℚ) : Prop := if pos then th ≤ a else a ≤ th

instance (pos : Bool) (th a : ℚ) : Decidable (reaches pos th a) := by
  unfold reaches
  infer_instance

theorem crosses_iff (pos : Bool) (th old new : ℚ) :
    crosses pos th old new ↔ ¬ reaches pos th old ∧ reaches pos th new := by
  unfold crosses reaches
  split_ifs
  · rw [not_le]
  · rw [not_le]

theorem misses_iff (pos : Bool) (th new : ℚ) : misses pos th new ↔ ¬ reaches pos th new := by
  unfold misses reaches
  split_ifs
  · rw [not_le]
  · rw [not_le]

/-- The level of a value. -/
def levelOf (pos : Bool) (initTh execTh a : ℚ) : ℕ :=
  if reaches pos execTh a then 2 else if reaches pos initTh a then 1 else 0

namespace StatWatch

section Level

variable (w : StatWatch)

/-- The average has reached a threshold. -/
def Beyond (th a : ℚ) : Prop := reaches w.posGradient th a

instance (th a : ℚ) : Decidable (w.Beyond th a) := inferInstanceAs (Decidable (reaches _ _ _))

/-- The level of an average. -/
def level (a : ℚ) : ℕ := levelOf w.posGradient w.initTh w.execTh a

theorem level_le (a : ℚ) : w.level a ≤ 2 := by
  unfold level levelOf
  split_ifs <;> omega

theorem two_le_level_iff (a : ℚ) : 2 ≤ w.level a ↔ w.Beyond w.execTh a := by
  unfold level levelOf Beyond
  split_ifs with he hi
  · simp [he]
  · simp [he]
  · simp [he]

/-- Beyond `exec_th_` is beyond `init_th_`. -/
theorem one_le_level_iff (h : w.Ordered w.initTh w.rollbackTh w.execTh) (a : ℚ) :
    1 ≤ w.level a ↔ w.Beyond w.initTh a := by
  have hinit : w.Beyond w.execTh a → w.Beyond w.initTh a := by
    intro ha
    unfold Ordered at h
    unfold Beyond reaches at ha ⊢
    split_ifs at h ha ⊢
    · exact h.2.trans ha
    · exact ha.trans h.2
  unfold Beyond at hinit ⊢
  unfold level levelOf
  split_ifs with he hi
  · simp [hinit he]
  · simp [hi]
  · simp [hi]

/-- Without rollbacks an action is due when the level rises. -/
theorem newAction_eq (hsent : w.initSent = false)
    (h : w.Ordered w.initTh w.rollbackTh w.execTh) :
    w.newAction = if w.level w.oldAverage < w.level w.average
      then .ofLevel (w.level w.average) else .noAction := by
  have hold := w.level_le w.oldAverage
  have hnew := w.level_le w.average
  unfold newAction
  have hexec (a : ℚ) : reaches w.posGradient w.execTh a ↔ 2 ≤ w.level a :=
    (w.two_le_level_iff a).symm
  have hinit (a : ℚ) : reaches w.posGradient w.initTh a ↔ 1 ≤ w.level a :=
    (w.one_le_level_iff h a).symm
  simp only [hsent, Bool.false_eq_true, and_false, if_false, crosses_iff, hexec, hinit]
  generalize w.level w.oldAverage = old at hold ⊢
  generalize w.level w.average = new at hnew ⊢
  interval_cases old <;> interval_cases new <;> rfl

/-- A pending action is canceled when the level falls. -/
theorem isCanceled_iff (h : w.Ordered w.initTh w.rollbackTh w.execTh) {l : ℕ} (hl : l ≤ 2)
    (hpending : w.pendingAction = .ofLevel l) : w.IsCanceled ↔ w.level w.average < l := by
  have hnew := w.level_le w.average
  unfold IsCanceled
  have hexec (a : ℚ) : reaches w.posGradient w.execTh a ↔ 2 ≤ w.level a :=
    (w.two_le_level_iff a).symm
  have hinit (a : ℚ) : reaches w.posGradient w.initTh a ↔ 1 ≤ w.level a :=
    (w.one_le_level_iff h a).symm
  simp only [hpending, misses_iff, hexec, hinit]
  generalize w.level w.average = new at hnew ⊢
  interval_cases l <;> simp [ThresholdAction.ofLevel]

end Level

/-! ### The watch as a detector -/

/-- The watch is a detector of the levels of its average. -/
structure Detects (w : StatWatch) (d : Detector ℚ ℕ) : Prop where
  thSet : w.thSet = true
  initSent : w.initSent = false
  ordered : w.Ordered w.initTh w.rollbackTh w.execTh
  level : d.level = w.level w.average
  idle : d.due = none → w.pendingAction = .noAction
  waits : ∀ u, d.due = some u →
    w.pendingAction = .ofLevel d.level ∧ 0 < d.level ∧ w.ts = u

/-- The announcement of a report. -/
def announced (report : Option ℕ) : ThresholdAction := report.elim .noAction .ofLevel

theorem ofLevel_ne_noAction {l : ℕ} (hpos : 0 < l) (hl : l ≤ 2) :
    ThresholdAction.ofLevel l ≠ .noAction := by
  interval_cases l <;> nofun

variable {w : StatWatch} {d : Detector ℚ ℕ}

/-- The watch when its average changes. -/
def withAverage (w : StatWatch) (a total instant : ℚ) (n : ℕ) : StatWatch :=
  { w with
    oldAverage := w.average, average := a, total := total, sampleNumber := n, instant := instant }

/-- What is pending after a new average. -/
theorem Detects.pend (h : w.Detects d) (a total instant : ℚ) (n : ℕ) (now : ℚ) :
    ((w.withAverage a total instant n).pend now).Detects
      ⟨w.level a, d.dueAt w.delay now (w.level a)⟩ := by
  have hnew := (w.withAverage a total instant n).newAction_eq h.initSent h.ordered
  have hle : d.level ≤ 2 := h.level ▸ w.level_le _
  have hsame : (w.withAverage a total instant n).level = w.level := rfl
  have holdAverage : (w.withAverage a total instant n).oldAverage = w.average := rfl
  have haverage : (w.withAverage a total instant n).average = a := rfl
  rw [hsame, holdAverage, haverage, ← h.level] at hnew
  unfold StatWatch.pend Detector.dueAt
  by_cases hlt : d.level < w.level a
  · have hpos : 0 < w.level a := hlt.pos
    rw [if_pos hlt] at hnew
    rw [hnew, if_pos (ofLevel_ne_noAction hpos (w.level_le a)), if_pos hlt]
    refine ⟨h.thSet, h.initSent, h.ordered, rfl, (fun hnone => by cases hnone), fun u hu => ?_⟩
    cases hu
    exact ⟨rfl, hpos, rfl⟩
  · rw [if_neg hlt] at hnew
    rw [hnew, if_neg (fun hne => hne rfl), if_neg hlt]
    cases hdue : d.due with
    | none =>
      have hpending : (w.withAverage a total instant n).pendingAction = .ofLevel 0 := h.idle hdue
      have hcanceled := isCanceled_iff (w.withAverage a total instant n) h.ordered
        (Nat.zero_le 2) hpending
      rw [if_neg (mt hcanceled.1 (Nat.not_lt_zero _)), ite_self]
      exact ⟨h.thSet, h.initSent, h.ordered, rfl, fun _ => hpending, fun u hu => by cases hu⟩
    | some u =>
      obtain ⟨hpending, hpos, hts⟩ := h.waits u hdue
      have hcanceled := isCanceled_iff (w.withAverage a total instant n) h.ordered hle hpending
      rw [hsame, haverage] at hcanceled
      by_cases hfall : w.level a < d.level
      · rw [if_pos (hcanceled.2 hfall), if_pos hfall]
        exact ⟨h.thSet, h.initSent, h.ordered, rfl, fun _ => rfl, fun v hv => by cases hv⟩
      · have hkept : d.level = w.level a := le_antisymm (not_lt.1 hfall) (not_lt.1 hlt)
        rw [if_neg (mt hcanceled.1 hfall), if_neg hfall]
        refine ⟨h.thSet, h.initSent, h.ordered, rfl, (fun hnone => by cases hnone), fun v hv => ?_⟩
        cases hv
        rw [← hkept]
        exact ⟨hpending, hpos, hts⟩

/-- What is announced, and what stays pending. -/
theorem Detects.evaluate (h : w.Detects d) (a total instant : ℚ) (n : ℕ) (now : ℚ) :
    let r := (w.withAverage a total instant n).evaluate now
    r.1.Detects (d.sample w.delay now (w.level a)).1 ∧
      r.2 = announced (d.sample w.delay now (w.level a)).2 := by
  have hpend := h.pend a total instant n now
  have hset : (w.withAverage a total instant n).thSet = true := h.thSet
  unfold StatWatch.evaluate Detector.sample Detector.fire
  rw [if_pos hset]
  dsimp only
  cases hdue : d.dueAt w.delay now (w.level a) with
  | none =>
    have hidle := hpend.idle hdue
    rw [hdue] at hpend
    rw [if_neg fun hboth => hboth.1 hidle]
    exact ⟨hpend, rfl⟩
  | some u =>
    obtain ⟨hpending, hpos, hts⟩ := hpend.waits u hdue
    rw [hdue] at hpend
    have hne := ofLevel_ne_noAction hpos (w.level_le a)
    dsimp only at hpending ⊢
    rw [hpending, hts]
    by_cases hle : u ≤ now
    · rw [if_pos ⟨hne, hle⟩, if_pos hle]
      refine ⟨⟨hpend.thSet, hpend.initSent, hpend.ordered, hpend.level, fun _ => rfl, ?_⟩, rfl⟩
      intro v hv
      cases hv
    · rw [if_neg fun hboth => hle hboth.2, if_neg hle]
      exact ⟨hpend, rfl⟩

/-- The thresholds are evaluated without changing more than what is pending. -/
theorem evaluate_eq (w : StatWatch) (now : ℚ) :
    ∃ p t, (w.evaluate now).1 = { w with pendingAction := p, ts := t } := by
  unfold StatWatch.evaluate StatWatch.pend
  dsimp only
  split_ifs <;> exact ⟨_, _, rfl⟩

end StatWatch

namespace MacWatch

variable {w : MacWatch}

/-- The average after an update. -/
def measured (x now : ℚ) : MacWatch → ℚ
  | .stat w => w.alpha * x + (1 - w.alpha) * w.average
  | .throughput w => (w.measure x now now).size.average / (w.measure x now now).time.average

/-- With the update there is a number to divide by: a throughput is not measured over a time of
0. -/
def Measures (x now : ℚ) : MacWatch → Prop
  | .stat _ => True
  | .throughput w => (w.measure x now now).time.average ≠ 0

instance (x now : ℚ) : DecidablePred (Measures x now)
  | .stat _ => isTrue trivial
  | .throughput _ => inferInstanceAs (Decidable (_ ≠ _))

/-- A watch is updated where it has a number to divide by. -/
theorem update_returns {x now : ℚ} (h : w.Measures x now) : ∃ r, w.update x now = .ok r := by
  cases w with
  | stat w => exact ⟨_, rfl⟩
  | throughput w =>
    have hquotient : quotient (w.measure x now now).size.average
        (w.measure x now now).time.average = .ok _ := quotient_eq_ok.2 ⟨h, rfl⟩
    simp only [update, ThroughputWatch.update, hquotient, ok_bind]
    exact ⟨_, rfl⟩

variable {r : MacWatch × ThresholdAction} {x now : ℚ}

/-- The thresholds of a watch of either class are evaluated for a new average. -/
theorem update_eq (h : w.update x now = .ok r) : ∃ total instant n,
    r.1.base = ((w.base.withAverage (w.measured x now) total instant n).evaluate now).1 ∧
      r.2 = ((w.base.withAverage (w.measured x now) total instant n).evaluate now).2 := by
  cases w with
  | stat w =>
    cases h
    exact ⟨_, _, _, rfl, rfl⟩
  | throughput w =>
    obtain ⟨⟨w', action⟩, hupdate, h⟩ := bind_ok_iff.1 h
    cases h
    obtain ⟨average, hquotient, hupdate⟩ := bind_ok_iff.1 hupdate
    cases hupdate
    obtain ⟨-, rfl⟩ := quotient_eq_ok.1 hquotient
    exact ⟨_, _, _, rfl, rfl⟩

/-- What an update leaves as it was. -/
theorem update_base (h : w.update x now = .ok r) : ∃ total instant n p t,
    r.1.base =
      { w.base.withAverage (w.measured x now) total instant n with
        pendingAction := p, ts := t } := by
  obtain ⟨total, instant, n, hbase, -⟩ := update_eq h
  obtain ⟨p, t, heq⟩ :=
    (w.base.withAverage (w.measured x now) total instant n).evaluate_eq now
  exact ⟨total, instant, n, p, t, hbase.trans heq⟩

theorem setThresholds_ok {w' : MacWatch} {initTh rollbackTh execTh : ℚ}
    (h : w.setThresholds initTh rollbackTh execTh = .ok w') :
    w.base.Ordered initTh rollbackTh execTh ∧ w'.base = { w.base with
      initTh := initTh, rollbackTh := rollbackTh, execTh := execTh, thSet := true } := by
  cases w with
  | stat w =>
    obtain ⟨b, hb, h⟩ := bind_ok_iff.1 h
    cases h
    unfold StatWatch.setThresholds at hb
    split_ifs at hb with hordered
    cases hb
    exact ⟨hordered, rfl⟩
  | throughput w =>
    obtain ⟨b, hb, h⟩ := bind_ok_iff.1 h
    cases h
    unfold StatWatch.setThresholds at hb
    split_ifs at hb with hordered
    cases hb
    exact ⟨hordered, rfl⟩

/-- The watch is as its constructor leaves it, but for the weight, the gradient and the delay. -/
structure IsNew (w : MacWatch) : Prop where
  thSet : w.base.thSet = false
  initSent : w.base.initSent = false
  pendingAction : w.base.pendingAction = .noAction

end MacWatch

/-! ### Runs of a watch -/

/-- What happens to a watch. -/
inductive WatchEvent
  | setThresholds (initTh rollbackTh execTh : ℚ)
  | update (x now : ℚ)
  deriving DecidableEq, Repr

/-- A watch with its average when the thresholds were set, and the times and averages of its updates
since then, the newest first, which the source does not keep. -/
structure WatchRun where
  watch : MacWatch
  start : ℚ := 0
  samples : List (ℚ × ℚ) := []
  deriving DecidableEq, Repr

namespace WatchRun

variable (s : WatchRun)

/-- One event. -/
def step : WatchEvent → Act WatchRun
  | .setThresholds initTh rollbackTh execTh => do
    let w ← s.watch.setThresholds initTh rollbackTh execTh
    .ok { watch := w, start := w.base.average, samples := [] }
  | .update x now => do
    let r ← s.watch.update x now
    .ok { s with watch := r.1, samples := (now, s.watch.measured x now) :: s.samples }

/-- Thresholds are not changed while an action is pending. -/
def Settled : WatchEvent → Prop
  | .setThresholds .. => s.watch.base.pendingAction = .noAction
  | .update .. => True

instance : (e : WatchEvent) → Decidable (s.Settled e)
  | .setThresholds .. => inferInstanceAs (Decidable (_ = _))
  | .update .. => isTrue trivial

/-- The levels of the averages. -/
def levels : List (ℚ × ℕ) := s.samples.map fun x => (x.1, s.watch.base.level x.2)

/-- With an update the average has been at the level `l`, to which it has risen, for the delay. -/
def Holds (x now : ℚ) (l : ℕ) : Prop :=
  s.watch.base.thSet = true ∧ s.watch.base.level (s.watch.measured x now) = l ∧
    Reported s.watch.base.delay (s.watch.base.level s.start) s.levels now l

/-- The invariant. -/
structure Watching : Prop where
  initSent : s.watch.base.initSent = false
  unset : s.watch.base.thSet = false → s.watch.base.pendingAction = .noAction
  set : s.watch.base.thSet = true → s.watch.base.Detects
    (Detector.after s.watch.base.delay (s.watch.base.level s.start) s.levels)

variable {s} {s' : WatchRun} {r : MacWatch × ThresholdAction} {x now : ℚ}

theorem Watching.setThresholds {initTh rollbackTh execTh : ℚ} {w : MacWatch} (h : s.Watching)
    (hpending : s.watch.base.pendingAction = .noAction)
    (hw : s.watch.setThresholds initTh rollbackTh execTh = .ok w) :
    Watching { watch := w, start := w.base.average, samples := [] } := by
  obtain ⟨hordered, hbase⟩ := MacWatch.setThresholds_ok hw
  have hinitSent : w.base.initSent = false := by
    rw [hbase]
    exact h.initSent
  have hidle : w.base.pendingAction = .noAction := by
    rw [hbase]
    exact hpending
  refine ⟨hinitSent, fun _ => hidle, fun hset => ⟨hset, hinitSent, ?_, rfl, fun _ => hidle, ?_⟩⟩
  · rw [hbase]
    exact hordered
  · intro u hu
    cases hu

theorem Watching.update (h : s.Watching) (hr : s.watch.update x now = .ok r) :
    Watching { s with watch := r.1, samples := (now, s.watch.measured x now) :: s.samples } := by
  obtain ⟨total, instant, n, hbase, -⟩ := MacWatch.update_eq hr
  obtain ⟨total', instant', n', p, t, hkept⟩ := MacWatch.update_base hr
  have hlevel : r.1.base.level = s.watch.base.level := by
    rw [hkept]
    rfl
  have hdelay : r.1.base.delay = s.watch.base.delay := by
    rw [hkept]
    rfl
  have hthSet : r.1.base.thSet = s.watch.base.thSet := by
    rw [hkept]
    rfl
  refine ⟨?_, fun hunset => ?_, fun hset => ?_⟩
  · dsimp only
    rw [hkept]
    exact h.initSent
  · rw [hthSet] at hunset
    have hno : ¬ (s.watch.base.withAverage (s.watch.measured x now) total instant n).thSet = true :=
      fun hset => by cases hunset.symm.trans hset
    rw [hbase, StatWatch.evaluate, if_neg hno]
    exact h.unset hunset
  · rw [hthSet] at hset
    have hdetects := ((h.set hset).evaluate (s.watch.measured x now) total instant n now).1
    rw [← hbase] at hdetects
    unfold levels
    rw [List.map_cons, hlevel, hdelay]
    exact hdetects

theorem Watching.step {e : WatchEvent} (h : s.Watching) (he : s.Settled e)
    (hs : s.step e = .ok s') : s'.Watching := by
  cases e with
  | setThresholds initTh rollbackTh execTh =>
    obtain ⟨w, hw, hs⟩ := bind_ok_iff.1 hs
    cases hs
    exact h.setThresholds he hw
  | update x now =>
    obtain ⟨r, hr, hs⟩ := bind_ok_iff.1 hs
    cases hs
    exact h.update hr

/-- What an update announces. -/
theorem Watching.announced (h : s.Watching) (hr : s.watch.update x now = .ok r) :
    r.2 = if s.watch.base.thSet then
      StatWatch.announced ((Detector.after s.watch.base.delay (s.watch.base.level s.start)
        s.levels).sample s.watch.base.delay now (s.watch.base.level (s.watch.measured x now))).2
      else .noAction := by
  obtain ⟨total, instant, n, -, haction⟩ := MacWatch.update_eq hr
  rw [haction]
  split_ifs with hset
  · exact ((h.set hset).evaluate (s.watch.measured x now) total instant n now).2
  · exact congrArg Prod.snd (if_neg hset)

/-- The announcement of a level. -/
theorem announced_eq_iff {l : ℕ} (hpos : 0 < l) (hl : l ≤ 2) {report : Option ℕ}
    (hreport : ∀ k ∈ report, k ≤ 2) :
    StatWatch.announced report = .ofLevel l ↔ report = some l := by
  cases report with
  | none => interval_cases l <;> simp [StatWatch.announced, ThresholdAction.ofLevel]
  | some k =>
    have hk := hreport k rfl
    interval_cases k <;> interval_cases l <;>
      simp [StatWatch.announced, ThresholdAction.ofLevel]

theorem Watching.ofLevel_iff (h : s.Watching) (hr : s.watch.update x now = .ok r) {l : ℕ}
    (hpos : 0 < l) (hl : l ≤ 2) : r.2 = .ofLevel l ↔ s.Holds x now l := by
  rw [h.announced hr]
  unfold Holds
  split_ifs with hset
  · rw [announced_eq_iff hpos hl fun k hk => ?_, report_iff]
    · constructor
      · rintro ⟨rfl, hreported⟩
        exact ⟨hset, rfl, hreported⟩
      · rintro ⟨-, rfl, hreported⟩
        exact ⟨rfl, hreported⟩
    · obtain ⟨rfl, -⟩ := report_iff.1 hk
      exact s.watch.base.level_le _
  · constructor
    · intro heq
      exact absurd heq.symm (StatWatch.ofLevel_ne_noAction hpos hl)
    · rintro ⟨hset', -⟩
      exact absurd hset' hset

/-- No update announces a rollback. -/
theorem Watching.not_rollback (h : s.Watching) (hr : s.watch.update x now = .ok r) :
    r.2 ≠ .rollbackAction := by
  rw [h.announced hr]
  split_ifs
  · cases hr : ((Detector.after s.watch.base.delay (s.watch.base.level s.start)
        s.levels).sample s.watch.base.delay now
          (s.watch.base.level (s.watch.measured x now))).2 with
    | none => nofun
    | some k =>
      unfold StatWatch.announced
      dsimp only [Option.elim]
      unfold ThresholdAction.ofLevel
      split <;> nofun
  · nofun

theorem watching_run {es : List WatchEvent} (h : s.Watching)
    (hsettled : StepsMeet step Settled s es) (hrun : runSteps step s es = .ok s') : s'.Watching :=
  runSteps_invariant (fun _ _ _ hs he hstep => hs.step he hstep) h hsettled hrun

/-- A watch that is new. -/
theorem watching_of_isNew {w : MacWatch} (hw : w.IsNew) : Watching { watch := w } :=
  ⟨hw.initSent, fun _ => hw.pendingAction, fun hset => by rw [hw.thSet] at hset; cases hset⟩

/-- In every run of a watch of either class, and of either gradient, an update that has a number to
divide by announces that the average has risen beyond a threshold and has stayed at that level for
the delay, and no rollback. -/
theorem announced_iff {w : MacWatch} (hw : w.IsNew) {es : List WatchEvent}
    (hsettled : StepsMeet step Settled { watch := w } es)
    (hrun : runSteps step { watch := w } es = .ok s) (hmeasures : s.watch.Measures x now) :
    ∃ r, s.watch.update x now = .ok r ∧ (r.2 = .initAction ↔ s.Holds x now 1) ∧
      (r.2 = .execAction ↔ s.Holds x now 2) ∧ r.2 ≠ .rollbackAction := by
  have h := watching_run (watching_of_isNew hw) hsettled hrun
  obtain ⟨r, hr⟩ := MacWatch.update_returns hmeasures
  exact ⟨r, hr, h.ofLevel_iff hr Nat.one_pos one_le_two, h.ofLevel_iff hr Nat.two_pos le_rfl,
    h.not_rollback hr⟩

/-- A throughput that waits for one second. -/
def oneSecond : MacWatch := .throughput { delay := 1 }

/-- The throughput goes beyond both thresholds. -/
def overload : List WatchEvent := [.setThresholds 1 0 2, .update 3 1]

theorem overload_announced : (runSteps step { watch := oneSecond } overload).map (fun s =>
    (decide (s.watch.Measures 3 2), (s.watch.update 2 (3 / 2)).map (·.2),
      (s.watch.update 3 2).map (·.2))) = .ok (true, .ok .noAction, .ok .execAction) := by
  decide +kernel

theorem announced_iff_overload :
    ∃ s, runSteps step { watch := oneSecond } overload = .ok s ∧
      (s.watch.update 2 (3 / 2)).map (·.2) = .ok .noAction ∧ s.Holds 3 2 2 := by
  have hsettled : StepsMeet step Settled { watch := oneSecond } overload := by decide +kernel
  have hnew : oneSecond.IsNew := ⟨rfl, rfl, rfl⟩
  obtain ⟨s, hrun, hs⟩ := map_ok_iff.1 overload_announced
  obtain ⟨hmeasures, hactions⟩ := Prod.mk.inj hs
  obtain ⟨hbefore, hafter⟩ := Prod.mk.inj hactions
  obtain ⟨r, hr, -, hexec, -⟩ := announced_iff hnew hsettled hrun (of_decide_eq_true hmeasures)
  obtain ⟨r', hr', haction⟩ := map_ok_iff.1 hafter
  obtain rfl : r = r' := Except.ok.inj (hr.symm.trans hr')
  exact ⟨s, hrun, hbefore, hexec.1 haction⟩

end WatchRun

end SipNemo.Mac
