import Mathlib.Algebra.Group.Defs
import Mathlib.Data.List.Basic
import Mathlib.Order.Lattice

/-!
# Levels that are held

A quantity is sampled, and each sample has a level.  A detector reports a level when the quantity has
risen to it and has had it in all samples for some time: a rise starts the wait, a fall ends it.
`report_iff` says so without the state of the detector, of every sequence of samples.
-/

namespace Dwell

variable {T L : Type*} [LinearOrder L]

/-- The level of the last sample, the newest first. -/
def last (l₀ : L) (hist : List (T × L)) : L := (hist.head?.map Prod.snd).getD l₀

/-- The level rose to `l` at the time `t`, and the samples since, whose times are `since`, have it. -/
inductive RoseTo (l₀ : L) : List (T × L) → L → T → List T → Prop
  | rise {hist : List (T × L)} {l : L} (t : T) (h : last l₀ hist < l) :
      RoseTo l₀ ((t, l) :: hist) l t [t]
  | held {hist : List (T × L)} {l : L} {t : T} {since : List T} (now : T)
      (h : RoseTo l₀ hist l t since) : RoseTo l₀ ((now, l) :: hist) l t (now :: since)

/-- What a detector keeps: the level of the last sample, and when it is to be reported. -/
structure Detector (T L : Type*) where
  level : L
  due : Option T := none

variable {l₀ l l' : L} {hist : List (T × L)} {t t' now : T} {since since' : List T}

omit [LinearOrder L] in
@[simp] theorem last_cons (l₀ : L) (x : T × L) (hist : List (T × L)) : last l₀ (x :: hist) = x.2 :=
  rfl

theorem RoseTo.last_eq (h : RoseTo l₀ hist l t since) : last l₀ hist = l := by
  cases h with
  | rise t h => rfl
  | held now h => rfl

theorem roseTo_cons_iff : RoseTo l₀ ((now, l') :: hist) l t since ↔
    l' = l ∧ (last l₀ hist < l ∧ now = t ∧ since = [t] ∨
      ∃ before, RoseTo l₀ hist l t before ∧ since = now :: before) := by
  constructor
  · intro h
    cases h with
    | rise t h => exact ⟨rfl, Or.inl ⟨h, rfl, rfl⟩⟩
    | held now h => exact ⟨rfl, Or.inr ⟨_, h, rfl⟩⟩
  · rintro ⟨rfl, ⟨h, rfl, rfl⟩ | ⟨before, h, rfl⟩⟩
    · exact .rise now h
    · exact .held now h

/-- There is one rise to the level of the last sample, if any. -/
theorem RoseTo.unique (h : RoseTo l₀ hist l t since) (h' : RoseTo l₀ hist l' t' since') :
    t' = t ∧ since' = since := by
  induction h generalizing l' t' since' with
  | rise t hlt =>
    obtain ⟨rfl, ⟨-, rfl, rfl⟩ | ⟨before, h, -⟩⟩ := roseTo_cons_iff.1 h'
    · exact ⟨rfl, rfl⟩
    · rw [h.last_eq] at hlt
      exact absurd hlt (lt_irrefl _)
  | held now h ih =>
    obtain ⟨rfl, ⟨hlt, -, -⟩ | ⟨before, hrose, rfl⟩⟩ := roseTo_cons_iff.1 h'
    · rw [h.last_eq] at hlt
      exact absurd hlt (lt_irrefl _)
    · obtain ⟨rfl, rfl⟩ := ih hrose
      exact ⟨rfl, rfl⟩

section Detect

variable [LinearOrder T] [Add T] (delay : T)

namespace Detector

/-- When the level is to be reported, after a sample. -/
def dueAt (d : Detector T L) (now : T) (l : L) : Option T :=
  if d.level < l then some (now + delay) else if l < d.level then none else d.due

/-- What is reported now. -/
def fire (d : Detector T L) (now : T) : Detector T L × Option L :=
  match d.due with
  | none => (d, none)
  | some u => if u ≤ now then ({ d with due := none }, some d.level) else (d, none)

/-- One sample, with the level that is reported. -/
def sample (d : Detector T L) (now : T) (l : L) : Detector T L × Option L :=
  fire ⟨l, d.dueAt delay now l⟩ now

/-- The detector after some samples. -/
def after (l₀ : L) : List (T × L) → Detector T L
  | [] => ⟨l₀, none⟩
  | x :: hist => ((after l₀ hist).sample delay x.1 x.2).1

/-- The level has risen, and its time has not come. -/
def Waits (l₀ : L) (hist : List (T × L)) (u : T) : Prop :=
  ∃ t since, RoseTo l₀ hist (last l₀ hist) t since ∧ u = t + delay ∧ ∀ now ∈ since, now < u

variable {delay}

omit [LinearOrder L] [Add T] in
theorem fire_level (d : Detector T L) (now : T) : (d.fire now).1.level = d.level := by
  unfold fire
  split
  · rfl
  · split_ifs <;> rfl

omit [LinearOrder L] [Add T] in
theorem fire_due_iff (d : Detector T L) (now u : T) :
    (d.fire now).1.due = some u ↔ d.due = some u ∧ now < u := by
  unfold fire
  cases hd : d.due with
  | none => simp [hd]
  | some v =>
    dsimp only
    split_ifs with hle
    · simp only [false_iff, not_and, not_lt, Option.some.injEq]
      rintro rfl
      exact hle
    · simp only [hd, iff_self_and, Option.some.injEq]
      rintro rfl
      exact lt_of_not_ge hle

omit [LinearOrder L] [Add T] in
theorem fire_report_iff (d : Detector T L) (now : T) (l : L) :
    (d.fire now).2 = some l ↔ d.level = l ∧ ∃ u, d.due = some u ∧ u ≤ now := by
  unfold fire
  cases hd : d.due with
  | none => simp
  | some v =>
    dsimp only
    by_cases hle : v ≤ now
    · simp [hle]
    · simp [hle]

theorem after_level (hist : List (T × L)) : (after delay l₀ hist).level = last l₀ hist := by
  cases hist with
  | nil => rfl
  | cons x hist => exact fire_level _ _

/-- A report is due after a sample when the level has risen in it, or has been held. -/
theorem dueAt_iff {d : Detector T L} (hlevel : d.level = last l₀ hist)
    (hdue : ∀ u, d.due = some u ↔ Waits delay l₀ hist u) {u : T} :
    d.dueAt delay now l = some u ↔
      ∃ t since, RoseTo l₀ ((now, l) :: hist) l t since ∧ u = t + delay ∧ ∀ w ∈ since.tail, w < u := by
  unfold dueAt
  rw [hlevel]
  split_ifs with hlt hgt
  · constructor
    · intro h
      exact ⟨now, [now], .rise now hlt, (Option.some.inj h).symm, by simp⟩
    · rintro ⟨t, since, hrose, rfl, -⟩
      obtain ⟨rfl, rfl⟩ := (RoseTo.rise now hlt).unique hrose
      rfl
  · constructor
    · intro h
      cases h
    · rintro ⟨t, since, hrose, -, -⟩
      obtain ⟨-, ⟨h, -, -⟩ | ⟨before, h, -⟩⟩ := roseTo_cons_iff.1 hrose
      · exact absurd h hlt
      · rw [h.last_eq] at hgt
        exact absurd hgt (lt_irrefl _)
  · have heq : last l₀ hist = l := le_antisymm (not_lt.1 hgt) (not_lt.1 hlt)
    rw [hdue u]
    constructor
    · rintro ⟨t, since, hrose, hu, hall⟩
      rw [heq] at hrose
      exact ⟨t, now :: since, .held now hrose, hu, hall⟩
    · rintro ⟨t, since, hrose, hu, hall⟩
      obtain ⟨-, ⟨h, -, -⟩ | ⟨before, h, rfl⟩⟩ := roseTo_cons_iff.1 hrose
      · exact absurd h hlt
      · exact ⟨t, before, heq.symm ▸ h, hu, hall⟩

theorem after_due_iff (hist : List (T × L)) (u : T) :
    (after delay l₀ hist).due = some u ↔ Waits delay l₀ hist u := by
  induction hist generalizing u with
  | nil =>
    constructor
    · intro h
      cases h
    · rintro ⟨t, since, hrose, -, -⟩
      cases hrose
  | cons x hist ih =>
    obtain ⟨now, l⟩ := x
    rw [after, sample, fire_due_iff, dueAt_iff (after_level hist) ih]
    constructor
    · rintro ⟨⟨t, since, hrose, hu, hall⟩, hnow⟩
      refine ⟨t, since, hrose, hu, fun w hw => ?_⟩
      obtain ⟨-, ⟨-, rfl, rfl⟩ | ⟨before, -, rfl⟩⟩ := roseTo_cons_iff.1 hrose
      · rwa [List.mem_singleton.1 hw]
      · rcases List.mem_cons.1 hw with rfl | hw
        · exact hnow
        · exact hall w hw
    · rintro ⟨t, since, hrose, hu, hall⟩
      refine ⟨⟨t, since, hrose, hu, fun w hw => hall w (List.mem_of_mem_tail hw)⟩, hall now ?_⟩
      obtain ⟨-, ⟨-, rfl, rfl⟩ | ⟨before, -, rfl⟩⟩ := roseTo_cons_iff.1 hrose
      · exact List.mem_singleton_self now
      · exact List.mem_cons_self

end Detector

/-- With the sample at `now` the level `l` has been held for the delay, and before it had not. -/
def Reported (l₀ : L) (hist : List (T × L)) (now : T) (l : L) : Prop :=
  ∃ t since, RoseTo l₀ ((now, l) :: hist) l t since ∧ t + delay ≤ now ∧
    ∀ w ∈ since.tail, w < t + delay

variable {delay}

/-- What the detector reports. -/
theorem report_iff :
    ((Detector.after delay l₀ hist).sample delay now l).2 = some l' ↔
      l = l' ∧ Reported delay l₀ hist now l := by
  rw [Detector.sample, Detector.fire_report_iff]
  refine and_congr_right fun _ => ?_
  constructor
  · rintro ⟨u, hu, hle⟩
    obtain ⟨t, since, hrose, rfl, hall⟩ :=
      (Detector.dueAt_iff (Detector.after_level hist) (Detector.after_due_iff hist)).1 hu
    exact ⟨t, since, hrose, hle, hall⟩
  · rintro ⟨t, since, hrose, hle, hall⟩
    refine ⟨t + delay, ?_, hle⟩
    exact (Detector.dueAt_iff (Detector.after_level hist) (Detector.after_due_iff hist)).2
      ⟨t, since, hrose, rfl, hall⟩

end Detect

end Dwell
