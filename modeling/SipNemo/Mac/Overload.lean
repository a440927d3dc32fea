import SipNemo.Mac.StatWatch

/-!
# What stays beyond a threshold is announced

The average of a `StatWatch` comes closer to what is measured with every sample, by the weight of
the sample.  When all samples stay beyond `x`, and `x` is beyond `exec_th_`, the average is beyond
it after a number of samples that follows from the weight and the distances, and is announced when
the delay has passed (`sustained_announced`).  That is so in exact arithmetic: an average of doubles
may stop short of `exec_th_` by a rounding error.
-/

namespace SipNemo.Mac

open Dwell Runs

namespace StatWatch

variable {w : StatWatch}

/-- The average, upwards if the gradient is positive. -/
def oriented (w : StatWatch) (a : ℚ) : ℚ := if w.posGradient then a else -a

theorem beyond_iff (w : StatWatch) (th a : ℚ) :
    w.Beyond th a ↔ w.oriented th ≤ w.oriented a := by
  unfold Beyond reaches oriented
  split_ifs
  · rfl
  · rw [neg_le_neg_iff]

theorem oriented_sub (w : StatWatch) {a b : ℚ} (h : w.oriented a ≤ w.oriented b) :
    w.oriented b - w.oriented a = |b - a| := by
  unfold oriented at h ⊢
  split_ifs at h ⊢
  · exact (abs_of_nonneg (sub_nonneg.2 h)).symm
  · rw [abs_sub_comm, abs_of_nonneg (sub_nonneg.2 (neg_le_neg_iff.1 h))]
    ring

theorem oriented_average (w : StatWatch) (alpha x a : ℚ) :
    w.oriented (alpha * x + (1 - alpha) * a) =
      alpha * w.oriented x + (1 - alpha) * w.oriented a := by
  unfold oriented
  split_ifs
  · rfl
  · ring

/-- A sample beyond `x` brings the average closer to `x`. -/
theorem distance_le (w : StatWatch) {alpha x v a : ℚ} (hpos : 0 ≤ alpha)
    (hv : w.oriented x ≤ w.oriented v) :
    w.oriented x - w.oriented (alpha * v + (1 - alpha) * a) ≤
      (1 - alpha) * (w.oriented x - w.oriented a) := by
  rw [oriented_average]
  have hmul := mul_le_mul_of_nonneg_left hv hpos
  linarith

/-- What the updates of a watch announce, the first one first. -/
def announcements (w : StatWatch) : List (ℚ × ℚ) → List ThresholdAction
  | [] => []
  | u :: us => (w.update u.1 u.2).2 :: announcements (w.update u.1 u.2).1 us

/-- The average after an update. -/
def next (w : StatWatch) (v : ℚ) : ℚ := w.alpha * v + (1 - w.alpha) * w.average

theorem update_keeps (w : StatWatch) (v now : ℚ) :
    (w.update v now).1.average = w.next v ∧ (w.update v now).1.alpha = w.alpha ∧
      (w.update v now).1.delay = w.delay ∧ (w.update v now).1.execTh = w.execTh ∧
      (w.update v now).1.oriented = w.oriented ∧ (w.update v now).1.level = w.level := by
  obtain ⟨p, t, heq⟩ := (w.withAverage (w.next v) (w.total + v) v (w.sampleNumber + 1)).evaluate_eq
    now
  have hupdate : (w.update v now).1 =
    { w.withAverage (w.next v) (w.total + v) v (w.sampleNumber + 1) with
      pendingAction := p, ts := t } := heq
  rw [hupdate]
  exact ⟨rfl, rfl, rfl, rfl, rfl, rfl⟩

theorem Detects.update {d : Detector ℚ ℕ} (h : w.Detects d) (v now : ℚ) :
    (w.update v now).1.Detects (d.sample w.delay now (w.level (w.next v))).1 ∧
      (w.update v now).2 = announced (d.sample w.delay now (w.level (w.next v))).2 :=
  h.evaluate (w.next v) (w.total + v) v (w.sampleNumber + 1) now

/-- Once the average is beyond `exec_th_`, samples that are keep it there. -/
theorem next_beyond {v : ℚ} (h0 : 0 ≤ w.alpha) (h1 : w.alpha ≤ 1)
    (ha : w.Beyond w.execTh w.average) (hv : w.oriented w.execTh ≤ w.oriented v) :
    w.Beyond w.execTh (w.next v) := by
  rw [beyond_iff] at ha ⊢
  have hdistance := w.distance_le (a := w.average) h0 hv
  have hmul := mul_nonpos_of_nonneg_of_nonpos (sub_nonneg.2 h1) (sub_nonpos.2 ha)
  unfold next
  linarith

theorem level_eq_two {a : ℚ} (h : w.Beyond w.execTh a) : w.level a = 2 := if_pos h

/-- What is pending is announced when its time has come. -/
theorem announced_of_pending {d : Detector ℚ ℕ} {due : ℚ} (h : w.Detects d)
    (hdue : d.due = some due) (hlevel : d.level = 2) (h0 : 0 ≤ w.alpha) (h1 : w.alpha ≤ 1)
    {us : List (ℚ × ℚ)} (hus : ∀ u ∈ us, w.oriented w.execTh ≤ w.oriented u.1)
    (hlate : ∃ u ∈ us, due ≤ u.2) :
    .execAction ∈ w.announcements us := by
  induction us generalizing w d with
  | nil =>
    obtain ⟨u, hu, -⟩ := hlate
    cases hu
  | cons u us ih =>
    have hbeyond : w.Beyond w.execTh w.average := by
      rw [← two_le_level_iff, ← h.level, hlevel]
    have hnext := level_eq_two (next_beyond h0 h1 hbeyond (hus u List.mem_cons_self))
    have hdueAt : d.dueAt w.delay u.2 (w.level (w.next u.1)) = some due := by
      unfold Detector.dueAt
      rw [hnext, hlevel, if_neg (lt_irrefl _), if_neg (lt_irrefl _), hdue]
    obtain ⟨hdetects, hannounced⟩ := h.update u.1 u.2
    rw [Detector.sample, hdueAt, hnext] at hdetects hannounced
    unfold Detector.fire at hdetects hannounced
    dsimp only at hdetects hannounced
    rw [announcements]
    by_cases hnow : due ≤ u.2
    · rw [if_pos hnow] at hannounced
      rw [hannounced]
      exact List.mem_cons_self
    · rw [if_neg hnow] at hdetects
      obtain ⟨-, halpha, -, hexec, horiented, -⟩ := w.update_keeps u.1 u.2
      refine List.mem_cons_of_mem _ (ih hdetects rfl rfl (halpha ▸ h0) (halpha ▸ h1) ?_ ?_)
      · intro u' hu'
        rw [hexec, horiented]
        exact hus u' (List.mem_cons_of_mem _ hu')
      · obtain ⟨u', hu', hle⟩ := hlate
        rcases List.mem_cons.1 hu' with rfl | hu'
        · exact absurd hle hnow
        · exact ⟨u', hu', hle⟩

/-- The first samples bring the average beyond `exec_th_`, and one of the others comes late enough.
-/
theorem announced_of_lasting {d : Detector ℚ ℕ} (h : w.Detects d) (hlow : d.level < 2)
    (h0 : 0 ≤ w.alpha) (h1 : w.alpha ≤ 1) {x : ℚ} (hx : w.oriented w.execTh ≤ w.oriented x)
    {us us' : List (ℚ × ℚ)}
    (hnear : (1 - w.alpha) ^ us.length * (w.oriented x - w.oriented w.average) ≤
      w.oriented x - w.oriented w.execTh)
    (hus : ∀ u ∈ us ++ us', w.oriented x ≤ w.oriented u.1)
    (hlate : ∃ u' ∈ us', ∀ u ∈ us, u.2 + w.delay ≤ u'.2) :
    .execAction ∈ w.announcements (us ++ us') := by
  induction us generalizing w d with
  | nil =>
    rw [List.length_nil, pow_zero, one_mul] at hnear
    have hbeyond : w.Beyond w.execTh w.average := by
      rw [beyond_iff]
      linarith
    rw [h.level, level_eq_two hbeyond] at hlow
    exact absurd hlow (lt_irrefl _)
  | cons u us ih =>
    obtain ⟨haverage, halpha, hdelay, hexec, horiented, hlevel⟩ := w.update_keeps u.1 u.2
    obtain ⟨hdetects, hannounced⟩ := h.update u.1 u.2
    have hexecLe : ∀ v ∈ us ++ us', w.oriented w.execTh ≤ w.oriented v.1 := fun v hv =>
      hx.trans (hus v (List.mem_cons_of_mem _ hv))
    obtain ⟨u', hu', hdue⟩ := hlate
    rw [List.cons_append, announcements]
    by_cases hnext : w.level (w.next u.1) = 2
    · -- the level rises, and is announced now or waits
      have hdueAt : d.dueAt w.delay u.2 (w.level (w.next u.1)) = some (u.2 + w.delay) := by
        unfold Detector.dueAt
        rw [hnext, if_pos hlow]
      rw [Detector.sample, hdueAt, hnext] at hdetects hannounced
      unfold Detector.fire at hdetects hannounced
      dsimp only at hdetects hannounced
      by_cases hnow : u.2 + w.delay ≤ u.2
      · rw [if_pos hnow] at hannounced
        rw [hannounced]
        exact List.mem_cons_self
      · rw [if_neg hnow] at hdetects
        refine List.mem_cons_of_mem _
          (announced_of_pending hdetects rfl rfl (halpha ▸ h0) (halpha ▸ h1) ?_ ?_)
        · intro v hv
          rw [hexec, horiented]
          exact hexecLe v hv
        · exact ⟨u', List.mem_append_right us hu', hdue u List.mem_cons_self⟩
    · have hlow' : (d.sample w.delay u.2 (w.level (w.next u.1))).1.level < 2 := by
        rw [Detector.sample, Detector.fire_level]
        exact lt_of_le_of_ne (w.level_le _) hnext
      refine List.mem_cons_of_mem _ (ih hdetects hlow' (halpha ▸ h0) (halpha ▸ h1) ?_ ?_ ?_ ?_)
      · rw [hexec, horiented]
        exact hx
      · rw [haverage, halpha, hexec, horiented]
        have hdistance := w.distance_le (a := w.average) h0 (hus u List.mem_cons_self)
        have hpow := mul_le_mul_of_nonneg_left hdistance (pow_nonneg (sub_nonneg.2 h1) us.length)
        rw [← mul_assoc, ← pow_succ] at hpow
        exact hpow.trans hnear
      · intro v hv
        rw [horiented]
        exact hus v (List.mem_cons_of_mem _ hv)
      · rw [hdelay]
        exact ⟨u', hu', fun v hv => hdue v (List.mem_cons_of_mem _ hv)⟩

end StatWatch

/-- From any state that a run reaches: when the average is not beyond `exec_th_` and all samples
from now on are at `x` or beyond it, with so many of them that the average has to follow and one
more after the delay, the `exec` action is announced. -/
theorem sustained_announced {w : MacWatch} (hw : w.IsNew) {es : List WatchEvent} {s : WatchRun}
    (hsettled : StepsMeet WatchRun.step WatchRun.Settled { watch := w } es)
    (hrun : runSteps WatchRun.step { watch := w } es = .ok s) {b : StatWatch}
    (hb : s.watch = .stat b) (hset : b.thSet = true) (h0 : 0 ≤ b.alpha) (h1 : b.alpha ≤ 1)
    (hlow : ¬ b.Beyond b.execTh b.average) {x : ℚ} (hx : b.Beyond b.execTh x)
    {us us' : List (ℚ × ℚ)} (hus : ∀ u ∈ us ++ us', b.Beyond x u.1)
    (hnear : (1 - b.alpha) ^ us.length * |x - b.average| ≤ |x - b.execTh|)
    (hlate : ∃ u' ∈ us', ∀ u ∈ us, u.2 + b.delay ≤ u'.2) :
    .execAction ∈ b.announcements (us ++ us') := by
  have hwatching := WatchRun.watching_run (WatchRun.watching_of_isNew hw) hsettled hrun
  have hbase : s.watch.base = b := by
    rw [hb]
    rfl
  have hdetects := hwatching.set (hbase ▸ hset)
  rw [hbase] at hdetects
  have hbelow := lt_of_not_ge ((b.beyond_iff _ _).not.1 hlow)
  have hreach := (b.beyond_iff _ _).1 hx
  rw [← b.oriented_sub hreach, ← b.oriented_sub (hbelow.le.trans hreach)] at hnear
  refine StatWatch.announced_of_lasting hdetects ?_ h0 h1 hreach hnear
    (fun u hu => (b.beyond_iff _ _).1 (hus u hu)) hlate
  rw [hdetects.level]
  exact lt_of_not_ge fun hle => hlow ((b.two_le_level_iff _).1 hle)

/-- A watch with the weight 1/2 whose thresholds have been set. -/
def halved : StatWatch :=
  { alpha := 1 / 2, delay := 1, thSet := true, initTh := 1, rollbackTh := 0, execTh := 2 }

theorem sustained_announced_halved :
    .execAction ∈ halved.announcements [(4, 1), (4, 3 / 2), (4, 2)] := by
  have hrun : runSteps WatchRun.step { watch := .stat { alpha := 1 / 2, delay := 1 } }
      [.setThresholds 1 0 2] = .ok { watch := .stat halved } := by decide +kernel
  have hnear : (1 - halved.alpha) ^ 1 * |4 - halved.average| ≤ |4 - halved.execTh| := by
    decide +kernel
  have hlate : ∃ u' ∈ ([(4, 3 / 2), (4, 2)] : List (ℚ × ℚ)),
      ∀ u ∈ ([(4, 1)] : List (ℚ × ℚ)), u.2 + halved.delay ≤ u'.2 :=
    ⟨(4, 2), by decide +kernel, by decide +kernel⟩
  exact sustained_announced ⟨rfl, rfl, rfl⟩ (by decide +kernel) hrun rfl rfl (by decide +kernel)
    (by decide +kernel) (by decide +kernel) (by decide +kernel) (by decide +kernel) hnear hlate

end SipNemo.Mac
