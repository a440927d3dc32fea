import SipNemo.Mac.Reservation

/-!
# What RTS and CTS reserve

The durations that `sendRTS` and `sendCTS` announce, and the times at which the frames of an exchange
come: each MAC answers one SIFS after the frame before has come, over a distance that the durations do
not count.  A MAC that hears the CTS of an exchange and its acknowledgement, but neither the RTS nor
the data, waits from the first bit of the CTS to the last of the acknowledgement
(`hidden_station_waits`): what is announced is too short by the way there and back and by what `usec`
rounds off, but the acknowledgement has come by then.
-/

namespace SipNemo.Mac

open Mih (MacAddr)
open MacTimers Reception Runs Spans

/-- What the durations of an exchange are computed from: `phymib_`, `basicRate_` and the `txtime` of
the data. -/
structure Handshake where
  phy : Phy
  plcpHdrLen : ℕ
  basicRate : ℚ
  dataTime : ℚ
  basicRate_pos : 0 < basicRate
  dataTime_nonneg : 0 ≤ dataTime

theorem usec_lt (t : ℚ) : usec t < 2 ^ 16 := by
  have hlt := Int.emod_lt_of_pos ⌊t * 10 ^ 6 + 1 / 2⌋ (b := 2 ^ 16) (by norm_num)
  unfold usec
  omega

namespace Handshake

variable (x : Handshake)

/-- `txtime`, for a packet of `psz` bytes at the rate `drt`. -/
def txtime (psz : ℕ) (drt : ℚ) : ℚ :=
  (x.plcpHdrLen * 8) / x.phy.plcpDataRate + ((psz : ℚ) - x.plcpHdrLen) * 8 / drt

/-- `getCTSlen`. -/
def ctsLen : ℕ := x.plcpHdrLen + 14

/-- `txtime(phymib_.getCTSlen(), basicRate_)`. -/
def ctsTime : ℚ := x.txtime x.ctsLen x.basicRate

/-- `txtime(phymib_.getACKlen(), basicRate_)`. -/
def ackTime : ℚ := x.txtime x.phy.ackLen x.basicRate

/-- What an exchange takes after the RTS. -/
def afterRTS : ℚ := x.phy.sifs + x.ctsTime + x.phy.sifs + x.dataTime + x.phy.sifs + x.ackTime

/-- `rf_duration`, as `sendRTS` computes it. -/
def rtsDuration : ℕ := usec x.afterRTS

/-- `cf_duration`, as `sendCTS` computes it. -/
def ctsDuration : ℕ := usec ((x.rtsDuration : ℚ) / 10 ^ 6 - x.phy.sifs - x.ctsTime)

/-- When the acknowledgement comes to a MAC to which the CTS came at `cts`: the data comes to the MAC
that sent the CTS over a distance of `d`, as the CTS does to the MAC that sends the data. -/
def ackCame (d cts : ℚ) : ℚ :=
  cts + x.ctsTime + d + x.phy.sifs + x.dataTime + d + x.phy.sifs

/-- The duration of the RTS fits 16 bits. -/
def Fits : Prop := x.afterRTS * 10 ^ 6 + 1 / 2 < 2 ^ 16

theorem ctsTime_nonneg : 0 ≤ x.ctsTime := by
  have hplcp : 0 ≤ (x.plcpHdrLen * 8 : ℚ) / x.phy.plcpDataRate :=
    div_nonneg (by positivity) x.phy.plcpDataRate_pos.le
  have hbody : 0 ≤ ((x.ctsLen : ℚ) - x.plcpHdrLen) * 8 / x.basicRate := by
    refine div_nonneg (mul_nonneg ?_ (by norm_num)) x.basicRate_pos.le
    rw [ctsLen, Nat.cast_add, add_sub_cancel_left]
    norm_num
  exact add_nonneg hplcp hbody

variable {x}

/-- The CTS announces what is left, up to what has been rounded off twice. -/
theorem le_ctsDuration (hfits : x.Fits) (hack : 0 ≤ x.ackTime) :
    x.phy.sifs + x.dataTime + x.phy.sifs + x.ackTime - 1 / 10 ^ 6 ≤ x.ctsDuration / 10 ^ 6 := by
  have hcts := x.ctsTime_nonneg
  have hdata := x.dataTime_nonneg
  have hsifs := x.phy.micro_le_sifs
  have hrts : x.afterRTS * 10 ^ 6 - 1 / 2 ≤ x.rtsDuration :=
    le_usec (by unfold afterRTS; linarith) hfits
  have hlt : (x.rtsDuration : ℚ) < 2 ^ 16 := by exact_mod_cast usec_lt x.afterRTS
  set t : ℚ := (x.rtsDuration : ℚ) / 10 ^ 6 - x.phy.sifs - x.ctsTime with ht
  have hmul : t * 10 ^ 6 = x.rtsDuration - (x.phy.sifs + x.ctsTime) * 10 ^ 6 := by
    rw [ht]
    ring
  unfold afterRTS at hrts
  have hle : t * 10 ^ 6 - 1 / 2 ≤ x.ctsDuration := by
    refine le_usec ?_ ?_
    · nlinarith
    · rw [hmul]
      linarith
  rw [le_div_iff₀ (by norm_num)]
  linarith

/-- The CTS and the acknowledgement of the exchange as they come to another MAC. -/
structure Overheard (x : Handshake) (d : ℚ) (cts ack : Arrival) : Prop where
  ctsTime : cts.frame.txtime = x.ctsTime
  ctsDuration : cts.frame.duration = x.ctsDuration
  ackCame : ack.came = x.ackCame d cts.came
  ackTime : ack.frame.txtime = x.ackTime

/-- The acknowledgement comes before what the CTS has announced is over. -/
theorem Overheard.ackCame_lt {d : ℚ} {cts ack : Arrival} (h : x.Overheard d cts ack)
    (hfits : x.Fits) (hd : 0 ≤ d) (hshort : 2 * d + 1 / 10 ^ 6 < x.ackTime) :
    ack.came < (Radio.reserved cts).stop := by
  have hle := le_ctsDuration hfits (by linarith)
  show ack.came < cts.came + cts.frame.txtime + cts.frame.duration / 10 ^ 6
  rw [h.ackCame, h.ctsTime, h.ctsDuration]
  unfold Handshake.ackCame
  linarith

end Handshake

namespace Radio

variable {s : Radio} {x : Handshake} {d : ℚ} {cts ack : Arrival}

/-- A MAC that has received the CTS of an exchange, and hears the acknowledgement when it comes, does
not sense the medium idle before the acknowledgement is over, and its back-off timer counts nothing
between the first bit of the one and the last bit of the other. -/
theorem hidden_station_waits (phy : Phy) (index : MacAddr) {es : List RadioEvent}
    (henabled : StepsMeet Radio.step Enabled (fresh phy index) es)
    (hrun : runSteps Radio.step (fresh phy index) es = .ok s) (hfits : x.Fits) (hd : 0 ≤ d)
    (hshort : 2 * d + 1 / 10 ^ 6 < x.ackTime) (h : x.Overheard d cts ack)
    (hcts : cts ∈ s.air.received) (hother : cts.frame.ra ≠ s.index)
    (hheard : ack.came < s.clock → ack ∈ s.heard) :
    (s.IsIdle → stopOf ack ≤ s.clock) ∧
      ∀ b ∈ s.rounds, ∀ k ∈ b.counted, ¬ Span.Overlaps ⟨cts.came, stopOf ack⟩ k.span := by
  have hover := mem_overheard.2 ⟨hcts, hother⟩
  have hheeds := heeds_run henabled hrun
  have hs := attentive_run henabled hrun
  have hlt := h.ackCame_lt hfits hd hshort
  constructor
  · intro hidle
    have hnav := (hheeds.nav cts hover).trans (not_lt.1 hidle.2.2)
    exact ended hs.sound hs.hears hs.covered hidle.1 hidle.2.2 ack (hheard (hlt.trans_le hnav))
  · rintro b hb k hk ⟨hstart, hstop⟩
    have hmem : k ∈ s.countings := mem_countings.2 (Or.inr ⟨b, hb, hk⟩)
    obtain ⟨hclock, hquiet⟩ := hs.quiet.rounds b hb k hk
    have hordered := hheeds.ordered k hmem
    -- the timer counts after what the CTS has announced, and so after the acknowledgement has come
    have hafter : (reserved cts).stop ≤ k.span.start :=
      not_lt.1 fun hlt => hheeds.counted k hmem cts hover ⟨hstart, hlt⟩
    have hcame : ack.came < s.clock :=
      hlt.trans_le (hafter.trans (hordered.trans hclock))
    exact hquiet ack (hheard hcame) ⟨hlt.trans_le (hafter.trans hordered), hstop⟩

/-- An exchange at 1 Mb/s. -/
def atBasicRate : Handshake where
  phy := .nsDefault
  plcpHdrLen := 24
  basicRate := 10 ^ 6
  dataTime := 1 / 1000
  basicRate_pos := Phy.nsDefault.plcpDataRate_pos
  dataTime_nonneg := millisecond.txtime_nonneg

/-- A control frame of the exchange. -/
def control (ra : MacAddr) (duration : ℕ) : AirFrame where
  ra := ra
  duration := duration
  txtime := 304 / 10 ^ 6
  rxPr := 1
  cpThresh := 10
  error := false
  txtime_nonneg := by norm_num

/-- The MAC hears the CTS and the acknowledgement; a back-off that is drawn meanwhile waits. -/
def hiddenStation : List RadioEvent :=
  [.frame (control 2 1324), .wait (304 / 10 ^ 6), .recvTimer [] [], .action (.startBackoff 2),
    .wait (1326 / 10 ^ 6), .frame (control 2 0), .wait (1628 / 10 ^ 6), .navTimer,
    .wait (1630 / 10 ^ 6), .recvTimer [] [], .navTimer, .wait (1720 / 10 ^ 6), .backoffTimer]

theorem hiddenStation_ok :
    (runSteps Radio.step (fresh .nsDefault 1) hiddenStation).map (fun s =>
      (s.index, s.air.received, s.heard, s.rounds.map (·.counted.length))) =
        .ok (1, [⟨1326 / 10 ^ 6, control 2 0⟩, ⟨0, control 2 1324⟩],
          [⟨1326 / 10 ^ 6, control 2 0⟩, ⟨0, control 2 1324⟩], [1]) := by
  decide +kernel

theorem hidden_station_waits_atBasicRate :
    ∃ s, runSteps Radio.step (fresh .nsDefault 1) hiddenStation = .ok s ∧
      s.rounds.map (·.counted.length) = [1] ∧ (s.IsIdle → 1630 / 10 ^ 6 ≤ s.clock) ∧
        ∀ b ∈ s.rounds, ∀ k ∈ b.counted, ¬ Span.Overlaps ⟨0, 1630 / 10 ^ 6⟩ k.span := by
  have henabled : StepsMeet Radio.step Enabled (fresh .nsDefault 1) hiddenStation := by
    decide +kernel
  obtain ⟨s, hrun, hs⟩ := map_ok_iff.1 hiddenStation_ok
  obtain ⟨hindex, hs⟩ := Prod.mk.inj hs
  obtain ⟨hreceived, hs⟩ := Prod.mk.inj hs
  obtain ⟨hheard, hrounds⟩ := Prod.mk.inj hs
  have hoverheard : atBasicRate.Overheard (1 / 10 ^ 6) ⟨0, control 2 1324⟩
      ⟨1326 / 10 ^ 6, control 2 0⟩ :=
    ⟨by decide +kernel, by decide +kernel, by decide +kernel, by decide +kernel⟩
  have hstop : stopOf ⟨1326 / 10 ^ 6, control 2 0⟩ = 1630 / 10 ^ 6 := by decide +kernel
  have hwaits := hidden_station_waits .nsDefault 1 henabled hrun
    (show atBasicRate.afterRTS * 10 ^ 6 + 1 / 2 < 2 ^ 16 by decide +kernel) (by norm_num)
    (by decide +kernel) hoverheard (by rw [hreceived]; simp) (by rw [hindex]; decide)
    (fun _ => by rw [hheard]; simp)
  rw [hstop] at hwaits
  exact ⟨s, hrun, hrounds, hwaits⟩

end Radio

end SipNemo.Mac
