import Mathlib.Data.Rat.Floor
import Mathlib.Tactic.Linarith
import MiniSynCPP.Beacons

/-!
# Delay compensation and the wire format

The reference takes its minimum delays off the reception and adds them to the
sending before it rounds down to nanoseconds, the SyncNode moves its own time
stamps inwards. What one nanosecond of rounding costs has to be in the uplink.
-/

namespace MiniSynCPP

/-- For times that are not negative, towards zero is down. -/
theorem nanoseconds_eq_floor {us : ℚ} (h : 0 ≤ us) : nanoseconds us = ⌊us * 1000⌋ := by
  have scaled : 0 ≤ us * 1000 := mul_nonneg h (by norm_num)
  unfold nanoseconds
  rw [Int.tdiv_eq_ediv_of_nonneg (Rat.num_nonneg.mpr scaled)]
  exact Rat.floor_def'.symm

/-- Below 2^63 nothing is lost in the unsigned field. -/
theorem microseconds_ofInt {n : ℤ} (h : 0 ≤ n) (short : n < 2 ^ 63) :
    microseconds (.ofInt n) = n / 1000 := by
  obtain ⟨k, rfl⟩ := Int.eq_ofNat_of_zero_le h
  have wire : UInt64.ofInt (k : ℤ) = UInt64.ofNat k := by
    unfold UInt64.ofInt
    rw [Int.emod_eq_of_lt h (by omega), Int.toNat_natCast]
  have signed : (UInt64.ofNat k).toInt64.toInt = (k : ℤ) := by
    rw [UInt64.toInt64_ofNat', ← Int64.ofInt_eq_ofNat]
    exact Int64.toInt_ofInt_of_le (by omega) short
  rw [microseconds, wire, signed]

/-- What arrives of a time: its nanoseconds, rounded down. -/
theorem wire_eq {us : ℚ} (h : 0 ≤ us) (short : us * 1000 < 2 ^ 63) :
    microseconds (.ofInt (nanoseconds us)) = ⌊us * 1000⌋ / 1000 := by
  have nonneg : 0 ≤ ⌊us * 1000⌋ := Int.floor_nonneg.mpr (mul_nonneg h (by norm_num))
  have fits : ⌊us * 1000⌋ < 2 ^ 63 := Int.floor_lt.mpr (by exact_mod_cast short)
  rw [nanoseconds_eq_floor h, microseconds_ofInt nonneg fits]

section
variable {us us' : ℚ} (h : 0 ≤ us) (short : us * 1000 < 2 ^ 63)
include h short

theorem wire_nonneg : 0 ≤ microseconds (.ofInt (nanoseconds us)) := by
  have nonneg : 0 ≤ ⌊us * 1000⌋ := Int.floor_nonneg.mpr (mul_nonneg h (by norm_num))
  have cast : (0 : ℚ) ≤ ⌊us * 1000⌋ := by exact_mod_cast nonneg
  rw [wire_eq h short]
  linarith

theorem wire_le : microseconds (.ofInt (nanoseconds us)) ≤ us := by
  have below := Int.floor_le (us * 1000)
  rw [wire_eq h short]
  linarith

theorem lt_wire : us - 1 / 1000 < microseconds (.ofInt (nanoseconds us)) := by
  have above := Int.lt_floor_add_one (us * 1000)
  rw [wire_eq h short]
  linarith

theorem wire_mono (earlier : 0 ≤ us') (le : us' ≤ us) :
    microseconds (.ofInt (nanoseconds us')) ≤ microseconds (.ofInt (nanoseconds us)) := by
  have scaled : us' * 1000 ≤ us * 1000 := by linarith
  have floors : ((⌊us' * 1000⌋ : ℤ) : ℚ) ≤ ⌊us * 1000⌋ := by exact_mod_cast Int.floor_mono scaled
  rw [wire_eq earlier (scaled.trans_lt short), wire_eq h short]
  linarith

end

/-- The true line passes between the two local times of a data point. -/
def DataPoint.Sound (a b : ℚ) (p : DataPoint) : Prop := p.To ≤ a * p.Tb + b ∧ a * p.Tb + b ≤ p.Tr

section
variable {a b : ℚ} {settings : SyncSettings} {n : SyncLoop} {reply : BeaconReply} {recv tr : ℚ}

/-- `To` ends below the line at the rounded reception time. -/
theorem to_le (drift : 0 < a) (rounded : recv - 1 / 1000 < microseconds reply.beaconRecvTime)
    (uplink : settings.minimumDelays.beacon + (n.nextDelays settings reply).uplink ≤
      a * (recv - 1 / 1000) + b - n.To) :
    (n.dataPoints settings reply tr).1.To ≤ a * (n.dataPoints settings reply tr).1.Tb + b := by
  have moved := mul_lt_mul_of_pos_left rounded drift
  simp only [SyncLoop.dataPoints]
  linarith

/-- `Tr` ends above the line at the rounded sending time. -/
theorem le_tr (drift : 0 < a) {send : ℚ} (rounded : microseconds reply.replySendTime ≤ send)
    (downlink : settings.minimumDelays.beaconReply + (n.nextDelays settings reply).downlink ≤
      tr - (a * send + b)) :
    a * (n.dataPoints settings reply tr).2.Tb + b ≤ (n.dataPoints settings reply tr).2.Tr := by
  have moved := mul_le_mul_of_nonneg_left rounded drift.le
  simp only [SyncLoop.dataPoints]
  linarith

/-- The two data points of an exchange share their local times. -/
theorem sound_of_ordered (drift : 0 < a)
    (inOrder : microseconds reply.beaconRecvTime ≤ microseconds reply.replySendTime)
    (below : (n.dataPoints settings reply tr).1.To ≤ a * (n.dataPoints settings reply tr).1.Tb + b)
    (above : a * (n.dataPoints settings reply tr).2.Tb + b ≤ (n.dataPoints settings reply tr).2.Tr) :
    (n.dataPoints settings reply tr).1.Sound a b ∧ (n.dataPoints settings reply tr).2.Sound a b := by
  have climbs := mul_le_mul_of_nonneg_left inOrder drift.le
  simp only [DataPoint.Sound, SyncLoop.dataPoints] at below above ⊢
  exact ⟨⟨below, by linarith⟩, by linarith, above⟩

end

/-- **Compensated data points are sound.** If both transits took at least the delays that are
taken off, a nanosecond more for the rounding on the way up, then no compensation moves a point
across the line of the clocks. -/
theorem dataPoints_sound (minimumDelays reference : MinimumDelays)
    (bandwidthMbps minPingRttMs a b : ℚ) (n : SyncLoop) (reply : BeaconReply) (recv send tr : ℚ)
    (answers : reply = ServeLoop.reply reference n.beacon recv send) (drift : 0 < a)
    (served : 0 ≤ recv ∧ recv ≤ send) (delays : 0 ≤ reference.beacon ∧ 0 ≤ reference.beaconReply)
    (started : reference.beacon ≤ recv) (short : (send + reference.beaconReply) * 1000 < 2 ^ 63)
    (uplink : minimumDelays.beacon +
      (n.nextDelays (.new minimumDelays bandwidthMbps minPingRttMs) reply).uplink +
      a * (reference.beacon + 1 / 1000) ≤ a * recv + b - n.To)
    (downlink : minimumDelays.beaconReply +
      (n.nextDelays (.new minimumDelays bandwidthMbps minPingRttMs) reply).downlink +
      a * reference.beaconReply ≤ tr - (a * send + b)) :
    let points := n.dataPoints (.new minimumDelays bandwidthMbps minPingRttMs) reply tr
    (0 ≤ points.1.Tb ∧ points.1.Tb ≤ points.2.Tb) ∧ points.1.Sound a b ∧ points.2.Sound a b := by
  have early : 0 ≤ recv - reference.beacon := by linarith
  have le : recv - reference.beacon ≤ send + reference.beaconReply := by linarith
  have shortRecv : (recv - reference.beacon) * 1000 < 2 ^ 63 := by linarith
  have tbr : reply.beaconRecvTime = .ofInt (nanoseconds (recv - reference.beacon)) :=
    congrArg BeaconReply.beaconRecvTime answers
  have tbt : reply.replySendTime = .ofInt (nanoseconds (send + reference.beaconReply)) :=
    congrArg BeaconReply.replySendTime answers
  have nonneg : 0 ≤ microseconds reply.beaconRecvTime := by
    rw [tbr]
    exact wire_nonneg early shortRecv
  have inOrder : microseconds reply.beaconRecvTime ≤ microseconds reply.replySendTime := by
    rw [tbr, tbt]
    exact wire_mono (early.trans le) short early le
  have down : recv - reference.beacon - 1 / 1000 < microseconds reply.beaconRecvTime := by
    rw [tbr]
    exact lt_wire early shortRecv
  have up : microseconds reply.replySendTime ≤ send + reference.beaconReply := by
    rw [tbt]
    exact wire_le (early.trans le) short
  refine ⟨⟨nonneg, inOrder⟩, sound_of_ordered drift inOrder (to_le drift down ?_) (le_tr drift up ?_)⟩
  · simp only [SyncSettings.new] at uplink ⊢
    linarith
  · simp only [SyncSettings.new] at downlink ⊢
    linarith

/-- 8 Mbps make 14 µs each way, more than the 4.5 µs of a round trip of 10 µs. -/
theorem dataPoints_sound_slow :
    let reply := ServeLoop.reply ⟨2, 3⟩ ⟨0⟩ (100 + 1 / 3) (110 + 1 / 7)
    let points := SyncLoop.start.dataPoints (.new ⟨1, 1⟩ 8 (1 / 100)) reply 200
    (0 ≤ points.1.Tb ∧ points.1.Tb ≤ points.2.Tb) ∧ points.1.Sound 1 (-5) ∧ points.2.Sound 1 (-5) :=
  dataPoints_sound ⟨1, 1⟩ ⟨2, 3⟩ 8 (1 / 100) 1 (-5) .start _ (100 + 1 / 3) (110 + 1 / 7) 200 rfl
    (by decide) (by decide +kernel) (by decide) (by decide +kernel) (by decide +kernel)
    (by decide +kernel) (by decide +kernel)

end MiniSynCPP
