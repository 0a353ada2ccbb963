import MiniSynCPP.Compensation
import MiniSynCPP.Freshness

/-!
# The samples of a run

What the two data points of an exchange are worth: how far the compensation
moves them, and where that leaves them if both datagrams were slow enough.
The exchanges of a run follow each other.
-/

namespace MiniSynCPP

open Channels Runs

theorem varintSize_le {n k : ℕ} (h : n < 2 ^ (7 * (k + 1))) : varintSize n ≤ k + 1 := by
  unfold varintSize
  by_cases zero : n = 0
  · simp [zero]
  · have bits := (Nat.log2_lt zero).mpr h
    omega

theorem fieldSize_le {n k : ℕ} (h : n < 2 ^ (7 * (k + 1))) : fieldSize n ≤ k + 2 := by
  have size := varintSize_le h
  unfold fieldSize
  split <;> omega

theorem seq_lt (seq : UInt8) : seq.toUInt32.toNat < 2 ^ (7 * (1 + 1)) := by
  have byte := seq.toNat_lt
  rw [UInt8.toNat_toUInt32]
  omega

theorem time_lt (time : UInt64) : time.toNat < 2 ^ (7 * (9 + 1)) := by
  have word := time.toNat_lt
  omega

/-- A beacon never fills the least frame. -/
theorem SyncLoop.beacon_size (n : SyncLoop) : n.beacon.byteSizeLong ≤ 14 := by
  have payload := fieldSize_le (seq_lt n.seq)
  have prefixed := varintSize_le (n := fieldSize n.seq.toUInt32.toNat) (k := 0) (by omega)
  simp only [Beacon.byteSizeLong, submessageSize, SyncLoop.beacon]
  omega

/-- The reply that ends the inner loop has at most 27 bytes. -/
theorem SyncLoop.reply_size {n : SyncLoop} {msg : MiniSyncMsg} {reply : BeaconReply}
    (h : n.matching msg = some reply) : reply.byteSizeLong ≤ 27 := by
  obtain rfl := SyncLoop.matching_content h
  obtain ⟨own, _⟩ := Option.ite_none_right_eq_some.mp h
  have number := fieldSize_le (seq_lt n.seq)
  have received := fieldSize_le (time_lt reply.beaconRecvTime)
  have sent := fieldSize_le (time_lt reply.replySendTime)
  have prefixed := varintSize_le (n := fieldSize n.seq.toUInt32.toNat +
    fieldSize reply.beaconRecvTime.toNat + fieldSize reply.replySendTime.toNat) (k := 0) (by omega)
  unfold BeaconReply.byteSizeLong submessageSize
  rw [own]
  omega

/-- The most that bandwidth and ping take off a transit. -/
def SyncSettings.compensation (settings : SyncSettings) : PathDelays :=
  settings.pathDelays ⟨0, 0⟩ 14 27

structure PathDelays.Within (d bound : PathDelays) : Prop where
  uplink : 0 ≤ d.uplink ∧ d.uplink ≤ bound.uplink
  downlink : 0 ≤ d.downlink ∧ d.downlink ≤ bound.downlink

theorem zero_within (settings : SyncSettings) :
    (⟨0, 0⟩ : PathDelays).Within settings.compensation := by
  unfold SyncSettings.compensation SyncSettings.pathDelays
  by_cases limited : 0 < settings.bwBytesPerUsecond
  · simp only [if_pos limited]
    exact ⟨⟨le_refl 0, le_max_of_le_left (by positivity)⟩, le_refl 0, le_max_of_le_left (by positivity)⟩
  · simp only [if_neg limited]
    exact ⟨⟨le_refl 0, le_max_left _ _⟩, le_refl 0, le_max_left _ _⟩

theorem pathDelays_within {settings : SyncSettings} {last : PathDelays}
    (h : last.Within settings.compensation) {sendSz recvSz : ℕ} (send : sendSz ≤ 14)
    (recv : recvSz ≤ 27) :
    (settings.pathDelays last sendSz recvSz).Within settings.compensation := by
  unfold SyncSettings.compensation SyncSettings.pathDelays at h ⊢
  by_cases limited : 0 < settings.bwBytesPerUsecond
  · simp only [if_pos limited]
    have least : max sendSz 14 = 14 := max_eq_right send
    have most : ((max recvSz 14 : ℕ) : ℚ) ≤ (max 27 14 : ℕ) := by
      have : max recvSz 14 ≤ max 27 14 := by omega
      exact_mod_cast this
    rw [least]
    refine ⟨⟨le_max_of_le_left (by positivity), le_refl _⟩, le_max_of_le_left (by positivity), ?_⟩
    exact max_le_max_right _ (div_le_div_of_nonneg_right most limited.le)
  · simp only [if_neg limited] at h ⊢
    obtain ⟨⟨up, upLe⟩, down, downLe⟩ := h
    exact ⟨⟨le_max_of_le_left up, max_le upLe (le_max_right _ _)⟩, le_max_of_le_left down,
      max_le downLe (le_max_right _ _)⟩

theorem SyncLoop.nextDelays_within {settings : SyncSettings} {n : SyncLoop} {msg : MiniSyncMsg}
    {reply : BeaconReply} (h : n.delays.Within settings.compensation)
    (matched : n.matching msg = some reply) :
    (n.nextDelays settings reply).Within settings.compensation :=
  pathDelays_within h n.beacon_size (SyncLoop.reply_size matched)

/-- The local times of a sample are those of its two instants, moved inwards by no more than the
minimum delays and the compensation. -/
structure Sample.Compensated (p : Pairing) (x : Sample) : Prop where
  To : p.syncClock x.recorded.instant + p.sync.minimumDelays.beacon ≤ x.points.1.To
  To_le : x.points.1.To ≤
    p.syncClock x.recorded.instant + p.sync.minimumDelays.beacon + p.sync.compensation.uplink
  Tr : x.points.1.Tr ≤ p.syncClock x.accepted - p.sync.minimumDelays.beaconReply
  le_Tr : p.syncClock x.accepted - p.sync.minimumDelays.beaconReply - p.sync.compensation.downlink ≤
    x.points.1.Tr

/-- The beacon of a sample was sent after the exchange of an earlier one had ended. -/
def Sample.Before (x y : Sample) : Prop := x.accepted ≤ y.recorded.instant

namespace Network

structure Orderly (p : Pairing) (s : Network) : Prop where
  delays : s.sync.delays.Within p.sync.compensation
  ended : ∀ x ∈ s.samples, x.accepted ≤ s.now
  waiting : s.sync.receiving = true → ∀ x ∈ s.samples, x.accepted ≤ s.recorded.instant
  samples : ∀ x ∈ s.samples, x.Compensated p
  chain : s.samples.Pairwise Sample.Before

section
variable {p : Pairing} {s t : Network}

theorem start_orderly (now : ℚ) (requests : List Handshake) (replies : List HandshakeReply) :
    (start now requests replies).Orderly p :=
  ⟨zero_within p.sync, by simp, by simp, by simp, List.Pairwise.nil⟩

theorem Orderly.leave (h : s.Orderly p) (n : SyncLoop) (left : n.receiving = false)
    (same : n.delays = s.sync.delays) : ({ s with sync := n } : Network).Orderly p :=
  ⟨same ▸ h.delays, h.ended, fun receiving => absurd receiving (by simp [left]), h.samples, h.chain⟩

theorem Orderly.syncReceive (h : s.Orderly p) (clocked : s.Clocked p)
    (receiving : s.sync.receiving = true) (d : Datagram Answer) (rest : List (Datagram Answer)) :
    (s.syncReceive p d rest).Orderly p := by
  unfold Network.syncReceive
  cases matched : s.sync.matching d.content with
  | none => exact ⟨h.delays, h.ended, h.waiting, h.samples, h.chain⟩
  | some reply =>
    have within := SyncLoop.nextDelays_within h.delays matched
    refine ⟨within, ?_, nofun, ?_, ?_⟩
    · intro x hx
      obtain hx | hx := List.mem_append.mp hx
      · exact h.ended x hx
      · obtain rfl := List.mem_singleton.mp hx
        exact le_refl s.now
    · intro x hx
      obtain hx | hx := List.mem_append.mp hx
      · exact h.samples x hx
      · obtain rfl := List.mem_singleton.mp hx
        have sent := clocked.To receiving
        obtain ⟨⟨up, upLe⟩, down, downLe⟩ := within
        constructor <;> simp only [SyncLoop.dataPoints] <;> linarith
    · refine List.pairwise_append.mpr ⟨h.chain, List.pairwise_singleton _ _, ?_⟩
      intro x hx y hy
      obtain rfl := List.mem_singleton.mp hy
      exact h.waiting receiving x hx

theorem Step.orderly {a : Action} (step : Step p s a t) (clocked : s.Clocked p)
    (h : s.Orderly p) : t.Orderly p := by
  cases step with
  | elapse later => exact ⟨h.delays, fun x hx => (h.ended x hx).trans later, h.waiting, h.samples, h.chain⟩
  | send => exact ⟨h.delays, h.ended, fun _ => h.ended, h.samples, h.chain⟩
  | retry => exact h.leave _ rfl rfl
  | syncReceive receiving _ => exact h.syncReceive clocked receiving _ _
  | syncStop => exact h.leave _ rfl rfl
  | referenceReceive | referenceReply | referenceStop | uplink | downlink =>
    exact ⟨h.delays, h.ended, h.waiting, h.samples, h.chain⟩

theorem run_orderly {now : ℚ} {requests : List Handshake} {replies : List HandshakeReply}
    {past : List Action} (run : Run (Step p) (start now requests replies) past s) : s.Orderly p := by
  refine (run.invariant (P := fun _ (s : Network) => s.Clocked p ∧ s.Orderly p)
    ⟨start_clocked now requests replies, start_orderly now requests replies⟩ ?_).2
  intro _ s a t _ h step
  exact ⟨Step.clocked step h.1, step.orderly h.1 h.2⟩

end

end Network

/-! ## Slow transits -/

/-- The local clock shows `a * t + b` when the reference clock shows `t`, and neither goes back. -/
structure Pairing.Related (p : Pairing) (a b : ℚ) : Prop where
  drift : 0 < a
  line : ∀ now, p.syncClock now = a * p.referenceClock now + b
  forward : Monotone p.referenceClock

theorem Pairing.Related.syncForward {p : Pairing} {a b : ℚ} (h : p.Related a b) :
    Monotone p.syncClock := by
  intro now later le
  rw [h.line, h.line]
  have scaled := mul_le_mul_of_nonneg_left (h.forward le) h.drift.le
  linarith

structure MinimumDelays.Nonneg (d : MinimumDelays) : Prop where
  beacon : 0 ≤ d.beacon
  beaconReply : 0 ≤ d.beaconReply

/-- Beacon and reply were each under way for longer than what is taken off for them, the beacon
for a nanosecond more, and the reference time fits the fields of the reply. -/
structure Sample.Slow (p : Pairing) (a : ℚ) (x : Sample) : Prop where
  started : p.reference.beacon ≤ p.referenceClock x.answer.received
  short : (p.referenceClock x.answer.replied + p.reference.beaconReply) * 1000 < 2 ^ 63
  uplink : p.sync.minimumDelays.beacon + p.sync.compensation.uplink +
    a * (p.reference.beacon + 1 / 1000) ≤
      p.syncClock x.answer.received - p.syncClock x.answer.transmission.instant
  downlink : p.sync.minimumDelays.beaconReply + p.sync.compensation.downlink +
    a * p.reference.beaconReply < p.syncClock x.accepted - p.syncClock x.answer.replied

/-- What is known of the samples of a run whose beacons are sent quietly. -/
structure Sample.Made (p : Pairing) (x : Sample) : Prop where
  stamped : x.Stamped p
  fresh : x.Fresh
  compensated : x.Compensated p

/-- Two data points that share their local times, with the line of the clocks between them. -/
structure Sample.Good (a b : ℚ) (x : Sample) : Prop where
  sameTo : x.points.1.To = x.points.2.To
  sameTr : x.points.1.Tr = x.points.2.Tr
  nonneg : 0 ≤ x.points.1.Tb
  inOrder : x.points.1.Tb ≤ x.points.2.Tb
  sent : x.points.1.To < a * x.points.1.Tb + b
  received : a * x.points.2.Tb + b < x.points.1.Tr

/-- A nanosecond between two times survives the rounding. -/
theorem wire_lt {us us' : ℚ} (earlier : 0 ≤ us') (apart : us' + 1 / 1000 ≤ us)
    (short : us * 1000 < 2 ^ 63) :
    microseconds (.ofInt (nanoseconds us')) < microseconds (.ofInt (nanoseconds us)) := by
  have down := wire_le earlier (by linarith : us' * 1000 < 2 ^ 63)
  have up := lt_wire (by linarith : 0 ≤ us) short
  linarith

section
variable {p : Pairing} {a b : ℚ} {x y : Sample}

theorem Sample.Stamped.times (h : x.Stamped p) :
    x.points.1.Tb =
      microseconds (.ofInt (nanoseconds (p.referenceClock x.answer.received - p.reference.beacon))) ∧
    x.points.2.Tb = microseconds
      (.ofInt (nanoseconds (p.referenceClock x.answer.replied + p.reference.beaconReply))) ∧
    x.points.1.To = x.points.2.To ∧ x.points.1.Tr = x.points.2.Tr := by
  obtain ⟨n, reply, _, ⟨beacon, rfl⟩, points⟩ := h
  rw [points]
  exact ⟨rfl, rfl, rfl, rfl⟩

variable (related : p.Related a b) (reference : p.reference.Nonneg)
include related reference

/-- The time of the reply, as the reference adjusts it, is not before that of the reception. -/
theorem Sample.Slow.served (slow : x.Slow p a) (fresh : x.Fresh) :
    0 ≤ p.referenceClock x.answer.received - p.reference.beacon ∧
    p.referenceClock x.answer.received - p.reference.beacon ≤
      p.referenceClock x.answer.replied + p.reference.beaconReply := by
  have started := slow.started
  have forward := related.forward fresh.served
  have beacon := reference.beacon
  have beaconReply := reference.beaconReply
  constructor <;> linarith

/-- A slow exchange makes two good data points. -/
theorem Sample.Made.good (made : x.Made p) (slow : x.Slow p a) : x.Good a b := by
  obtain ⟨tbr, tbt, sameTo, sameTr⟩ := made.stamped.times
  obtain ⟨early, le⟩ := slow.served related reference made.fresh
  have short := slow.short
  have shortRecv : (p.referenceClock x.answer.received - p.reference.beacon) * 1000 < 2 ^ 63 := by
    linarith
  refine ⟨sameTo, sameTr, ?_, ?_, ?_, ?_⟩
  · rw [tbr]
    exact wire_nonneg early shortRecv
  · rw [tbr, tbt]
    exact wire_mono (early.trans le) short early le
  · have rounded := lt_wire early shortRecv
    rw [← tbr] at rounded
    have scaled := mul_lt_mul_of_pos_left rounded related.drift
    have uplink := slow.uplink
    have least := made.compensated.To_le
    rw [made.fresh.own, related.line x.answer.received] at uplink
    linarith
  · have rounded := wire_le (early.trans le) short
    rw [← tbt] at rounded
    have scaled := mul_le_mul_of_nonneg_left rounded related.drift.le
    have downlink := slow.downlink
    have most := made.compensated.le_Tr
    rw [related.line x.answer.replied] at downlink
    linarith

/-- The two times of an exchange differ if the adjustments make a nanosecond. -/
theorem Sample.Made.forward (made : x.Made p) (slow : x.Slow p a)
    (tick : 1 / 1000 ≤ p.reference.beacon + p.reference.beaconReply) :
    x.points.1.Tb < x.points.2.Tb := by
  obtain ⟨tbr, tbt, _, _⟩ := made.stamped.times
  obtain ⟨early, _⟩ := slow.served related reference made.fresh
  have served := related.forward made.fresh.served
  rw [tbr, tbt]
  exact wire_lt early (by linarith) slow.short

/-- On both clocks the next exchange starts when the last one has ended. -/
theorem Sample.Made.next (sync : p.sync.minimumDelays.Nonneg) (made : x.Made p) (slow : x.Slow p a)
    (made' : y.Made p) (slow' : y.Slow p a) (before : x.Before y) :
    x.points.2.Tb < y.points.1.Tb ∧ x.points.1.Tr ≤ y.points.1.To := by
  have waited := related.syncForward before
  have beacon := sync.beacon
  have beaconReply := sync.beaconReply
  constructor
  · obtain ⟨_, tbt, _, _⟩ := made.stamped.times
    obtain ⟨tbr, _, _, _⟩ := made'.stamped.times
    obtain ⟨early, le⟩ := slow.served related reference made.fresh
    obtain ⟨_, le'⟩ := slow'.served related reference made'.fresh
    have bound := (zero_within p.sync).uplink.2
    have bound' := (zero_within p.sync).downlink.2
    have uplink := slow'.uplink
    have downlink := slow.downlink
    rw [made'.fresh.own, related.line y.answer.received] at uplink
    rw [related.line x.answer.replied] at downlink
    -- from the reply to the next reception, on the reference clock
    have apart : p.referenceClock x.answer.replied + p.reference.beaconReply + 1 / 1000 ≤
        p.referenceClock y.answer.received - p.reference.beacon := by
      apply le_of_mul_le_mul_left _ related.drift
      linarith
    rw [tbt, tbr]
    exact wire_lt (early.trans le) apart (by linarith [slow'.short])
  · have low := made.compensated.Tr
    have high := made'.compensated.To
    linarith

end

namespace Network

/-- No sample is taken back. -/
theorem Step.samples {p : Pairing} {s t : Network} {a : Action} (step : Step p s a t) :
    s.samples <+: t.samples := by
  cases step with
  | @syncReceive i d rest =>
    unfold Network.syncReceive
    cases s.sync.matching d.content with
    | none => exact List.prefix_refl _
    | some reply => exact List.prefix_append _ _
  | _ => exact List.prefix_refl _

theorem run_samples {p : Pairing} {s t : Network} {more : List Action} (run : Run (Step p) s more t) :
    s.samples <+: t.samples := by
  induction run with
  | start => exact List.prefix_refl _
  | step _ step ih => exact ih.trans step.samples

/-- The samples of a run whose beacons are sent quietly. -/
theorem run_made {p : Pairing} {now : ℚ} {requests : List Handshake} {replies : List HandshakeReply}
    {past : List Action} {s : Network}
    (run : Run (QuietStep p) (start now requests replies) past s) :
    (∀ x ∈ s.samples, x.Made p) ∧ s.samples.Pairwise Sample.Before := by
  have steps := run.mono fun _ _ _ h => h.1
  have orderly := run_orderly steps
  refine ⟨?_, orderly.chain⟩
  intro x hx
  exact ⟨run_stamped steps x hx, (run_owned run).fresh x hx, orderly.samples x hx⟩

end Network

end MiniSynCPP
