import MiniSynCPP.Endurance

/-!
# How good the estimates of MiniSync get

The errors are bounded by the round trips alone. Two exchanges far apart make
the drift error small, and behind the last exchange the estimated line is as
good as half its round trip, plus what the drift error adds per microsecond.
-/

namespace MiniSynCPP

open Channels Containers Runs Lines

/-- The spread of the local times of a call. -/
def Call.gap (c : Call) : ℚ := c.Tr - c.To

/-- What the data points say about four estimates. -/
structure Accurate (past : List Call) (drift driftError offset offsetError : ℚ) : Prop where
  apart : ∀ c ∈ past, ∀ d ∈ past, driftError * (d.Tb - c.Tb) ≤ (c.gap + d.gap) / 2
  origin : ∀ c ∈ past, offsetError ≤ driftError * c.Tb + c.gap / 2
  behind : ∀ a b, (∀ d ∈ past, d.To ≤ a * d.Tb + b ∧ a * d.Tb + b ≤ d.Tr) → ∀ x, (∀ d ∈ past, d.Tb ≤ x) →
    ∀ c ∈ past, |a * x + b - (drift * x + offset)| ≤ driftError * (x - c.Tb) + c.gap / 2

section
variable {past : List Call} {s : Base} {low high : Entry}

theorem Optimal.accurate (h : Optimal past s low high) :
    Accurate past s.getDrift s.getDriftError s.getOffset s.getOffsetError := by
  obtain ⟨X, _, _, summary⟩ := h.summary
  have upper := summary.upper.fits
  have lower := summary.lower.fits
  have lows : ∀ c ∈ past, (c.Tb, c.To) ∈ (samples past).lows := fun c hc => ⟨c, hc, rfl⟩
  have highs : ∀ c ∈ past, (c.Tb, c.Tr) ∈ (samples past).highs := fun c hc => ⟨c, hc, rfl⟩
  unfold Base.getDrift Base.getDriftError Base.getOffset Base.getOffsetError
  rw [h.estimates.drift, h.estimates.offset]
  constructor
  · intro c hc d hd
    have spread := slope_sub_mul_le upper lower (lows c hc) (highs c hc) (lows d hd) (highs d hd)
    simp only [ConstraintLine.line_slope] at spread
    unfold Call.gap
    linarith
  · intro c hc
    have spread := eval_sub_le_of_gap lower upper (lows c hc) (highs c hc) 0
    simp only [Line.eval, ConstraintLine.line_slope, ConstraintLine.line_icept] at spread
    unfold Call.gap
    linarith
  · intro a b admitted x right c hc
    have spread := eval_sub_le_of_gap upper lower (lows c hc) (highs c hc) x
    have highsLe : ∀ r ∈ (samples past).highs, r.1 ≤ x := by
      rintro r ⟨d, hd, rfl⟩
      exact right d hd
    have lowsLe : ∀ r ∈ (samples past).lows, r.1 ≤ x := by
      rintro r ⟨d, hd, rfl⟩
      exact right d hd
    obtain ⟨above, below⟩ := between_extremes summary.lower summary.upper
      (fits_samples.mpr admitted) highsLe lowsLe
    simp only [Line.eval, ConstraintLine.line_slope, ConstraintLine.line_icept] at spread above below
    unfold Call.gap
    apply abs_le.mpr
    constructor <;> linarith

end

/-- **MiniSync is as accurate as its data points**, whichever checks of the drift have thrown, as long as
every recalculation found two lines. The drift error is at most the mean gap of any two data points over
the reference time between them; the offset error and, behind all data points, the estimated line exceed
half of any gap only by the drift error times the distance. -/
theorem miniSync_accurate (build : Build) (max a b : ℚ) (past : List Call) (o : Object MiniSync)
    (run : Run (Finds build) (Object.init max) past o) (regular : Regular a b past)
    (second : 2 ≤ past.length) :
    Accurate past o.base.getDrift o.base.getDriftError o.base.getOffset o.base.getOffsetError := by
  obtain ⟨low, high, optimal⟩ := run_optimal run regular second
  exact optimal.accurate

/-- Four data points, two of them wide. The second call throws. -/
theorem miniSync_accurate_four :
    let past := [Call.listed (-1) 0 2, .listed (-1) 1 2, .listed 1 2 3, .listed 2 3 4]
    let o : Object MiniSync := (Object.init 1000).after .plain past
    Accurate past o.base.getDrift o.base.getDriftError o.base.getOffset o.base.getOffsetError := by
  intro past o
  have increasing : Increasing past := by norm_num [past, Increasing, Call.listed]
  have finds : Run (Finds .plain) (Object.init 1000) past o :=
    @run_finds .miniSync .plain 1000 past o (run_after_plain _ past) increasing
      (productsBelow_of_check (by decide +kernel))
  exact miniSync_accurate .plain 1000 1 (1 / 2) past o finds
    ⟨increasing, by simp [past, Call.listed], by norm_num [past, Call.listed], by simp [past]⟩
    (by simp [past])

/-! ## The rows of a session -/

/-- The row shows the estimates of the object. -/
structure Stats.Sample.Shows (row : Stats.Sample) (s : Base) : Prop where
  drift : row.drift = s.getDrift
  driftError : row.driftError = s.getDriftError
  offset : row.offset = s.getOffset
  offsetError : row.offsetError = s.getOffsetError

namespace Estimation

section
variable {M : Type} [Subclass M] {build : Build} {max : ℚ} {es : List Exchange} {e : Estimation M}

/-- The row of an exchange shows the object after the exchanges up to it. -/
theorem run_shows (run : Run (Feeds build) (init max) es e) :
    ∀ k row, e.stats.samples[k]? = some row → ∃ o : Object M,
      Run (Returns build) (Object.init max) (callsOf (es.take (k + 1))) o ∧ row.Shows o.base := by
  induction run with
  | start => simp [init, Stats.SyncStats.new]
  | @step es e e' x before step ih =>
    intro k row found
    have rows := run_rows before
    have calls := run_calls (before.step step)
    obtain ⟨o, o', now, _, _, rfl⟩ := step
    simp only [addSample, Stats.SyncStats.addSample] at found
    by_cases old : k < e.stats.samples.length
    · rw [List.getElem?_append_left old] at found
      rw [List.take_append_of_le_length (by omega)]
      exact ih k row found
    · rw [List.getElem?_append_right (by omega)] at found
      obtain ⟨here, rfl⟩ := List.getElem?_eq_some_iff.mp found
      rw [List.length_singleton] at here
      rw [List.take_of_length_le (by rw [List.length_append, List.length_singleton]; omega)]
      refine ⟨o', calls, ?_⟩
      rw [List.getElem_singleton]
      exact ⟨rfl, rfl, rfl, rfl⟩

end

end Estimation

/-- From the send of the beacon to the reception of the reply, on the local clock. -/
def Sample.roundTrip (p : Pairing) (x : Sample) : ℚ :=
  p.syncClock x.accepted - p.syncClock x.recorded.instant

/-- What the clocks say about the data points of an exchange. -/
structure Exchange.Dated (p : Pairing) (e : Exchange) (x : Sample) : Prop where
  recv : e.recv.Tb ≤ p.referenceClock x.answer.received - p.reference.beacon
  reply : p.referenceClock x.answer.replied + p.reference.beaconReply - 1 / 1000 ≤ e.reply.Tb
  replyLe : e.reply.Tb ≤ p.referenceClock x.answer.replied + p.reference.beaconReply
  recvGap : e.recv.gap ≤ x.roundTrip p
  replyGap : e.reply.gap ≤ x.roundTrip p

section
variable {p : Pairing} {a b : ℚ} {x : Sample}

/-- Compensation only takes away from a round trip. -/
theorem Sample.Made.gap_le (made : x.Made p) (sync : p.sync.minimumDelays.Nonneg) :
    x.points.1.Tr - x.points.1.To ≤ x.roundTrip p := by
  have sent := made.compensated.To
  have received := made.compensated.Tr
  have beacon := sync.beacon
  have beaconReply := sync.beaconReply
  unfold Sample.roundTrip
  linarith

variable (related : p.Related a b) (reference : p.reference.Nonneg)
include related reference

/-- The reference times are those of the sample as far as the wire keeps them. -/
theorem Sample.Made.dated (made : x.Made p) (slow : x.Slow p a) (sync : p.sync.minimumDelays.Nonneg)
    {e : Exchange} (same : e.points = x.points) : e.Dated p x := by
  obtain ⟨tbr, tbt, sameTo, sameTr⟩ := made.stamped.times
  obtain ⟨early, le⟩ := slow.served related reference made.fresh
  have gap := made.gap_le sync
  have recvAt : e.recv.Tb = x.points.1.Tb := congrArg (·.1.Tb) same
  have replyAt : e.reply.Tb = x.points.2.Tb := congrArg (·.2.Tb) same
  have recvGap : e.recv.gap = x.points.1.Tr - x.points.1.To := congrArg (fun q => q.1.Tr - q.1.To) same
  have replyGap : e.reply.gap = x.points.2.Tr - x.points.2.To := congrArg (fun q => q.2.Tr - q.2.To) same
  refine ⟨?_, ?_, ?_, recvGap.trans_le gap, ?_⟩
  · rw [recvAt, tbr]
    exact wire_le early (by linarith [slow.short])
  · rw [replyAt, tbt]
    exact (lt_wire (early.trans le) slow.short).le
  · rw [replyAt, tbt]
    exact wire_le (early.trans le) slow.short
  · rw [replyGap, ← sameTo, ← sameTr]
    exact gap

omit reference in
/-- The reply is not adjusted past its reception. -/
theorem Sample.Slow.arrived (slow : x.Slow p a) (sync : p.sync.minimumDelays.Nonneg) :
    p.referenceClock x.answer.replied + p.reference.beaconReply ≤ p.referenceClock x.accepted := by
  have downlink := slow.downlink
  have compensated := (zero_within p.sync).downlink.2
  have beaconReply := sync.beaconReply
  rw [related.line, related.line] at downlink
  apply le_of_mul_le_mul_left _ related.drift
  linarith

end

section
variable {es : List Exchange} {xs : List Sample}

theorem Matches.take (h : Matches es xs) (n : ℕ) : Matches (es.take n) (xs.take n) := by
  unfold Matches
  rw [List.map_take, List.map_take, show es.map Exchange.points = xs.map Sample.points from h]

theorem Matches.at (h : Matches es xs) {k : ℕ} {x : Sample} (found : xs[k]? = some x) :
    ∃ e, es[k]? = some e ∧ e.points = x.points := by
  have mapped := congrArg (fun l => l[k]?) (show es.map Exchange.points = xs.map Sample.points from h)
  simp only [List.getElem?_map, found, Option.map_some] at mapped
  obtain ⟨e, he, same⟩ := Option.map_eq_some_iff.mp mapped
  exact ⟨e, he, same⟩

/-- The data points of an exchange that a prefix holds. -/
theorem mem_callsOf_take {k n : ℕ} {e : Exchange} (found : es[k]? = some e) (early : k < n) :
    e.recv ∈ callsOf (es.take n) ∧ e.reply ∈ callsOf (es.take n) := by
  have mem : e ∈ es.take n := by
    apply List.mem_of_getElem? (i := k)
    rw [List.getElem?_take, if_pos early, found]
  exact ⟨mem_callsOf.mpr ⟨e, mem, .inl rfl⟩, mem_callsOf.mpr ⟨e, mem, .inr rfl⟩⟩

/-- The last data point of a prefix is the newest. -/
theorem le_reply_of_take {k : ℕ} {e : Exchange} (found : es[k]? = some e)
    (increasing : Increasing (callsOf (es.take (k + 1)))) :
    ∀ d ∈ callsOf (es.take (k + 1)), d.Tb ≤ e.reply.Tb := by
  obtain ⟨here, rfl⟩ := List.getElem?_eq_some_iff.mp found
  rw [← List.take_concat_get' es k here, callsOf_snoc] at increasing ⊢
  exact increasing.le_last

end

/-- A row is as accurate as the exchanges up to its own. -/
theorem Estimation.row_accurate {build : Build} {max a b : ℚ} {e : Estimation MiniSync}
    (run : Run (Estimation.Feeds build) (.init max) es e) {k : ℕ} {row : Stats.Sample}
    (recorded : e.stats.samples[k]? = some row) (regular : Regular a b (callsOf (es.take (k + 1)))) :
    Accurate (callsOf (es.take (k + 1))) row.drift row.driftError row.offset row.offsetError ∧
      0 ≤ row.driftError := by
  obtain ⟨o, calls, shows⟩ := run_shows run k row recorded
  have second : 2 ≤ (callsOf (es.take (k + 1))).length := by
    obtain ⟨here, _⟩ := List.getElem?_eq_some_iff.mp recorded
    rw [run_rows run] at here
    rw [callsOf_length, List.length_take]
    omega
  obtain ⟨low, high, optimal⟩ := run_optimal (calls.mono fun _ _ _ h => Returns.finds h) regular second
  have sound := (published_of_returns calls second).sound a b fun d hd =>
    ⟨(regular.bracketed d hd).1.le, (regular.bracketed d hd).2.le⟩
  rw [shows.drift, shows.driftError, shows.offset, shows.offsetError]
  exact ⟨optimal.accurate, (abs_nonneg _).trans sound.1⟩

open Session in
/-- **The estimates of a session converge.** The drift error of a row is at most the mean round trip
of its own and any earlier exchange over the reference time between them. From the end of its exchange
on the estimated line is off by half of that round trip, and by the drift error for each microsecond. -/
theorem session_accurate (build : Build) (p : Pairing) (max now a b : ℚ) (requests : List Handshake)
    (replies : List HandshakeReply) (past : List Session.Action) (s : Session MiniSync)
    (run : Run (QuietStep build p) (start max now requests replies) past s)
    (related : p.Related a b) (sync : p.sync.minimumDelays.Nonneg) (reference : p.reference.Nonneg)
    (tick : 1 / 1000 ≤ p.reference.beacon + p.reference.beaconReply)
    (slow : ∀ x ∈ s.net.samples, x.Slow p a) (short : 2 * s.net.samples.length < 2 ^ 32)
    (k : ℕ) (row : Stats.Sample) (x : Sample) (recorded : s.estimation.stats.samples[k]? = some row)
    (accepted : s.net.samples[k]? = some x) :
    (∀ i y, i ≤ k → s.net.samples[i]? = some y →
      row.driftError * (p.referenceClock x.answer.replied - p.referenceClock y.answer.received) ≤
        (y.roundTrip p + x.roundTrip p) / 2) ∧
    ∀ later, x.accepted ≤ later →
      |p.syncClock later - (row.drift * p.referenceClock later + row.offset)| ≤
        row.driftError * (p.referenceClock later - p.referenceClock x.answer.replied + 1 / 1000) +
          x.roundTrip p / 2 := by
  -- the rows stem from before the first failure
  obtain ⟨t, ⟨before, ran⟩, fine, stats, samples, _⟩ := run_recorded run
  rw [stats] at recorded
  obtain ⟨past', steps⟩ := run_network ran
  obtain ⟨made, chain⟩ := Network.run_made steps
  obtain ⟨es, fed⟩ := run_fed ran fine
  have matched : Matches es t.net.samples := fed.points
  have rows : k < t.net.samples.length := by
    have lengths : es.length = t.net.samples.length := by simpa using congrArg List.length fed.points
    rw [← lengths, ← Estimation.run_rows fed.run]
    exact (List.getElem?_eq_some_iff.mp recorded).1
  have earlier : ∀ {i}, i ≤ k → t.net.samples[i]? = s.net.samples[i]? := by
    intro i le
    obtain ⟨more, same⟩ := samples
    rw [← same, List.getElem?_append_left (le.trans_lt rows)]
  have shorter := samples.length_le
  have slow := fun y hy => slow y (samples.subset hy)
  rw [← earlier (le_refl k)] at accepted
  have early : ∀ y ∈ t.net.samples.take (k + 1), y ∈ t.net.samples := fun y hy => List.mem_of_mem_take hy
  have regular : Regular a b (callsOf (es.take (k + 1))) :=
    (matched.take (k + 1)).regular related sync reference tick (fun y hy => made y (early y hy))
      (fun y hy => slow y (early y hy)) (chain.sublist (List.take_sublist _ _))
      (by rw [List.length_take]; omega)
  obtain ⟨accurate, nonneg⟩ := Estimation.row_accurate fed.run recorded regular
  obtain ⟨e, he, same⟩ := matched.at accepted
  obtain ⟨_, reply⟩ := mem_callsOf_take he (Nat.lt_succ_self k)
  have hx := List.mem_of_getElem? accepted
  have dated := (made x hx).dated related reference (slow x hx) sync same
  constructor
  · intro i y le found
    rw [← earlier le] at found
    obtain ⟨f, hf, same'⟩ := matched.at found
    obtain ⟨recv, _⟩ := mem_callsOf_take hf (Nat.lt_succ_of_le le)
    have hy := List.mem_of_getElem? found
    have dated' := (made y hy).dated related reference (slow y hy) sync same'
    have between : p.referenceClock x.answer.replied - p.referenceClock y.answer.received ≤
        e.reply.Tb - f.recv.Tb := by
      linarith [dated.reply, dated'.recv]
    calc row.driftError * (p.referenceClock x.answer.replied - p.referenceClock y.answer.received)
        ≤ row.driftError * (e.reply.Tb - f.recv.Tb) := mul_le_mul_of_nonneg_left between nonneg
      _ ≤ (f.recv.gap + e.reply.gap) / 2 := accurate.apart _ recv _ reply
      _ ≤ (y.roundTrip p + x.roundTrip p) / 2 := by linarith [dated'.recvGap, dated.replyGap]
  · intro later after
    have arrived := (slow x hx).arrived related sync
    have passed := related.forward after
    have behind := accurate.behind a b
      (fun d hd => ⟨(regular.bracketed d hd).1.le, (regular.bracketed d hd).2.le⟩)
      (p.referenceClock later)
      (fun d hd => (le_reply_of_take he regular.increasing d hd).trans (by linarith [dated.replyLe])) _ reply
    rw [← related.line later] at behind
    have since : p.referenceClock later - e.reply.Tb ≤
        p.referenceClock later - p.referenceClock x.answer.replied + 1 / 1000 := by
      linarith [dated.reply, reference.beaconReply]
    calc |p.syncClock later - (row.drift * p.referenceClock later + row.offset)|
        ≤ row.driftError * (p.referenceClock later - e.reply.Tb) + e.reply.gap / 2 := behind
      _ ≤ row.driftError * (p.referenceClock later - p.referenceClock x.answer.replied + 1 / 1000) +
            x.roundTrip p / 2 := by
          linarith [mul_le_mul_of_nonneg_left since nonneg, dated.replyGap]

/-- What the session records of its second exchange. -/
def secondRow : Stats.Sample := ⟨15, 13 / 96, 65 / 96, 47 / 48, 5 / 48⟩

/-- The two exchanges of that session. -/
def firstSample : Sample := ⟨steadyPoints, ⟨1, 0⟩, ⟨⟨1, 0⟩, 1, 2⟩, 3⟩

def secondSample : Sample := ⟨secondPoints, ⟨2, 10⟩, ⟨⟨2, 10⟩, 11, 12⟩, 13⟩

theorem steady_samples : steadyTwice.net.samples = [firstSample, secondSample] := by
  decide +kernel

/-- From two exchanges of 3 µs, 11 µs apart: the drift error, and 7 µs later the estimated line. -/
theorem session_accurate_twice :
    secondRow.driftError * (steadyPairing.referenceClock secondSample.answer.replied -
        steadyPairing.referenceClock firstSample.answer.received) ≤
      (firstSample.roundTrip steadyPairing + secondSample.roundTrip steadyPairing) / 2 ∧
    |steadyPairing.syncClock 20 - (secondRow.drift * steadyPairing.referenceClock 20 + secondRow.offset)| ≤
      secondRow.driftError * (steadyPairing.referenceClock 20 -
        steadyPairing.referenceClock secondSample.answer.replied + 1 / 1000) +
        secondSample.roundTrip steadyPairing / 2 := by
  obtain ⟨past, run⟩ := run_steadyTwice
  have recorded : steadyTwice.estimation.stats.samples[1]? = some secondRow := by decide +kernel
  have short : 2 * steadyTwice.net.samples.length < 2 ^ 32 := by rw [steady_samples]; decide
  have after : secondSample.accepted ≤ 20 := by decide +kernel
  obtain ⟨apart, behind⟩ := session_accurate .loguru steadyPairing 1000 0 1 0 [] [] past _ run
    steadyPairing_related ⟨le_refl 0, le_refl 0⟩ steady_reference (by decide +kernel) steady_slow short
    1 secondRow secondSample recorded (by rw [steady_samples]; rfl)
  exact ⟨apart 0 firstSample (Nat.zero_le 1) (by rw [steady_samples]; rfl), behind 20 after⟩

end MiniSynCPP
