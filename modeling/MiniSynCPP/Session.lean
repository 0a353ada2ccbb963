import MiniSynCPP.Exchanges
import MiniSynCPP.Published
import MiniSynCPP.Sampling

/-!
# A SyncNode at work

`sync` as a whole: the beacons, the algorithm that every accepted reply feeds
with two data points, and the statistics. The SyncNode stops where a call of
`addDataPoint` fails: a failed check ends the process, an exception ends `sync`.
-/

namespace MiniSynCPP

open Channels Containers Runs

namespace Stats

structure Sample where
  currentTimestamp : ℚ
  offset : ℚ
  offsetError : ℚ
  drift : ℚ
  driftError : ℚ
  deriving DecidableEq

structure SyncStats where
  samples : List Sample

namespace SyncStats

/-- The constructor; `initCapacity` is the size of the vector, not its capacity. -/
def new (initCapacity : ℕ) : SyncStats := ⟨List.replicate initCapacity ⟨0, 0, 0, 0, 0⟩⟩

/-- `add_sample`, with the reading of the system clock in microseconds. -/
def addSample (s : SyncStats) (now offset offsetError drift driftError : ℚ) : SyncStats :=
  ⟨s.samples ++ [⟨now, offset, offsetError, drift, driftError⟩]⟩

end SyncStats

end Stats

/-- The members of `SyncNode` that an accepted reply changes. -/
structure Estimation (M : Type) where
  algo : Object M
  stats : Stats.SyncStats

/-- What an accepted reply meets: the orders of the tables in its two calls of `addDataPoint`, and
the system clock in `add_sample`. -/
structure Circumstances where
  recvLow : IterOrder Entry
  recvHigh : IterOrder Entry
  replyLow : IterOrder Entry
  replyHigh : IterOrder Entry
  systemClock : ℚ

namespace Circumstances

def recvCall (c : Circumstances) (p : DataPoint) : Call := ⟨p.To, p.Tb, p.Tr, c.recvLow, c.recvHigh⟩

def replyCall (c : Circumstances) (p : DataPoint) : Call := ⟨p.To, p.Tb, p.Tr, c.replyLow, c.replyHigh⟩

end Circumstances

namespace Estimation
variable {M : Type} [Subclass M]

/-- The constructor of `SyncNode` makes `stats` from an empty braced list, which is a size of 0. -/
def init (max : ℚ) : Estimation M := ⟨Object.init max, .new 0⟩

omit [Subclass M] in
def onAlgo {α : Type} (m : EStateM Failure (Object M) α) : EStateM Failure (Estimation M) α := fun e =>
  match m e.algo with
  | .ok a o => .ok a { e with algo := o }
  | .error f o => .error f { e with algo := o }

omit [Subclass M] in
def addSample (e : Estimation M) (now : ℚ) : Estimation M :=
  { e with
    stats := e.stats.addSample now e.algo.base.getOffset e.algo.base.getOffsetError
      e.algo.base.getDrift e.algo.base.getDriftError }

/-- What `sync` does with the data points of an accepted reply. -/
def process (build : Build) (points : DataPoint × DataPoint) (c : Circumstances) :
    EStateM Failure (Estimation M) Unit := do
  onAlgo (addDataPoint build (c.recvCall points.1))
  onAlgo (addDataPoint build (c.replyCall points.2))
  modify fun e => e.addSample c.systemClock

/-- One exchange whose two calls return. -/
def Feeds (build : Build) (e : Estimation M) (x : Exchange) (e' : Estimation M) : Prop :=
  ∃ o o' now, Returns build e.algo x.recv o ∧ Returns build o x.reply o' ∧
    e' = ({ e with algo := o' } : Estimation M).addSample now

end Estimation

/-- The network after `sync` has ended. -/
def Network.halted (t : Network) : Network :=
  { t with sync := { t.sync with running := false, receiving := false } }

/-- The SyncNode with its reference node and the channel between them. -/
structure Session (M : Type) where
  net : Network
  estimation : Estimation M
  -- what ended `sync` or the process
  failed : Option Failure

namespace Session
variable {M : Type} [Subclass M]

def start (max now : ℚ) (requests : List Handshake) (replies : List HandshakeReply) : Session M :=
  ⟨.start now requests replies, .init max, none⟩

inductive Action
  | network (a : Network.Action)
  | process (i : ℕ) (c : Circumstances)

/-- Every step of the network save the acceptance of a reply is one of the session. -/
inductive Step (build : Build) (p : Pairing) : Session M → Action → Session M → Prop
  | network {s : Session M} {a : Network.Action} {t : Network} (step : Network.Step p s.net a t)
      (ignored : t.samples = s.net.samples) : Step build p s (.network a) { s with net := t }
  | process {s : Session M} {i : ℕ} {d : Datagram Answer} {rest : List (Datagram Answer)}
      {reply : BeaconReply} {c : Circumstances} {e : Estimation M}
      (receiving : s.net.sync.receiving = true) (taken : take? s.net.downlink i = some (d, rest))
      (matched : s.net.sync.matching d.content = some reply)
      (returns : Estimation.process build
        (s.net.sync.dataPoints p.sync reply (p.syncClock s.net.now)) c s.estimation = .ok () e) :
      Step build p s (.process i c) { s with net := s.net.syncReceive p d rest, estimation := e }
  | failing {s : Session M} {i : ℕ} {d : Datagram Answer} {rest : List (Datagram Answer)}
      {reply : BeaconReply} {c : Circumstances} {f : Failure} {e : Estimation M}
      (receiving : s.net.sync.receiving = true) (taken : take? s.net.downlink i = some (d, rest))
      (matched : s.net.sync.matching d.content = some reply)
      (fails : Estimation.process build
        (s.net.sync.dataPoints p.sync reply (p.syncClock s.net.now)) c s.estimation = .error f e) :
      Step build p s (.process i c) ⟨(s.net.syncReceive p d rest).halted, e, some f⟩

/-- A step of a run in which every beacon is sent quietly. -/
def QuietStep (build : Build) (p : Pairing) (s : Session M) (a : Action) (t : Session M) : Prop :=
  Step build p s a t ∧ (a = .network .send → s.net.Quiet)

end Session

/-! ## Exchanges that return -/

def Exchange.points (x : Exchange) : DataPoint × DataPoint :=
  (⟨x.recv.To, x.recv.Tb, x.recv.Tr⟩, ⟨x.reply.To, x.reply.Tb, x.reply.Tr⟩)

theorem callsOf_snoc (es : List Exchange) (x : Exchange) :
    callsOf (es ++ [x]) = callsOf es ++ [x.recv] ++ [x.reply] := by
  simp [callsOf, Exchange.calls]

/-- `a` and `b` are within the errors of what was recorded. -/
def Stats.Sample.Covers (row : Stats.Sample) (a b : ℚ) : Prop :=
  |a - row.drift| ≤ row.driftError ∧ |b - row.offset| ≤ row.offsetError

namespace Estimation

section
variable {M : Type} [Subclass M] {build : Build} {points : DataPoint × DataPoint}
  {c : Circumstances} {e e' : Estimation M}

/-- The exchange of two data points with the same local times. -/
def exchange (points : DataPoint × DataPoint) (c : Circumstances) (sameTo : points.1.To = points.2.To)
    (sameTr : points.1.Tr = points.2.Tr) : Exchange :=
  ⟨c.recvCall points.1, c.replyCall points.2, sameTo, sameTr⟩

theorem exchange_points (points : DataPoint × DataPoint) (c : Circumstances)
    (sameTo : points.1.To = points.2.To) (sameTr : points.1.Tr = points.2.Tr) :
    (exchange points c sameTo sameTr).points = points := rfl

theorem process_returns (sameTo : points.1.To = points.2.To) (sameTr : points.1.Tr = points.2.Tr)
    (h : process build points c e = .ok () e') :
    Feeds build e (exchange points c sameTo sameTr) e' := by
  cases first : addDataPoint build (c.recvCall points.1) e.algo with
  | error f o => simp [process, onAlgo, first] at h
  | ok _ o =>
    cases second : addDataPoint build (c.replyCall points.2) o with
    | error f o' => simp [process, onAlgo, first, second] at h
    | ok _ o' =>
      simp only [process, onAlgo, bind_run, first, second, modify_run] at h
      cases h
      exact ⟨o, o', c.systemClock, first, second, rfl⟩

/-- A failing exchange records nothing. -/
theorem process_stats {f : Failure} (h : process build points c e = .error f e') :
    e'.stats = e.stats := by
  cases first : addDataPoint build (c.recvCall points.1) e.algo with
  | error g o =>
    simp only [process, onAlgo, bind_run, first] at h
    cases h
    rfl
  | ok _ o =>
    cases second : addDataPoint build (c.replyCall points.2) o with
    | error g o' =>
      simp only [process, onAlgo, bind_run, first, second] at h
      cases h
      rfl
    | ok _ o' => simp [process, onAlgo, first, second] at h

theorem process_fails {f : Failure} (sameTo : points.1.To = points.2.To)
    (sameTr : points.1.Tr = points.2.Tr) (h : process build points c e = .error f e')
    {o : Object M} : ¬ Run (Returns build) e.algo (exchange points c sameTo sameTr).calls o := by
  intro run
  have calls : Run (Returns build) e.algo ([] ++ [c.recvCall points.1] ++ [c.replyCall points.2]) o :=
    run
  obtain ⟨o₁, before, second⟩ := calls.snoc_inv
  obtain ⟨o₀, none, first⟩ := before.snoc_inv
  rw [none.nil_inv] at first
  rw [Returns] at first second
  simp [process, onAlgo, first, second] at h

end

section
variable {M : Type} [Subclass M] {build : Build} {max : ℚ} {es : List Exchange} {e : Estimation M}

theorem run_calls (run : Run (Feeds build) (init max) es e) :
    Run (Returns build) (Object.init max) (callsOf es) e.algo := by
  induction run with
  | start => exact .start
  | @step es e e' x _ step ih =>
    obtain ⟨o, o', now, first, second, rfl⟩ := step
    rw [callsOf_snoc]
    exact (ih.step first).step second

theorem run_rows (run : Run (Feeds build) (init max) es e) :
    e.stats.samples.length = es.length := by
  induction run with
  | start => rfl
  | @step es e e' x _ step ih =>
    obtain ⟨o, o', now, _, _, rfl⟩ := step
    simp only [addSample, Stats.SyncStats.addSample, List.length_append, List.length_singleton, ih]

variable [LawfulSubclass M]

/-- After an exchange the estimates bound every line that all data points admit. -/
theorem run_sound (run : Run (Feeds build) (init max) es e) (some : es ≠ []) :
    e.algo.base.Sound (callsOf es) := by
  refine (published_of_returns (run_calls run) ?_).sound
  obtain ⟨x, es, rfl⟩ := List.exists_cons_of_ne_nil some
  simp only [callsOf, List.flatMap_cons, Exchange.calls, List.length_append, List.length_cons]
  omega

/-- So do all rows recorded on the way. -/
theorem rows_sound (run : Run (Feeds build) (init max) es e) {a b : ℚ}
    (admitted : ∀ d ∈ callsOf es, d.To ≤ a * d.Tb + b ∧ a * d.Tb + b ≤ d.Tr)
    (right : ∀ d ∈ callsOf es, 0 ≤ d.Tb) : ∀ row ∈ e.stats.samples, row.Covers a b := by
  induction run with
  | start => simp [init, Stats.SyncStats.new]
  | @step es e e' x before step ih =>
    have sound := run_sound (before.step step) (by simp) a b admitted
    obtain ⟨o, o', now, _, _, rfl⟩ := step
    rw [callsOf_snoc, List.append_assoc] at admitted right
    intro row hrow
    obtain hrow | hrow := List.mem_append.mp hrow
    · exact ih (fun d hd => admitted d (List.mem_append_left _ hd))
        (fun d hd => right d (List.mem_append_left _ hd)) row hrow
    · obtain rfl := List.mem_singleton.mp hrow
      rw [callsOf_snoc, List.append_assoc] at sound
      exact ⟨sound.1, sound.2 right⟩

end

end Estimation

/-! ## The run of a session -/

/-- A SyncNode that is out of its loop stays out. -/
theorem Network.Step.stopped {p : Pairing} {n n' : Network} {a : Network.Action}
    (step : Network.Step p n a n')
    (stopped : n.sync.running = false ∧ n.sync.receiving = false) :
    n'.sync.running = false ∧ n'.sync.receiving = false := by
  cases step with
  | send running => exact absurd (stopped.1.symm.trans running) Bool.false_ne_true
  | retry receiving => exact absurd (stopped.2.symm.trans receiving) Bool.false_ne_true
  | syncReceive receiving => exact absurd (stopped.2.symm.trans receiving) Bool.false_ne_true
  | syncStop => exact ⟨rfl, rfl⟩
  | elapse | referenceReceive | referenceReply | referenceStop | uplink | downlink => exact stopped

namespace Session

section
variable {M : Type} [Subclass M] {build : Build} {p : Pairing} {max now : ℚ}
  {requests : List Handshake} {replies : List HandshakeReply} {past : List Action} {s t : Session M}

/-- What a step of the session does to the network. -/
theorem QuietStep.network {a : Action} (step : QuietStep build p s a t) :
    ∃ more, Run (Network.QuietStep p) s.net more t.net := by
  obtain ⟨step, quiet⟩ := step
  cases step with
  | @network a t step _ => exact ⟨[a], Run.start.step ⟨step, fun h => quiet (by rw [h])⟩⟩
  | @process i d rest reply c e receiving taken =>
    exact ⟨[.syncReceive i], Run.start.step ⟨.syncReceive receiving taken, nofun⟩⟩
  | @failing i d rest reply c f e receiving taken =>
    exact ⟨[.syncReceive i, .syncStop],
      (Run.start.step ⟨.syncReceive receiving taken, nofun⟩).step ⟨.syncStop, nofun⟩⟩

theorem run_network (run : Run (QuietStep build p) (start max now requests replies) past s) :
    ∃ past', Run (Network.QuietStep p) (Network.start now requests replies) past' s.net := by
  have simulated : ∃ past' n, Run (Network.QuietStep p) (Network.start now requests replies) past' n ∧
      s.net = n := by
    refine run.simulation (R := fun s n => s.net = n) rfl ?_
    intro s a u n step same
    obtain ⟨more, steps⟩ := step.network
    exact ⟨more, u.net, same ▸ steps, rfl⟩
  obtain ⟨past', n, steps, same⟩ := simulated
  exact ⟨past', same ▸ steps⟩

/-- A run of the network that accepts no reply is one of the session. -/
theorem run_ignoring {more : List Network.Action} {n : Network}
    (run : Run (Network.QuietStep p) s.net more n) (ignored : n.samples = s.net.samples) :
    Run (QuietStep build p) s (more.map .network) { s with net := n } := by
  induction run with
  | start => exact .start
  | @step more m n a before step ih =>
    have grown := Network.run_samples (before.mono fun _ _ _ h => h.1)
    have grown' := step.1.samples
    have same : m.samples = s.net.samples :=
      (grown.eq_of_length_le (ignored ▸ grown'.length_le)).symm
    rw [List.map_append]
    exact (ih same).step ⟨.network step.1 (ignored.trans same.symm),
      fun h => step.2 (Action.network.inj h)⟩

/-- The exchanges that `algo` was fed with are those of the samples. -/
structure Fed (build : Build) (max : ℚ) (s : Session M) (es : List Exchange) : Prop where
  run : Run (Estimation.Feeds build) (.init max) es s.estimation
  points : es.map Exchange.points = s.net.samples.map Sample.points

/-- The two data points of a reply share their local times. -/
theorem dataPoints_shared (settings : SyncSettings) (n : SyncLoop) (reply : BeaconReply) (tr : ℚ) :
    (n.dataPoints settings reply tr).1.To = (n.dataPoints settings reply tr).2.To ∧
    (n.dataPoints settings reply tr).1.Tr = (n.dataPoints settings reply tr).2.Tr := by
  simp only [SyncLoop.dataPoints, and_self]

theorem syncReceive_samples {n : Network} {d : Datagram Answer} {rest : List (Datagram Answer)}
    {reply : BeaconReply} (matched : n.sync.matching d.content = some reply) :
    (n.syncReceive p d rest).samples = n.samples ++
      [⟨n.sync.dataPoints p.sync reply (p.syncClock n.now), n.recorded, d.origin, n.now⟩] := by
  simp only [Network.syncReceive, matched]

theorem Step.fed {a : Action} (step : Step build p s a t) {es : List Exchange}
    (fed : s.Fed build max es) (fine : t.failed = none) : ∃ es', t.Fed build max es' := by
  cases step with
  | network _ ignored => exact ⟨es, fed.run, fed.points.trans (congrArg _ ignored.symm)⟩
  | process _ _ matched returns =>
    obtain ⟨sameTo, sameTr⟩ := dataPoints_shared p.sync s.net.sync _ (p.syncClock s.net.now)
    have feeds := Estimation.process_returns sameTo sameTr returns
    refine ⟨es ++ [_], fed.run.step feeds, ?_⟩
    rw [syncReceive_samples matched, List.map_append, List.map_append, fed.points, List.map_singleton,
      List.map_singleton, Estimation.exchange_points]
  | failing => cases fine

theorem Step.failed {a : Action} (step : Step build p s a t) (fine : t.failed = none) :
    s.failed = none := by
  cases step with
  | network | process => exact fine
  | failing => cases fine

theorem run_fed (run : Run (QuietStep build p) (start max now requests replies) past s)
    (fine : s.failed = none) : ∃ es, s.Fed build max es := by
  induction run with
  | start => exact ⟨[], .start, rfl⟩
  | step _ step ih =>
    obtain ⟨es, fed⟩ := ih (step.1.failed fine)
    exact step.1.fed fed fine

theorem Fed.of_call {es : List Exchange} (fed : s.Fed build max es) {c : Call} (hc : c ∈ callsOf es) :
    ∃ x ∈ s.net.samples, (c.To = x.points.1.To ∧ c.Tb = x.points.1.Tb ∧ c.Tr = x.points.1.Tr) ∨
      c.To = x.points.2.To ∧ c.Tb = x.points.2.Tb ∧ c.Tr = x.points.2.Tr := by
  obtain ⟨e, he, which⟩ := mem_callsOf.mp hc
  have mem := List.mem_map_of_mem (f := Exchange.points) he
  rw [fed.points] at mem
  obtain ⟨x, hx, same⟩ := List.mem_map.mp mem
  refine ⟨x, hx, which.imp ?_ ?_⟩
  · rintro rfl
    rw [same]
    exact ⟨rfl, rfl, rfl⟩
  · rintro rfl
    rw [same]
    exact ⟨rfl, rfl, rfl⟩

/-- The line of the clocks fits everything that was fed. -/
theorem Fed.admitted {es : List Exchange} (fed : s.Fed build max es) {a b : ℚ} (drift : 0 < a)
    (good : ∀ x ∈ s.net.samples, x.Good a b) :
    ∀ d ∈ callsOf es, (d.To < a * d.Tb + b ∧ a * d.Tb + b < d.Tr) ∧ 0 ≤ d.Tb := by
  intro d hd
  obtain ⟨x, hx, ⟨To, Tb, Tr⟩ | ⟨To, Tb, Tr⟩⟩ := fed.of_call hd
  · obtain ⟨_, _, nonneg, inOrder, sent, received⟩ := good x hx
    have climbs := mul_le_mul_of_nonneg_left inOrder drift.le
    rw [To, Tb, Tr]
    exact ⟨⟨sent, by linarith⟩, nonneg⟩
  · obtain ⟨sameTo, sameTr, nonneg, inOrder, sent, received⟩ := good x hx
    have climbs := mul_le_mul_of_nonneg_left inOrder drift.le
    rw [To, Tb, Tr, ← sameTo, ← sameTr]
    exact ⟨⟨by linarith, received⟩, nonneg.trans inOrder⟩

/-- All data points of a session with slow transits admit the line of the clocks. -/
theorem run_admitted {a b : ℚ} (run : Run (QuietStep build p) (start max now requests replies) past s)
    (fine : s.failed = none) (related : p.Related a b) (reference : p.reference.Nonneg)
    (slow : ∀ x ∈ s.net.samples, x.Slow p a) :
    ∃ es, s.Fed build max es ∧ es.length = s.net.samples.length ∧
      (∀ d ∈ callsOf es, d.To ≤ a * d.Tb + b ∧ a * d.Tb + b ≤ d.Tr) ∧ ∀ d ∈ callsOf es, 0 ≤ d.Tb := by
  obtain ⟨past', steps⟩ := run_network run
  obtain ⟨made, _⟩ := Network.run_made steps
  obtain ⟨es, fed⟩ := run_fed run fine
  have bracketed := fed.admitted related.drift
    fun x hx => (made x hx).good related reference (slow x hx)
  refine ⟨es, fed, by simpa using congrArg List.length fed.points, ?_, ?_⟩
  · exact fun d hd => ⟨(bracketed d hd).1.1.le, (bracketed d hd).1.2.le⟩
  · exact fun d hd => (bracketed d hd).2

/-- What a run has recorded was recorded before its first failure: in `t`, where nothing had failed. -/
structure Recorded (build : Build) (p : Pairing) (s₀ t s : Session M) : Prop where
  run : ∃ past, Run (QuietStep build p) s₀ past t
  fine : t.failed = none
  stats : s.estimation.stats = t.estimation.stats
  samples : t.net.samples <+: s.net.samples
  counted : s.net.samples.length = t.net.samples.length + s.failed.toList.length
  working : s.failed = none → s = t
  -- a SyncNode that has failed is out of its loop
  stopped : s.failed ≠ none → s.net.sync.running = false ∧ s.net.sync.receiving = false

theorem Recorded.step {s₀ u v : Session M} {a : Action} (h : Recorded build p s₀ u s)
    (step : QuietStep build p s a v) : ∃ u', Recorded build p s₀ u' v := by
  obtain ⟨⟨past, run⟩, fine, stats, samples, counted, working, stopped⟩ := h
  by_cases ended : s.failed = none
  · obtain rfl := working ended
    obtain ⟨made, quiet⟩ := step
    cases made with
    | network step ignored =>
      exact ⟨_, ⟨_, run.step ⟨.network step ignored, quiet⟩⟩, ended, rfl, List.prefix_refl _,
        by simp [ended], fun _ => rfl, fun failed => absurd ended failed⟩
    | process receiving taken matched returns =>
      exact ⟨_, ⟨_, run.step ⟨.process receiving taken matched returns, quiet⟩⟩, ended, rfl,
        List.prefix_refl _, by simp [ended], fun _ => rfl, fun failed => absurd ended failed⟩
    | @failing i d rest reply c f e receiving taken matched fails =>
      have grown : (s.net.syncReceive p d rest).halted.samples = s.net.samples ++ [_] :=
        syncReceive_samples matched
      exact ⟨s, ⟨past, run⟩, ended, Estimation.process_stats fails, ⟨_, grown.symm⟩,
        by rw [grown, List.length_append]; rfl, nofun, fun _ => ⟨rfl, rfl⟩⟩
  · have off := stopped ended
    obtain ⟨made, _⟩ := step
    cases made with
    | network step ignored =>
      exact ⟨u, ⟨past, run⟩, fine, stats, ignored.symm ▸ samples, ignored.symm ▸ counted,
        fun none => absurd none ended, fun _ => Network.Step.stopped step off⟩
    | process receiving => exact absurd (off.2.symm.trans receiving) Bool.false_ne_true
    | failing receiving => exact absurd (off.2.symm.trans receiving) Bool.false_ne_true

theorem run_recorded (run : Run (QuietStep build p) (start max now requests replies) past s) :
    ∃ t, Recorded build p (start max now requests replies) t s := by
  induction run with
  | start =>
    exact ⟨_, ⟨[], .start⟩, rfl, rfl, List.prefix_refl _, rfl, fun _ => rfl, fun failed => absurd rfl failed⟩
  | step _ step ih =>
    obtain ⟨t, recorded⟩ := ih
    exact recorded.step step

/-- The rows of a session with slow transits cover the line of the clocks. -/
theorem run_rows_sound [LawfulSubclass M] {a b : ℚ}
    (run : Run (QuietStep build p) (start max now requests replies) past s) (related : p.Related a b)
    (reference : p.reference.Nonneg) (slow : ∀ x ∈ s.net.samples, x.Slow p a) :
    s.estimation.stats.samples.length + s.failed.toList.length = s.net.samples.length ∧
      ∀ row ∈ s.estimation.stats.samples, row.Covers a b := by
  obtain ⟨t, ⟨before, ran⟩, fine, stats, samples, counted, _⟩ := run_recorded run
  obtain ⟨es, fed, lengths, admitted, right⟩ :=
    run_admitted ran fine related reference fun x hx => slow x (samples.subset hx)
  rw [stats, counted, Estimation.run_rows fed.run, lengths]
  exact ⟨rfl, Estimation.rows_sound fed.run admitted right⟩

end

end Session

/-- Both clocks show the real time, and the reference compensates half a microsecond each way. -/
def steadyPairing : Pairing := ⟨.new ⟨0, 0⟩ 0 0, ⟨1 / 2, 1 / 2⟩, id, id⟩

/-- The reply to a beacon sent at 0, received at 1 and answered at 2. -/
def steadyReply : Datagram Answer :=
  ⟨.beaconR (ServeLoop.reply steadyPairing.reference ⟨0⟩ 1 2), ⟨⟨1, 0⟩, 1, 2⟩⟩

/-- At 3 that reply is about to be received. -/
def awaiting : Session MiniSync where
  net :=
    { sync := SyncLoop.start.sent 0, reference := .start, uplink := [], downlink := [steadyReply]
      now := 3, sends := 1, recorded := ⟨1, 0⟩, serving := ⟨1, 0⟩, received := 1, samples := [] }
  estimation := .init 1000
  failed := none

theorem run_awaiting : Run (Session.QuietStep .loguru steadyPairing) (Session.start 1000 0 [] [])
    [.network .send, .network (.elapse 1), .network (.referenceReceive 0), .network (.elapse 2),
      .network .referenceReply, .network (.elapse 3)] awaiting := by
  have quiet : (Network.start 0 [] []).Quiet := ⟨by simp [Network.start], by simp, by simp [Network.start]⟩
  have sent : Run (Network.QuietStep steadyPairing) (Network.start 0 [] []) [.send] _ :=
    .step .start ⟨.send rfl rfl, fun _ => quiet⟩
  have received := (sent.step ⟨.elapse (by decide : (0 : ℚ) ≤ 1), by simp⟩).step
    ⟨.referenceReceive rfl rfl (rfl : take? _ 0 = some (⟨.beacon ⟨0⟩, ⟨1, 0⟩⟩, [])), by simp⟩
  have replied := (received.step ⟨.elapse (by decide : (1 : ℚ) ≤ 2), by simp⟩).step
    ⟨.referenceReply rfl, by simp⟩
  exact Session.run_ignoring (s := Session.start 1000 0 [] []) (n := awaiting.net)
    (replied.step ⟨.elapse (by decide : (2 : ℚ) ≤ 3), by simp⟩) rfl

theorem steadyPairing_related : steadyPairing.Related 1 0 :=
  ⟨one_pos, fun now => by simp [steadyPairing], monotone_id⟩

theorem steady_reference : steadyPairing.reference.Nonneg :=
  ⟨by decide +kernel, by decide +kernel⟩

/-- The two data points of that exchange. -/
def steadyPoints : DataPoint × DataPoint := (⟨0, 1 / 2, 3⟩, ⟨0, 5 / 2, 3⟩)

theorem steady_points : SyncLoop.dataPoints steadyPairing.sync awaiting.net.sync
    (ServeLoop.reply steadyPairing.reference ⟨0⟩ 1 2) 3 = steadyPoints := by
  decide +kernel

/-- The session after the exchange. -/
def steadySession : Session MiniSync where
  net := awaiting.net.syncReceive steadyPairing steadyReply []
  estimation := left
    (Estimation.process .loguru steadyPoints ⟨.listed, .listed, .listed, .listed, 5⟩ (.init 1000))
  failed := none

theorem run_steady : Run (Session.QuietStep .loguru steadyPairing) (Session.start 1000 0 [] [])
    ([.network .send, .network (.elapse 1), .network (.referenceReceive 0), .network (.elapse 2),
      .network .referenceReply, .network (.elapse 3)] ++
      [.process 0 ⟨.listed, .listed, .listed, .listed, 5⟩]) steadySession := by
  have returns : Estimation.process .loguru steadyPoints ⟨.listed, .listed, .listed, .listed, 5⟩
      (.init 1000) = .ok () steadySession.estimation := failure?_eq_none.mp (by decide +kernel)
  rw [← steady_points] at returns
  exact run_awaiting.step ⟨.process rfl (rfl : take? _ 0 = some (steadyReply, [])) rfl returns, nofun⟩

/-- The reply to a second beacon, sent at 10, received at 11 and answered at 12. -/
def secondReply : Datagram Answer :=
  ⟨.beaconR (ServeLoop.reply steadyPairing.reference ⟨1⟩ 11 12), ⟨⟨2, 10⟩, 11, 12⟩⟩

/-- At 13 that reply is about to be received. -/
def awaitingSecond : Session MiniSync where
  net :=
    { steadySession.net with
      sync := steadySession.net.sync.sent 10
      downlink := [secondReply]
      now := 13
      sends := 2
      recorded := ⟨2, 10⟩
      serving := ⟨2, 10⟩
      received := 11 }
  estimation := steadySession.estimation
  failed := none

def secondPoints : DataPoint × DataPoint := (⟨10, 21 / 2, 13⟩, ⟨10, 25 / 2, 13⟩)

theorem second_points : SyncLoop.dataPoints steadyPairing.sync awaitingSecond.net.sync
    (ServeLoop.reply steadyPairing.reference ⟨1⟩ 11 12) 13 = secondPoints := by
  decide +kernel

/-- The session after both exchanges. -/
def steadyTwice : Session MiniSync where
  net := awaitingSecond.net.syncReceive steadyPairing secondReply []
  estimation := left
    (Estimation.process .loguru secondPoints ⟨.listed, .listed, .listed, .listed, 15⟩
      steadySession.estimation)
  failed := none

theorem run_steadyTwice : ∃ past,
    Run (Session.QuietStep .loguru steadyPairing) (Session.start 1000 0 [] []) past steadyTwice := by
  have quiet : steadySession.net.Quiet :=
    ⟨fun _ d hd => (List.not_mem_nil hd).elim, nofun, fun d hd => (List.not_mem_nil hd).elim⟩
  have waited : Run (Network.QuietStep steadyPairing) steadySession.net [.elapse 10] _ :=
    Run.start.step ⟨.elapse (by decide : (3 : ℚ) ≤ 10), nofun⟩
  have sent := waited.step ⟨.send rfl rfl, fun _ => ⟨quiet.uplink, quiet.replying, quiet.downlink⟩⟩
  have received := (sent.step ⟨.elapse (by decide : (10 : ℚ) ≤ 11), nofun⟩).step
    ⟨.referenceReceive rfl rfl (rfl : take? _ 0 = some (⟨.beacon ⟨1⟩, ⟨2, 10⟩⟩, [])), nofun⟩
  have replied := (received.step ⟨.elapse (by decide : (11 : ℚ) ≤ 12), nofun⟩).step
    ⟨.referenceReply rfl, nofun⟩
  have awaited := run_steady.append (Session.run_ignoring (s := steadySession) (n := awaitingSecond.net)
    (replied.step ⟨.elapse (by decide : (12 : ℚ) ≤ 13), nofun⟩) rfl)
  have returns : Estimation.process .loguru secondPoints ⟨.listed, .listed, .listed, .listed, 15⟩
      steadySession.estimation = .ok () steadyTwice.estimation :=
    failure?_eq_none.mp (by decide +kernel)
  rw [← second_points] at returns
  exact ⟨_, awaited.step
    ⟨.process rfl (rfl : take? _ 0 = some (secondReply, [])) rfl returns, nofun⟩⟩

theorem steady_slow : ∀ x ∈ steadyTwice.net.samples, x.Slow steadyPairing 1 := by
  intro x hx
  obtain hx | hx := List.mem_append.mp (show x ∈ [_] ++ [_] from hx)
  · obtain rfl := List.mem_singleton.mp hx
    constructor <;> decide +kernel
  · obtain rfl := List.mem_singleton.mp hx
    constructor <;> decide +kernel

end MiniSynCPP
