import MiniSynCPP.Optimality
import MiniSynCPP.Session
import MiniSynCPP.Tightening

/-!
# A SyncNode that never stops

Slow exchanges that follow each other are a correct synchronisation, so no
check of the algorithm ends them, and what is recorded of them only gets better.
-/

namespace MiniSynCPP

open Channels Containers Runs Lines

/-- Neither error of the later row is greater. -/
def Stats.Sample.Tightens (row later : Stats.Sample) : Prop :=
  later.driftError ≤ row.driftError ∧ later.offsetError ≤ row.offsetError

/-! ## Products of lines -/

/-- `max` is above the product of every low and every high line through the points. -/
def Exceeds (max : ℚ) (D : Points ℚ) : Prop :=
  ∀ p ∈ D.lows, ∀ q ∈ D.highs, p.1 < q.1 → ∀ r ∈ D.highs, ∀ s ∈ D.lows, r.1 < s.1 →
    ((through p q).slope - (through r s).slope) * ((through r s).icept - (through p q).icept) < max

theorem Exceeds.sub {max : ℚ} {D E : Points ℚ} (h : Exceeds max E) (sub : D.Sub E) : Exceeds max D :=
  fun p hp q hq lt r hr s hs lt' => h p (sub.1 hp) q (sub.2 hq) lt r (sub.2 hr) s (sub.1 hs) lt'

theorem productsBelow_of_exceeds {build : Build} {algo : Algo} {max : ℚ} {calls : List Call}
    (h : Exceeds max (samples calls)) : ProductsBelow build algo max calls := by
  intro past c rest split o run _ low hl high hh
  have known := run_historical run
  have isLow := known.added_low hl
  have isHigh := known.added_high hh
  have sub : (samples (past ++ [c])).Sub (samples calls) := by
    have earlier : ∀ d ∈ past ++ [c], d ∈ calls := by
      intro d hd
      rw [split]
      simp only [List.mem_append, List.mem_cons, List.not_mem_nil, or_false] at hd ⊢
      exact hd.imp_right .inl
    constructor
    · rintro p ⟨d, hd, rfl⟩
      exact ⟨d, earlier d hd, rfl⟩
    · rintro p ⟨d, hd, rfl⟩
      exact ⟨d, earlier d hd, rfl⟩
  have product := h _ (sub.1 isLow.low) _ (sub.2 isLow.high) isLow.later _ (sub.2 isHigh.high) _
    (sub.1 isHigh.low) isHigh.later
  rwa [← isLow.line_eq, ← isHigh.line_eq] at product

/-! ## From samples to exchanges -/

def dataPointsOf (xs : List Sample) : List DataPoint :=
  xs.flatMap fun x => [x.points.1, x.points.2]

/-- The points of the plane that samples consist of. -/
def plane (xs : List Sample) : Points ℚ where
  lows := {p | p ∈ (dataPointsOf xs).map fun d => (d.Tb, d.To)}
  highs := {p | p ∈ (dataPointsOf xs).map fun d => (d.Tb, d.Tr)}

theorem plane_sub {xs ys : List Sample} (le : xs <+: ys) : (plane xs).Sub (plane ys) := by
  obtain ⟨more, rfl⟩ := le
  have split : dataPointsOf (xs ++ more) = dataPointsOf xs ++ dataPointsOf more :=
    List.flatMap_append
  constructor
  · intro p hp
    simp only [plane, split, List.map_append]
    exact List.mem_append_left _ hp
  · intro p hp
    simp only [plane, split, List.map_append]
    exact List.mem_append_left _ hp

theorem callsOf_length (es : List Exchange) : (callsOf es).length = 2 * es.length := by
  induction es with
  | nil => rfl
  | cons e es ih =>
    simp only [callsOf, List.flatMap_cons, Exchange.calls, List.length_append, List.length_cons,
      List.length_nil] at ih ⊢
    omega

/-- Exchanges whose data points are those of samples. -/
def Matches (es : List Exchange) (xs : List Sample) : Prop :=
  es.map Exchange.points = xs.map Sample.points

section
variable {p : Pairing} {a b : ℚ} {es : List Exchange} {xs : List Sample}

theorem Matches.sample (h : Matches es xs) {e : Exchange} (he : e ∈ es) :
    ∃ x ∈ xs, e.points = x.points := by
  have mem := List.mem_map_of_mem (f := Exchange.points) he
  rw [h] at mem
  obtain ⟨x, hx, same⟩ := List.mem_map.mp mem
  exact ⟨x, hx, same.symm⟩

theorem Matches.dataPoint (h : Matches es xs) {c : Call} (hc : c ∈ callsOf es) :
    (⟨c.To, c.Tb, c.Tr⟩ : DataPoint) ∈ dataPointsOf xs := by
  obtain ⟨e, he, which⟩ := mem_callsOf.mp hc
  obtain ⟨x, hx, same⟩ := h.sample he
  refine List.mem_flatMap.mpr ⟨x, hx, ?_⟩
  rw [← same]
  obtain rfl | rfl := which
  · exact List.mem_cons_self
  · exact List.mem_cons_of_mem _ List.mem_cons_self

theorem Matches.sub (h : Matches es xs) : (samples (callsOf es)).Sub (plane xs) := by
  constructor
  · rintro p ⟨c, hc, rfl⟩
    exact List.mem_map.mpr ⟨_, h.dataPoint hc, rfl⟩
  · rintro p ⟨c, hc, rfl⟩
    exact List.mem_map.mpr ⟨_, h.dataPoint hc, rfl⟩

theorem Sample.Good.timed {x : Sample} (good : x.Good a b) (forward : x.points.1.Tb < x.points.2.Tb)
    (drift : 0 < a) {e : Exchange} (same : e.points = x.points) : e.Timed a b := by
  have recv : (⟨e.recv.To, e.recv.Tb, e.recv.Tr⟩ : DataPoint) = x.points.1 := congrArg Prod.fst same
  have reply : (⟨e.reply.To, e.reply.Tb, e.reply.Tr⟩ : DataPoint) = x.points.2 := congrArg Prod.snd same
  obtain ⟨_, sameTr, nonneg, _, sent, received⟩ := good
  rw [sameTr] at received
  rw [← recv] at nonneg sent forward
  rw [← reply] at received forward
  simp only at nonneg sent received forward
  have climbs := mul_lt_mul_of_pos_left forward drift
  refine ⟨nonneg, forward, ?_, sent, received⟩
  rw [e.sameTr]
  linarith

variable (related : p.Related a b) (sync : p.sync.minimumDelays.Nonneg)
  (reference : p.reference.Nonneg) (tick : 1 / 1000 ≤ p.reference.beacon + p.reference.beaconReply)
  (made : ∀ x ∈ xs, x.Made p) (slow : ∀ x ∈ xs, x.Slow p a)
include related sync reference tick made slow

omit sync in
theorem Matches.timed (h : Matches es xs) : ∀ e ∈ es, e.Timed a b := by
  intro e he
  obtain ⟨x, hx, same⟩ := h.sample he
  exact ((made x hx).good related reference (slow x hx)).timed
    ((made x hx).forward related reference (slow x hx) tick) related.drift same

omit tick in
theorem Matches.chain (h : Matches es xs) (chain : xs.Pairwise Sample.Before) :
    es.IsChain Exchange.Before := by
  let After (q r : DataPoint × DataPoint) : Prop := q.2.Tb < r.1.Tb ∧ q.1.Tr ≤ r.1.To
  have ordered : (xs.map Sample.points).Pairwise After := by
    refine List.pairwise_map.mpr (chain.imp_of_mem ?_)
    intro x y hx hy before
    exact (made x hx).next related reference sync (slow x hx) (made y hy) (slow y hy) before
  rw [← show es.map Exchange.points = xs.map Sample.points from h] at ordered
  exact (List.pairwise_map.mp ordered).isChain

/-- Slow samples in a row make regular data points. -/
theorem Matches.regular (h : Matches es xs) (chain : xs.Pairwise Sample.Before)
    (short : 2 * xs.length < 2 ^ 32) : Regular a b (callsOf es) := by
  have timed := h.timed related reference tick made slow
  have inOrder := h.chain related sync reference made slow chain
  have lengths : es.length = xs.length := by simpa using congrArg List.length h
  exact ⟨increasing_callsOf timed inOrder, nonneg_callsOf timed,
    bracketed_callsOf related.drift timed, by rw [callsOf_length, lengths]; exact short⟩

end

/-! ## What the rows record -/

namespace Estimation

section
variable {M : Type} [Subclass M] [LawfulSubclass M] [OrderedSubclass M] {max a b : ℚ}
  {es : List Exchange} {x : Exchange} {e e' : Estimation M}

theorem returns_noWider {build : Build} {past : List Call} {c : Call} {o t : Object M}
    (run : Run (Returns build) (Object.init max) past o) (returns : Returns build o c t)
    (regular : Regular a b (past ++ [c])) (second : 2 ≤ past.length) : NoWider o.base t.base := by
  have kept := (run_kept (run.mono fun _ _ _ h => Returns.goes h) regular.increasing.past).2
  exact KeepsPair.noWider run ⟨kept, returns⟩ second regular.short regular.increasing.inOrder
    regular.right (brackets_samples.mpr regular.bracketed)

/-- Neither error of the object is greater than that of the row. -/
structure Latest (row : Stats.Sample) (s : Base) : Prop where
  driftError : s.getDriftError ≤ row.driftError
  offsetError : s.getOffsetError ≤ row.offsetError

theorem Latest.noWider {row : Stats.Sample} {s t : Base} (h : Latest row s) (h' : NoWider s t) :
    Latest row t :=
  ⟨h'.1.trans h.driftError, h'.2.trans h.offsetError⟩

/-- The rows tighten, up to the object as it is now. -/
theorem rows_tighten (run : Run (Feeds .loguru) (init max) es e) (regular : Regular a b (callsOf es)) :
    (∀ row ∈ e.stats.samples, 0 ≤ row.drift ∧ Latest row e.algo.base) ∧
      e.stats.samples.Pairwise Stats.Sample.Tightens := by
  induction run with
  | start => exact ⟨by simp [init, Stats.SyncStats.new], List.Pairwise.nil⟩
  | @step es e e' x before step ih =>
    obtain ⟨o, o', now, first, second, rfl⟩ := step
    rw [callsOf_snoc] at regular
    obtain ⟨latest, tightens⟩ := ih regular.past.past
    have calls := run_calls before
    have calls' := calls.step first
    have short := regular.short
    rw [List.length_append, List.length_singleton] at short
    -- what is recorded already stays an upper bound
    have kept : ∀ row ∈ e.stats.samples, Latest row o'.base := by
      intro row hrow
      have grown : 2 ≤ (callsOf es).length := by
        obtain ⟨y, ys, rfl⟩ : ∃ y ys, es = y :: ys := by
          apply List.exists_cons_of_ne_nil
          rintro rfl
          rw [before.nil_inv] at hrow
          simp [init, Stats.SyncStats.new] at hrow
        simp [callsOf, Exchange.calls]
      have narrowed := returns_noWider calls first regular.past grown
      have narrowed' := returns_noWider calls' second regular
        (by rw [List.length_append]; omega)
      exact ((latest row hrow).2.noWider narrowed).noWider narrowed'
    have known := run_historical (calls'.mono fun _ _ _ h => Returns.goes h)
    obtain ⟨_, _, _, check⟩ := second.estimates (known.recalculates x.reply (by simp) (by simpa using short))
    refine ⟨?_, ?_⟩
    · intro row hrow
      obtain hrow | hrow := List.mem_append.mp hrow
      · exact ⟨(latest row hrow).1, kept row hrow⟩
      · obtain rfl := List.mem_singleton.mp hrow
        exact ⟨not_lt.mp (of_decide_eq_false check), le_refl _, le_refl _⟩
    · refine List.pairwise_append.mpr ⟨tightens, List.pairwise_singleton _ _, ?_⟩
      intro row hrow row' hrow'
      obtain rfl := List.mem_singleton.mp hrow'
      exact ⟨(kept row hrow).driftError, (kept row hrow).offsetError⟩

end

end Estimation

/-! ## The run of a session -/

namespace Session

section
variable {algo : Algo} {p : Pairing} {max now a b : ℚ} {requests : List Handshake}
  {replies : List HandshakeReply} {past : List Action} {s t : Session algo.Members}

/-- What the samples of a session have to meet for its checks to pass. -/
structure Diligent (p : Pairing) (max a : ℚ) (xs : List Sample) : Prop where
  slow : ∀ x ∈ xs, x.Slow p a
  below : Exceeds max (plane xs)
  short : 2 * xs.length < 2 ^ 32

theorem Diligent.earlier {xs ys : List Sample} (h : Diligent p max a ys) (le : xs <+: ys) :
    Diligent p max a xs := by
  have shorter := le.length_le
  have short := h.short
  exact ⟨fun x hx => h.slow x (le.subset hx), h.below.sub (plane_sub le), by omega⟩

theorem Step.samples {build : Build} {a : Action} (step : Step build p s a t) :
    s.net.samples <+: t.net.samples := by
  cases step with
  | network step => exact step.samples
  | process receiving taken => exact (Network.Step.syncReceive receiving taken).samples
  | failing receiving taken => exact (Network.Step.syncReceive receiving taken).samples

variable (related : p.Related a b) (sync : p.sync.minimumDelays.Nonneg)
  (reference : p.reference.Nonneg) (tick : 1 / 1000 ≤ p.reference.beacon + p.reference.beaconReply)
include related sync reference tick

/-- Slow samples in a row are a correct synchronisation, which returns as a whole. -/
theorem exists_feed {xs : List Sample} {es : List Exchange} (diligent : Diligent p max a xs)
    (made : ∀ x ∈ xs, x.Made p) (chain : xs.Pairwise Sample.Before) (h : Matches es xs) :
    ∃ o : Object algo.Members, Run (Returns .loguru) (Object.init max) (callsOf es) o := by
  have timed := h.timed related reference tick made diligent.slow
  have inOrder := h.chain related sync reference made diligent.slow chain
  have lengths : es.length = xs.length := by simpa using congrArg List.length h
  have below : ProductsBelow .loguru algo max (callsOf es) :=
    productsBelow_of_exceeds (diligent.below.sub h.sub)
  obtain ⟨o, run, _⟩ := run_callsOf related.drift timed inOrder
    (by rw [callsOf_length, lengths]; exact diligent.short) below
  exact ⟨o, run⟩

theorem run_fine (run : Run (QuietStep .loguru p) (start max now requests replies) past s)
    (diligent : Diligent p max a s.net.samples) : s.failed = none := by
  induction run with
  | start => rfl
  | @step past s t i before step ih =>
    have fine := ih (diligent.earlier step.1.samples)
    obtain ⟨past', steps⟩ := run_network (before.step step)
    obtain ⟨made, chain⟩ := Network.run_made steps
    obtain ⟨es, fed⟩ := run_fed before fine
    obtain ⟨step, _⟩ := step
    cases step with
    | network | process => exact fine
    | @failing i d rest reply c f e _ _ matched fails =>
      exfalso
      obtain ⟨sameTo, sameTr⟩ := dataPoints_shared p.sync s.net.sync reply (p.syncClock s.net.now)
      -- the exchange that failed completes a correct synchronisation
      let x := Estimation.exchange _ c sameTo sameTr
      have whole : Matches (es ++ [x]) (s.net.syncReceive p d rest).samples := by
        unfold Matches
        rw [syncReceive_samples matched, List.map_append, List.map_append, fed.points,
          List.map_singleton, List.map_singleton, Estimation.exchange_points]
      obtain ⟨o, run⟩ := exists_feed related sync reference tick diligent made chain whole
      rw [callsOf_snoc, List.append_assoc] at run
      obtain ⟨o', first, last⟩ := Run.append_inv _ run
      obtain rfl := run_unique first (Estimation.run_calls fed.run)
      exact Estimation.process_fails sameTo sameTr fails last

theorem rows_tighten (run : Run (QuietStep .loguru p) (start max now requests replies) past s)
    (diligent : Diligent p max a s.net.samples) :
    (∀ row ∈ s.estimation.stats.samples, 0 ≤ row.drift) ∧
      s.estimation.stats.samples.Pairwise Stats.Sample.Tightens := by
  obtain ⟨past', steps⟩ := run_network run
  obtain ⟨made, chain⟩ := Network.run_made steps
  obtain ⟨es, fed⟩ := run_fed run (run_fine related sync reference tick run diligent)
  have regular : Regular a b (callsOf es) :=
    Matches.regular related sync reference tick made diligent.slow fed.points chain diligent.short
  obtain ⟨latest, tightens⟩ := Estimation.rows_tighten fed.run regular
  exact ⟨fun row hrow => (latest row hrow).1, tightens⟩

end

end Session

/-- The products of the exchanges are far below 1000. -/
theorem steady_diligent : Session.Diligent steadyPairing 1000 1 steadyTwice.net.samples := by
  refine ⟨steady_slow, ?_, by decide⟩
  unfold Exceeds plane
  simp only [Set.mem_ofPred_eq]
  decide +kernel

end MiniSynCPP
