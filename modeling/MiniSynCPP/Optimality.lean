import MiniSynCPP.Repeats

/-!
# MiniSync forgets nothing that matters

The points that MiniSync stores, with its two current lines, sum up all data
points it was ever given: the drift and the offset interval are exactly the
slopes and intercepts of the lines that all of them admit.
-/

namespace MiniSynCPP

open Containers Runs Lines

namespace Base

/-- The stored points as points of the plane. -/
def stored (s : Base) : Points ℚ where
  lows := {p | ∃ l ∈ s.lowPoints, p = l.xy}
  highs := {p | ∃ h ∈ s.highPoints, p = h.xy}

end Base

section
variable {past : List Call} {c : Call} {s : Base}

theorem mem_samples_snoc_lows (p : ℚ × ℚ) :
    p ∈ (samples (past ++ [c])).lows ↔ p ∈ (samples past).lows ∨ p ∈ (samples [c]).lows := by
  simp [samples, or_and_right, exists_or]

theorem mem_samples_snoc_highs (p : ℚ × ℚ) :
    p ∈ (samples (past ++ [c])).highs ↔ p ∈ (samples past).highs ∨ p ∈ (samples [c]).highs := by
  simp [samples, or_and_right, exists_or]

theorem mem_pointsWith_lows (p : ℚ × ℚ) :
    p ∈ (s.pointsWith c).lows ↔ p ∈ s.stored.lows ∨ p ∈ (samples [c]).lows := by
  constructor
  · intro hp
    obtain ⟨l, hl | rfl, rfl⟩ := hp
    · exact .inl ⟨l, hl, rfl⟩
    · exact .inr ⟨c, by simp, rfl⟩
  · intro hp
    obtain ⟨l, hl, rfl⟩ | ⟨d, hd, rfl⟩ := hp
    · exact ⟨l, .inl hl, rfl⟩
    · rw [List.mem_singleton.mp hd]
      exact ⟨s.newLow c, .inr rfl, rfl⟩

theorem mem_pointsWith_highs (p : ℚ × ℚ) :
    p ∈ (s.pointsWith c).highs ↔ p ∈ s.stored.highs ∨ p ∈ (samples [c]).highs := by
  constructor
  · intro hp
    obtain ⟨l, hl | rfl, rfl⟩ := hp
    · exact .inl ⟨l, hl, rfl⟩
    · exact .inr ⟨c, by simp, rfl⟩
  · intro hp
    obtain ⟨l, hl, rfl⟩ | ⟨d, hd, rfl⟩ := hp
    · exact ⟨l, .inl hl, rfl⟩
    · rw [List.mem_singleton.mp hd]
      exact ⟨s.newHigh c, .inr rfl, rfl⟩

theorem extends_samples {X : ℚ} (old : ∀ d ∈ past, d.Tb ≤ X) (later : X < c.Tb) :
    Extends (samples past) (samples [c]) (samples (past ++ [c])) X c.Tb := by
  refine ⟨later, ?_, ?_, ?_, ?_, mem_samples_snoc_lows, mem_samples_snoc_highs⟩
  · intro r hr
    obtain ⟨d, hd, rfl⟩ := hr
    exact old d hd
  · intro r hr
    obtain ⟨d, hd, rfl⟩ := hr
    exact old d hd
  · intro r hr
    obtain ⟨d, hd, rfl⟩ := hr
    rw [List.mem_singleton.mp hd]
  · intro r hr
    obtain ⟨d, hd, rfl⟩ := hr
    rw [List.mem_singleton.mp hd]

theorem extends_stored {X : ℚ} (old : ∀ d ∈ past, d.Tb ≤ X) (later : X < c.Tb)
    (sub : s.stored.Sub (samples past)) :
    Extends s.stored (samples [c]) (s.pointsWith c) X c.Tb := by
  have whole := extends_samples old later
  exact ⟨later, fun r hr => whole.old_low r (sub.1 hr), fun r hr => whole.old_high r (sub.2 hr),
    whole.new_low, whole.new_high, mem_pointsWith_lows, mem_pointsWith_highs⟩

theorem Base.Historical.stored_sub {max : ℚ} (h : s.Historical max past) :
    s.stored.Sub (samples past) := by
  constructor
  · intro p hp
    obtain ⟨l, hl, rfl⟩ := hp
    exact h.lowPoints l hl
  · intro p hp
    obtain ⟨l, hl, rfl⟩ := hp
    exact h.highPoints l hl

end

/-- Data points in strict order right of the origin, strictly admitted by `a` and `b`. -/
structure Regular (a b : ℚ) (past : List Call) : Prop where
  increasing : Increasing past
  right : ∀ d ∈ past, 0 ≤ d.Tb
  bracketed : ∀ d ∈ past, d.To < a * d.Tb + b ∧ a * d.Tb + b < d.Tr
  short : past.length < 2 ^ 32

theorem Regular.past {a b : ℚ} {past : List Call} {c : Call} (h : Regular a b (past ++ [c])) :
    Regular a b past := by
  have short := h.short
  rw [List.length_append] at short
  exact ⟨h.increasing.past, fun d hd => h.right d (List.mem_append_left _ hd),
    fun d hd => h.bracketed d (List.mem_append_left _ hd), by omega⟩

/-! ## Calls that end with a pair -/

section
variable {M : Type} [Subclass M]

/-- A call that goes on and, if it searched, ends with two lines. -/
def Finds (build : Build) (o : Object M) (c : Call) (t : Object M) : Prop :=
  Goes build o c t ∧ (1 < (o.base.added c).processedTimestamps → NonNull t.base)

theorem Returns.finds [LawfulSubclass M] {build : Build} {o t : Object M} {c : Call}
    (h : Returns build o c t) : Finds build o c t := by
  refine ⟨h.goes, ?_⟩
  intro later
  obtain ⟨low, high, estimates, _⟩ := h.estimates later
  unfold NonNull
  rw [estimates.currentLow, estimates.currentHigh]
  simp

end

theorem run_finds {algo : Algo} {build : Build} {max : ℚ} {past : List Call}
    {o : Object algo.Members} (run : Run (Goes build) (Object.init max) past o)
    (increasing : Increasing past) (below : ProductsBelow build algo max past) :
    Run (Finds build) (Object.init max) past o := by
  induction run with
  | start => exact .start
  | @step past o t c before step ih =>
    refine .step (ih increasing.past below.past) ⟨step, ?_⟩
    intro later
    have started : past ≠ [] := by
      intro e
      rw [e] at before
      rw [before.nil_inv] at later
      have count : ((Object.init max : Object algo.Members).base.added c).processedTimestamps = 0 + 1 :=
        rfl
      rw [count] at later
      exact absurd later (by decide)
    obtain ⟨x, same⟩ | nonNull :=
      run_nonNull (before.step step) increasing.inOrder increasing.growsAtOnce below
    · obtain ⟨d, hd⟩ := List.exists_mem_of_ne_nil past started
      have lt := increasing.newest d hd
      rw [same d (List.mem_append_left [c] hd), same c (by simp)] at lt
      exact absurd lt (lt_irrefl x)
    · exact nonNull

/-! ## What one cleanup keeps -/

namespace MiniSync

section
variable {o t : Object MiniSync} {c : Call}

/-- The low points that a cleanup drops are below the chord of any two kept ones around them. -/
theorem belowChord_lows (h : (lowSide o).Pruned o.base.usesLow (fun m m' => m > m') (lowSide t))
    {E : Points ℚ} (hE : ∀ r ∈ E.lows, ∃ l ∈ o.base.lowPoints, r = l.xy) {p q : PointPtr}
    (hp : p ∈ t.base.lowPoints) (hq : q ∈ t.base.lowPoints) :
    BelowChord E t.base.stored p.xy q.xy := by
  intro r hr gone hpr hrq
  obtain ⟨l, hl, rfl⟩ := hE r hr
  have dropped : l ∉ t.base.lowPoints := fun kept => gone ⟨l, kept, rfl⟩
  have compared := h.dropped l hl dropped p hp q hq hpr hrq
  exact below_chord hpr hrq (not_lt.mp (of_decide_eq_false compared))

theorem belowChord_highs (h : (highSide o).Pruned o.base.usesHigh (fun m m' => m < m') (highSide t))
    {E : Points ℚ} (hE : ∀ r ∈ E.highs, ∃ l ∈ o.base.highPoints, r = l.xy) {p q : PointPtr}
    (hp : p ∈ t.base.highPoints) (hq : q ∈ t.base.highPoints) :
    BelowChord E.mirror t.base.stored.mirror (Lines.mirror p.xy) (Lines.mirror q.xy) := by
  intro r hr gone hpr hrq
  obtain ⟨l, hl, same⟩ := hE (Lines.mirror r) hr
  have dropped : l ∉ t.base.highPoints := by
    intro kept
    exact gone ⟨l, kept, same⟩
  have flip : r = Lines.mirror l.xy := by rw [← same, Lines.mirror_mirror]
  rw [flip] at hpr hrq ⊢
  have compared := h.dropped l hl dropped p hp q hq hpr hrq
  have falls : slope l q ≤ slope p l := not_lt.mp (of_decide_eq_false compared)
  apply below_chord hpr hrq
  rw [through_mirror, through_mirror]
  exact neg_le_neg falls

end
end MiniSync

/-! ## What a run keeps -/

section
variable {build : Build} {max a b : ℚ} {past : List Call} {c : Call} {o : Object MiniSync}

theorem Base.Accepts.searched_lows (h : o.base.Accepts c) :
    ∀ r ∈ (o.base.pointsWith c).lows, ∃ l ∈ (o.searched c).base.lowPoints, r = l.xy := by
  intro r hr
  obtain ⟨l, hl, rfl⟩ := hr
  exact ⟨l, (searched_tightest o c).untouched.1.1 ▸ h.mem_low.mpr hl, rfl⟩

theorem Base.Accepts.searched_highs (h : o.base.Accepts c) :
    ∀ r ∈ (o.base.pointsWith c).highs, ∃ l ∈ (o.searched c).base.highPoints, r = l.xy := by
  intro r hr
  obtain ⟨l, hl, rfl⟩ := hr
  exact ⟨l, (searched_tightest o c).untouched.1.2 ▸ h.mem_high.mpr hl, rfl⟩

/-- What a call stores in the end it had at its start or was given. -/
theorem Base.Recalculated.stored_sub {s t : Base} (h : s.Recalculated c t) (accepts : s.Accepts c) :
    t.stored.Sub (s.pointsWith c) := by
  constructor
  · intro r hr
    obtain ⟨l, hl, rfl⟩ := hr
    exact ⟨l, accepts.mem_low.mp (h.lowPoints l hl), rfl⟩
  · intro r hr
    obtain ⟨l, hl, rfl⟩ := hr
    exact ⟨l, accepts.mem_high.mp (h.highPoints l hl), rfl⟩

theorem Increasing.le_last (h : Increasing (past ++ [c])) : ∀ d ∈ past ++ [c], d.Tb ≤ c.Tb := by
  intro d hd
  cases List.mem_append.mp hd with
  | inl hd => exact (h.newest d hd).le
  | inr hd => rw [List.mem_singleton.mp hd]

/-- The candidates of a call are summed up by what its cleanup keeps. -/
theorem summary_of_cleanup (run : Run (Goes build) (Object.init max) past o)
    (increasing : Increasing (past ++ [c])) (right : ∀ d ∈ past ++ [c], 0 ≤ d.Tb)
    (bracketed : ∀ d ∈ past ++ [c], d.To < a * d.Tb + b ∧ a * d.Tb + b < d.Tr)
    {t : Object MiniSync} (cleaned : Subclass.cleanup (o.searched c) = .ok () t) {low high : Entry}
    (held : t.base.Holds low high) :
    o.base.Best c low high ∧
    Summary (o.base.pointsWith c) t.base.stored low.2.line high.2.line low.1.1.xy low.1.2.xy
      high.1.2.xy high.1.1.xy c.Tb := by
  have known := run_historical run
  obtain ⟨hs, kept⟩ := run_kept run increasing.past
  have accepts := known.accepts increasing.distinct
  have hf := (brackets_samples.mpr bracketed).sub (known.pointsWith_sub c)
  have h0 := Base.rightHalf_sub (rightHalf_samples right) (known.pointsWith_sub c)
  have recalculated := cleanup_recalculated cleaned
  have best := recalculated.best hs kept hf h0 held
  refine ⟨best, ?_⟩
  -- the points of the pair are stored
  obtain ⟨lowEntry, highEntry⟩ := recalculated.kept hs kept accepts low high held
  have mirrors := recalculated.mirrors hs
  obtain ⟨l₁, h₁, _, _⟩ := (mirrors.low low).mp lowEntry
  obtain ⟨l₂, h₂, _, _⟩ := (mirrors.high high).mp highEntry
  have ready := searched_ready (OrderedSubclass.ready_added (run_ready run increasing.past.inOrder)
    (known.lows_le increasing.inOrder) (known.highs_le increasing.inOrder))
  obtain ⟨t', cleaned', lows, highs⟩ := MiniSync.cleanup_pruned ready
  have same : t' = t := by
    have := cleaned'.symm.trans cleaned
    cases this
    rfl
  rw [same] at lows highs
  apply summary_of_chords (best.upper hs hf) (best.lower hs hf) (recalculated.stored_sub accepts)
    ⟨_, l₁, rfl⟩ ⟨_, h₁, rfl⟩ ⟨_, h₂, rfl⟩ ⟨_, l₂, rfl⟩
  · intro r hr
    obtain ⟨d, hd, rfl⟩ := (known.pointsWith_sub c).1 hr
    exact increasing.le_last d hd
  · intro r hr
    obtain ⟨d, hd, rfl⟩ := (known.pointsWith_sub c).2 hr
    exact increasing.le_last d hd
  · exact MiniSync.belowChord_lows lows accepts.searched_lows l₁ l₂
  · exact MiniSync.belowChord_highs highs accepts.searched_highs h₂ h₁

/-- The object after recalculations: its pair and its points sum up the history. -/
structure Optimal (past : List Call) (s : Base) (low high : Entry) : Prop where
  holds : s.Holds low high
  estimates : s.Estimates low.2 high.2
  summary : ∃ X, (∀ d ∈ past, d.Tb ≤ X) ∧ (∃ d ∈ past, X ≤ d.Tb) ∧
    Summary (samples past) s.stored low.2.line high.2.line low.1.1.xy low.1.2.xy high.1.2.xy
      high.1.1.xy X

theorem stored_first {d : Call} (run : Run (Goes build) (Object.init max) [d] o) :
    o.base.stored = samples [d] := by
  have known := run_historical run
  have counted : ¬ 1 < o.base.processedTimestamps := by
    rw [known.count, List.length_singleton]
    decide
  obtain ⟨⟨l, hl⟩, ⟨r, hr⟩⟩ := (run_idle (x := d.Tb) run (by simp)).stored counted (by simp)
  obtain ⟨lows, highs⟩ := known.stored_sub
  ext p
  · refine ⟨fun hp => lows hp, ?_⟩
    intro hp
    obtain ⟨e, he, rfl⟩ := hp
    obtain ⟨f, hf, same⟩ := known.lowPoints l hl
    rw [List.mem_singleton.mp he, ← List.mem_singleton.mp hf]
    exact ⟨l, hl, same.symm⟩
  · refine ⟨fun hp => highs hp, ?_⟩
    intro hp
    obtain ⟨e, he, rfl⟩ := hp
    obtain ⟨f, hf, same⟩ := known.highPoints r hr
    rw [List.mem_singleton.mp he, ← List.mem_singleton.mp hf]
    exact ⟨r, hr, same.symm⟩

theorem pointsWith_eq {s : Base} (h : s.stored = samples past) :
    s.pointsWith c = samples (past ++ [c]) := by
  ext p
  · rw [mem_pointsWith_lows, mem_samples_snoc_lows, h]
  · rw [mem_pointsWith_highs, mem_samples_snoc_highs, h]

theorem publish_left_held {M : Type} {t : Object M} {low high : Entry} (held : t.base.Holds low high) :
    left (publish build t) = { t with base := t.base.estimate low.2 high.2 } := by
  rw [publish_run, held.currentLow, held.currentHigh]
  simp only
  split <;> rfl

/-- The second call has all points of the history to choose from. -/
theorem optimal_second {d : Call} {o' : Object MiniSync}
    (run : Run (Goes build) (Object.init max) [d] o) (regular : Regular a b ([d] ++ [c]))
    (step : Finds build o c o') : ∃ low high, Optimal ([d] ++ [c]) o'.base low high := by
  obtain ⟨goes, finds⟩ := step
  have known := run_historical run
  have increasing := regular.increasing
  have lt : d.Tb < c.Tb := increasing.newest d (by simp)
  obtain ⟨first, _⟩ | ⟨later, t, cleaned, _, called⟩ := addDataPoint_ready build
    (run_ready run increasing.past.inOrder) (known.lows_le increasing.inOrder)
    (known.highs_le increasing.inOrder)
  · exact absurd (known.recalculates c (by simp) (by simp)) first
  · have idle := run_idle (x := d.Tb) run (by simp)
    obtain ⟨drift, offset, published⟩ := publish_left build t
    have left := goes.left_eq
    rw [called, published] at left
    have pair : ∃ low high, t.base.Holds low high := by
      obtain same | ⟨low, _, high, _, _, same⟩ := (cleanup_recalculated cleaned).pair
      · have unset := idle.unset.same same
        have nonNull := finds later
        rw [← left] at nonNull
        exact absurd unset.currentLow nonNull.1
      · exact ⟨low, high, (o.base.take_holds low high).same same⟩
    obtain ⟨low, high, held⟩ := pair
    obtain ⟨_, summary⟩ :=
      summary_of_cleanup run increasing regular.right regular.bracketed cleaned held
    rw [pointsWith_eq (stored_first run)] at summary
    rw [← goes.left_eq, called, publish_left_held held]
    refine ⟨low, high, ⟨held.1, held.2, held.3, held.4, held.5⟩, ⟨held.1, held.2, rfl, rfl⟩, c.Tb, ?_,
      ⟨c, by simp, le_refl _⟩, summary⟩
    simpa using lt.le

/-- A later call chooses among the kept points as among all. -/
theorem Optimal.step {o' : Object MiniSync} {low high : Entry} (h : Optimal past o.base low high)
    (run : Run (Goes build) (Object.init max) past o)
    (regular : Regular a b (past ++ [c])) (step : Goes build o c o') :
    ∃ low high, Optimal (past ++ [c]) o'.base low high := by
  have known := run_historical run
  have increasing := regular.increasing
  obtain ⟨X, old, ⟨d, hd, le⟩, summary⟩ := h.summary
  have started := List.ne_nil_of_mem hd
  have later := le.trans_lt (increasing.newest d hd)
  have short := regular.short
  rw [List.length_append, List.length_singleton] at short
  obtain ⟨hs, _⟩ := run_kept run increasing.past
  obtain ⟨first, _⟩ | ⟨_, t, cleaned, _, called⟩ := addDataPoint_ready build
    (run_ready run increasing.past.inOrder) (known.lows_le increasing.inOrder)
    (known.highs_le increasing.inOrder)
  · exact absurd (known.recalculates c started short) first
  · have pair : ∃ low high, t.base.Holds low high := by
      obtain same | ⟨low', _, high', _, _, same⟩ := (cleanup_recalculated cleaned).pair
      · exact ⟨low, high, h.holds.same same⟩
      · exact ⟨low', high', (o.base.take_holds low' high').same same⟩
    obtain ⟨low', high', held⟩ := pair
    obtain ⟨best, next⟩ :=
      summary_of_cleanup run increasing regular.right regular.bracketed cleaned held
    rw [hs.low_line best.low_mem, hs.high_line best.high_mem] at next
    have extended := summary.extend (extends_samples old later)
      (extends_stored old later known.stored_sub) (brackets_samples.mpr regular.bracketed)
      (best.flattest_points hs) (best.steepest_points hs) next
    rw [← hs.low_line best.low_mem, ← hs.high_line best.high_mem] at extended
    rw [← step.left_eq, called, publish_left_held held]
    exact ⟨low', high', ⟨held.1, held.2, held.3, held.4, held.5⟩, ⟨held.1, held.2, rfl, rfl⟩, c.Tb,
      increasing.le_last, ⟨c, by simp, le_refl _⟩, extended⟩

theorem run_optimal (run : Run (Finds build) (Object.init max) past o) (regular : Regular a b past)
    (second : 2 ≤ past.length) : ∃ low high, Optimal past o.base low high := by
  refine run.invariant_of_inputs (Q := Regular a b)
    (P := fun past o => 2 ≤ past.length → ∃ low high, Optimal past o.base low high)
    (fun _ _ h => h.past) (fun h => by simp at h) ?_ regular second
  intro past o c o' before regular ih step second
  have goes := before.mono fun _ _ _ h => h.1
  rw [List.length_append, List.length_singleton] at second
  by_cases grown : 2 ≤ past.length
  · obtain ⟨low, high, optimal⟩ := ih grown
    exact optimal.step goes regular step.1
  · obtain ⟨d, rfl⟩ := List.length_eq_one_iff.mp (show past.length = 1 by omega)
    exact optimal_second goes regular step

end

/-- **MiniSync is optimal.** After every recalculation the two intervals are
exactly the slopes and the intercepts of the lines that all data points admit. -/
theorem miniSync_optimal (build : Build) (max a b : ℚ) (past : List Call) (o : Object MiniSync)
    (run : Run (Goes build) (Object.init max) past o) (increasing : Increasing past)
    (right : ∀ d ∈ past, 0 ≤ d.Tb)
    (bracketed : ∀ d ∈ past, d.To < a * d.Tb + b ∧ a * d.Tb + b < d.Tr)
    (below : ProductsBelow build .miniSync max past) (short : past.length < 2 ^ 32)
    (second : 2 ≤ past.length) :
    Set.Icc (o.base.getDrift - o.base.getDriftError) (o.base.getDrift + o.base.getDriftError) =
      {a' | ∃ b', ∀ d ∈ past, d.To ≤ a' * d.Tb + b' ∧ a' * d.Tb + b' ≤ d.Tr} ∧
    Set.Icc (o.base.getOffset - o.base.getOffsetError) (o.base.getOffset + o.base.getOffsetError) =
      {b' | ∃ a', ∀ d ∈ past, d.To ≤ a' * d.Tb + b' ∧ a' * d.Tb + b' ≤ d.Tr} := by
  obtain ⟨low, high, optimal⟩ :=
    run_optimal (run_finds run increasing below) ⟨increasing, right, bracketed, short⟩ second
  obtain ⟨X, _, _, summary⟩ := optimal.summary
  have slopes := slopes_eq_Icc summary.lower summary.upper
  have icepts := icepts_eq_Icc (rightHalf_samples right) summary.lower summary.upper
  simp only [fits_samples] at slopes icepts
  unfold Base.getDrift Base.getDriftError Base.getOffset Base.getOffsetError
  rw [optimal.estimates.drift, optimal.estimates.offset, slopes, icepts]
  constructor
  · congr 1
    · simp only [ConstraintLine.line_slope]
      ring
    · simp only [ConstraintLine.line_slope]
      ring
  · congr 1
    · simp only [ConstraintLine.line_icept]
      ring
    · simp only [ConstraintLine.line_icept]
      ring

/-- Four data points, the first of which the last cleanup forgets. -/
theorem miniSync_optimal_four :
    let past := [Call.listed (-2) 0 2, .listed (1 / 2) 1 2, .listed 1 2 3, .listed 2 3 4]
    let o : Object MiniSync := (Object.init 1000).after .plain past
    Set.Icc (o.base.getDrift - o.base.getDriftError) (o.base.getDrift + o.base.getDriftError) =
      {a' | ∃ b', ∀ d ∈ past, d.To ≤ a' * d.Tb + b' ∧ a' * d.Tb + b' ≤ d.Tr} ∧
    Set.Icc (o.base.getOffset - o.base.getOffsetError) (o.base.getOffset + o.base.getOffsetError) =
      {b' | ∃ a', ∀ d ∈ past, d.To ≤ a' * d.Tb + b' ∧ a' * d.Tb + b' ≤ d.Tr} := by
  intro past o
  exact miniSync_optimal .plain 1000 1 0 past o (run_after_plain _ past)
    (by norm_num [past, Increasing, Call.listed]) (by simp [past, Call.listed])
    (by norm_num [past, Call.listed]) (productsBelow_of_check (by decide +kernel))
    (by simp [past]) (by simp [past])

end MiniSynCPP
