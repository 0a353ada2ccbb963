import Mathlib.Data.Finset.Max
import MiniSynCPP.Slopes
import MiniSynCPP.Soundness

/-!
# The pair of least product

The least product of the two gaps belongs to the flattest low line together
with the steepest high line, when some line passes strictly between the
points. As long as the current pair is in the tables each call moves to the
best pair of its candidates.
-/

namespace MiniSynCPP

open Containers Runs Lines

/-! ## Recalculating calls -/

namespace Base

/-- What a call that searched and cleaned up made of the object. -/
structure Recalculated (s : Base) (c : Call) (t : Base) : Prop where
  least : ∀ low ∈ (s.added c).lowConstraints, ∀ high ∈ (s.added c).highConstraints,
    t.diffFactor ≤ tmpDiff low.2 high.2
  pair : s.SamePair t ∨ ∃ low ∈ (s.added c).lowConstraints, ∃ high ∈ (s.added c).highConstraints,
    tmpDiff low.2 high.2 < s.diffFactor ∧ (s.take low high).SamePair t
  lowPoints : ∀ p ∈ t.lowPoints, p ∈ (s.added c).lowPoints
  highPoints : ∀ p ∈ t.highPoints, p ∈ (s.added c).highPoints
  usedLow : ∀ p ∈ (s.added c).lowPoints, t.usesLow p = true → p ∈ t.lowPoints
  usedHigh : ∀ p ∈ (s.added c).highPoints, t.usesHigh p = true → p ∈ t.highPoints
  low : ∀ e, e ∈ t.lowConstraints ↔
    e ∈ (s.added c).lowConstraints ∧ e.1.1 ∈ t.lowPoints ∧ e.1.2 ∈ t.highPoints
  high : ∀ e, e ∈ t.highConstraints ↔ (e ∈ (s.added c).highConstraints ∧
    (s.added c).lowConstraints.contains e.1 = false) ∧ e.1.1 ∈ t.lowPoints ∧ e.1.2 ∈ t.highPoints

theorem Recalculated.publish {s t : Base} {c : Call} (h : s.Recalculated c t)
    (drift offset : Estimate) :
    s.Recalculated c { t with currentDrift := drift, currentOffset := offset } := by
  have same : t.SamePair { t with currentDrift := drift, currentOffset := offset } :=
    ⟨rfl, rfl, rfl, rfl, rfl⟩
  refine ⟨h.least, ?_, h.lowPoints, h.highPoints, h.usedLow, h.usedHigh, h.low, h.high⟩
  refine h.pair.imp (SamePair.trans · same) ?_
  intro held
  obtain ⟨low, hl, high, hh, lt, taken⟩ := held
  exact ⟨low, hl, high, hh, lt, taken.trans same⟩

theorem SamePair.usesLow {s t : Base} (h : s.SamePair t) (p : LPointPtr) :
    t.usesLow p = s.usesLow p := by
  unfold Base.usesLow
  rw [h.lowPts, h.highPts]

theorem SamePair.usesHigh {s t : Base} (h : s.SamePair t) (p : HPointPtr) :
    t.usesHigh p = s.usesHigh p := by
  unfold Base.usesHigh
  rw [h.lowPts, h.highPts]

theorem Tightest.recalculated {s t u : Base} {c : Call}
    (tight : (s.added c).Tightest (s.added c).lowConstraints.entries
      (s.added c).highConstraints.entries t)
    (prunes : t.Prunes u) (rebuilds : t.Rebuilds u) : s.Recalculated c u := by
  have frame := tight.frame prunes
  have same := prunes.samePair
  -- the search touches neither the points nor the tables
  have kept : t.lowPoints = (s.added c).lowPoints ∧ t.highPoints = (s.added c).highPoints ∧
      t.lowConstraints = (s.added c).lowConstraints ∧
      t.highConstraints = (s.added c).highConstraints := by
    obtain rfl | ⟨low, _, high, _, _, rfl⟩ := tight.taken
    · exact ⟨rfl, rfl, rfl, rfl⟩
    · exact ⟨rfl, rfl, rfl, rfl⟩
  obtain ⟨lowPoints, highPoints, lows, highs⟩ := kept
  refine ⟨?_, frame.pair, frame.lowPoints, frame.highPoints, ?_, ?_, ?_, ?_⟩
  · intro low hl high hh
    rw [same.diffFactor]
    exact tight.least low hl high hh
  · intro p hp hu
    rw [same.usesLow] at hu
    exact prunes.usedLow p (lowPoints ▸ hp) hu
  · intro p hp hu
    rw [same.usesHigh] at hu
    exact prunes.usedHigh p (highPoints ▸ hp) hu
  · intro e
    rw [rebuilds.low, lows]
  · intro e
    rw [rebuilds.high, lows, highs]

end Base

section
variable {M : Type} [Subclass M] [LawfulSubclass M]

theorem cleanup_recalculated {o t : Object M} {c : Call}
    (h : Subclass.cleanup (o.searched c) = .ok () t) : o.base.Recalculated c t.base :=
  (searched_tightest o c).recalculated (cleanup_ok_prunes h) (LawfulSubclass.cleanup_rebuilds h)

/-- While data points arrive in order, a call either counts or recalculates. -/
theorem Goes.ordered [OrderedSubclass M] {build : Build} {max : ℚ} {past : List Call} {c : Call}
    {o t : Object M} (run : Run (Goes build) (Object.init max) past o)
    (inOrder : InOrder (past ++ [c])) (step : Goes build o c t) :
    (¬ 1 < (o.base.added c).processedTimestamps ∧ t = o.added c) ∨
    (1 < (o.base.added c).processedTimestamps ∧ o.base.Recalculated c t.base) := by
  have known := run_historical run
  have ready := run_ready run inOrder.past
  have left := step.left_eq
  obtain ⟨first, called⟩ | ⟨later, u, cleaned, _, called⟩ :=
    addDataPoint_ready build ready (known.lows_le inOrder) (known.highs_le inOrder)
  · rw [called] at left
    exact .inl ⟨first, left.symm⟩
  · obtain ⟨drift, offset, published⟩ := publish_left build u
    rw [called, published] at left
    apply Or.inr
    rw [← left]
    exact ⟨later, (cleanup_recalculated cleaned).publish drift offset⟩

end

/-! ## The tables mirror the stored points -/

namespace Base

theorem init_mirrors (max : ℚ) : (Base.init max).Mirrors := by
  constructor <;> intro e <;> simp [Base.init]

/-- Neither set holds a point at the reference timestamp of the call. -/
structure Accepts (s : Base) (c : Call) : Prop where
  low : ∀ p ∈ s.lowPoints, p.x ≠ c.Tb
  high : ∀ p ∈ s.highPoints, p.x ≠ c.Tb

theorem init_accepts (max : ℚ) (c : Call) : (Base.init max).Accepts c :=
  ⟨by simp [Base.init], by simp [Base.init]⟩

theorem Accepts.mem_low {s : Base} {c : Call} (h : s.Accepts c) {p : LPointPtr} :
    p ∈ (s.added c).lowPoints ↔ p ∈ s.lowsWith c := by
  rw [mem_added_lowPoints]
  exact or_congr_right ⟨And.left, fun e => ⟨e, h.low⟩⟩

theorem Accepts.mem_high {s : Base} {c : Call} (h : s.Accepts c) {p : HPointPtr} :
    p ∈ (s.added c).highPoints ↔ p ∈ s.highsWith c := by
  rw [mem_added_highPoints]
  exact or_congr_right ⟨And.left, fun e => ⟨e, h.high⟩⟩

theorem mem_lowsWith {s : Base} {c : Call} {p : LPointPtr} (h : p ∈ (s.added c).lowPoints) :
    p ∈ s.lowsWith c :=
  (mem_added_lowPoints.mp h).imp_right And.left

theorem mem_highsWith {s : Base} {c : Call} {p : HPointPtr} (h : p ∈ (s.added c).highPoints) :
    p ∈ s.highsWith c :=
  (mem_added_highPoints.mp h).imp_right And.left

theorem Mirrors.added {s : Base} {c : Call} (hs : s.Mirrors) (h : s.Accepts c) :
    (s.added c).Mirrors := by
  constructor
  · intro e
    rw [hs.added_low c, h.mem_low, h.mem_high]
  · intro e
    rw [hs.added_high c, h.mem_low, h.mem_high]

/-- A high entry is not a low one as well. -/
theorem Mirrors.not_contains {s : Base} (hs : s.Mirrors) {c : Call} {e : Entry}
    (he : e ∈ (s.added c).highConstraints) : (s.added c).lowConstraints.contains e.1 = false := by
  have later := ((hs.added_high c e).mp he).2.2.1
  apply UnorderedMap.contains_eq_false.mpr
  intro line hline
  have := ((hs.added_low c _).mp hline).2.2.1
  exact absurd later this.not_gt

theorem Recalculated.mirrors {s t : Base} {c : Call} (h : s.Recalculated c t) (hs : s.Mirrors) :
    t.Mirrors := by
  constructor
  · intro e
    rw [h.low, hs.added_low c]
    constructor
    · intro he
      obtain ⟨⟨_, _, later, line⟩, hl, hh⟩ := he
      exact ⟨hl, hh, later, line⟩
    · intro he
      obtain ⟨hl, hh, later, line⟩ := he
      exact ⟨⟨mem_lowsWith (h.lowPoints _ hl), mem_highsWith (h.highPoints _ hh), later, line⟩, hl, hh⟩
  · intro e
    rw [h.high]
    constructor
    · intro he
      obtain ⟨⟨he, _⟩, hl, hh⟩ := he
      obtain ⟨_, _, later, line⟩ := (hs.added_high c e).mp he
      exact ⟨hl, hh, later, line⟩
    · intro he
      obtain ⟨hl, hh, later, line⟩ := he
      have entry : e ∈ (s.added c).highConstraints := (hs.added_high c e).mpr
        ⟨mem_lowsWith (h.lowPoints _ hl), mem_highsWith (h.highPoints _ hh), later, line⟩
      exact ⟨⟨entry, hs.not_contains entry⟩, hl, hh⟩

/-- The lines of the current pair are entries of the tables. -/
def Kept (s : Base) : Prop :=
  ∀ low high, s.Holds low high → low ∈ s.lowConstraints ∧ high ∈ s.highConstraints

theorem Holds.uses {s : Base} {low high : Entry} (h : s.Holds low high) :
    (s.usesLow low.1.1 = true ∧ s.usesHigh low.1.2 = true) ∧
      s.usesLow high.1.1 = true ∧ s.usesHigh high.1.2 = true := by
  simp [usesLow, usesHigh, h.lowPts, h.highPts]

theorem SamePair.symm {s t : Base} (h : s.SamePair t) : t.SamePair s :=
  ⟨h.1.symm, h.2.symm, h.3.symm, h.4.symm, h.5.symm⟩

theorem Holds.unique {s : Base} {low high low' high' : Entry} (h : s.Holds low high)
    (h' : s.Holds low' high') : low = low' ∧ high = high' := by
  obtain ⟨⟨l₁, h₁⟩, line₁⟩ := low
  obtain ⟨⟨l₂, h₂⟩, line₂⟩ := high
  obtain ⟨⟨l₃, h₃⟩, line₃⟩ := low'
  obtain ⟨⟨l₄, h₄⟩, line₄⟩ := high'
  have low := h.currentLow.symm.trans h'.currentLow
  have high := h.currentHigh.symm.trans h'.currentHigh
  have lowPts := h.lowPts.symm.trans h'.lowPts
  have highPts := h.highPts.symm.trans h'.highPts
  simp only [Option.some.injEq, Prod.mk.injEq] at low high lowPts highPts
  simp [low, high, lowPts, highPts]

theorem Mirrors.low_added {s : Base} (hs : s.Mirrors) {c : Call} {e : Entry}
    (he : e ∈ s.lowConstraints) : e ∈ (s.added c).lowConstraints :=
  ((added_tables hs.drawn c).2.1 e).mpr (.inl (.inl he))

theorem Mirrors.high_added {s : Base} (hs : s.Mirrors) {c : Call} {e : Entry}
    (he : e ∈ s.highConstraints) : e ∈ (s.added c).highConstraints :=
  ((added_tables hs.drawn c).2.2 e).mpr (.inl (.inl he))

theorem init_kept (max : ℚ) : (Base.init max).Kept := by
  intro low high held
  cases held.currentLow

theorem Kept.added {s : Base} {c : Call} (kept : s.Kept) (hs : s.Mirrors) : (s.added c).Kept := by
  intro low high held
  obtain ⟨hl, hh⟩ := kept low high (held.same (s.added_samePair c).symm)
  exact ⟨hs.low_added hl, hs.high_added hh⟩

/-- With the old pair in the tables the new pair is one of the candidates. -/
theorem Recalculated.candidate {s t : Base} {c : Call} (h : s.Recalculated c t) (hs : s.Mirrors)
    (kept : s.Kept) {low high : Entry} (held : t.Holds low high) :
    low ∈ (s.added c).lowConstraints ∧ high ∈ (s.added c).highConstraints := by
  obtain same | ⟨low', hl, high', hh, _, same⟩ := h.pair
  · obtain ⟨hl, hh⟩ := kept low high (held.same same.symm)
    exact ⟨hs.low_added hl, hs.high_added hh⟩
  · obtain ⟨rfl, rfl⟩ := held.unique ((s.take_holds low' high').same same)
    exact ⟨hl, hh⟩

/-- A call whose data point is taken in keeps the current pair in the tables. -/
theorem Recalculated.kept {s t : Base} {c : Call} (h : s.Recalculated c t) (hs : s.Mirrors)
    (kept : s.Kept) (accepts : s.Accepts c) : t.Kept := by
  intro low high held
  obtain ⟨hl, hh⟩ := h.candidate hs kept held
  obtain ⟨⟨uses₁, uses₂⟩, uses₃, uses₄⟩ := held.uses
  obtain ⟨l₁, h₁, _⟩ := (hs.added_low c low).mp hl
  obtain ⟨l₂, h₂, _⟩ := (hs.added_high c high).mp hh
  constructor
  · exact (h.low low).mpr ⟨hl, h.usedLow _ (accepts.mem_low.mpr l₁) uses₁,
      h.usedHigh _ (accepts.mem_high.mpr h₁) uses₂⟩
  · exact (h.high high).mpr ⟨⟨hh, hs.not_contains hh⟩, h.usedLow _ (accepts.mem_low.mpr l₂) uses₃,
      h.usedHigh _ (accepts.mem_high.mpr h₂) uses₄⟩

/-! ## The best pair of candidates -/

/-- The points that the candidate lines of a call run between. -/
def pointsWith (s : Base) (c : Call) : Points ℚ where
  lows := {p | ∃ l ∈ s.lowsWith c, p = l.xy}
  highs := {p | ∃ h ∈ s.highsWith c, p = h.xy}

/-- `low` is flattest of the low candidates and `high` steepest of the high ones. -/
structure Best (s : Base) (c : Call) (low high : Entry) : Prop where
  low_mem : low ∈ (s.added c).lowConstraints
  high_mem : high ∈ (s.added c).highConstraints
  flattest : ∀ e ∈ (s.added c).lowConstraints, low.2.a ≤ e.2.a
  steepest : ∀ e ∈ (s.added c).highConstraints, e.2.a ≤ high.2.a

theorem exists_best {s : Base} {c : Call} {low high : Entry}
    (hl : low ∈ (s.added c).lowConstraints) (hh : high ∈ (s.added c).highConstraints) :
    ∃ low high, s.Best c low high := by
  obtain ⟨u, hu, flattest⟩ := (s.added c).lowConstraints.entries.toFinset.exists_min_image
    (fun e => e.2.a) ⟨low, List.mem_toFinset.mpr hl⟩
  obtain ⟨l, hl, steepest⟩ := (s.added c).highConstraints.entries.toFinset.exists_max_image
    (fun e => e.2.a) ⟨high, List.mem_toFinset.mpr hh⟩
  refine ⟨u, l, List.mem_toFinset.mp hu, List.mem_toFinset.mp hl, ?_, ?_⟩
  · intro e he
    exact flattest e (List.mem_toFinset.mpr he)
  · intro e he
    exact steepest e (List.mem_toFinset.mpr he)

section
variable {s : Base} {c : Call} {f : Line ℚ}

theorem Mirrors.low_line (hs : s.Mirrors) {e : Entry} (he : e ∈ (s.added c).lowConstraints) :
    e.2.line = through e.1.1.xy e.1.2.xy := by
  rw [((hs.added_low c e).mp he).2.2.2]
  rfl

theorem Mirrors.high_line (hs : s.Mirrors) {e : Entry} (he : e ∈ (s.added c).highConstraints) :
    e.2.line = through e.1.2.xy e.1.1.xy := by
  obtain ⟨_, _, later, line⟩ := (hs.added_high c e).mp he
  rw [line]
  exact between_line' later

theorem Mirrors.low_points (hs : s.Mirrors) {e : Entry} (he : e ∈ (s.added c).lowConstraints) :
    e.1.1.xy ∈ (s.pointsWith c).lows ∧ e.1.2.xy ∈ (s.pointsWith c).highs ∧ e.1.1.x < e.1.2.x := by
  obtain ⟨hl, hh, later, _⟩ := (hs.added_low c e).mp he
  exact ⟨⟨_, hl, rfl⟩, ⟨_, hh, rfl⟩, later⟩

theorem Mirrors.high_points (hs : s.Mirrors) {e : Entry} (he : e ∈ (s.added c).highConstraints) :
    e.1.2.xy ∈ (s.pointsWith c).highs ∧ e.1.1.xy ∈ (s.pointsWith c).lows ∧ e.1.2.x < e.1.1.x := by
  obtain ⟨hl, hh, later, _⟩ := (hs.added_high c e).mp he
  exact ⟨⟨_, hh, rfl⟩, ⟨_, hl, rfl⟩, later⟩

theorem Best.flattest_points {low high : Entry} (h : s.Best c low high) (hs : s.Mirrors) :
    Flattest (s.pointsWith c) low.1.1.xy low.1.2.xy := by
  obtain ⟨hl, hh, later⟩ := hs.low_points h.low_mem
  refine ⟨hl, hh, later, ?_⟩
  intro p hp q hq hx
  obtain ⟨l, hl, rfl⟩ := hp
  obtain ⟨r, hr, rfl⟩ := hq
  have entry : drawn l r ∈ (s.added c).lowConstraints :=
    (hs.added_low c _).mpr ⟨hl, hr, hx, rfl⟩
  have := h.flattest _ entry
  rwa [← ConstraintLine.line_slope, ← ConstraintLine.line_slope, hs.low_line h.low_mem,
    hs.low_line entry] at this

theorem Best.steepest_points {low high : Entry} (h : s.Best c low high) (hs : s.Mirrors) :
    Steepest (s.pointsWith c) high.1.2.xy high.1.1.xy := by
  obtain ⟨hh, hl, later⟩ := hs.high_points h.high_mem
  refine ⟨hh, hl, later, ?_⟩
  intro q hq p hp hx
  obtain ⟨r, hr, rfl⟩ := hq
  obtain ⟨l, hl, rfl⟩ := hp
  have entry : drawn l r ∈ (s.added c).highConstraints :=
    (hs.added_high c _).mpr ⟨hl, hr, hx, rfl⟩
  have := h.steepest _ entry
  rwa [← ConstraintLine.line_slope, ← ConstraintLine.line_slope, hs.high_line h.high_mem,
    hs.high_line entry] at this

theorem Best.upper {low high : Entry} (h : s.Best c low high) (hs : s.Mirrors)
    (hf : Brackets (s.pointsWith c) f) :
    Upper (s.pointsWith c) low.2.line low.1.1.xy low.1.2.xy := by
  rw [hs.low_line h.low_mem]
  exact (h.flattest_points hs).upper hf

theorem Best.lower {low high : Entry} (h : s.Best c low high) (hs : s.Mirrors)
    (hf : Brackets (s.pointsWith c) f) :
    Lower (s.pointsWith c) high.2.line high.1.2.xy high.1.1.xy := by
  rw [hs.high_line h.high_mem]
  exact (h.steepest_points hs).lower hf

/-- The flattest low line also meets the axis highest. -/
theorem Best.icept_low {low high : Entry} (h : s.Best c low high) (hs : s.Mirrors)
    (hf : Brackets (s.pointsWith c) f) (h0 : RightHalf (s.pointsWith c)) {e : Entry}
    (he : e ∈ (s.added c).lowConstraints) : e.2.b ≤ low.2.b := by
  obtain ⟨hl, hh, later⟩ := hs.low_points he
  have fits := (h.upper hs hf).fits
  have := through_icept_le fits hl (h0.1 _ hl) (slope_le_through fits hl hh later)
  rwa [← hs.low_line he] at this

theorem Best.icept_high {low high : Entry} (h : s.Best c low high) (hs : s.Mirrors)
    (hf : Brackets (s.pointsWith c) f) (h0 : RightHalf (s.pointsWith c)) {e : Entry}
    (he : e ∈ (s.added c).highConstraints) : high.2.b ≤ e.2.b := by
  obtain ⟨hh, hl, later⟩ := hs.high_points he
  have fits := (h.lower hs hf).fits
  have := le_through_icept fits hh (h0.2 _ hh) (through_slope_le fits hh hl later)
  rwa [← hs.high_line he] at this

/-- The gaps between a low and a high candidate are open. -/
theorem Mirrors.gaps (hs : s.Mirrors) (hf : Brackets (s.pointsWith c) f)
    (h0 : RightHalf (s.pointsWith c)) {low high : Entry} (hl : low ∈ (s.added c).lowConstraints)
    (hh : high ∈ (s.added c).highConstraints) : high.2.a < low.2.a ∧ low.2.b < high.2.b := by
  obtain ⟨pl, ql, later⟩ := hs.low_points hl
  obtain ⟨qh, ph, later'⟩ := hs.high_points hh
  have above := slope_lt_through hf pl ql later
  have below := through_slope_lt hf qh ph later'
  have left := through_icept_lt hf pl (h0.1 _ pl) above.le
  have right := lt_through_icept hf qh (h0.2 _ qh) below.le
  rw [← hs.low_line hl] at above left
  rw [← hs.high_line hh] at below right
  exact ⟨below.trans above, left.trans right⟩

/-- **The product criterion.** A pair of candidates whose product no pair
undercuts is the best pair. -/
theorem best_of_least (hs : s.Mirrors) (hf : Brackets (s.pointsWith c) f)
    (h0 : RightHalf (s.pointsWith c)) {low high : Entry} (hl : low ∈ (s.added c).lowConstraints)
    (hh : high ∈ (s.added c).highConstraints)
    (least : ∀ low' ∈ (s.added c).lowConstraints, ∀ high' ∈ (s.added c).highConstraints,
      tmpDiff low.2 high.2 ≤ tmpDiff low'.2 high'.2) : s.Best c low high := by
  obtain ⟨u, l, best⟩ := exists_best hl hh
  obtain ⟨slopeGap, iceptGap⟩ := hs.gaps hf h0 best.low_mem best.high_mem
  have flatter : u.2.line.slope ≤ low.2.line.slope := best.flattest low hl
  have below : low.2.line.icept ≤ u.2.line.icept := best.icept_low hs hf h0 hl
  have steeper : high.2.line.slope ≤ l.2.line.slope := best.steepest high hh
  have above : l.2.line.icept ≤ high.2.line.icept := best.icept_high hs hf h0 hh
  obtain ⟨lowEq, highEq⟩ := eq_of_product_le flatter below steeper above slopeGap iceptGap
    (least u best.low_mem l best.high_mem)
  refine ⟨hl, hh, ?_, ?_⟩
  · intro e he
    exact (congrArg Line.slope lowEq).trans_le (best.flattest e he)
  · intro e he
    exact (best.steepest e he).trans_eq (congrArg Line.slope highEq).symm

end

/-- A call that starts with its pair in the tables moves to the best pair. -/
theorem Recalculated.best {s t : Base} {c : Call} {f : Line ℚ} (h : s.Recalculated c t)
    (hs : s.Mirrors) (kept : s.Kept) (hf : Brackets (s.pointsWith c) f)
    (h0 : RightHalf (s.pointsWith c)) {low high : Entry} (held : t.Holds low high) :
    s.Best c low high := by
  obtain ⟨hl, hh⟩ := h.candidate hs kept held
  apply best_of_least hs hf h0 hl hh
  intro low' hl' high' hh'
  rw [← held.diffFactor]
  exact h.least low' hl' high' hh'

theorem Historical.pointsWith_sub {max : ℚ} {past : List Call} {s : Base}
    (h : s.Historical max past) (c : Call) : (s.pointsWith c).Sub (samples (past ++ [c])) := by
  constructor
  · intro p hp
    obtain ⟨l, hl | rfl, rfl⟩ := hp
    · exact (samples_sub_snoc past c).1 (h.lowPoints l hl)
    · exact newLow_mem s past c
  · intro p hp
    obtain ⟨r, hr | rfl, rfl⟩ := hp
    · exact (samples_sub_snoc past c).2 (h.highPoints r hr)
    · exact newHigh_mem s past c

theorem Historical.accepts {max : ℚ} {past : List Call} {s : Base} {c : Call}
    (h : s.Historical max past) (distinct : Distinct (past ++ [c])) : s.Accepts c := by
  constructor
  · intro p hp e
    obtain ⟨d, hd, same⟩ := h.lowPoints p hp
    exact distinct.last d hd ((congrArg Prod.fst same).symm.trans e)
  · intro p hp e
    obtain ⟨d, hd, same⟩ := h.highPoints p hp
    exact distinct.last d hd ((congrArg Prod.fst same).symm.trans e)

theorem rightHalf_sub {D E : Points ℚ} (h : RightHalf E) (sub : D.Sub E) : RightHalf D :=
  ⟨fun p hp => h.1 p (sub.1 hp), fun q hq => h.2 q (sub.2 hq)⟩

end Base

/-! ## Runs -/

section
variable {M : Type} [Subclass M] [LawfulSubclass M] {build : Build} {max : ℚ}
  {R : Object M → Call → Object M → Prop} {Q : List Call → Prop} {past : List Call} {o : Object M}

/-- The steps `R` go on, and on data points that meet `Q` each of them counts or recalculates. -/
structure Recalculating (build : Build) (max : ℚ) (R : Object M → Call → Object M → Prop)
    (Q : List Call → Prop) : Prop where
  past : ∀ past c, Q (past ++ [c]) → Q past
  goes : ∀ o c t, R o c t → Goes build o c t
  step : ∀ past o c t, Run R (Object.init max) past o → Q (past ++ [c]) → R o c t →
    (¬ 1 < (o.base.added c).processedTimestamps ∧ t = o.added c) ∨
    (1 < (o.base.added c).processedTimestamps ∧ o.base.Recalculated c t.base)

/-- A repeated timestamp draws lines from points that the sets reject, and the cleanup takes
them out again. -/
theorem Recalculating.mirrors (h : Recalculating build max R Q) (run : Run R (Object.init max) past o)
    (inputs : Q past) (short : past.length < 2 ^ 32) : o.base.Mirrors := by
  have both : Q past ∧ past.length < 2 ^ 32 := ⟨inputs, short⟩
  refine run.invariant_of_inputs (Q := fun past => Q past ∧ past.length < 2 ^ 32)
    (P := fun _ o => o.base.Mirrors) ?_ (Base.init_mirrors max) ?_ both
  · intro past c both
    rw [List.length_append, List.length_singleton] at both
    exact ⟨h.past past c both.1, by omega⟩
  · intro past o c t before both hs step
    obtain ⟨first, rfl⟩ | ⟨_, recalculated⟩ := h.step past o c t before both.1 step
    · rw [List.length_append, List.length_singleton] at both
      rw [(run_historical (before.mono h.goes)).first both.2 first] at before
      rw [before.nil_inv]
      exact (Base.init_mirrors max).added (Base.init_accepts max c)
    · exact recalculated.mirrors hs

/-- With distinct timestamps the current pair never leaves the tables. -/
theorem Recalculating.kept (h : Recalculating build max R Q) (run : Run R (Object.init max) past o)
    (inputs : Q past) (distinct : Distinct past) : o.base.Mirrors ∧ o.base.Kept := by
  have both : Q past ∧ Distinct past := ⟨inputs, distinct⟩
  refine run.invariant_of_inputs (Q := fun past => Q past ∧ Distinct past)
    (P := fun _ o => o.base.Mirrors ∧ o.base.Kept)
    (fun past c both => ⟨h.past past c both.1, both.2.past⟩)
    ⟨Base.init_mirrors max, Base.init_kept max⟩ ?_ both
  intro past o c t before both ih step
  obtain ⟨hs, kept⟩ := ih
  have accepts := (run_historical (before.mono h.goes)).accepts both.2
  obtain ⟨_, rfl⟩ | ⟨_, recalculated⟩ := h.step past o c t before both.1 step
  · exact ⟨hs.added accepts, kept.added hs⟩
  · exact ⟨recalculated.mirrors hs, recalculated.kept hs kept accepts⟩

variable [OrderedSubclass M]

theorem goes_recalculating (build : Build) (max : ℚ) :
    Recalculating build max (Goes (M := M) build) InOrder where
  past _ _ inOrder := inOrder.past
  goes _ _ _ step := step
  step _ _ _ _ run inOrder step := step.ordered run inOrder

theorem run_mirrors (run : Run (Goes build) (Object.init max) past o) (inOrder : InOrder past)
    (short : past.length < 2 ^ 32) : o.base.Mirrors :=
  (goes_recalculating build max).mirrors run inOrder short

theorem run_kept (run : Run (Goes build) (Object.init max) past o) (increasing : Increasing past) :
    o.base.Mirrors ∧ o.base.Kept :=
  (goes_recalculating build max).kept run increasing.inOrder increasing.distinct

end

end MiniSynCPP
