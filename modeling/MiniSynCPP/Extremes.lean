import MiniSynCPP.Tables

/-!
# No trade-off between drift and offset

Among the lines that TinySync can draw, the flattest low line also meets the
axis highest and the steepest high line lowest, so the pair of least product
leaves the least error of the drift and of the offset. The data points need
distinct timestamps, but no order.
-/

namespace MiniSynCPP

open Containers Runs Lines

namespace Base

/-- A line that a call can draw from a low point to a later high point, kept or its own. -/
def DrawsLow (s : Base) (c : Call) (line : ConstraintLine) : Prop :=
  ∃ l ∈ s.lowsWith c, ∃ h ∈ s.highsWith c, l.x < h.x ∧ line = between l h

/-- A line that a call can draw from a high point to a later low point. -/
def DrawsHigh (s : Base) (c : Call) (line : ConstraintLine) : Prop :=
  ∃ l ∈ s.lowsWith c, ∃ h ∈ s.highsWith c, h.x < l.x ∧ line = between l h

/-- Of all lines that the call can draw, `low` and `high` have the extreme slopes and the extreme
intercepts at once. -/
structure Extreme (s : Base) (c : Call) (low high : ConstraintLine) : Prop where
  drawsLow : s.DrawsLow c low
  drawsHigh : s.DrawsHigh c high
  low : ∀ line, s.DrawsLow c line → low.a ≤ line.a ∧ line.b ≤ low.b
  high : ∀ line, s.DrawsHigh c line → line.a ≤ high.a ∧ high.b ≤ line.b

section
variable {s : Base} {c : Call}

theorem Mirrors.drawsLow_iff (hs : s.Mirrors) {line : ConstraintLine} :
    s.DrawsLow c line ↔ ∃ e ∈ (s.added c).lowConstraints, e.2 = line := by
  constructor
  · rintro ⟨l, hl, h, hh, later, rfl⟩
    exact ⟨MiniSynCPP.drawn l h, (hs.added_low c _).mpr ⟨hl, hh, later, rfl⟩, rfl⟩
  · rintro ⟨e, he, rfl⟩
    obtain ⟨hl, hh, later, line⟩ := (hs.added_low c e).mp he
    exact ⟨e.1.1, hl, e.1.2, hh, later, congrArg Prod.snd line⟩

theorem Mirrors.drawsHigh_iff (hs : s.Mirrors) {line : ConstraintLine} :
    s.DrawsHigh c line ↔ ∃ e ∈ (s.added c).highConstraints, e.2 = line := by
  constructor
  · rintro ⟨l, hl, h, hh, later, rfl⟩
    exact ⟨MiniSynCPP.drawn l h, (hs.added_high c _).mpr ⟨hl, hh, later, rfl⟩, rfl⟩
  · rintro ⟨e, he, rfl⟩
    obtain ⟨hl, hh, later, line⟩ := (hs.added_high c e).mp he
    exact ⟨e.1.1, hl, e.1.2, hh, later, congrArg Prod.snd line⟩

theorem Best.extreme {f : Line ℚ} {low high : Entry} (h : s.Best c low high) (hs : s.Mirrors)
    (hf : Brackets (s.pointsWith c) f) (h0 : RightHalf (s.pointsWith c)) :
    s.Extreme c low.2 high.2 where
  drawsLow := hs.drawsLow_iff.mpr ⟨low, h.low_mem, rfl⟩
  drawsHigh := hs.drawsHigh_iff.mpr ⟨high, h.high_mem, rfl⟩
  low line draws := by
    obtain ⟨e, he, rfl⟩ := hs.drawsLow_iff.mp draws
    exact ⟨h.flattest e he, h.icept_low hs hf h0 he⟩
  high line draws := by
    obtain ⟨e, he, rfl⟩ := hs.drawsHigh_iff.mp draws
    exact ⟨h.steepest e he, h.icept_high hs hf h0 he⟩

end

end Base

section
variable {algo : Algo} {build : Build} {max : ℚ} {past : List Call} {c : Call}
  {o t : Object algo.Members} {f : Line ℚ}

/-- A recalculating call of a run with distinct timestamps moves to the best pair. -/
theorem Proceeds.best (run : Run (Proceeds build) (Object.init max) past o)
    (step : Proceeds build o c t) (later : 1 < (o.base.added c).processedTimestamps)
    (distinct : Distinct (past ++ [c])) (right : ∀ d ∈ past ++ [c], 0 ≤ d.Tb)
    (brackets : Brackets (samples (past ++ [c])) f) {low high : Entry}
    (held : t.base.Holds low high) :
    o.base.Best c low high ∧ o.base.Extreme c low.2 high.2 := by
  obtain ⟨hs, kept⟩ := run_pair run distinct.past
  have known := run_historical (run_goes run)
  have hf := brackets.sub (known.pointsWith_sub c)
  have h0 := Base.rightHalf_sub (rightHalf_samples right) (known.pointsWith_sub c)
  obtain ⟨first, _⟩ | ⟨_, recalculated⟩ := step.recalculated
  · exact absurd later first
  · have best := recalculated.best hs kept hf h0 held
    exact ⟨best, best.extreme hs hf h0⟩

end

/-- **TinySync trades nothing off**, nor does MiniSync. Whatever the order of arrival, the selected
pair is best in slope and in intercept among all lines that can still be drawn, and so are the
two errors. -/
theorem pair_extreme (algo : Algo) (build : Build) (max a b : ℚ) (past : List Call) (c : Call)
    (o o' : Object algo.Members) (run : Run (Returns build) (Object.init max) past o)
    (returns : Returns build o c o') (started : past ≠ []) (short : past.length + 1 < 2 ^ 32)
    (distinct : Distinct (past ++ [c])) (right : ∀ d ∈ past ++ [c], 0 ≤ d.Tb)
    (bracketed : ∀ d ∈ past ++ [c], d.To < a * d.Tb + b ∧ a * d.Tb + b < d.Tr) :
    ∃ low high, o'.base.currentLow = some low ∧ o'.base.currentHigh = some high ∧
      o.base.Extreme c low high ∧
      ∀ low' high', o.base.DrawsLow c low' → o.base.DrawsHigh c high' →
        o'.base.getDriftError ≤ (low'.a - high'.a) / 2 ∧
        o'.base.getOffsetError ≤ (high'.b - low'.b) / 2 := by
  have proceeds := run.mono fun _ _ _ h => Returns.proceeds h
  have goes := run_goes proceeds
  obtain ⟨low, high, _, _, held, estimates⟩ := returns.published goes started short
  have later := (run_historical goes).recalculates c started short
  obtain ⟨_, extreme⟩ := returns.proceeds.best proceeds later distinct right
    (brackets_samples.mpr bracketed) held
  refine ⟨low.2, high.2, held.currentLow, held.currentHigh, extreme, ?_⟩
  intro low' high' drawsLow drawsHigh
  obtain ⟨flatter, above⟩ := extreme.low low' drawsLow
  obtain ⟨steeper, below⟩ := extreme.high high' drawsHigh
  unfold Base.getDriftError Base.getOffsetError
  rw [estimates.drift, estimates.offset]
  constructor
  · simp only
    linarith
  · simp only
    linarith

/-- Three data points, the oldest last. -/
theorem pair_extreme_three :
    let past := [Call.listed 0 1 3, .listed 1 2 3]
    let o : Object (Algo.Members .tinySync) := (Object.init 1000).after .plain past
    let o' := left (addDataPoint .plain (.listed (-1) 0 1) o)
    ∃ low high, o'.base.currentLow = some low ∧ o'.base.currentHigh = some high ∧
      o.base.Extreme (.listed (-1) 0 1) low high := by
  intro past o o'
  have run : Run (Returns .plain) (Object.init 1000) past o := run_after (by decide +kernel)
  have returns : Returns .plain o (.listed (-1) 0 1) o' := failure?_eq_none.mp (by decide +kernel)
  obtain ⟨low, high, hlow, hhigh, extreme, _⟩ := pair_extreme .tinySync .plain 1000 1 (1 / 2) past
    (.listed (-1) 0 1) o o' run returns (by simp [past]) (by simp [past])
    (by simp [past, Distinct, Call.listed]) (by simp [past, Call.listed])
    (by simp [past, Call.listed]; norm_num)
  exact ⟨low, high, hlow, hhigh, extreme⟩

end MiniSynCPP
