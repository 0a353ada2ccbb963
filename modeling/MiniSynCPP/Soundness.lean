import MiniSynCPP.History

/-!
# The estimates bound every line that fits the data

A low constraint is never flatter, and a high constraint never steeper, than
a line that passes between the low and the high points. Where no point is
left of the origin the offsets are ordered the other way round.
-/

namespace MiniSynCPP

open Runs Lines

section
variable {past : List Call} {e low high : Entry} {f : Line ℚ}

theorem IsLow.line_eq (h : IsLow past e) : e.2.line = through e.1.1.xy e.1.2.xy := by
  rw [h.line]
  exact between_line e.1.1 e.1.2

theorem IsHigh.line_eq (h : IsHigh past e) : e.2.line = through e.1.2.xy e.1.1.xy := by
  have later := h.later
  rw [h.line]
  exact between_line' later

theorem IsLow.slope_le (h : IsLow past e) (fits : Fits (samples past) f) : f.slope ≤ e.2.a := by
  have := slope_le_through fits h.low h.high h.later
  rwa [← h.line_eq] at this

theorem IsHigh.le_slope (h : IsHigh past e) (fits : Fits (samples past) f) : e.2.a ≤ f.slope := by
  have := through_slope_le fits h.high h.low h.later
  rwa [← h.line_eq] at this

theorem IsLow.icept_le (h : IsLow past e) (right : RightHalf (samples past))
    (fits : Fits (samples past) f) : e.2.b ≤ f.icept := by
  have := through_icept_le fits h.low (right.1 _ h.low) (slope_le_through fits h.low h.high h.later)
  rwa [← h.line_eq] at this

theorem IsHigh.le_icept (h : IsHigh past e) (right : RightHalf (samples past))
    (fits : Fits (samples past) f) : f.icept ≤ e.2.b := by
  have := le_through_icept fits h.high (right.2 _ h.high)
    (through_slope_le fits h.high h.low h.later)
  rwa [← h.line_eq] at this

theorem abs_sub_mid_le {x lo hi : ℚ} (h : lo ≤ x) (h' : x ≤ hi) :
    |x - (hi + lo) / 2| ≤ (hi - lo) / 2 := by
  apply abs_le.mpr
  constructor <;> linarith

end

section
variable {M : Type} [Subclass M] [LawfulSubclass M]

/-- The pair that a recalculating call publishes consists of a low and a high
constraint of the history. -/
theorem Returns.settled {build : Build} {max : ℚ} {past : List Call} {c : Call} {o o' : Object M}
    (run : Run (Goes build) (Object.init max) past o) (returns : Returns build o c o')
    (later : 1 < (o.base.added c).processedTimestamps) :
    ∃ low high, IsLow (past ++ [c]) low ∧ IsHigh (past ++ [c]) high ∧ o'.base.Holds low high ∧
      o'.base.Estimates low.2 high.2 := by
  obtain ⟨low, high, estimates, _⟩ := returns.estimates later
  cases (run_historical (run.step returns.goes)).pair with
  | inl unset =>
    have := unset.currentLow
    rw [estimates.currentLow] at this
    cases this
  | inr held =>
    obtain ⟨lowEntry, highEntry, isLow, isHigh, holds⟩ := held
    obtain rfl := Option.some.inj (holds.currentLow.symm.trans estimates.currentLow)
    obtain rfl := Option.some.inj (holds.currentHigh.symm.trans estimates.currentHigh)
    exact ⟨lowEntry, highEntry, isLow, isHigh, holds, estimates⟩

theorem Returns.published {build : Build} {max : ℚ} {past : List Call} {c : Call} {o o' : Object M}
    (run : Run (Goes build) (Object.init max) past o) (returns : Returns build o c o')
    (started : past ≠ []) (short : past.length + 1 < 2 ^ 32) :
    ∃ low high, IsLow (past ++ [c]) low ∧ IsHigh (past ++ [c]) high ∧ o'.base.Holds low high ∧
      o'.base.Estimates low.2 high.2 :=
  returns.settled run ((run_historical run).recalculates c started short)

end

/-- **The estimates are sound.** Any line that all data points admit is within
the errors of the drift and, right of the origin, of the offset, whichever
calls failed before and in whatever order the tables are visited. -/
theorem estimates_sound (algo : Algo) (build : Build) (max a b : ℚ) (past : List Call) (c : Call)
    (o o' : Object algo.Members) (run : Run (Goes build) (Object.init max) past o)
    (returns : Returns build o c o') (started : past ≠ []) (short : past.length + 1 < 2 ^ 32)
    (admitted : ∀ d ∈ past ++ [c], d.To ≤ a * d.Tb + b ∧ a * d.Tb + b ≤ d.Tr) :
    |a - o'.base.getDrift| ≤ o'.base.getDriftError ∧
    ((∀ d ∈ past ++ [c], 0 ≤ d.Tb) → |b - o'.base.getOffset| ≤ o'.base.getOffsetError) := by
  obtain ⟨low, high, isLow, isHigh, _, estimates⟩ := returns.published run started short
  have fits : Fits (samples (past ++ [c])) ⟨a, b⟩ := fits_samples.mpr admitted
  unfold Base.getDrift Base.getDriftError Base.getOffset Base.getOffsetError
  rw [estimates.drift, estimates.offset]
  constructor
  · exact abs_sub_mid_le (isHigh.le_slope fits) (isLow.slope_le fits)
  · intro right
    have atRight := rightHalf_samples right
    have bound := abs_sub_mid_le (isLow.icept_le atRight fits) (isHigh.le_icept atRight fits)
    rwa [add_comm high.2.b] at bound

/-- The second of these calls throws, and the estimates after the third are sound again. -/
theorem estimates_sound_after_failure :
    let past := [Call.listed (-1) 0 2, .listed (-1) 1 2]
    let o : Object MiniSync := (Object.init 1000).after .plain past
    let o' := left (addDataPoint .plain (.listed 1 2 3) o)
    |1 - o'.base.getDrift| ≤ o'.base.getDriftError ∧ |0 - o'.base.getOffset| ≤ o'.base.getOffsetError := by
  intro past o o'
  have returns : Returns .plain o (.listed 1 2 3) o' := failure?_eq_none.mp (by decide +kernel)
  have sound := estimates_sound .miniSync .plain 1000 1 0 past (.listed 1 2 3) o o'
    (run_after_plain _ past) returns (by simp [past]) (by simp [past])
    (by simp [past, Call.listed]; norm_num)
  exact ⟨sound.1, sound.2 (by simp [past, Call.listed])⟩

end MiniSynCPP
