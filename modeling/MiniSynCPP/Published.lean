import MiniSynCPP.Failures

/-!
# What is published over a run of any length

The call counter wraps, and calls fail before or after they publish. All the
same the estimates are those of the constructor or of two lines of the history.
-/

namespace MiniSynCPP

open Runs Lines

namespace Base

/-- The estimates of an object are those of two lines of its history. -/
def Published (past : List Call) (s : Base) : Prop :=
  ∃ low high, IsLow past low ∧ IsHigh past high ∧ SameEstimates s (s.estimate low.2 high.2)

theorem Published.snoc {past : List Call} {s t : Base} (h : s.Published past) (c : Call)
    (same : SameEstimates s t) : t.Published (past ++ [c]) := by
  obtain ⟨low, high, isLow, isHigh, drift, driftError, offset, offsetError⟩ := h
  obtain ⟨drift', driftError', offset', offsetError'⟩ := same
  exact ⟨low, high, isLow.snoc c, isHigh.snoc c, drift'.symm.trans drift,
    driftError'.symm.trans driftError, offset'.symm.trans offset, offsetError'.symm.trans offsetError⟩

/-- Every line that the history admits is within the errors of the estimates. -/
def Sound (past : List Call) (s : Base) : Prop :=
  ∀ a b, (∀ d ∈ past, d.To ≤ a * d.Tb + b ∧ a * d.Tb + b ≤ d.Tr) →
    |a - s.getDrift| ≤ s.getDriftError ∧
    ((∀ d ∈ past, 0 ≤ d.Tb) → |b - s.getOffset| ≤ s.getOffsetError)

theorem Published.sound {past : List Call} {s : Base} (h : s.Published past) : s.Sound past := by
  intro a b admitted
  obtain ⟨low, high, isLow, isHigh, drift, driftError, offset, offsetError⟩ := h
  have fits : Fits (samples past) ⟨a, b⟩ := fits_samples.mpr admitted
  rw [drift, driftError, offset, offsetError]
  constructor
  · exact abs_sub_mid_le (isHigh.le_slope fits) (isLow.slope_le fits)
  · intro right
    have atRight := rightHalf_samples right
    have bound := abs_sub_mid_le (isLow.icept_le atRight fits) (isHigh.le_icept atRight fits)
    rwa [add_comm high.2.b] at bound

end Base

section
variable {M : Type} [Subclass M] [LawfulSubclass M] {build : Build} {max : ℚ} {past : List Call}
  {c : Call} {o t : Object M}

/-- A call leaves the estimates alone or publishes those of its current pair. -/
theorem call_publishes (build : Build) (o : Object M) (c : Call) :
    SameEstimates o.base (left (addDataPoint build c o)).base ∨
    ∃ low high, (left (addDataPoint build c o)).base.currentLow = some low ∧
      (left (addDataPoint build c o)).base.currentHigh = some high ∧
      SameEstimates (left (addDataPoint build c o)).base
        ((left (addDataPoint build c o)).base.estimate low high) := by
  have outcome := addDataPoint_outcome build o c
  have kept := cleanup_estimates o c
  generalize addDataPoint build c o = result at outcome ⊢
  cases outcome with
  | counted => exact .inl ⟨rfl, rfl, rfl, rfl⟩
  | interrupted _ stopped =>
    rw [stopped] at kept
    exact .inl kept
  | lowNull _ cleaned _ =>
    rw [cleaned] at kept
    exact .inl kept
  | highNull _ cleaned _ _ =>
    rw [cleaned] at kept
    exact .inl kept
  | @drift t low high _ _ hlow hhigh _ => exact .inr ⟨low, high, hlow, hhigh, rfl, rfl, rfl, rfl⟩
  | @returned t low high _ _ hlow hhigh _ => exact .inr ⟨low, high, hlow, hhigh, rfl, rfl, rfl, rfl⟩

/-- An object whose current pair is set can only have published lines of its history. -/
theorem published_of_current (run : Run (Goes build) (Object.init max) past o)
    {low high : ConstraintLine} (hlow : o.base.currentLow = some low)
    (hhigh : o.base.currentHigh = some high)
    (same : SameEstimates o.base (o.base.estimate low high)) : o.base.Published past := by
  cases (run_historical run).pair with
  | inl unset =>
    have := unset.currentLow
    rw [hlow] at this
    cases this
  | inr held =>
    obtain ⟨lowEntry, highEntry, isLow, isHigh, holds⟩ := held
    obtain rfl := Option.some.inj (holds.currentLow.symm.trans hlow)
    obtain rfl := Option.some.inj (holds.currentHigh.symm.trans hhigh)
    exact ⟨lowEntry, highEntry, isLow, isHigh, same⟩

theorem Goes.published (run : Run (Goes build) (Object.init max) past o) (goes : Goes build o c t) :
    SameEstimates o.base t.base ∨ t.base.Published (past ++ [c]) := by
  have published := call_publishes build o c
  rw [goes.left_eq] at published
  obtain same | ⟨low, high, hlow, hhigh, same⟩ := published
  · exact .inl same
  · exact .inr (published_of_current (run.step goes) hlow hhigh same)

theorem run_published (run : Run (Goes build) (Object.init max) past o) :
    SameEstimates (Base.init max) o.base ∨ o.base.Published past := by
  refine run.invariant (P := fun past o => SameEstimates (Base.init max) o.base ∨ o.base.Published past)
    (.inl ⟨rfl, rfl, rfl, rfl⟩) ?_
  intro past o c t before ih step
  obtain same | published := step.published before
  · obtain initial | published := ih
    · exact .inl ⟨initial.1.trans same.1, initial.2.1.trans same.2.1, initial.2.2.1.trans same.2.2.1,
        initial.2.2.2.trans same.2.2.2⟩
    · exact .inr (published.snoc c same)
  · exact .inr published

/-- If all calls returned, the second one published, and the current pair is the one published last. -/
theorem estimates_of_returns (run : Run (Returns build) (Object.init max) past o)
    (second : 2 ≤ past.length) : ∃ low high, o.base.Estimates low high := by
  refine run.invariant (P := fun past o => 2 ≤ past.length → ∃ low high, o.base.Estimates low high)
    (fun h => by simp at h) ?_ second
  intro past o c t before ih step second
  rw [List.length_append, List.length_singleton] at second
  by_cases recalculates : 1 < (o.base.added c).processedTimestamps
  · obtain ⟨low, high, estimates, _⟩ := step.estimates recalculates
    exact ⟨low, high, estimates⟩
  · -- the counter has wrapped around, and the call only adds its points
    have started : past ≠ [] := by
      rintro rfl
      simp at second
    have known := run_historical (before.mono fun _ _ _ h => Returns.goes h)
    have wrapped : ¬ past.length + 1 < 2 ^ 32 :=
      fun short => recalculates (known.recalculates c started short)
    obtain ⟨low, high, estimates⟩ := ih (by omega)
    have same := o.base.added_samePair c
    rw [Returns, addDataPoint_run, if_neg recalculates] at step
    cases step
    exact ⟨low, high, same.currentLow.trans estimates.currentLow,
      same.currentHigh.trans estimates.currentHigh, estimates.drift, estimates.offset⟩

theorem published_of_returns (run : Run (Returns build) (Object.init max) past o)
    (second : 2 ≤ past.length) : o.base.Published past := by
  obtain ⟨low, high, estimates⟩ := estimates_of_returns run second
  refine published_of_current (run.mono fun _ _ _ h => Returns.goes h) estimates.currentLow
    estimates.currentHigh ?_
  unfold SameEstimates Base.getDrift Base.getDriftError Base.getOffset Base.getOffsetError
  rw [estimates.drift, estimates.offset]
  exact ⟨rfl, rfl, rfl, rfl⟩

end

/-- **The published estimates are sound in every state of every run**, however many calls were
made and whichever of them failed. From the second call on nothing but a failure keeps the
estimates of the constructor. -/
theorem estimates_always_sound (algo : Algo) (build : Build) (max : ℚ) (past : List Call)
    (o : Object algo.Members) (run : Run (Goes build) (Object.init max) past o) :
    (SameEstimates (Base.init max) o.base ∨ o.base.Sound past) ∧
    (2 ≤ past.length → Run (Returns build) (Object.init max) past o → o.base.Sound past) := by
  constructor
  · exact (run_published run).imp_right Base.Published.sound
  · intro second returned
    exact (published_of_returns returned second).sound

/-- The second of these calls throws, and what it has published is sound. -/
theorem estimates_always_sound_after_failure :
    let past := [Call.listed (-1) 0 2, .listed (-1) 1 2]
    let o : Object TinySync := (Object.init 1000).after .plain past
    (SameEstimates (Base.init 1000) o.base ∨ o.base.Sound past) ∧
    (2 ≤ past.length → Run (Returns .plain) (Object.init 1000) past o → o.base.Sound past) := by
  intro past o
  exact estimates_always_sound .tinySync .plain 1000 past o (run_after_plain _ past)

end MiniSynCPP
