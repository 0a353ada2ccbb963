import MiniSynCPP.Optimality
import MiniSynCPP.Tightening

/-!
# MiniSync against TinySync

Both fed with the same data points, TinySync holds some low and some high line
of the history, and MiniSync the flattest and the steepest.
-/

namespace MiniSynCPP

open Runs Lines

/-- After the first call the estimates are the initial ones. -/
theorem Returns.initial {M : Type} [Subclass M] [LawfulSubclass M] {build : Build} {max : ℚ}
    {c : Call} {o : Object M} (h : Returns build (Object.init max) c o) :
    o.base.getDriftError = 0 ∧ o.base.getOffsetError = 0 := by
  have same := (returns_first build max c).unique h
  rw [← same]
  exact ⟨rfl, rfl⟩

theorem Returns.noWider_first {build : Build} {max : ℚ} {c d : Call} {tiny : Object TinySync}
    {mini : Object MiniSync} (h : Returns build (Object.init max) c tiny)
    (h' : Returns build (Object.init max) d mini) : NoWider tiny.base mini.base := by
  obtain ⟨drift, offset⟩ := h.initial
  obtain ⟨drift', offset'⟩ := h'.initial
  exact ⟨(drift'.trans drift.symm).le, (offset'.trans offset.symm).le⟩

/-- **MiniSync is never worse.** Fed with the same data points, in whatever
order the two objects meet their tables, neither of its errors is greater. -/
theorem miniSync_noWider (build : Build) (max a b : ℚ) (calls calls' : List Call)
    (same : calls.map Call.data = calls'.map Call.data) (tiny : Object TinySync)
    (mini : Object MiniSync) (tinyRun : Run (Returns build) (Object.init max) calls tiny)
    (miniRun : Run (Returns build) (Object.init max) calls' mini) (increasing : Increasing calls')
    (right : ∀ d ∈ calls', 0 ≤ d.Tb)
    (bracketed : ∀ d ∈ calls', d.To < a * d.Tb + b ∧ a * d.Tb + b < d.Tr)
    (short : calls'.length < 2 ^ 32) : NoWider tiny.base mini.base := by
  have lengths : calls.length = calls'.length := by
    simpa using congrArg List.length same
  cases calls using List.reverseRecOn with
  | nil =>
    obtain rfl := List.eq_nil_of_length_eq_zero lengths.symm
    rw [tinyRun.nil_inv, miniRun.nil_inv]
    exact ⟨le_refl _, le_refl _⟩
  | append_singleton past c =>
    obtain ⟨tiny₀, before, last⟩ := tinyRun.snoc_inv
    rw [List.length_append, List.length_singleton] at lengths
    by_cases started : past = []
    · -- both errors are still zero
      rw [started] at before lengths
      rw [before.nil_inv] at last
      obtain ⟨d, rfl⟩ := List.length_eq_one_iff.mp lengths.symm
      have whole : Run (Returns build) (Object.init max) ([] ++ [d]) mini := miniRun
      obtain ⟨mini₀, first, lastMini⟩ := whole.snoc_inv
      rw [first.nil_inv] at lastMini
      exact last.noWider_first lastMini
    · have pos := List.length_pos_iff.mpr started
      obtain ⟨low, high, isLow, isHigh, _, old⟩ := Returns.published
        (before.mono fun _ _ _ h => Returns.goes h) last started (by omega)
      obtain ⟨low', high', optimal⟩ := run_optimal (miniRun.mono fun _ _ _ h => Returns.finds h)
        ⟨increasing, right, bracketed, short⟩ (by omega)
      obtain ⟨X, _, _, summary⟩ := optimal.summary
      -- the two lines of MiniSync fit all data points
      have sub := samples_sub_of_data same
      have upper := summary.upper.fits.sub sub
      have lower := summary.lower.fits.sub sub
      have atRight := rightHalf_samples right
      have rightTiny : RightHalf (samples (past ++ [c])) :=
        ⟨fun p hp => atRight.1 p (sub.1 hp), fun p hp => atRight.2 p (sub.2 hp)⟩
      have flatter := isLow.slope_le upper
      have steeper := isHigh.le_slope lower
      have above := isLow.icept_le rightTiny upper
      have below := isHigh.le_icept rightTiny lower
      exact old.noWider optimal.estimates flatter steeper above below

/-- Three data points, with the tables of the two objects met in opposite orders. -/
theorem miniSync_noWider_three :
    let calls := [Call.listed (-2) 0 2, .listed 0 1 2, .listed 1 2 3]
    let calls' := calls.map fun c => { c with lowOrder := backwards, highOrder := backwards }
    NoWider ((Object.init 1000 : Object TinySync).after .plain calls).base
      ((Object.init 1000 : Object MiniSync).after .plain calls').base := by
  intro calls calls'
  exact miniSync_noWider .plain 1000 1 0 calls calls' rfl _ _ (run_after (by decide +kernel))
    (run_after (by decide +kernel)) (by norm_num [calls, calls', Increasing, Call.listed])
    (by simp [calls, calls', Call.listed]) (by norm_num [calls, calls', Call.listed])
    (by simp [calls, calls'])

end MiniSynCPP
