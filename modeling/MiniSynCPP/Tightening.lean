import MiniSynCPP.Selection

/-!
# The bounds tighten

While the current pair is in the tables, a call can only move to a flatter
low line and a steeper high line. A rejected data point can take the pair
out of the tables, and then the bounds may widen.
-/

namespace MiniSynCPP

open Runs Lines

/-- Neither error of `t` is greater than that of `s`. -/
def NoWider (s t : Base) : Prop :=
  t.getDriftError ≤ s.getDriftError ∧ t.getOffsetError ≤ s.getOffsetError

theorem NoWider.trans {s t u : Base} (h : NoWider s t) (h' : NoWider t u) : NoWider s u :=
  ⟨h'.1.trans h.1, h'.2.trans h.2⟩

/-- A flatter low line and a steeper high line, with a higher and a lower intercept. -/
theorem Base.Estimates.noWider {s t : Base} {low high low' high' : ConstraintLine}
    (old : s.Estimates low high) (new : t.Estimates low' high') (flatter : low'.a ≤ low.a)
    (steeper : high.a ≤ high'.a) (above : low.b ≤ low'.b) (below : high'.b ≤ high.b) :
    NoWider s t := by
  unfold NoWider Base.getDriftError Base.getOffsetError
  rw [old.drift, old.offset, new.drift, new.offset]
  constructor
  · simp only
    linarith
  · simp only
    linarith

theorem noWider_of_best {s t : Base} {c : Call} {f : Line ℚ} {low high low' high' : Entry}
    (hs : s.Mirrors) (hf : Brackets (s.pointsWith c) f) (h0 : RightHalf (s.pointsWith c))
    (old : s.Estimates low.2 high.2) (new : t.Estimates low'.2 high'.2)
    (hl : low ∈ s.lowConstraints) (hh : high ∈ s.highConstraints) (best : s.Best c low' high') :
    NoWider s t := by
  have flattest := best.flattest low (hs.low_added hl)
  have steepest := best.steepest high (hs.high_added hh)
  have iceptLow := best.icept_low hs hf h0 (hs.low_added hl)
  have iceptHigh := best.icept_high hs hf h0 (hs.high_added hh)
  exact old.noWider new flattest steepest iceptLow iceptHigh

section
variable {M : Type} [Subclass M] [LawfulSubclass M] [OrderedSubclass M]

/-- A call that returns and starts with its current lines in the tables. -/
def KeepsPair (build : Build) (o : Object M) (c : Call) (t : Object M) : Prop :=
  o.base.Kept ∧ Returns build o c t

theorem KeepsPair.noWider {build : Build} {max : ℚ} {f : Line ℚ} {past : List Call} {c : Call}
    {o t : Object M} (run : Run (Returns build) (Object.init max) past o)
    (step : KeepsPair build o c t) (recalculated : 2 ≤ past.length)
    (short : (past ++ [c]).length < 2 ^ 32) (inOrder : InOrder (past ++ [c]))
    (right : ∀ d ∈ past ++ [c], 0 ≤ d.Tb) (brackets : Brackets (samples (past ++ [c])) f) :
    NoWider o.base t.base := by
  obtain ⟨kept, returns⟩ := step
  have goes := run.mono fun _ _ _ h => Returns.goes h
  have known := run_historical goes
  rw [List.length_append, List.length_singleton] at short
  -- the last call of the past published the old estimates
  obtain ⟨before, d, rfl⟩ : ∃ before d, past = before ++ [d] := by
    cases past using List.reverseRecOn with
    | nil => simp at recalculated
    | append_singleton before d => exact ⟨before, d, rfl⟩
  obtain ⟨o₀, first, last⟩ := run.snoc_inv
  rw [List.length_append, List.length_singleton] at recalculated short
  have started : before ≠ [] := by
    intro e
    rw [e] at recalculated
    simp at recalculated
  obtain ⟨low, high, _, _, held, old⟩ := Returns.published
    (first.mono fun _ _ _ h => Returns.goes h) last started (by omega)
  obtain ⟨low', high', _, _, held', new⟩ :=
    Returns.published goes returns (by simp) (by rw [List.length_append, List.length_singleton]; exact short)
  have hs := run_mirrors goes inOrder.past (by rw [List.length_append, List.length_singleton]; omega)
  have hf := brackets.sub (known.pointsWith_sub c)
  have h0 := Base.rightHalf_sub (rightHalf_samples right) (known.pointsWith_sub c)
  obtain ⟨hl, hh⟩ := kept low high held
  obtain ⟨first, rfl⟩ | ⟨_, step⟩ := returns.goes.ordered goes inOrder
  · exact ⟨le_refl _, le_refl _⟩
  · exact noWider_of_best hs hf h0 old new hl hh (step.best hs kept hf h0 held')

end

/-- **The bounds tighten** over any run of calls that each start with the
current lines in the tables, from the first recalculation on. -/
theorem bounds_tighten (algo : Algo) (build : Build) (max a b : ℚ) (past more : List Call)
    (o o' : Object algo.Members) (run : Run (Returns build) (Object.init max) past o)
    (recalculated : 2 ≤ past.length) (later : Run (KeepsPair build) o more o')
    (short : (past ++ more).length < 2 ^ 32) (inOrder : InOrder (past ++ more))
    (right : ∀ d ∈ past ++ more, 0 ≤ d.Tb)
    (bracketed : ∀ d ∈ past ++ more, d.To < a * d.Tb + b ∧ a * d.Tb + b < d.Tr) :
    NoWider o.base o'.base := by
  induction later with
  | start => exact ⟨le_refl _, le_refl _⟩
  | @step more s t c before step ih =>
    rw [← List.append_assoc] at short inOrder right bracketed
    have whole := run.append (before.mono fun _ _ _ h => h.2)
    have earlier : ∀ d ∈ past ++ more, d ∈ past ++ more ++ [c] :=
      fun d hd => List.mem_append_left [c] hd
    have grown : 2 ≤ (past ++ more).length := by
      rw [List.length_append]
      omega
    have shorter : (past ++ more).length < 2 ^ 32 := by
      rw [List.length_append, List.length_singleton] at short
      omega
    have narrowed := ih shorter inOrder.past (fun d hd => right d (earlier d hd))
      (fun d hd => bracketed d (earlier d hd))
    exact narrowed.trans
      (step.noWider whole grown short inOrder right (brackets_samples.mpr bracketed))

/-- Three data points with distinct timestamps, and then one that repeats the last. -/
theorem bounds_tighten_repeated :
    let past := [Call.listed (-3) 0 4, .listed 0 1 4]
    let o : Object MiniSync := (Object.init 1000).after .plain past
    let o' := left (addDataPoint .plain (.listed (-1) 3 8) o)
    NoWider o.base (left (addDataPoint .plain (.listed 2 3 11) o')).base := by
  intro past o o'
  have run : Run (Returns .plain) (Object.init 1000) past o := run_after (by decide +kernel)
  have third : Returns .plain o (.listed (-1) 3 8) o' := failure?_eq_none.mp (by decide +kernel)
  have fourth : Returns .plain o' (.listed 2 3 11) _ := failure?_eq_none.mp (by decide +kernel)
  have goes := run.mono fun _ _ _ h => Returns.goes h
  have kept := (run_kept goes (by simp [past, Increasing, Call.listed])).2
  have kept' := (run_kept (goes.step third.goes) (by simp [past, Increasing, Call.listed])).2
  exact bounds_tighten .miniSync .plain 1000 1 0 past [.listed (-1) 3 8, .listed 2 3 11] o _ run
    (by simp [past]) (.step (.step .start ⟨kept, third⟩) ⟨kept', fourth⟩) (by simp [past])
    (by simp [past, InOrder, Call.listed]) (by simp [past, Call.listed])
    (by simp [past, Call.listed]; norm_num)

/-- From every recalculation to the next call neither error grows. -/
def BoundsTighten (algo : Algo) : Prop :=
  ∀ (build : Build) (max a b : ℚ) (past : List Call) (c : Call) (o o' : Object algo.Members),
    Run (Returns build) (Object.init max) past o → 2 ≤ past.length → Returns build o c o' →
    (past ++ [c]).length < 2 ^ 32 → InOrder (past ++ [c]) → (∀ d ∈ past ++ [c], 0 ≤ d.Tb) →
    (∀ d ∈ past ++ [c], d.To < a * d.Tb + b ∧ a * d.Tb + b < d.Tr) → NoWider o.base o'.base

/-- A rejected data point can hold a current line, which the next cleanup then
drops; a pair of smaller product that replaces it may have a wider drift. -/
theorem not_boundsTighten : ¬ BoundsTighten .tinySync ∧ ¬ BoundsTighten .miniSync := by
  constructor
  · intro tighten
    let past := [Call.listed (-9) 0 3, .listed (-2) 1 2, .listed (-3) 3 10, .listed 2 3 5]
    let o : Object TinySync := (Object.init 1000).after .plain past
    have run : Run (Returns .plain) (Object.init 1000) past o := run_after (by decide +kernel)
    let o' : Object TinySync := left (addDataPoint .plain (.listed 0 3 4) o)
    have last : Returns .plain o (.listed 0 3 4) o' := failure?_eq_none.mp (by decide +kernel)
    have narrower := tighten .plain 1000 1 0 past (.listed 0 3 4) o o' run (by simp [past]) last
      (by simp [past]) (by simp [past, InOrder, Call.listed]) (by simp [past, Call.listed])
      (by simp [past, Call.listed]; norm_num)
    have wider : o.base.getDriftError < o'.base.getDriftError := by decide +kernel
    exact absurd narrower.1 (not_le.mpr wider)
  · intro tighten
    let past := [Call.listed (-3) 0 4, .listed 0 1 4, .listed (-1) 3 8, .listed 2 3 11]
    let o : Object MiniSync := (Object.init 1000).after .plain past
    have run : Run (Returns .plain) (Object.init 1000) past o := run_after (by decide +kernel)
    let o' : Object MiniSync := left (addDataPoint .plain (.listed (-2) 3 5) o)
    have last : Returns .plain o (.listed (-2) 3 5) o' := failure?_eq_none.mp (by decide +kernel)
    have narrower := tighten .plain 1000 1 0 past (.listed (-2) 3 5) o o' run (by simp [past]) last
      (by simp [past]) (by simp [past, InOrder, Call.listed]) (by simp [past, Call.listed])
      (by simp [past, Call.listed]; norm_num)
    have wider : o.base.getDriftError < o'.base.getDriftError := by decide +kernel
    exact absurd narrower.1 (not_le.mpr wider)

end MiniSynCPP
