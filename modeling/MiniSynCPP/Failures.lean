import MiniSynCPP.Builds

/-!
# The estimates that a failing call leaves

A missing slope and a null line stop a call before it publishes, a drift that
is not positive only afterwards.
-/

namespace MiniSynCPP

open Runs

section
variable {M : Type} [Subclass M] [LawfulSubclass M]

/-- The search and the cleanup leave the estimates alone. -/
theorem cleanup_estimates (o : Object M) (c : Call) :
    SameEstimates o.base (left (Subclass.cleanup (o.searched c))).base := by
  have prunes := LawfulSubclass.cleanup_prunes (o.searched c)
  obtain ⟨_, drift, offset⟩ := (searched_tightest o c).untouched
  have same : (left (Subclass.cleanup (o.searched c))).base.currentDrift = o.base.currentDrift ∧
      (left (Subclass.cleanup (o.searched c))).base.currentOffset = o.base.currentOffset := by
    rw [prunes.frame]
    exact ⟨drift, offset⟩
  unfold SameEstimates Base.getDrift Base.getDriftError Base.getOffset Base.getOffsetError
  rw [same.1, same.2]
  exact ⟨rfl, rfl, rfl, rfl⟩

/-- Any two lines that the call can choose, their product being below the one held, have a
positive drift. -/
def Rises (s : Base) (c : Call) : Prop :=
  ∀ low ∈ s.lowLines c, ∀ high ∈ s.highLines c, Base.tmpDiff low high < s.diffFactor →
    0 < low.a + high.a

instance (s : Base) (c : Call) : Decidable (Rises s c) :=
  inferInstanceAs (Decidable (∀ low ∈ s.lowLines c, ∀ high ∈ s.highLines c,
    Base.tmpDiff low high < s.diffFactor → 0 < low.a + high.a))

theorem Rising.pruned {o : Object M} {c : Call} {t : Base} (h : Rising o.base)
    (drawn : o.base.TablesDrawn) (rises : Rises o.base c) (prunes : (o.searched c).base.Prunes t) :
    Rising t := by
  intro low high hlow hhigh
  obtain ⟨heldLow, heldHigh⟩ | ⟨hl, hh, lt⟩ := pruned_pair drawn prunes hlow hhigh
  · exact h low high heldLow heldHigh
  · exact rises low hl high hh lt

theorem Rising.step {o t : Object M} {c : Call} (h : Rising o.base) (drawn : o.base.TablesDrawn)
    (rises : Rises o.base c) (goes : Goes .plain o c t) : Rising t.base := by
  rw [← goes.left_eq]
  have outcome := addDataPoint_outcome .plain o c
  generalize addDataPoint .plain c o = result at outcome ⊢
  cases outcome with
  | counted => exact h
  | interrupted _ stopped =>
    have prunes := LawfulSubclass.cleanup_prunes (o.searched c)
    rw [stopped] at prunes
    exact h.pruned drawn rises prunes
  | lowNull _ cleaned => exact h.pruned drawn rises (cleanup_ok_prunes cleaned)
  | highNull _ cleaned => exact h.pruned drawn rises (cleanup_ok_prunes cleaned)
  | drift _ cleaned =>
    have rising := h.pruned drawn rises (cleanup_ok_prunes cleaned)
    exact rising
  | returned _ cleaned =>
    have rising := h.pruned drawn rises (cleanup_ok_prunes cleaned)
    exact rising

theorem run_rising {max : ℚ} {past : List Call} {o : Object M}
    (run : Run (fun o c t => Rises o.base c ∧ Goes .plain o c t) (Object.init max) past o) :
    Rising o.base := by
  refine run.invariant (P := fun _ o => Rising o.base) (init_rising max) ?_
  intro past o c t before h step
  have drawn := (run_historical (before.mono fun _ _ _ h => h.2)).drawn
  exact h.step drawn step.1 step.2

/-- The last check then passes, and whatever else stops a call does so before it publishes. -/
theorem Rising.fails_sameEstimates {o t : Object M} {c : Call} {e : Failure} (h : Rising o.base)
    (drawn : o.base.TablesDrawn) (rises : Rises o.base c)
    (fails : addDataPoint .plain c o = .error e t) : SameEstimates o.base t.base := by
  have outcome := addDataPoint_outcome .plain o c
  have kept := cleanup_estimates o c
  rw [fails] at outcome
  cases outcome with
  | interrupted _ stopped =>
    rw [stopped] at kept
    exact kept
  | lowNull _ cleaned _ =>
    rw [cleaned] at kept
    exact kept
  | highNull _ cleaned _ _ =>
    rw [cleaned] at kept
    exact kept
  | drift _ cleaned hlow hhigh check =>
    have falls := of_decide_eq_true check
    have positive := h.pruned drawn rises (cleanup_ok_prunes cleaned) _ _ hlow hhigh
    linarith

end

/-- Every call that throws, wherever in the run, leaves the four estimates as they were. -/
def FailuresKeepEstimates (algo : Algo) (max : ℚ) (calls : List Call) : Prop :=
  ∀ past c rest, calls = past ++ c :: rest → ∀ o : Object algo.Members,
    Run (Goes .plain) (Object.init max) past o → ∀ e t, addDataPoint .plain c o = .error e t →
      SameEstimates o.base t.base

/-- **When failing calls leave the estimates alone.** They do in every run in which no call can
choose two lines whose drift is not positive. -/
theorem failuresKeepEstimates_of_rises (algo : Algo) (max : ℚ) (calls : List Call)
    (rises : ∀ past c rest, calls = past ++ c :: rest → ∀ o : Object algo.Members,
      Run (Goes .plain) (Object.init max) past o → Rises o.base c) :
    FailuresKeepEstimates algo max calls := by
  intro past c rest split o run e t fails
  have steps : Run (fun o c t => Rises o.base c ∧ Goes .plain o c t) (Object.init max) past o := by
    apply run.with_condition
    intro before d after splitPast
    apply rises before d (after ++ c :: rest)
    rw [split, splitPast]
    simp
  exact (run_rising steps).fails_sameEstimates (run_historical run).drawn
    (rises past c rest split o run) fails

/-- The third of these calls comes too late and misses a slope. -/
theorem failuresKeepEstimates_of_rises_late :
    FailuresKeepEstimates .miniSync 1000 [.listed (-1) 0 1, .listed 1 2 3, .listed (-10) 1 20] := by
  apply failuresKeepEstimates_of_rises
  refine forall_split_cons ?_ (forall_split_cons ?_ (forall_split_cons ?_ forall_split_nil))
  all_goals
    intro o run
    rw [run_eq_after run]
    decide +kernel

/-- Two data points with the same bounds make a drift of zero, which is published and then rejected. -/
theorem not_failuresKeepEstimates : ¬ (∀ max calls, FailuresKeepEstimates .tinySync max calls) ∧
    ¬ ∀ max calls, FailuresKeepEstimates .miniSync max calls := by
  let first : Call := .listed (-1) 0 2
  let second : Call := .listed (-1) 1 2
  constructor
  · intro keep
    let o : Object (Algo.Members .tinySync) := (Object.init 1000).after .plain [first]
    have throws : failure? (addDataPoint .plain second o) = some .drift := by decide +kernel
    have same := keep 1000 [first, second] [first] second [] rfl o (run_after_plain _ [first]) _ _
      (failure?_eq_some.mp throws)
    have changed : (left (addDataPoint .plain second o)).base.getDrift ≠ o.base.getDrift := by
      decide +kernel
    exact changed same.1.symm
  · intro keep
    let o : Object (Algo.Members .miniSync) := (Object.init 1000).after .plain [first]
    have throws : failure? (addDataPoint .plain second o) = some .drift := by decide +kernel
    have same := keep 1000 [first, second] [first] second [] rfl o (run_after_plain _ [first]) _ _
      (failure?_eq_some.mp throws)
    have changed : (left (addDataPoint .plain second o)).base.getDrift ≠ o.base.getDrift := by
      decide +kernel
    exact changed same.1.symm

end MiniSynCPP
