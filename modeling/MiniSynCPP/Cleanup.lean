import MiniSynCPP.Steps

/-!
# The two cleanups, and a whole call

`LawfulSubclass` is what the results about `Base` need to know of a subclass;
both algorithms are instances. `Outcome` lists everything a call can do.
-/

namespace MiniSynCPP

open Containers Runs

/-- No point is in use and either side has points at one timestamp only. -/
structure Base.Unused (s : Base) : Prop where
  low : ∀ p, s.usesLow p = false
  high : ∀ p, s.usesHigh p = false
  oneLow : ∀ p ∈ s.lowPoints, ∀ q ∈ s.lowPoints, p.x = q.x
  oneHigh : ∀ p ∈ s.highPoints, ∀ q ∈ s.highPoints, p.x = q.x

/-- A subclass whose virtual functions add to the base functions and drop
nothing that is in use. -/
class LawfulSubclass (M : Type) [Subclass M] : Prop where
  addLowPoint_run (Tb To : ℚ) (o : Object M) : ∃ m,
    Subclass.addLowPoint Tb To o = .ok (o.base.fresh Tb To) ⟨o.base.addLow Tb To, m⟩
  addHighPoint_run (Tb Tr : ℚ) (o : Object M) : ∃ m,
    Subclass.addHighPoint Tb Tr o = .ok (o.base.fresh Tb Tr) ⟨o.base.addHigh Tb Tr, m⟩
  cleanup_prunes (o : Object M) : Base.Prunes o.base (left (Subclass.cleanup o)).base
  cleanup_rebuilds {o t : Object M} :
    Subclass.cleanup o = .ok () t → Base.Rebuilds o.base t.base
  cleanup_unused {o t : Object M} : Subclass.cleanup o = .ok () t → Base.Unused o.base →
    (∀ p, p ∉ t.base.lowPoints) ∧ ∀ p, p ∉ t.base.highPoints

@[simp] theorem onBase_modify_run {M : Type} (f : Base → Base) (o : Object M) :
    (onBase (modify f) : EStateM Failure (Object M) PUnit) o = .ok ⟨⟩ { o with base := f o.base } :=
  rfl

/-! ## TinySync -/

namespace TinySync

/-- The points that a cleanup leaves are the ones in use. -/
structure LeavesUsed (s t : Base) : Prop where
  lowPoints : t.lowPoints = s.lowPoints.eraseIf (fun p => !s.usesLow p)
  highPoints : t.highPoints = s.highPoints.eraseIf (fun p => !s.usesHigh p)

theorem cleanup_run (o : Object TinySync) :
    ∃ t, cleanup o = .ok () t ∧ LeavesUsed o.base t.base ∧ Base.Prunes o.base t.base ∧
      Base.Rebuilds o.base t.base := by
  let s := { o.base with
    lowPoints := o.base.lowPoints.eraseIf (fun p => !o.base.usesLow p)
    highPoints := o.base.highPoints.eraseIf (fun p => !o.base.usesHigh p) }
  obtain ⟨rebuilt, frame⟩ := Base.rebuild_spec Base.puts_assign s
  have lowPoints := congrArg Base.lowPoints frame
  have highPoints := congrArg Base.highPoints frame
  refine ⟨{ o with base := s.rebuild .assign }, rfl, ⟨lowPoints, highPoints⟩, ?_,
    ⟨rebuilt.low, rebuilt.high⟩⟩
  refine ⟨?_, ?_, ?_, ?_, fun e he => ((rebuilt.low e).mp he).1,
    fun e he => ((rebuilt.high e).mp he).1.1, ?_⟩
  · simp only [lowPoints]
    exact fun p hp => (OrderedSet.mem_eraseIf.mp hp).1
  · simp only [highPoints]
    exact fun p hp => (OrderedSet.mem_eraseIf.mp hp).1
  · simp only [lowPoints]
    exact fun p hp hu => OrderedSet.mem_eraseIf.mpr ⟨hp, by simp [hu]⟩
  · simp only [highPoints]
    exact fun p hp hu => OrderedSet.mem_eraseIf.mpr ⟨hp, by simp [hu]⟩
  · rw [lowPoints, highPoints]
    exact frame

instance : LawfulSubclass TinySync where
  addLowPoint_run Tb To o := by
    refine ⟨o.members, ?_⟩
    simp only [Subclass.addLowPoint, onBase, Base.addLowPoint_run]
  addHighPoint_run Tb Tr o := by
    refine ⟨o.members, ?_⟩
    simp only [Subclass.addHighPoint, onBase, Base.addHighPoint_run]
  cleanup_prunes o := by
    obtain ⟨t, run, _, prunes, _⟩ := cleanup_run o
    rw [show (Subclass.cleanup : EStateM Failure (Object TinySync) Unit) = cleanup from rfl, run]
    exact prunes
  cleanup_rebuilds {o t} h := by
    obtain ⟨t', run, _, _, rebuilds⟩ := cleanup_run o
    rw [show (Subclass.cleanup : EStateM Failure (Object TinySync) Unit) = cleanup from rfl,
      run] at h
    cases h
    exact rebuilds
  cleanup_unused {o t} h unused := by
    obtain ⟨t', run, leaves, _⟩ := cleanup_run o
    rw [show (Subclass.cleanup : EStateM Failure (Object TinySync) Unit) = cleanup from rfl,
      run] at h
    cases h
    rw [leaves.lowPoints, leaves.highPoints]
    simp [unused.low, unused.high]

end TinySync

/-! ## MiniSync -/

/-- What pruning one side leaves of it, also when a lookup stops it. -/
structure Side.Cut (used : PointPtr → Bool) (t u : Side) : Prop where
  points : ∀ p ∈ u.points, p ∈ t.points
  used : ∀ p ∈ t.points, used p = true → p ∈ u.points
  slopes : ∀ e ∈ u.slopes, e ∈ t.slopes

theorem Side.mem_forget_points {t : Side} {j p : PointPtr} :
    p ∈ (t.forget j).points ↔ p ∈ t.points ∧ p.x ≠ j.x := by
  simp [forget, OrderedSet.erase]

theorem Side.mem_forget_slopes {t : Side} {j : PointPtr} {e : (PointPtr × PointPtr) × ℚ} :
    e ∈ (t.forget j).slopes ↔ e ∈ t.slopes ∧ e.1.1 ≠ j ∧ e.1.2 ≠ j := by
  simp [forget]

theorem pruneAt_cut {used : PointPtr → Bool} {cmp : ℚ → ℚ → Bool} {t : Side} {j : PointPtr}
    (hj : j ∈ t.points) : Keeps (t.Cut used) (pruneAt used cmp j) := by
  intro u hu
  cases hused : used j with
  | true => simpa [pruneAt, hused] using hu
  | false =>
    cases htest : storeTest cmp u j with
    | error e => simpa [pruneAt, hused, htest] using hu
    | ok store =>
      cases store with
      | true => simpa [pruneAt, hused, htest] using hu
      | false =>
        have kept : t.Cut used (u.forget j) := by
          refine ⟨fun p hp => hu.points p (Side.mem_forget_points.mp hp).1, fun p hp hpu => ?_,
            fun e he => hu.slopes e (Side.mem_forget_slopes.mp he).1⟩
          refine Side.mem_forget_points.mpr ⟨hu.used p hp hpu, fun hx => ?_⟩
          rw [OrderedSet.eq_of_key hp hj hx, hused] at hpu
          cases hpu
        simpa [pruneAt, hused, htest] using kept

theorem prune_cut (used : PointPtr → Bool) (cmp : ℚ → ℚ → Bool) (t : Side) :
    t.Cut used (left (prune used cmp t)) := by
  have loop : Keeps (t.Cut used) (t.points.elems.forM (pruneAt used cmp)) :=
    keeps_forM fun j hj => pruneAt_cut hj
  exact loop t ⟨fun _ h => h, fun _ h _ => h, fun _ h => h⟩

/-- With one point, or none, there is nothing to compare. -/
theorem prune_unused {used : PointPtr → Bool} (cmp : ℚ → ℚ → Bool) {t : Side}
    (unused : ∀ p, used p = false) (one : ∀ p ∈ t.points, ∀ q ∈ t.points, p.x = q.x) :
    ∃ u, prune used cmp t = .ok ⟨⟩ u ∧ ∀ p, p ∉ u.points := by
  have run : prune used cmp t = t.points.elems.forM (pruneAt used cmp) t := rfl
  rw [run]
  cases elems : t.points.elems with
  | nil => exact ⟨t, rfl, fun p hp => by simp [OrderedSet.mem_def, elems] at hp⟩
  | cons j l =>
    have hj : j ∈ t.points := by simp [OrderedSet.mem_def, elems]
    have alone : l = [] := by
      cases l with
      | nil => rfl
      | cons k l =>
        have hk : k ∈ t.points := by simp [OrderedSet.mem_def, elems]
        have sorted := t.points.sorted
        rw [elems] at sorted
        have lt := List.rel_of_pairwise_cons sorted List.mem_cons_self
        exact absurd (one j hj k hk) lt.ne
    have before : t.points.before j = [] := by
      simp [OrderedSet.before, elems, alone]
    have test : storeTest cmp t j = .ok false := by
      rw [storeTest, before]
      rfl
    refine ⟨t.forget j, ?_, ?_⟩
    · rw [alone]
      change (pruneAt used cmp j >>= fun _ => pure PUnit.unit) t = _
      simp [pruneAt, unused j, test]
    · intro p hp
      obtain ⟨hp, away⟩ := Side.mem_forget_points.mp hp
      exact away (one p hp j hj)

namespace MiniSync

/-- The loops over the two sides, before the tables are rebuilt. -/
theorem cleanup_eq (o : Object MiniSync) :
    cleanup o = match prune o.base.usesLow (fun m m' => m > m')
        ⟨o.base.lowPoints, o.members.lowSlopes⟩ with
      | .error e t => .error e
        ⟨{ o.base with lowPoints := t.points }, { o.members with lowSlopes := t.slopes }⟩
      | .ok _ t =>
        match prune o.base.usesHigh (fun m m' => m < m')
            ⟨o.base.highPoints, o.members.highSlopes⟩ with
        | .error e u => .error e
          ⟨{ o.base with lowPoints := t.points, highPoints := u.points }, ⟨t.slopes, u.slopes⟩⟩
        | .ok _ u => .ok ()
          ⟨Base.rebuild .emplace { o.base with lowPoints := t.points, highPoints := u.points },
            ⟨t.slopes, u.slopes⟩⟩ := by
  simp only [cleanup, bind_run, get_run, onLows]
  cases prune o.base.usesLow (fun m m' => m > m') ⟨o.base.lowPoints, o.members.lowSlopes⟩ with
  | error e t => rfl
  | ok _ t =>
    have same : Base.usesHigh { o.base with lowPoints := t.points } = o.base.usesHigh := rfl
    simp only [onHighs, same]
    cases prune o.base.usesHigh (fun m m' => m < m')
        ⟨o.base.highPoints, o.members.highSlopes⟩ with
    | error e u => rfl
    | ok _ u => rfl

theorem cleanup_prunes (o : Object MiniSync) : Base.Prunes o.base (left (cleanup o)).base := by
  have cutLow := prune_cut o.base.usesLow (fun m m' => m > m')
    ⟨o.base.lowPoints, o.members.lowSlopes⟩
  have cutHigh := prune_cut o.base.usesHigh (fun m m' => m < m')
    ⟨o.base.highPoints, o.members.highSlopes⟩
  rw [cleanup_eq]
  cases low : prune o.base.usesLow (fun m m' => m > m') ⟨o.base.lowPoints, o.members.lowSlopes⟩ with
  | error e t =>
    rw [low] at cutLow
    exact ⟨cutLow.points, fun _ h => h, cutLow.used, fun _ h _ => h, fun _ h => h, fun _ h => h, rfl⟩
  | ok _ t =>
    rw [low] at cutLow
    cases high : prune o.base.usesHigh (fun m m' => m < m')
        ⟨o.base.highPoints, o.members.highSlopes⟩ with
    | error e u =>
      rw [high] at cutHigh
      exact ⟨cutLow.points, cutHigh.points, cutLow.used, cutHigh.used, fun _ h => h, fun _ h => h,
        rfl⟩
    | ok _ u =>
      rw [high] at cutHigh
      obtain ⟨rebuilt, frame⟩ := Base.rebuild_spec Base.puts_emplace
        { o.base with lowPoints := t.points, highPoints := u.points }
      have lowPoints := congrArg Base.lowPoints frame
      have highPoints := congrArg Base.highPoints frame
      simp only [left_ok]
      refine ⟨by rw [lowPoints]; exact cutLow.points, by rw [highPoints]; exact cutHigh.points,
        by rw [lowPoints]; exact cutLow.used, by rw [highPoints]; exact cutHigh.used,
        fun e he => ((rebuilt.low e).mp he).1, fun e he => ((rebuilt.high e).mp he).1.1, ?_⟩
      rw [lowPoints, highPoints]
      exact frame

theorem cleanup_rebuilds {o t : Object MiniSync} (h : cleanup o = .ok () t) :
    Base.Rebuilds o.base t.base := by
  rw [cleanup_eq] at h
  cases low : prune o.base.usesLow (fun m m' => m > m') ⟨o.base.lowPoints, o.members.lowSlopes⟩ with
  | error e v => rw [low] at h; cases h
  | ok _ v =>
    rw [low] at h
    cases high : prune o.base.usesHigh (fun m m' => m < m')
        ⟨o.base.highPoints, o.members.highSlopes⟩ with
    | error e u => rw [high] at h; cases h
    | ok _ u =>
      rw [high] at h
      cases h
      obtain ⟨rebuilt, _⟩ := Base.rebuild_spec Base.puts_emplace
        { o.base with lowPoints := v.points, highPoints := u.points }
      exact ⟨rebuilt.low, rebuilt.high⟩

theorem cleanup_unused {o t : Object MiniSync} (h : cleanup o = .ok () t) (unused : o.base.Unused) :
    (∀ p, p ∉ t.base.lowPoints) ∧ ∀ p, p ∉ t.base.highPoints := by
  obtain ⟨u, lowRun, lows⟩ := prune_unused (fun m m' => m > m')
    (t := ⟨o.base.lowPoints, o.members.lowSlopes⟩) unused.low unused.oneLow
  obtain ⟨v, highRun, highs⟩ := prune_unused (fun m m' => m < m')
    (t := ⟨o.base.highPoints, o.members.highSlopes⟩) unused.high unused.oneHigh
  rw [cleanup_eq, lowRun, highRun] at h
  cases h
  obtain ⟨_, frame⟩ := Base.rebuild_spec Base.puts_emplace
    { o.base with lowPoints := u.points, highPoints := v.points }
  have lowPoints := congrArg Base.lowPoints frame
  have highPoints := congrArg Base.highPoints frame
  simp only at lowPoints highPoints ⊢
  rw [lowPoints, highPoints]
  exact ⟨lows, highs⟩

instance : LawfulSubclass MiniSync where
  addLowPoint_run Tb To o := by
    let slopes := addSlopes (o.base.addLow Tb To).lowPoints o.members.lowSlopes (o.base.fresh Tb To)
    refine ⟨{ o.members with lowSlopes := slopes }, ?_⟩
    simp only [Subclass.addLowPoint, addLowPoint, onBase, bind_run, Base.addLowPoint_run,
      modify_run, pure_run]
    rfl
  addHighPoint_run Tb Tr o := by
    let slopes :=
      addSlopes (o.base.addHigh Tb Tr).highPoints o.members.highSlopes (o.base.fresh Tb Tr)
    refine ⟨{ o.members with highSlopes := slopes }, ?_⟩
    simp only [Subclass.addHighPoint, addHighPoint, onBase, bind_run, Base.addHighPoint_run,
      modify_run, pure_run]
    rfl
  cleanup_prunes := cleanup_prunes
  cleanup_rebuilds := cleanup_rebuilds
  cleanup_unused := cleanup_unused

end MiniSync

instance : (algo : Algo) → LawfulSubclass algo.Members
  | .tinySync => inferInstanceAs (LawfulSubclass TinySync)
  | .miniSync => inferInstanceAs (LawfulSubclass MiniSync)

/-! ## A whole call -/

section
variable {M : Type} [Subclass M]

def addPoints (c : Call) : EStateM Failure (Object M) HPointPtr := do
  discard <| Subclass.addLowPoint c.Tb c.To
  Subclass.addHighPoint c.Tb c.Tr

/-- The object after the two points of a call are added. -/
def Object.added (o : Object M) (c : Call) : Object M where
  base := o.base.added c
  members := (left (addPoints c o)).members

/-- The object after the search of a recalculating call. -/
def Object.searched (o : Object M) (c : Call) : Object M :=
  { o.added c with
    base := (o.base.added c).findTightest (c.lowOrder.visit (o.base.added c).lowConstraints.entries)
      (c.highOrder.visit (o.base.added c).highConstraints.entries) }

theorem searched_tightest (o : Object M) (c : Call) :
    Base.Tightest (o.base.added c) (o.base.added c).lowConstraints.entries
      (o.base.added c).highConstraints.entries (o.searched c).base := by
  obtain ⟨least, taken⟩ := Base.findTightest_spec (o.base.added c)
    (c.lowOrder.visit (o.base.added c).lowConstraints.entries)
    (c.highOrder.visit (o.base.added c).highConstraints.entries)
  simp only [IterOrder.mem_visit] at least taken
  exact ⟨least, taken⟩

/-- Everything one call can do. -/
inductive Outcome (build : Build) (o : Object M) (c : Call) :
    EStateM.Result Failure (Object M) Unit → Prop
  /-- The first call, and the first after the counter wraps: nothing is recalculated. -/
  | counted : ¬ 1 < (o.base.added c).processedTimestamps → Outcome build o c (.ok () (o.added c))
  | interrupted {e : Failure} {t : Object M} : 1 < (o.base.added c).processedTimestamps →
      Subclass.cleanup (o.searched c) = .error e t → Outcome build o c (.error e t)
  | lowNull {t : Object M} : 1 < (o.base.added c).processedTimestamps →
      Subclass.cleanup (o.searched c) = .ok () t → t.base.currentLow = none →
      Outcome build o c (.error .lowNull t)
  | highNull {t : Object M} : 1 < (o.base.added c).processedTimestamps →
      Subclass.cleanup (o.searched c) = .ok () t → t.base.currentLow ≠ none →
      t.base.currentHigh = none → Outcome build o c (.error .highNull t)
  | drift {t : Object M} {low high : ConstraintLine} : 1 < (o.base.added c).processedTimestamps →
      Subclass.cleanup (o.searched c) = .ok () t → t.base.currentLow = some low →
      t.base.currentHigh = some high → driftFails build ((low.a + high.a) / 2) = true →
      Outcome build o c (.error .drift { t with base := t.base.estimate low high })
  | returned {t : Object M} {low high : ConstraintLine} : 1 < (o.base.added c).processedTimestamps →
      Subclass.cleanup (o.searched c) = .ok () t → t.base.currentLow = some low →
      t.base.currentHigh = some high → driftFails build ((low.a + high.a) / 2) = false →
      Outcome build o c (.ok () { t with base := t.base.estimate low high })

variable [LawfulSubclass M]

theorem addPoints_run (o : Object M) (c : Call) :
    addPoints c o = .ok ((o.base.addLow c.Tb c.To).fresh c.Tb c.Tr)
      ⟨(o.base.addLow c.Tb c.To).addHigh c.Tb c.Tr, (o.added c).members⟩ := by
  obtain ⟨m, low⟩ := LawfulSubclass.addLowPoint_run c.Tb c.To o
  obtain ⟨m', high⟩ :=
    LawfulSubclass.addHighPoint_run c.Tb c.Tr (⟨o.base.addLow c.Tb c.To, m⟩ : Object M)
  have run : addPoints c o = .ok ((o.base.addLow c.Tb c.To).fresh c.Tb c.Tr)
      ⟨(o.base.addLow c.Tb c.To).addHigh c.Tb c.Tr, m'⟩ := by
    rw [addPoints, bind_run, discard_run, low]
    exact high
  rw [Object.added, run]
  rfl

theorem addDataPoint_run (build : Build) (o : Object M) (c : Call) :
    addDataPoint build c o =
      if 1 < (o.base.added c).processedTimestamps then recalculateEstimates build c (o.added c)
      else .ok () (o.added c) := by
  obtain ⟨m, low⟩ := LawfulSubclass.addLowPoint_run c.Tb c.To o
  have points := addPoints_run o c
  rw [addPoints, bind_run, discard_run, low] at points
  simp only at points
  simp only [addDataPoint, bind_run, discard_run, low, points, onBase_modify_run, get_run]
  by_cases h : 1 < (o.base.added c).processedTimestamps
  · rw [if_pos h]
    exact congrFun (if_pos h) (o.added c)
  · rw [if_neg h]
    exact congrFun (if_neg h) (o.added c)

/-- The part of a recalculation behind the search and the cleanup. -/
def publish {M : Type} (build : Build) : EStateM Failure (Object M) Unit := do
  let some low := (← get).base.currentLow | throw .lowNull
  let some high := (← get).base.currentHigh | throw .highNull
  onBase <| modify fun s => s.estimate low high
  if driftFails build (← get).base.currentDrift.value then throw .drift

omit [Subclass M] [LawfulSubclass M] in
theorem publish_run (build : Build) (t : Object M) :
    publish build t = match t.base.currentLow, t.base.currentHigh with
      | none, _ => .error .lowNull t
      | some _, none => .error .highNull t
      | some low, some high =>
        if driftFails build ((low.a + high.a) / 2) = true then
          .error .drift { t with base := t.base.estimate low high }
        else .ok () { t with base := t.base.estimate low high } := by
  cases low : t.base.currentLow with
  | none => simp only [publish, bind_run, get_run, low, throw_run]
  | some l =>
    cases high : t.base.currentHigh with
    | none => simp only [publish, bind_run, get_run, low, high, throw_run]
    | some h =>
      simp only [publish, bind_run, get_run, low, high, onBase_modify_run]
      by_cases check : driftFails build ((l.a + h.a) / 2) = true
      · rw [if_pos check]
        exact congrFun (if_pos check) _
      · rw [if_neg check]
        exact congrFun (if_neg check) _

omit [Subclass M] [LawfulSubclass M] in
/-- What the last part of a recalculation leaves, whether it fails or not. -/
theorem left_publish (build : Build) (t : Object M) :
    left (publish build t) = match t.base.currentLow, t.base.currentHigh with
      | some low, some high => { t with base := t.base.estimate low high }
      | _, _ => t := by
  rw [publish_run]
  cases t.base.currentLow with
  | none => rfl
  | some low =>
    cases t.base.currentHigh with
    | none => rfl
    | some high => exact apply_ite left _ _ _ |>.trans (ite_self _)

/-- A call: the points, the search, the cleanup, and then the checks. -/
theorem addDataPoint_eq (build : Build) (o : Object M) (c : Call) :
    addDataPoint build c o =
      if 1 < (o.base.added c).processedTimestamps then
        match (Subclass.cleanup (o.searched c) : EStateM.Result Failure (Object M) Unit) with
        | .ok _ t => publish build t
        | .error e t => .error e t
      else .ok () (o.added c) := by
  rw [addDataPoint_run]
  have search : recalculateEstimates build c (o.added c) =
      (Subclass.cleanup >>= fun _ => publish build : EStateM Failure (Object M) Unit)
        (o.searched c) := rfl
  rw [search, bind_run]
  cases (Subclass.cleanup (o.searched c) : EStateM.Result Failure (Object M) Unit) with
  | ok _ t => rfl
  | error e t => rfl

/-- A failing check does not undo the call, so both builds leave the same. -/
theorem left_plain (build : Build) (o : Object M) (c : Call) :
    left (addDataPoint build c o) = left (addDataPoint .plain c o) := by
  rw [addDataPoint_eq, addDataPoint_eq]
  by_cases recalculates : 1 < (o.base.added c).processedTimestamps
  · rw [if_pos recalculates, if_pos recalculates]
    generalize (Subclass.cleanup (o.searched c) : EStateM.Result Failure (Object M) Unit) = r
    cases r with
    | error => rfl
    | ok _ t => exact (left_publish build t).trans (left_publish .plain t).symm
  · rw [if_neg recalculates, if_neg recalculates]

theorem addDataPoint_outcome (build : Build) (o : Object M) (c : Call) :
    Outcome build o c (addDataPoint build c o) := by
  rw [addDataPoint_eq]
  split
  · rename_i recalculates
    cases pruned : (Subclass.cleanup (o.searched c) : EStateM.Result Failure (Object M) Unit) with
    | error e t => exact .interrupted recalculates pruned
    | ok _ t =>
      simp only [publish_run]
      cases low : t.base.currentLow with
      | none => exact .lowNull recalculates pruned low
      | some l =>
        cases high : t.base.currentHigh with
        | none => exact .highNull recalculates pruned (by simp [low]) high
        | some h =>
          simp only
          split
          · rename_i check
            exact .drift recalculates pruned low high check
          · rename_i check
            exact .returned recalculates pruned low high (Bool.eq_false_of_not_eq_true check)
  · rename_i first
    exact .counted first

end

end MiniSynCPP
