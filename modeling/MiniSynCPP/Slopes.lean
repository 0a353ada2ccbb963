import MiniSynCPP.History

/-!
# Data points that arrive in order

The slope tables hold slopes into the newest point only. While no data point
is older than a stored one this is every slope that `MiniSync::cleanup` looks
up, so a call does not throw `std::out_of_range`.
-/

namespace MiniSynCPP

open Containers Runs

/-! ## One side of MiniSync -/

/-- The table holds slopes only, and the one between any two stored points. -/
structure Side.Tabled (t : Side) : Prop where
  value : ∀ e ∈ t.slopes, e.2 = slope e.1.1 e.1.2
  known : ∀ p ∈ t.points, ∀ q ∈ t.points, p.x < q.x → ∃ m, ((p, q), m) ∈ t.slopes

theorem Side.Tabled.slopeAt {t : Side} (h : t.Tabled) {p q : PointPtr} (hp : p ∈ t.points)
    (hq : q ∈ t.points) (hx : p.x < q.x) : slopeAt t.slopes (p, q) = .ok (slope p q) := by
  obtain ⟨m, hm⟩ := h.known p hp q hq hx
  have same : m = slope p q := h.value _ hm
  unfold MiniSynCPP.slopeAt
  rw [UnorderedMap.find?_eq_some.mpr hm, same]

theorem Side.Tabled.storeTest {t : Side} (h : t.Tabled) (cmp : ℚ → ℚ → Bool) {j : PointPtr}
    (hj : j ∈ t.points) :
    storeTest cmp t j = .ok ((t.points.before j).any fun i =>
      (t.points.after j).any fun k => cmp (slope i j) (slope j k)) := by
  unfold MiniSynCPP.storeTest
  apply anyM_ok
  intro i hi
  apply anyM_ok
  intro k hk
  obtain ⟨hi, hij⟩ := OrderedSet.mem_before.mp hi
  obtain ⟨hk, hjk⟩ := OrderedSet.mem_after.mp hk
  rw [h.slopeAt hi hj hij, h.slopeAt hj hk hjk]
  rfl

theorem Side.Tabled.forget {t : Side} (h : t.Tabled) (j : PointPtr) : (t.forget j).Tabled := by
  constructor
  · intro e he
    exact h.value e (mem_forget_slopes.mp he).1
  · intro p hp q hq hx
    obtain ⟨hp, pAway⟩ := mem_forget_points.mp hp
    obtain ⟨hq, qAway⟩ := mem_forget_points.mp hq
    obtain ⟨m, hm⟩ := h.known p hp q hq hx
    refine ⟨m, mem_forget_slopes.mpr ⟨hm, ?_, ?_⟩⟩
    · intro e
      exact pAway (congrArg (·.x) e)
    · intro e
      exact qAway (congrArg (·.x) e)

/-- What pruning leaves: no dropped point was in use, nor did the slopes from
and to any two remaining points around it compare. -/
structure Side.Pruned (used : PointPtr → Bool) (cmp : ℚ → ℚ → Bool) (t u : Side) : Prop where
  tabled : u.Tabled
  cut : t.Cut used u
  dropped : ∀ r ∈ t.points, r ∉ u.points → ∀ p ∈ u.points, ∀ q ∈ u.points, p.x < r.x → r.x < q.x →
    cmp (slope p r) (slope r q) = false

section
variable {used : PointPtr → Bool} {cmp : ℚ → ℚ → Bool} {t u : Side}

theorem pruneAt_pruned {j : PointPtr} (hu : t.Pruned used cmp u) (hj : j ∈ t.points)
    (stored : j ∈ u.points) :
    ∃ v, pruneAt used cmp j u = .ok ⟨⟩ v ∧ t.Pruned used cmp v ∧
      ∀ p ∈ u.points, p ≠ j → p ∈ v.points := by
  have cut : t.Cut used (left (pruneAt used cmp j u)) := pruneAt_cut hj u hu.cut
  cases hused : used j with
  | true => exact ⟨u, by simp [pruneAt, hused], hu, fun _ hp _ => hp⟩
  | false =>
    have test := hu.tabled.storeTest cmp stored
    cases htest : (u.points.before j).any fun i =>
        (u.points.after j).any fun k => cmp (slope i j) (slope j k) with
    | true =>
      rw [htest] at test
      exact ⟨u, by simp [pruneAt, hused, test], hu, fun _ hp _ => hp⟩
    | false =>
      rw [htest] at test
      have run : pruneAt used cmp j u = .ok ⟨⟩ (u.forget j) := by simp [pruneAt, hused, test]
      rw [run] at cut
      refine ⟨u.forget j, run, ⟨hu.tabled.forget j, cut, ?_⟩, ?_⟩
      · intro r hr gone p hp q hq hpr hrq
        have pStored := (Side.mem_forget_points.mp hp).1
        have qStored := (Side.mem_forget_points.mp hq).1
        by_cases still : r ∈ u.points
        · have same : r.x = j.x := by
            by_contra hx
            exact gone (Side.mem_forget_points.mpr ⟨still, hx⟩)
          obtain rfl := OrderedSet.eq_of_key still stored same
          have := List.any_eq_false.mp htest p (OrderedSet.mem_before.mpr ⟨pStored, hpr⟩)
          have := List.any_eq_false.mp (Bool.eq_false_of_not_eq_true this) q
            (OrderedSet.mem_after.mpr ⟨qStored, hrq⟩)
          exact Bool.eq_false_of_not_eq_true this
        · exact hu.dropped r hr still p pStored q qStored hpr hrq
      · intro p hp hne
        refine Side.mem_forget_points.mpr ⟨hp, ?_⟩
        intro hx
        exact hne (OrderedSet.eq_of_key hp stored hx)

theorem Side.Tabled.pruned (h : t.Tabled) : t.Pruned used cmp t :=
  ⟨h, ⟨fun _ h => h, fun _ h _ => h, fun _ h => h⟩, fun _ hr gone => absurd hr gone⟩

/-- The loop over some of the points leaves the others stored. -/
theorem forM_pruneAt_pruned {l : List PointPtr} (distinct : l.Nodup)
    (stored : ∀ j ∈ l, j ∈ t.points ∧ j ∈ u.points) (hu : t.Pruned used cmp u) :
    ∃ v, l.forM (pruneAt used cmp) u = .ok ⟨⟩ v ∧ t.Pruned used cmp v ∧
      ∀ p ∈ u.points, p ∉ l → p ∈ v.points := by
  induction l generalizing u with
  | nil => exact ⟨u, rfl, hu, fun _ hp _ => hp⟩
  | cons j l ih =>
    obtain ⟨notIn, distinct⟩ := List.nodup_cons.mp distinct
    obtain ⟨hj, later⟩ := List.forall_mem_cons.mp stored
    obtain ⟨v, run, hv, others⟩ := pruneAt_pruned hu hj.1 hj.2
    have still : ∀ k ∈ l, k ∈ t.points ∧ k ∈ v.points := by
      intro k hk
      exact ⟨(later k hk).1, others k (later k hk).2 (fun e => notIn (e ▸ hk))⟩
    obtain ⟨w, rest, hw, kept⟩ := ih distinct still hv
    refine ⟨w, ?_, hw, ?_⟩
    · change (pruneAt used cmp j >>= fun _ => l.forM (pruneAt used cmp)) u = _
      rw [bind_run, run]
      exact rest
    · intro p hp away
      rw [List.mem_cons, not_or] at away
      exact kept p (others p hp away.1) away.2

theorem prune_pruned (used : PointPtr → Bool) (cmp : ℚ → ℚ → Bool) (ht : t.Tabled) :
    ∃ u, prune used cmp t = .ok ⟨⟩ u ∧ t.Pruned used cmp u := by
  have distinct : t.points.elems.Nodup := List.Nodup.of_map _ t.points.keys_nodup
  obtain ⟨u, run, pruned, _⟩ := forM_pruneAt_pruned distinct (fun j hj => ⟨hj, hj⟩) ht.pruned
  exact ⟨u, run, pruned⟩

end

theorem mem_addSlopes_of_mem (l : List PointPtr) (lp : PointPtr) {slopes : SlopeTable}
    {e : (PointPtr × PointPtr) × ℚ} (he : e ∈ slopes) :
    e ∈ l.foldl (fun t olp => if lp.x = olp.x then t else t.emplace (olp, lp) (slope olp lp))
      slopes := by
  induction l generalizing slopes with
  | nil => exact he
  | cons olp l ih =>
    rw [List.foldl_cons]
    apply ih
    split
    · exact he
    · exact UnorderedMap.mem_emplace.mpr (.inl he)

theorem foldl_addSlopes (l : List PointPtr) (lp : PointPtr) {slopes : SlopeTable}
    (value : ∀ e ∈ slopes, e.2 = slope e.1.1 e.1.2) :
    let t := l.foldl (fun t olp => if lp.x = olp.x then t else t.emplace (olp, lp) (slope olp lp))
      slopes
    (∀ e ∈ t, e.2 = slope e.1.1 e.1.2) ∧
      ∀ p ∈ l, p.x < lp.x → ∃ m, ((p, lp), m) ∈ t := by
  induction l generalizing slopes with
  | nil => exact ⟨value, by simp⟩
  | cons olp l ih =>
    have entered : ∀ e ∈ (if lp.x = olp.x then slopes
        else slopes.emplace (olp, lp) (slope olp lp)), e.2 = slope e.1.1 e.1.2 := by
      intro e he
      split at he
      · exact value e he
      · obtain he | ⟨rfl, _⟩ := UnorderedMap.mem_emplace.mp he
        · exact value e he
        · rfl
    obtain ⟨all, known⟩ := ih entered
    refine ⟨all, ?_⟩
    intro p hp hx
    obtain rfl | hp := List.mem_cons.mp hp
    · have held : ∃ m, ((p, lp), m) ∈ slopes.emplace (p, lp) (slope p lp) := by
        cases known : slopes.contains (p, lp) with
        | true =>
          obtain ⟨m, hm⟩ := UnorderedMap.contains_iff.mp known
          exact ⟨m, UnorderedMap.mem_emplace.mpr (.inl hm)⟩
        | false => exact ⟨_, UnorderedMap.mem_emplace.mpr (.inr ⟨rfl, known⟩)⟩
      obtain ⟨m, hm⟩ := held
      have entry : ((p, lp), m) ∈ (if lp.x = p.x then slopes
          else slopes.emplace (p, lp) (slope p lp)) := by rwa [if_neg hx.ne']
      exact ⟨m, mem_addSlopes_of_mem l lp entry⟩
    · exact known p hp hx

/-- A newest point may be added with the slopes into it. -/
theorem Side.Tabled.add {t : Side} (h : t.Tabled) {lp : PointPtr}
    (newest : ∀ p ∈ t.points, p.x ≤ lp.x) :
    Side.Tabled ⟨t.points.insert lp, addSlopes (t.points.insert lp) t.slopes lp⟩ := by
  obtain ⟨value, known⟩ := foldl_addSlopes (t.points.insert lp).elems lp h.value
  refine ⟨value, ?_⟩
  intro p hp q hq hx
  obtain qOld | ⟨rfl, _⟩ := OrderedSet.mem_insert.mp hq
  · obtain pOld | ⟨rfl, _⟩ := OrderedSet.mem_insert.mp hp
    · obtain ⟨m, hm⟩ := h.known p pOld q qOld hx
      exact ⟨m, mem_addSlopes_of_mem _ lp hm⟩
    · exact absurd (newest q qOld) (not_le.mpr hx)
  · exact known p hp hx

/-! ## Objects whose lookups succeed -/

/-- A subclass with a condition under which its cleanup does not throw, and
which lasts while no data point is older than a stored one. -/
class OrderedSubclass (M : Type) [Subclass M] where
  Ready : Object M → Prop
  ready_init (max : ℚ) : Ready (Object.init max)
  ready_congr {o t : Object M} : Ready o → t.members = o.members →
    t.base.lowPoints = o.base.lowPoints → t.base.highPoints = o.base.highPoints → Ready t
  ready_added {o : Object M} {c : Call} : Ready o → (∀ p ∈ o.base.lowPoints, p.x ≤ c.Tb) →
    (∀ p ∈ o.base.highPoints, p.x ≤ c.Tb) → Ready (o.added c)
  cleanup_ready {o : Object M} : Ready o → ∃ t, Subclass.cleanup o = .ok () t ∧ Ready t

instance : OrderedSubclass TinySync where
  Ready _ := True
  ready_init _ := trivial
  ready_congr _ _ _ _ := trivial
  ready_added _ _ _ := trivial
  cleanup_ready {o} _ := by
    obtain ⟨t, run, _⟩ := TinySync.cleanup_run o
    exact ⟨t, run, trivial⟩

namespace MiniSync

/-- The low points of an object with their slopes. -/
def lowSide (o : Object MiniSync) : Side := ⟨o.base.lowPoints, o.members.lowSlopes⟩

def highSide (o : Object MiniSync) : Side := ⟨o.base.highPoints, o.members.highSlopes⟩

def Ready (o : Object MiniSync) : Prop := (lowSide o).Tabled ∧ (highSide o).Tabled

theorem lowSide_added (o : Object MiniSync) (c : Call) :
    lowSide (o.added c) = ⟨o.base.lowPoints.insert (o.base.newLow c),
      addSlopes (o.base.lowPoints.insert (o.base.newLow c)) o.members.lowSlopes
        (o.base.newLow c)⟩ := by
  simp only [lowSide, Object.added, addPoints, bind_run, discard_run,
    Subclass.addLowPoint, Subclass.addHighPoint, addLowPoint, addHighPoint,
    onBase, Base.addLowPoint_run, Base.addHighPoint_run, modify_run, pure_run, left_ok]
  rfl

theorem highSide_added (o : Object MiniSync) (c : Call) :
    highSide (o.added c) = ⟨o.base.highPoints.insert (o.base.newHigh c),
      addSlopes (o.base.highPoints.insert (o.base.newHigh c)) o.members.highSlopes
        (o.base.newHigh c)⟩ := by
  simp only [highSide, Object.added, addPoints, bind_run, discard_run,
    Subclass.addLowPoint, Subclass.addHighPoint, addLowPoint, addHighPoint,
    onBase, Base.addLowPoint_run, Base.addHighPoint_run, modify_run, pure_run, left_ok]
  rfl

/-- A cleanup prunes both sides. -/
theorem cleanup_pruned {o : Object MiniSync} (h : Ready o) :
    ∃ t, cleanup o = .ok () t ∧
      (lowSide o).Pruned o.base.usesLow (fun m m' => m > m') (lowSide t) ∧
      (highSide o).Pruned o.base.usesHigh (fun m m' => m < m') (highSide t) := by
  obtain ⟨u, lowRun, lows⟩ := prune_pruned o.base.usesLow (fun m m' => m > m') h.1
  obtain ⟨v, highRun, highs⟩ := prune_pruned o.base.usesHigh (fun m m' => m < m') h.2
  let s := { o.base with lowPoints := u.points, highPoints := v.points }
  obtain ⟨_, frame⟩ := Base.rebuild_spec Base.puts_emplace s
  have lowPoints : (s.rebuild .emplace).lowPoints = u.points := congrArg Base.lowPoints frame
  have highPoints : (s.rebuild .emplace).highPoints = v.points := congrArg Base.highPoints frame
  refine ⟨⟨s.rebuild .emplace, ⟨u.slopes, v.slopes⟩⟩, ?_, ?_, ?_⟩
  · rw [cleanup_eq]
    unfold lowSide at lowRun
    unfold highSide at highRun
    rw [lowRun, highRun]
  · have same : lowSide ⟨s.rebuild .emplace, ⟨u.slopes, v.slopes⟩⟩ = u := by
      rw [lowSide, lowPoints]
    rwa [same]
  · have same : highSide ⟨s.rebuild .emplace, ⟨u.slopes, v.slopes⟩⟩ = v := by
      rw [highSide, highPoints]
    rwa [same]

instance : OrderedSubclass MiniSync where
  Ready := Ready
  ready_init max := by
    constructor
    · exact ⟨by simp [lowSide, Object.init, Subclass.init], by simp [lowSide, Object.init, Base.init]⟩
    · exact ⟨by simp [highSide, Object.init, Subclass.init],
        by simp [highSide, Object.init, Base.init]⟩
  ready_congr h members low high := by
    unfold Ready lowSide highSide
    rw [members, low, high]
    exact h
  ready_added {o c} h low high := by
    unfold Ready
    rw [lowSide_added, highSide_added]
    exact ⟨h.1.add low, h.2.add high⟩
  cleanup_ready {o} h := by
    obtain ⟨t, run, lows, highs⟩ := cleanup_pruned h
    exact ⟨t, run, lows.tabled, highs.tabled⟩

end MiniSync

instance : (algo : Algo) → OrderedSubclass algo.Members
  | .tinySync => inferInstanceAs (OrderedSubclass TinySync)
  | .miniSync => inferInstanceAs (OrderedSubclass MiniSync)

/-! ## Calls in order -/

/-- No later call has the smaller reference timestamp. -/
def InOrder (calls : List Call) : Prop := calls.Pairwise (fun c d => c.Tb ≤ d.Tb)

theorem InOrder.past {past more : List Call} (h : InOrder (past ++ more)) : InOrder past :=
  (List.pairwise_append.mp h).1

theorem InOrder.newest {past : List Call} {c : Call} (h : InOrder (past ++ [c])) :
    ∀ d ∈ past, d.Tb ≤ c.Tb :=
  fun d hd => (List.pairwise_append.mp h).2.2 d hd c (List.mem_singleton_self c)

/-- Each data point is newer than all before. -/
def Increasing (calls : List Call) : Prop := calls.Pairwise (fun c d => c.Tb < d.Tb)

theorem Increasing.inOrder {calls : List Call} (h : Increasing calls) : InOrder calls :=
  h.imp le_of_lt

theorem Increasing.past {past more : List Call} (h : Increasing (past ++ more)) :
    Increasing past :=
  (List.pairwise_append.mp h).1

theorem Increasing.newest {past : List Call} {c : Call} (h : Increasing (past ++ [c])) :
    ∀ d ∈ past, d.Tb < c.Tb :=
  fun d hd => (List.pairwise_append.mp h).2.2 d hd c (List.mem_singleton_self c)

/-- No two data points share a reference timestamp. -/
def Distinct (calls : List Call) : Prop := calls.Pairwise (fun c d => c.Tb ≠ d.Tb)

theorem Increasing.distinct {calls : List Call} (h : Increasing calls) : Distinct calls :=
  h.imp ne_of_lt

theorem Distinct.past {past more : List Call} (h : Distinct (past ++ more)) : Distinct past :=
  (List.pairwise_append.mp h).1

theorem Distinct.last {past : List Call} {c : Call} (h : Distinct (past ++ [c])) :
    ∀ d ∈ past, d.Tb ≠ c.Tb :=
  fun d hd => (List.pairwise_append.mp h).2.2 d hd c (List.mem_singleton_self c)

theorem Base.Historical.lows_le {max : ℚ} {past : List Call} {s : Base} {c : Call}
    (h : s.Historical max past) (inOrder : InOrder (past ++ [c])) :
    ∀ p ∈ s.lowPoints, p.x ≤ c.Tb := by
  intro p hp
  obtain ⟨d, hd, e⟩ := h.lowPoints p hp
  rw [show p.x = d.Tb from congrArg Prod.fst e]
  exact inOrder.newest d hd

theorem Base.Historical.highs_le {max : ℚ} {past : List Call} {s : Base} {c : Call}
    (h : s.Historical max past) (inOrder : InOrder (past ++ [c])) :
    ∀ p ∈ s.highPoints, p.x ≤ c.Tb := by
  intro p hp
  obtain ⟨d, hd, e⟩ := h.highPoints p hp
  rw [show p.x = d.Tb from congrArg Prod.fst e]
  exact inOrder.newest d hd

/-- Publishing touches the two estimates at most. -/
theorem publish_left {M : Type} (build : Build) (t : Object M) : ∃ drift offset,
    left (publish build t) =
      { t with base := { t.base with currentDrift := drift, currentOffset := offset } } := by
  rw [publish_run]
  cases t.base.currentLow with
  | none => exact ⟨_, _, rfl⟩
  | some low =>
    cases t.base.currentHigh with
    | none => exact ⟨_, _, rfl⟩
    | some high =>
      simp only
      split <;> exact ⟨_, _, rfl⟩

section
variable {M : Type} [Subclass M] [LawfulSubclass M] [OrderedSubclass M]

open OrderedSubclass

omit [LawfulSubclass M] in
theorem searched_ready {o : Object M} {c : Call} (h : Ready (o.added c)) : Ready (o.searched c) := by
  obtain ⟨⟨lowPoints, highPoints⟩, _⟩ := (searched_tightest o c).untouched
  exact ready_congr h rfl lowPoints highPoints

/-- A call with a newest data point only counts, or searches, cleans up and
publishes. -/
theorem addDataPoint_ready (build : Build) {o : Object M} {c : Call} (h : Ready o)
    (low : ∀ p ∈ o.base.lowPoints, p.x ≤ c.Tb) (high : ∀ p ∈ o.base.highPoints, p.x ≤ c.Tb) :
    (¬ 1 < (o.base.added c).processedTimestamps ∧ addDataPoint build c o = .ok () (o.added c)) ∨
    (1 < (o.base.added c).processedTimestamps ∧ ∃ t, Subclass.cleanup (o.searched c) = .ok () t ∧
      Ready t ∧ addDataPoint build c o = publish build t) := by
  rw [addDataPoint_eq]
  by_cases recalculates : 1 < (o.base.added c).processedTimestamps
  · obtain ⟨t, run, ready⟩ := cleanup_ready (searched_ready (ready_added h low high))
    apply Or.inr
    refine ⟨recalculates, t, run, ready, ?_⟩
    rw [if_pos recalculates, run]
  · exact .inl ⟨recalculates, if_neg recalculates⟩

theorem left_ready (build : Build) {o : Object M} {c : Call} (h : Ready o)
    (low : ∀ p ∈ o.base.lowPoints, p.x ≤ c.Tb) (high : ∀ p ∈ o.base.highPoints, p.x ≤ c.Tb) :
    Ready (left (addDataPoint build c o)) := by
  obtain ⟨_, run⟩ | ⟨_, t, _, ready, run⟩ := addDataPoint_ready build h low high
  · rw [run]
    exact ready_added h low high
  · obtain ⟨drift, offset, same⟩ := publish_left build t
    rw [run, same]
    exact ready_congr ready rfl rfl rfl

theorem run_ready {build : Build} {max : ℚ} {past : List Call} {o : Object M}
    (run : Run (Goes build) (Object.init max) past o) (inOrder : InOrder past) : Ready o := by
  refine run.invariant_of_inputs (Q := InOrder) (P := fun _ o => Ready o) (fun _ _ h => h.past)
    (ready_init max) ?_ inOrder
  intro past o c t before inOrder ready step
  have known := run_historical before
  rw [← step.left_eq]
  exact left_ready build ready (known.lows_le inOrder) (known.highs_le inOrder)

end

end MiniSynCPP
