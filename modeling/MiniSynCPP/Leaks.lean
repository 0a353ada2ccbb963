import Mathlib.Data.Finset.Powerset
import MiniSynCPP.Lookups
import MiniSynCPP.Repeats

/-!
# Slopes without a point

`addLowPoint` enters the slopes of its point whether or not the set has taken
the point in. Slopes are only taken out with a stored point, so the ones of a
rejected point stay as long as their other end does, and the current pair
always keeps one.
-/

namespace MiniSynCPP

open Containers Runs Lines

/-! ## One side -/

/-- Both ends of every slope are stored. -/
def Side.Closed (t : Side) : Prop := ∀ e ∈ t.slopes, e.1.1 ∈ t.points ∧ e.1.2 ∈ t.points

/-- Slopes run from older to newer points. -/
def Side.Oriented (t : Side) : Prop := ∀ e ∈ t.slopes, e.1.1.x < e.1.2.x

theorem choose_pairs {s : Finset PointPtr} {keys : Finset (PointPtr × PointPtr)}
    (ends : ∀ k ∈ keys, k.1 ∈ s ∧ k.2 ∈ s) (oriented : ∀ k ∈ keys, k.1.x < k.2.x) :
    keys.card ≤ s.card.choose 2 := by
  rw [← Finset.card_powersetCard]
  apply Finset.card_le_card_of_injOn (fun k => {k.1, k.2})
  · intro k hk
    have ne : k.1 ≠ k.2 := fun e => (oriented k hk).ne (congrArg (·.x) e)
    rw [Finset.mem_coe, Finset.mem_powersetCard]
    refine ⟨?_, Finset.card_pair ne⟩
    intro p hp
    obtain rfl | rfl := Finset.mem_insert.mp hp |>.imp_right Finset.mem_singleton.mp
    · exact (ends k hk).1
    · exact (ends k hk).2
  · intro k hk k' hk' same
    have pairs : ({k.1, k.2} : Set PointPtr) = {k'.1, k'.2} := by
      simpa using congrArg (fun s : Finset PointPtr => (s : Set PointPtr)) same
    obtain ⟨first, second⟩ | ⟨first, second⟩ := Set.pair_eq_pair_iff.mp pairs
    · exact Prod.ext first second
    · have lt := oriented k hk
      rw [first, second] at lt
      exact absurd lt (oriented k' hk').not_gt

/-- At most one slope for each two points. -/
theorem Side.Closed.length_le {t : Side} (closed : t.Closed) (oriented : t.Oriented) :
    t.slopes.entries.length ≤ t.points.elems.length * (t.points.elems.length - 1) / 2 := by
  let keys := t.slopes.entries.map Prod.fst
  have distinct : t.points.elems.Nodup := List.Nodup.of_map _ t.points.keys_nodup
  have entry : ∀ k ∈ keys.toFinset, ∃ e ∈ t.slopes, e.1 = k := by
    intro k hk
    obtain ⟨e, he, rfl⟩ := List.mem_map.mp (List.mem_toFinset.mp hk)
    exact ⟨e, he, rfl⟩
  have bound : keys.toFinset.card ≤ t.points.elems.toFinset.card.choose 2 := by
    apply choose_pairs
    · intro k hk
      obtain ⟨e, he, rfl⟩ := entry k hk
      rw [List.mem_toFinset, List.mem_toFinset]
      exact closed e he
    · intro k hk
      obtain ⟨e, he, rfl⟩ := entry k hk
      exact oriented e he
  rw [List.toFinset_card_of_nodup t.slopes.nodup, List.toFinset_card_of_nodup distinct,
    Nat.choose_two_right, List.length_map] at bound
  exact bound

section
variable {used : PointPtr → Bool} {cmp : ℚ → ℚ → Bool} {t u : Side}

theorem pruneAt_left (j : PointPtr) (u : Side) :
    left (pruneAt used cmp j u) = u ∨
      (used j = false ∧ left (pruneAt used cmp j u) = u.forget j) := by
  cases hused : used j with
  | true => simp [pruneAt, hused]
  | false =>
    cases test : storeTest cmp u j with
    | error e => simp [pruneAt, hused, test]
    | ok store => cases store <;> simp [pruneAt, hused, test]

/-- A point goes together with all slopes at it. -/
theorem prune_closed (ht : t.Closed) : (left (prune used cmp t)).Closed := by
  have body : ∀ j ∈ t.points.elems,
      Keeps (fun u => t.Cut used u ∧ u.Closed) (pruneAt used cmp j) := by
    intro j hj u hu
    obtain ⟨cut, closed⟩ := hu
    refine ⟨pruneAt_cut hj u cut, ?_⟩
    obtain same | ⟨_, same⟩ := pruneAt_left j u
    · rw [same]
      exact closed
    · rw [same]
      have other : ∀ p ∈ u.points, p ≠ j → p ∈ (u.forget j).points := by
        intro p hp ne
        refine Side.mem_forget_points.mpr ⟨hp, ?_⟩
        intro hx
        exact ne (OrderedSet.eq_of_key (cut.points p hp) hj hx)
      intro e he
      obtain ⟨held, first, second⟩ := Side.mem_forget_slopes.mp he
      exact ⟨other _ (closed e held).1 first, other _ (closed e held).2 second⟩
  exact (keeps_forM body t ⟨⟨fun _ h => h, fun _ h _ => h, fun _ h => h⟩, ht⟩).2

/-- A slope from a point in use to one that is not stored survives. -/
theorem prune_keeps {e : (PointPtr × PointPtr) × ℚ} (he : e ∈ t.slopes) (inUse : used e.1.1 = true)
    (absent : e.1.2 ∉ t.points) : e ∈ (left (prune used cmp t)).slopes := by
  have body : ∀ j ∈ t.points.elems, Keeps (fun u => e ∈ u.slopes) (pruneAt used cmp j) := by
    intro j hj u hu
    obtain same | ⟨unused, same⟩ := pruneAt_left j u
    · rw [same]
      exact hu
    · rw [same]
      refine Side.mem_forget_slopes.mpr ⟨hu, ?_, ?_⟩
      · intro first
        rw [first, unused] at inUse
        cases inUse
      · intro second
        rw [second] at absent
        exact absent hj
  exact keeps_forM body t he

end

/-- What `addSlopes` enters are slopes into the new point. -/
theorem mem_addSlopes {points : PointSet} {slopes : SlopeTable} {lp : PointPtr}
    {e : (PointPtr × PointPtr) × ℚ} (he : e ∈ addSlopes points slopes lp) :
    e ∈ slopes ∨ (e.1.1 ∈ points ∧ e.1.1.x ≠ lp.x ∧ e.1.2 = lp) := by
  have loop : ∀ l : List PointPtr, ∀ slopes : SlopeTable,
      e ∈ l.foldl
          (fun t olp => if lp.x = olp.x then t else t.emplace (olp, lp) (slope olp lp)) slopes →
        e ∈ slopes ∨ (e.1.1 ∈ l ∧ e.1.1.x ≠ lp.x ∧ e.1.2 = lp) := by
    intro l
    induction l with
    | nil => exact fun _ he => .inl he
    | cons olp l ih =>
      intro slopes he
      rw [List.foldl_cons] at he
      obtain entered | ⟨first, ne, second⟩ := ih _ he
      · split at entered
        · exact .inl entered
        · rename_i ne
          obtain old | ⟨rfl, _⟩ := UnorderedMap.mem_emplace.mp entered
          · exact .inl old
          · exact .inr ⟨List.mem_cons_self, fun hx => ne hx.symm, rfl⟩
      · exact .inr ⟨List.mem_cons_of_mem olp first, ne, second⟩
  exact loop points.elems slopes he

section
variable {t : Side} {lp : PointPtr}

/-- A side with a point added as `addLowPoint` and `addHighPoint` do it. -/
def Side.add (t : Side) (lp : PointPtr) : Side :=
  ⟨t.points.insert lp, addSlopes (t.points.insert lp) t.slopes lp⟩

theorem Side.Closed.add (h : t.Closed) (taken : ∀ p ∈ t.points, p.x ≠ lp.x) : (t.add lp).Closed := by
  intro e he
  obtain old | ⟨first, _, second⟩ := mem_addSlopes he
  · exact ⟨OrderedSet.mem_insert.mpr (.inl (h e old).1), OrderedSet.mem_insert.mpr (.inl (h e old).2)⟩
  · rw [second]
    exact ⟨first, OrderedSet.mem_insert.mpr (.inr ⟨rfl, taken⟩)⟩

theorem Side.Oriented.add (h : t.Oriented) (newest : ∀ p ∈ t.points, p.x ≤ lp.x) :
    (t.add lp).Oriented := by
  intro e he
  obtain old | ⟨first, ne, second⟩ := mem_addSlopes he
  · exact h e old
  · rw [second]
    obtain stored | ⟨new, _⟩ := OrderedSet.mem_insert.mp first
    · exact lt_of_le_of_ne (newest _ stored) ne
    · exact absurd (congrArg (·.x) new) ne

theorem Side.Oriented.cut {used : PointPtr → Bool} {u : Side} (h : t.Oriented) (cut : t.Cut used u) :
    u.Oriented :=
  fun e he => h e (cut.slopes e he)

/-- What a call makes of one side: it adds a point, and may prune. -/
def Side.Swept (t : Side) (lp : PointPtr) (used : PointPtr → Bool) (cmp : ℚ → ℚ → Bool) (u : Side) :
    Prop :=
  u = t.add lp ∨ u = left (prune used cmp (t.add lp))

section
variable {used : PointPtr → Bool} {cmp : ℚ → ℚ → Bool} {u : Side}

theorem Side.Swept.closed (swept : t.Swept lp used cmp u) (h : t.Closed)
    (taken : ∀ p ∈ t.points, p.x ≠ lp.x) : u.Closed := by
  cases swept with
  | inl same =>
    rw [same]
    exact h.add taken
  | inr same =>
    rw [same]
    exact prune_closed (h.add taken)

theorem Side.Swept.oriented (swept : t.Swept lp used cmp u) (h : t.Oriented)
    (newest : ∀ p ∈ t.points, p.x ≤ lp.x) : u.Oriented := by
  cases swept with
  | inl same =>
    rw [same]
    exact h.add newest
  | inr same =>
    rw [same]
    exact (h.add newest).cut (prune_cut used cmp (t.add lp))

/-- The slope from an older point in use to a rejected one stays. -/
theorem Side.Swept.taken (swept : t.Swept lp used cmp u) (closed : u.Closed)
    (value : ∀ e ∈ t.slopes, e.2 = slope e.1.1 e.1.2) {l : PointPtr} (inUse : used l = true)
    (hl : l ∈ t.points) (older : l.x < lp.x) (unknown : lp ∉ t.points) :
    ∀ p ∈ t.points, p.x ≠ lp.x := by
  obtain ⟨_, known⟩ := foldl_addSlopes (t.points.insert lp).elems lp value
  obtain ⟨m, entered⟩ := known l (OrderedSet.mem_insert.mpr (.inl hl)) older
  by_contra rejected
  have absent : lp ∉ (t.add lp).points := by
    intro stored
    obtain old | ⟨_, taken⟩ := OrderedSet.mem_insert.mp stored
    · exact unknown old
    · exact rejected taken
  cases swept with
  | inl same =>
    rw [same] at closed
    exact absent (closed _ entered).2
  | inr same =>
    rw [same] at closed
    have kept : ((l, lp), m) ∈ (left (prune used cmp (t.add lp))).slopes :=
      prune_keeps entered inUse absent
    exact absent ((prune_cut used cmp (t.add lp)).points _ (closed _ kept).2)

end

end

/-! ## One call -/

/-- Every stored point was allocated before. -/
structure Base.Fresh (s : Base) : Prop where
  low : ∀ p ∈ s.lowPoints, p.addr < s.nextAddr
  high : ∀ p ∈ s.highPoints, p.addr < s.nextAddr

/-- The older end of every line is stored, and so are the older ends of the current pair. -/
structure Base.StoredEnds (s : Base) : Prop where
  low : ∀ e ∈ s.lowConstraints, e.1.1 ∈ s.lowPoints
  high : ∀ e ∈ s.highConstraints, e.1.2 ∈ s.highPoints
  pair : ∀ low high, s.Holds low high → low.1.1 ∈ s.lowPoints ∧ high.1.2 ∈ s.highPoints

namespace Base

section
variable {s t : Base} {c : Call}

theorem StoredEnds.added (h : s.StoredEnds) (drawn : s.TablesDrawn)
    (lows : ∀ p ∈ s.lowPoints, p.x ≤ c.Tb) (highs : ∀ p ∈ s.highPoints, p.x ≤ c.Tb) :
    (s.added c).StoredEnds := by
  have oldLow {p : LPointPtr} (hp : p ∈ s.lowPoints) : p ∈ (s.added c).lowPoints :=
    mem_added_lowPoints.mpr (.inl hp)
  have oldHigh {p : HPointPtr} (hp : p ∈ s.highPoints) : p ∈ (s.added c).highPoints :=
    mem_added_highPoints.mpr (.inl hp)
  obtain ⟨_, memLow, memHigh⟩ := added_tables drawn c
  constructor
  · intro e he
    obtain (old | ⟨p, hp, later, _⟩) | ⟨l, hl, _, rfl⟩ := (memLow e).mp he
    · exact oldLow (h.low e old)
    · exact absurd (highs p hp) (not_le.mpr later)
    · exact hl
  · intro e he
    obtain (old | ⟨p, hp, _, rfl⟩) | ⟨l, hl, later, _⟩ := (memHigh e).mp he
    · exact oldHigh (h.high e old)
    · exact oldHigh hp
    · obtain stored | ⟨rfl, _⟩ := mem_added_lowPoints.mp hl
      · exact absurd (lows l stored) (not_le.mpr later)
      · exact absurd later (lt_irrefl c.Tb)
  · intro low high held
    obtain ⟨hl, hh⟩ := h.pair low high (held.same (s.added_samePair c).symm)
    exact ⟨oldLow hl, oldHigh hh⟩

theorem Recalculated.storedEnds (h : s.Recalculated c t) (hs : s.StoredEnds)
    (added : (s.added c).StoredEnds) : t.StoredEnds := by
  refine ⟨fun e he => ((h.low e).mp he).2.1, fun e he => ((h.high e).mp he).2.2, ?_⟩
  intro low high held
  obtain ⟨⟨usesLow, _⟩, _, usesHigh⟩ := held.uses
  have ends : low.1.1 ∈ (s.added c).lowPoints ∧ high.1.2 ∈ (s.added c).highPoints := by
    obtain same | ⟨low', hl, high', hh, _, same⟩ := h.pair
    · obtain ⟨hl, hh⟩ := hs.pair low high (held.same same.symm)
      exact ⟨mem_added_lowPoints.mpr (.inl hl), mem_added_highPoints.mpr (.inl hh)⟩
    · obtain ⟨rfl, rfl⟩ := held.unique ((s.take_holds low' high').same same)
      exact ⟨added.low low hl, added.high high hh⟩
  exact ⟨h.usedLow _ ends.1 usesLow, h.usedHigh _ ends.2 usesHigh⟩

end

end Base

section
variable {M : Type} [Subclass M] [LawfulSubclass M] {build : Build} {max : ℚ} {past : List Call}
  {o : Object M}

/-- Every call allocates two points. -/
theorem call_nextAddr (build : Build) (o : Object M) (c : Call) :
    (left (addDataPoint build c o)).base.nextAddr = o.base.nextAddr + 2 := by
  have searched : (o.searched c).base.nextAddr = o.base.nextAddr + 2 :=
    (searched_tightest o c).counts.2
  have cleaned {t : Object M} (h : Subclass.cleanup (o.searched c) = .ok () t) :
      t.base.nextAddr = o.base.nextAddr + 2 := (cleanup_ok_prunes h).counts.2.trans searched
  have outcome := addDataPoint_outcome build o c
  generalize addDataPoint build c o = result at outcome ⊢
  cases outcome with
  | counted => rfl
  | interrupted _ stopped =>
    have prunes := LawfulSubclass.cleanup_prunes (o.searched c)
    rw [stopped] at prunes
    exact prunes.counts.2.trans searched
  | lowNull _ h _ => exact cleaned h
  | highNull _ h _ _ => exact cleaned h
  | drift _ h _ _ _ =>
    have next := cleaned h
    exact next
  | returned _ h _ _ _ =>
    have next := cleaned h
    exact next

theorem run_fresh (run : Run (Goes build) (Object.init max) past o) : o.base.Fresh := by
  refine run.invariant (P := fun _ o => o.base.Fresh) ?_ ?_
  · exact ⟨by simp [Object.init, Base.init], by simp [Object.init, Base.init]⟩
  · intro past o c t _ fresh step
    have next := call_nextAddr build o c
    rw [step.left_eq] at next
    constructor
    · intro p hp
      rw [next]
      obtain old | ⟨rfl, _⟩ := Base.mem_added_lowPoints.mp (step.frame.lowPoints p hp)
      · exact (fresh.low p old).trans (by omega)
      · exact Nat.lt_add_of_pos_right two_pos
    · intro p hp
      rw [next]
      obtain old | ⟨rfl, _⟩ := Base.mem_added_highPoints.mp (step.frame.highPoints p hp)
      · exact (fresh.high p old).trans (by omega)
      · exact Nat.lt_succ_self (o.base.nextAddr + 1)

theorem run_storedEnds [OrderedSubclass M] (run : Run (Goes build) (Object.init max) past o)
    (inOrder : InOrder past) : o.base.StoredEnds := by
  refine run.invariant_of_inputs (Q := InOrder) (P := fun _ o => o.base.StoredEnds)
    (fun _ _ h => h.past) ?_ ?_ inOrder
  · refine ⟨by simp [Object.init, Base.init], by simp [Object.init, Base.init], ?_⟩
    intro low high held
    cases held.currentLow
  · intro past o c t before inOrder ends step
    have known := run_historical before
    have added := ends.added known.drawn (known.lows_le inOrder) (known.highs_le inOrder)
    obtain ⟨_, rfl⟩ | ⟨_, recalculated⟩ := step.ordered before inOrder
    · exact added
    · exact recalculated.storedEnds ends added

/-- Two calls that return leave a pair. -/
theorem run_holds (run : Run (Returns build) (Object.init max) past o) (two : 2 ≤ past.length) :
    ∃ low high, IsLow past low ∧ IsHigh past high ∧ o.base.Holds low high := by
  have pairs : 2 ≤ past.length → NonNull o.base := by
    refine run.invariant (P := fun past o => 2 ≤ past.length → NonNull o.base) (by simp) ?_
    intro past o c t before ih returns two
    rw [List.length_append, List.length_singleton] at two
    have goes := before.mono fun _ _ _ h => Returns.goes h
    by_cases second : past.length = 1
    · have started : past ≠ [] := List.ne_nil_of_length_eq_add_one second
      obtain ⟨low, high, estimates, _⟩ :=
        returns.estimates ((run_historical goes).recalculates c started (by omega))
      unfold NonNull
      rw [estimates.currentLow, estimates.currentHigh]
      simp
    · exact returns.goes.frame.nonNull (ih (by omega))
  obtain unset | held := (run_historical (run.mono fun _ _ _ h => Returns.goes h)).pair
  · exact absurd unset.currentLow (pairs two).1
  · exact held

end

/-! ## MiniSync -/

namespace MiniSync

theorem cleanup_sides {o t : Object MiniSync} (h : cleanup o = .ok () t) :
    lowSide t = left (prune o.base.usesLow (fun m m' => m > m') (lowSide o)) ∧
      highSide t = left (prune o.base.usesHigh (fun m m' => m < m') (highSide o)) := by
  rw [cleanup_eq] at h
  unfold lowSide highSide
  cases low : prune o.base.usesLow (fun m m' => m > m') ⟨o.base.lowPoints, o.members.lowSlopes⟩ with
  | error e v =>
    rw [low] at h
    cases h
  | ok _ v =>
    rw [low] at h
    cases high : prune o.base.usesHigh (fun m m' => m < m')
        ⟨o.base.highPoints, o.members.highSlopes⟩ with
    | error e u =>
      rw [high] at h
      cases h
    | ok _ u =>
      rw [high] at h
      cases h
      obtain ⟨_, frame⟩ := Base.rebuild_spec Base.puts_emplace
        { o.base with lowPoints := v.points, highPoints := u.points }
      have lowPoints := congrArg Base.lowPoints frame
      have highPoints := congrArg Base.highPoints frame
      simp only at lowPoints highPoints
      simp only [lowPoints, highPoints, left_ok]
      exact ⟨trivial, trivial⟩

section
variable {build : Build} {o t : Object MiniSync} {c : Call}

/-- What a call makes of the two sides. -/
theorem call_sides (returns : Returns build o c t) :
    (lowSide o).Swept (o.base.newLow c) t.base.usesLow (fun m m' => m > m') (lowSide t) ∧
      (highSide o).Swept (o.base.newHigh c) t.base.usesHigh (fun m m' => m < m') (highSide t) := by
  have low : lowSide (o.added c) = (lowSide o).add (o.base.newLow c) := lowSide_added o c
  have high : highSide (o.added c) = (highSide o).add (o.base.newHigh c) := highSide_added o c
  have outcome := addDataPoint_outcome build o c
  rw [returns] at outcome
  cases outcome with
  | counted => exact ⟨.inl low, .inl high⟩
  | @returned u _ _ _ cleaned _ _ _ =>
    obtain ⟨lowEnd, highEnd⟩ := cleanup_sides cleaned
    have same := (cleanup_ok_prunes cleaned).samePair
    obtain ⟨⟨lowPoints, highPoints⟩, _⟩ := (searched_tightest o c).untouched
    have lowSame : lowSide (o.searched c) = lowSide (o.added c) :=
      congrArg (Side.mk · (o.added c).members.lowSlopes) lowPoints
    have highSame : highSide (o.searched c) = highSide (o.added c) :=
      congrArg (Side.mk · (o.added c).members.highSlopes) highPoints
    rw [lowSame, low, ← funext same.usesLow] at lowEnd
    rw [highSame, high, ← funext same.usesHigh] at highEnd
    exact ⟨.inr lowEnd, .inr highEnd⟩

/-- Both tables hold slopes between stored points only, so no more than there are pairs of them. -/
structure SlopesStored (o : Object MiniSync) : Prop where
  low : (lowSide o).Closed
  high : (highSide o).Closed
  lowCount : o.members.lowSlopes.entries.length ≤
    o.base.lowPoints.elems.length * (o.base.lowPoints.elems.length - 1) / 2
  highCount : o.members.highSlopes.entries.length ≤
    o.base.highPoints.elems.length * (o.base.highPoints.elems.length - 1) / 2

/-- From the second call on the tables hold slopes between stored points only. -/
def NeverLeaks (build : Build) (max : ℚ) (calls : List Call) : Prop :=
  ∀ past rest, calls = past ++ rest → 2 ≤ past.length → ∀ o : Object MiniSync,
    Run (Returns build) (Object.init max) past o → SlopesStored o

/-- No call repeats the timestamp of a point that is stored when it starts. -/
def AlwaysAccepts (build : Build) (max : ℚ) (calls : List Call) : Prop :=
  ∀ past c rest, calls = past ++ c :: rest → ∀ o : Object MiniSync,
    Run (Returns build) (Object.init max) past o → o.base.Accepts c

theorem AlwaysAccepts.past {build : Build} {max : ℚ} {past more : List Call}
    (h : AlwaysAccepts build max (past ++ more)) : AlwaysAccepts build max past := by
  intro before c rest split
  exact h before c (rest ++ more) (by rw [split]; simp)

section
variable {max : ℚ} {past : List Call}

/-- While the sets take every point in, both ends of every slope are stored. -/
theorem run_slopesStored (run : Run (Returns build) (Object.init max) past o)
    (inOrder : InOrder past) (accepts : AlwaysAccepts build max past) : SlopesStored o := by
  have sides : ((lowSide o).Closed ∧ (lowSide o).Oriented) ∧
      (highSide o).Closed ∧ (highSide o).Oriented := by
    have both : InOrder past ∧ AlwaysAccepts build max past := ⟨inOrder, accepts⟩
    refine run.invariant_of_inputs (Q := fun past => InOrder past ∧ AlwaysAccepts build max past)
      (P := fun _ o => ((lowSide o).Closed ∧ (lowSide o).Oriented) ∧
        (highSide o).Closed ∧ (highSide o).Oriented) ?_ ?_ ?_ both
    · exact fun _ _ h => ⟨h.1.past, h.2.past⟩
    · unfold Side.Closed Side.Oriented
      simp [lowSide, highSide, Object.init, Subclass.init]
    · intro past o c t before h ih returns
      obtain ⟨⟨lowClosed, lowOriented⟩, highClosed, highOriented⟩ := ih
      have known := run_historical (before.mono fun _ _ _ h => Returns.goes h)
      have taken := h.2 past c [] rfl o before
      obtain ⟨low, high⟩ := call_sides returns
      exact ⟨⟨low.closed lowClosed taken.low, low.oriented lowOriented (known.lows_le h.1)⟩,
        high.closed highClosed taken.high, high.oriented highOriented (known.highs_le h.1)⟩
  obtain ⟨⟨lowClosed, lowOriented⟩, highClosed, highOriented⟩ := sides
  exact ⟨lowClosed, highClosed, lowClosed.length_le lowOriented, highClosed.length_le highOriented⟩

/-- A call whose point is rejected leaves a slope behind. -/
theorem accepts_of_slopesStored (run : Run (Returns build) (Object.init max) past o)
    (inOrder : InOrder (past ++ [c])) (started : past ≠ []) (returns : Returns build o c t)
    (stored : SlopesStored t) : o.base.Accepts c := by
  have goes := run.mono fun _ _ _ h => Returns.goes h
  have after := goes.step returns.goes
  have fresh := run_fresh goes
  have ready : (lowSide o).Tabled ∧ (highSide o).Tabled := run_ready goes inOrder.past
  have frame := returns.goes.frame
  have ends := run_storedEnds after inOrder
  have pos := List.length_pos_iff.mpr started
  obtain ⟨low, high, isLow, isHigh, held⟩ := run_holds (run.step returns)
    (by rw [List.length_append, List.length_singleton]; omega)
  obtain ⟨⟨usesLow, _⟩, _, usesHigh⟩ := held.uses
  obtain ⟨lowEnd, highEnd⟩ := ends.pair low high held
  obtain ⟨lowSwept, highSwept⟩ := call_sides returns
  -- no point of the history is newer than the call
  have newest : ∀ d ∈ past ++ [c], d.Tb ≤ c.Tb := by
    intro d hd
    obtain hd | hd := List.mem_append.mp hd
    · exact inOrder.newest d hd
    · rw [List.mem_singleton.mp hd]
  constructor
  · obtain ⟨d, hd, same⟩ := isLow.high
    have older : low.1.1.x < c.Tb :=
      isLow.later.trans_le ((congrArg Prod.fst same).le.trans (newest d hd))
    have old : low.1.1 ∈ o.base.lowPoints := by
      obtain old | ⟨new, _⟩ := Base.mem_added_lowPoints.mp (frame.lowPoints _ lowEnd)
      · exact old
      · exact absurd (congrArg (·.x) new) older.ne
    exact lowSwept.taken stored.low ready.1.value usesLow old older
      (fun known => absurd (fresh.low _ known) (lt_irrefl _))
  · obtain ⟨d, hd, same⟩ := isHigh.low
    have older : high.1.2.x < c.Tb :=
      isHigh.later.trans_le ((congrArg Prod.fst same).le.trans (newest d hd))
    have old : high.1.2 ∈ o.base.highPoints := by
      obtain old | ⟨new, _⟩ := Base.mem_added_highPoints.mp (frame.highPoints _ highEnd)
      · exact old
      · exact absurd (congrArg (·.x) new) older.ne
    exact highSwept.taken stored.high ready.2.value usesHigh old older
      (fun known => absurd (fresh.high _ known) (Nat.not_lt.mpr (Nat.le_succ _)))

end

end

end MiniSync

/-- **When slopes leak.** For data points in order none does exactly as long as no call repeats the
timestamp of a stored point. -/
theorem neverLeaks_iff (build : Build) (max : ℚ) (calls : List Call) (o : Object MiniSync)
    (run : Run (Returns build) (Object.init max) calls o) (inOrder : InOrder calls) :
    MiniSync.NeverLeaks build max calls ↔ MiniSync.AlwaysAccepts build max calls := by
  constructor
  · intro stored past c rest split u before
    rw [split, ← List.singleton_append, ← List.append_assoc] at run inOrder
    by_cases started : past = []
    · rw [started] at before
      rw [before.nil_inv]
      exact Base.init_accepts max c
    · obtain ⟨t, first, _⟩ := Run.append_inv rest run
      obtain ⟨u', before', returns⟩ := first.snoc_inv
      obtain rfl := run_unique before before'
      have pos := List.length_pos_iff.mpr started
      have closed : MiniSync.SlopesStored t := by
        refine stored (past ++ [c]) rest (by simp [split]) ?_ t first
        rw [List.length_append, List.length_singleton]
        omega
      exact MiniSync.accepts_of_slopesStored before inOrder.past started returns closed
  · intro accepts past rest split _ u before
    rw [split] at inOrder accepts
    exact MiniSync.run_slopesStored before inOrder.past accepts.past

/-- With every data point newer than the one before no slope leaks. -/
theorem Increasing.alwaysAccepts {calls : List Call} (h : Increasing calls) (build : Build)
    (max : ℚ) : MiniSync.AlwaysAccepts build max calls := by
  intro past c rest split o run
  rw [split, ← List.singleton_append, ← List.append_assoc] at h
  exact (run_historical (run.mono fun _ _ _ h => Returns.goes h)).accepts h.past.distinct

theorem neverLeaks_three :
    MiniSync.NeverLeaks .plain 1000 [.listed (-1) 0 1, .listed 0 1 2, .listed 1 2 3] := by
  let calls := [Call.listed (-1) 0 1, .listed 0 1 2, .listed 1 2 3]
  have increasing : Increasing calls := by simp [calls, Increasing, Call.listed]
  have iff := neverLeaks_iff .plain 1000 calls _ (run_after (by decide +kernel)) increasing.inOrder
  exact iff.mpr (increasing.alwaysAccepts .plain 1000)

/-- The second data point comes twice: two slopes for one pair of stored points. -/
theorem not_neverLeaks : ¬ ∀ build max calls (o : Object MiniSync),
    Run (Returns build) (Object.init max) calls o → InOrder calls →
      MiniSync.NeverLeaks build max calls := by
  intro stored
  let calls := [Call.listed (-1) 0 1, .listed 0 1 2, .listed 0 1 2]
  let o : Object MiniSync := (Object.init 1000).after .plain calls
  have run : Run (Returns .plain) (Object.init 1000) calls o := run_after (by decide +kernel)
  have inOrder : InOrder calls := by simp [calls, InOrder, Call.listed]
  have tables := stored .plain 1000 calls o run inOrder calls [] (by simp) (by simp [calls]) o run
  have slopes : o.members.lowSlopes.entries.length = 2 := by decide +kernel
  have points : o.base.lowPoints.elems.length = 2 := by decide +kernel
  have bound := tables.lowCount
  rw [slopes, points] at bound
  omega

end MiniSynCPP
