import MiniSynCPP.Slopes

/-!
# The lookups of MiniSync

While no data point is older than a stored one, every lookup of a slope finds
it, at each point of the two loops that drop points together with their
slopes.
-/

namespace MiniSynCPP

open Containers Runs Lines

/-- When the loop comes to a point, the slopes into it from any earlier point and out of it to any
later one are in the table, and are the slopes of the lines between them. -/
def LookupsSucceed (used : PointPtr → Bool) (cmp : ℚ → ℚ → Bool) (t : Side) : Prop :=
  ∀ visited j rest, t.points.elems = visited ++ j :: rest →
    ∃ u, visited.forM (pruneAt used cmp) t = .ok ⟨⟩ u ∧
      ∀ i ∈ u.points.before j, ∀ k ∈ u.points.after j,
        slopeAt u.slopes (i, j) = .ok (through i.xy j.xy).slope ∧
        slopeAt u.slopes (j, k) = .ok (through j.xy k.xy).slope

theorem Side.Tabled.lookupsSucceed {t : Side} (h : t.Tabled) (used : PointPtr → Bool)
    (cmp : ℚ → ℚ → Bool) : LookupsSucceed used cmp t := by
  intro visited j rest split
  have distinct : t.points.elems.Nodup := List.Nodup.of_map _ t.points.keys_nodup
  have stored : ∀ p ∈ visited ++ j :: rest, p ∈ t.points := by
    intro p hp
    rw [OrderedSet.mem_def, split]
    exact hp
  rw [split] at distinct
  obtain ⟨first, _, apart⟩ := List.nodup_append.mp distinct
  have visitedStored : ∀ p ∈ visited, p ∈ t.points ∧ p ∈ t.points := by
    intro p hp
    have := stored p (List.mem_append_left _ hp)
    exact ⟨this, this⟩
  obtain ⟨u, run, pruned, others⟩ := forM_pruneAt_pruned first visitedStored h.pruned
  have notYet : j ∉ visited := fun hj => apart j hj j List.mem_cons_self rfl
  have hj : j ∈ u.points := others j (stored j (by simp)) notYet
  refine ⟨u, run, ?_⟩
  intro i hi k hk
  obtain ⟨hi, hij⟩ := OrderedSet.mem_before.mp hi
  obtain ⟨hk, hjk⟩ := OrderedSet.mem_after.mp hk
  exact ⟨pruned.tabled.slopeAt hi hj hij, pruned.tabled.slopeAt hj hk hjk⟩

theorem publish_finds {M : Type} (build : Build) (t u : Object M) :
    publish build t ≠ .error .outOfRange u := by
  rw [publish_run]
  cases t.base.currentLow with
  | none => simp
  | some low =>
    cases t.base.currentHigh with
    | none => simp
    | some high =>
      simp only
      split <;> simp

/-- **MiniSync never misses a slope** while data points arrive in order, equal timestamps and caught
exceptions included: no lookup of either loop does, so neither the cleanup nor the call throws
`std::out_of_range`. -/
theorem miniSync_lookups (build : Build) (max : ℚ) (past : List Call) (c : Call)
    (o : Object MiniSync) (run : Run (Goes build) (Object.init max) past o)
    (inOrder : InOrder (past ++ [c])) :
    LookupsSucceed (o.searched c).base.usesLow (fun m m' => m > m')
        (MiniSync.lowSide (o.searched c)) ∧
      LookupsSucceed (o.searched c).base.usesHigh (fun m m' => m < m')
        (MiniSync.highSide (o.searched c)) ∧
      (∃ t, MiniSync.cleanup (o.searched c) = .ok () t) ∧
      ∀ t, addDataPoint build c o ≠ .error .outOfRange t := by
  have known := run_historical run
  have ready := run_ready run inOrder.past
  have lows := known.lows_le inOrder
  have highs := known.highs_le inOrder
  have searched : MiniSync.Ready (o.searched c) :=
    searched_ready (OrderedSubclass.ready_added ready lows highs)
  obtain ⟨t, cleaned, _⟩ := MiniSync.cleanup_pruned searched
  refine ⟨searched.1.lookupsSucceed _ _, searched.2.lookupsSucceed _ _, ⟨t, cleaned⟩, ?_⟩
  intro u failed
  obtain ⟨_, called⟩ | ⟨_, v, _, _, called⟩ := addDataPoint_ready build ready lows highs
  · rw [called] at failed
    cases failed
  · rw [called] at failed
    exact publish_finds build v u failed

/-- Twice the same timestamp, after a call that threw. -/
theorem miniSync_lookups_repeated :
    let past := [Call.listed (-1) 0 2, .listed (-1) 1 2]
    let o : Object MiniSync := (Object.init 1000).after .plain past
    ∃ t, MiniSync.cleanup (o.searched (.listed 1 1 3)) = .ok () t := by
  intro past o
  have lookups := miniSync_lookups .plain 1000 past (.listed 1 1 3) o (run_after_plain _ past)
    (by simp [past, InOrder, Call.listed])
  exact lookups.2.2.1

end MiniSynCPP
