import MiniSynCPP.Selection

/-!
# The tables in any order of the data points

TinySync looks up no slopes and takes its data points in any order, MiniSync
in any that lets its lookups succeed. As long as none fails, the tables hold
the lines between the stored points and no others.
-/

namespace MiniSynCPP

open Containers Runs Lines

/-! ## Calls whose lookups succeed -/

theorem slopeAt_fails {slopes : SlopeTable} {pair : PointPtr × PointPtr} {e : Failure}
    (h : slopeAt slopes pair = .error e) : e = .outOfRange := by
  unfold slopeAt at h
  cases known : slopes.find? pair with
  | some m =>
    rw [known] at h
    cases h
  | none =>
    rw [known] at h
    cases h
    rfl

theorem storeTest_fails {cmp : ℚ → ℚ → Bool} {t : Side} {j : PointPtr} {e : Failure}
    (h : storeTest cmp t j = .error e) : e = .outOfRange := by
  obtain ⟨i, _, inner⟩ := anyM_error h
  obtain ⟨k, _, test⟩ := anyM_error inner
  cases first : slopeAt t.slopes (i, j) with
  | error d =>
    rw [first] at test
    cases test
    exact slopeAt_fails first
  | ok m =>
    cases second : slopeAt t.slopes (j, k) with
    | error d =>
      rw [first, second] at test
      cases test
      exact slopeAt_fails second
    | ok m' =>
      rw [first, second] at test
      cases test

theorem prune_fails {used : PointPtr → Bool} {cmp : ℚ → ℚ → Bool} {t u : Side} {e : Failure}
    (h : prune used cmp t = .error e u) : e = .outOfRange := by
  have loop : t.points.elems.forM (pruneAt used cmp) t = .error e u := h
  obtain ⟨j, _, v, failed⟩ := forM_error loop
  cases hused : used j with
  | true => simp [pruneAt, hused] at failed
  | false =>
    cases test : storeTest cmp v j with
    | error d =>
      simp only [pruneAt, hused, Bool.not_false, if_true, bind_run, get_run, test,
        ofExcept_error_run] at failed
      cases failed
      exact storeTest_fails test
    | ok store => cases store <;> simp [pruneAt, hused, test] at failed

theorem cleanup_fails (algo : Algo) {o t : Object algo.Members} {e : Failure}
    (h : Subclass.cleanup o = .error e t) : e = .outOfRange := by
  cases algo with
  | tinySync =>
    obtain ⟨u, cleaned, _⟩ := TinySync.cleanup_run o
    exact absurd (cleaned.symm.trans h) (by simp)
  | miniSync =>
    have cleaned : MiniSync.cleanup o = .error e t := h
    rw [MiniSync.cleanup_eq] at cleaned
    cases low : prune o.base.usesLow (fun m m' => m > m')
        ⟨o.base.lowPoints, o.members.lowSlopes⟩ with
    | error d u =>
      rw [low] at cleaned
      cases cleaned
      exact prune_fails low
    | ok _ u =>
      rw [low] at cleaned
      cases high : prune o.base.usesHigh (fun m m' => m < m')
          ⟨o.base.highPoints, o.members.highSlopes⟩ with
      | error d v =>
        rw [high] at cleaned
        cases cleaned
        exact prune_fails high
      | ok _ v =>
        rw [high] at cleaned
        cases cleaned

/-- A call that goes on and misses no slope. -/
def Proceeds {M : Type} [Subclass M] (build : Build) (o : Object M) (c : Call) (t : Object M) :
    Prop :=
  Goes build o c t ∧ ∀ u, addDataPoint build c o ≠ .error .outOfRange u

theorem Returns.proceeds {M : Type} [Subclass M] {build : Build} {o t : Object M} {c : Call}
    (h : Returns build o c t) : Proceeds build o c t := by
  refine ⟨h.goes, ?_⟩
  intro u failed
  rw [h] at failed
  cases failed

section
variable {algo : Algo} {build : Build} {max : ℚ} {past : List Call} {c : Call}
  {o t : Object algo.Members}

/-- The call counts, or gets through its cleanup. -/
theorem call_left (fine : ∀ u, addDataPoint build c o ≠ .error .outOfRange u) :
    (¬ 1 < (o.base.added c).processedTimestamps ∧ addDataPoint build c o = .ok () (o.added c)) ∨
    (1 < (o.base.added c).processedTimestamps ∧ ∃ u, Subclass.cleanup (o.searched c) = .ok () u ∧
      addDataPoint build c o = publish build u) := by
  rw [addDataPoint_eq] at fine ⊢
  by_cases recalculates : 1 < (o.base.added c).processedTimestamps
  · rw [if_pos recalculates] at fine ⊢
    cases cleaned : (Subclass.cleanup (o.searched c) :
        EStateM.Result Failure (Object algo.Members) Unit) with
    | error e u =>
      rw [cleaned] at fine
      rw [cleanup_fails algo cleaned] at fine
      exact absurd rfl (fine u)
    | ok _ u => exact .inr ⟨recalculates, u, rfl, rfl⟩
  · rw [if_neg recalculates]
    exact .inl ⟨recalculates, rfl⟩

theorem left_recalculated (fine : ∀ u, addDataPoint build c o ≠ .error .outOfRange u) :
    (¬ 1 < (o.base.added c).processedTimestamps ∧ left (addDataPoint build c o) = o.added c) ∨
    (1 < (o.base.added c).processedTimestamps ∧
      o.base.Recalculated c (left (addDataPoint build c o)).base) := by
  obtain ⟨first, called⟩ | ⟨later, u, cleaned, called⟩ := call_left fine
  · exact .inl ⟨first, by rw [called]; rfl⟩
  · obtain ⟨drift, offset, published⟩ := publish_left build u
    apply Or.inr
    rw [called, published]
    exact ⟨later, (cleanup_recalculated cleaned).publish drift offset⟩

theorem Proceeds.recalculated (step : Proceeds build o c t) :
    (¬ 1 < (o.base.added c).processedTimestamps ∧ t = o.added c) ∨
    (1 < (o.base.added c).processedTimestamps ∧ o.base.Recalculated c t.base) := by
  rw [← step.1.left_eq]
  exact left_recalculated step.2

/-! ## What holds in every run -/

theorem run_goes (run : Run (Proceeds build) (Object.init max) past o) :
    Run (Goes build) (Object.init max) past o :=
  run.mono fun _ _ _ h => h.1

theorem proceeds_recalculating (algo : Algo) (build : Build) (max : ℚ) :
    Recalculating build max (Proceeds (M := algo.Members) build) fun _ => True where
  past _ _ _ := trivial
  goes _ _ _ step := step.1
  step _ _ _ _ _ _ step := step.recalculated

theorem run_tables (run : Run (Proceeds build) (Object.init max) past o)
    (short : past.length < 2 ^ 32) : o.base.Mirrors :=
  (proceeds_recalculating algo build max).mirrors run trivial short

theorem run_pair (run : Run (Proceeds build) (Object.init max) past o) (distinct : Distinct past) :
    o.base.Mirrors ∧ o.base.Kept :=
  (proceeds_recalculating algo build max).kept run trivial distinct

/-- A call that returns, or fails nothing but the last check. -/
def Completes (build : Build) (o : Object algo.Members) (c : Call) (t : Object algo.Members) : Prop :=
  addDataPoint build c o = .ok () t ∨ addDataPoint build c o = .error .drift t

theorem Completes.left_eq (h : Completes build o c t) : left (addDataPoint build c o) = t := by
  cases h with
  | inl h => rw [h]; rfl
  | inr h => rw [h]; rfl

theorem Completes.fine (h : Completes build o c t) (u : Object algo.Members) :
    addDataPoint build c o ≠ .error .outOfRange u := by
  intro failed
  cases h with
  | inl h => rw [h] at failed; cases failed
  | inr h => rw [h] at failed; cases failed

/-- A recalculating call that completes ends with a pair. -/
theorem Completes.pair (h : Completes build o c t)
    (later : 1 < (o.base.added c).processedTimestamps) :
    t.base.currentLow ≠ none ∧ t.base.currentHigh ≠ none := by
  have outcome := addDataPoint_outcome build o c
  cases h with
  | inl h =>
    rw [h] at outcome
    cases outcome with
    | counted first => exact absurd later first
    | returned _ _ low high => simp [Base.estimate, low, high]
  | inr h =>
    rw [h] at outcome
    cases outcome with
    | interrupted _ stopped => exact absurd (cleanup_fails algo stopped) (by decide)
    | drift _ _ low high => simp [Base.estimate, low, high]

theorem Completes.mirrors (run : Run (Proceeds build) (Object.init max) past o)
    (h : Completes build o c t) (short : past.length + 1 < 2 ^ 32) : t.base.Mirrors := by
  have hs := run_tables run (by omega)
  rw [← h.left_eq]
  obtain ⟨first, called⟩ | ⟨_, recalculated⟩ := left_recalculated h.fine
  · rw [called]
    rw [(run_historical (run_goes run)).first short first] at run
    rw [run.nil_inv]
    exact (Base.init_mirrors max).added (Base.init_accepts max c)
  · exact recalculated.mirrors hs

/-- With distinct timestamps the pair that a call ends with is in the tables. -/
theorem Completes.holds (run : Run (Proceeds build) (Object.init max) past o)
    (h : Completes build o c t) (distinct : Distinct (past ++ [c]))
    (later : 1 < (o.base.added c).processedTimestamps) :
    ∃ low high, t.base.Holds low high ∧ low ∈ t.base.lowConstraints ∧
      high ∈ t.base.highConstraints := by
  obtain ⟨hs, kept⟩ := run_pair run distinct.past
  have known := run_historical (run_goes run)
  have next := known.step (call_frame build o c)
  have recalculated : o.base.Recalculated c t.base := by
    rw [← h.left_eq]
    obtain ⟨first, _⟩ | ⟨_, recalculated⟩ := left_recalculated h.fine
    · exact absurd later first
    · exact recalculated
  rw [h.left_eq] at next
  obtain unset | ⟨low, high, _, _, held⟩ := next.pair
  · exact absurd unset.currentLow (h.pair later).1
  · exact ⟨low, high, held, recalculated.kept hs kept (known.accepts distinct) low high held⟩

end

/-! ## The points that TinySync keeps -/

theorem Base.usesLow_iff {s : Base} {p : LPointPtr} :
    s.usesLow p = true ↔ s.lowConstraintPts.1 = some p ∨ s.highConstraintPts.1 = some p := by
  simp only [usesLow, Bool.or_eq_true, decide_eq_true_eq]

theorem Base.usesHigh_iff {s : Base} {p : HPointPtr} :
    s.usesHigh p = true ↔ s.lowConstraintPts.2 = some p ∨ s.highConstraintPts.2 = some p := by
  simp only [usesHigh, Bool.or_eq_true, decide_eq_true_eq]

theorem length_le_two {points : PointSet} {p q : Option PointPtr}
    (h : ∀ r ∈ points, p = some r ∨ q = some r) : points.elems.length ≤ 2 := by
  have sub : points.elems ⊆ p.toList ++ q.toList := by
    intro r hr
    simpa [eq_comm] using h r hr
  have distinct : points.elems.Nodup := List.Nodup.of_map _ points.keys_nodup
  have le := (List.subperm_of_subset distinct sub).length_le
  have short : (p.toList ++ q.toList).length ≤ 2 := by
    cases p <;> cases q <;> simp
  exact le.trans short

namespace TinySync

/-- Each set holds at most the two points that the current pair uses. -/
structure AtMostTwo (s : Base) : Prop where
  low : s.lowPoints.elems.length ≤ 2
  high : s.highPoints.elems.length ≤ 2

theorem cleanup_atMostTwo {o t : Object TinySync} (h : cleanup o = .ok () t) : AtMostTwo t.base := by
  obtain ⟨u, cleaned, leaves, prunes, _⟩ := cleanup_run o
  rw [cleaned] at h
  cases h
  constructor
  · rw [leaves.lowPoints]
    apply length_le_two
    intro p hp
    have used := (OrderedSet.mem_eraseIf.mp hp).2
    exact Base.usesLow_iff.mp (by simpa using used)
  · rw [leaves.highPoints]
    apply length_le_two
    intro p hp
    have used := (OrderedSet.mem_eraseIf.mp hp).2
    exact Base.usesHigh_iff.mp (by simpa using used)

end TinySync

theorem Completes.atMostTwo {build : Build} {max : ℚ} {past : List Call} {c : Call}
    {o t : Object (Algo.Members .tinySync)} (run : Run (Proceeds build) (Object.init max) past o)
    (h : Completes build o c t) (short : past.length + 1 < 2 ^ 32) : TinySync.AtMostTwo t.base := by
  rw [← h.left_eq]
  obtain ⟨first, called⟩ | ⟨_, u, cleaned, called⟩ := call_left h.fine
  · rw [called]
    rw [(run_historical (run_goes run)).first short first] at run
    rw [run.nil_inv]
    have one : ((Object.init max : Object TinySync).added c).base.lowPoints.elems.length = 1 ∧
      ((Object.init max : Object TinySync).added c).base.highPoints.elems.length = 1 := ⟨rfl, rfl⟩
    constructor
    · exact one.1.trans_le (by omega)
    · exact one.2.trans_le (by omega)
  · obtain ⟨drift, offset, published⟩ := publish_left build u
    have few := TinySync.cleanup_atMostTwo cleaned
    rw [called, published]
    exact ⟨few.low, few.high⟩

/-- **The tables mirror the stored points** after every call that completes, whatever the order
of the data points and however often timestamps repeat. -/
theorem tables_mirror (algo : Algo) (build : Build) (max : ℚ) (past : List Call) (c : Call)
    (o o' : Object algo.Members) (run : Run (Proceeds build) (Object.init max) past o)
    (completes : Completes build o c o') (short : past.length + 1 < 2 ^ 32) :
    o'.base.Mirrors ∧
    ((o'.base.lowPoints.elems.map (·.x)).Nodup ∧ (o'.base.highPoints.elems.map (·.x)).Nodup) ∧
    (algo = .tinySync → TinySync.AtMostTwo o'.base) ∧
    (Distinct (past ++ [c]) → past ≠ [] → ∃ low high, o'.base.Holds low high ∧
      low ∈ o'.base.lowConstraints ∧ high ∈ o'.base.highConstraints) := by
  refine ⟨completes.mirrors run short, ⟨o'.base.lowPoints.keys_nodup, o'.base.highPoints.keys_nodup⟩,
    ?_, ?_⟩
  · intro tiny
    cases tiny
    exact completes.atMostTwo run short
  · intro distinct started
    have known := run_historical (run_goes run)
    exact completes.holds run distinct (known.recalculates c started short)

/-- Data points that arrive backwards, for TinySync. -/
theorem tables_mirror_backwards :
    let past := [Call.listed 1 2 3, .listed 0 1 2]
    let o : Object (Algo.Members .tinySync) := (Object.init 1000).after .plain past
    let o' := left (addDataPoint .plain (.listed (-1) 0 1) o)
    o'.base.Mirrors ∧ TinySync.AtMostTwo o'.base ∧ ∃ low high, o'.base.Holds low high ∧
      low ∈ o'.base.lowConstraints ∧ high ∈ o'.base.highConstraints := by
  intro past o o'
  have run : Run (Returns .plain) (Object.init 1000) past o := run_after (by decide +kernel)
  have returns : addDataPoint .plain (.listed (-1) 0 1) o = .ok () o' :=
    failure?_eq_none.mp (by decide +kernel)
  obtain ⟨mirrors, _, few, pair⟩ := tables_mirror .tinySync .plain 1000 past (.listed (-1) 0 1) o o'
    (run.mono fun _ _ _ h => h.proceeds) (.inl returns) (by simp [past])
  exact ⟨mirrors, few rfl, pair (by simp [past, Distinct, Call.listed]) (by simp [past])⟩

end MiniSynCPP
