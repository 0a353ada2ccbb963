import MiniSynCPP.Lookups
import MiniSynCPP.Soundness

/-!
# The two builds

Both builds make the same search and the same cleanup. Their checks differ in
one place: a drift of exactly zero throws in the plain build only. A slope that
the cleanup of MiniSync misses is an exception in both and aborts neither.
-/

namespace MiniSynCPP

open Containers Runs

/-! ## The lines that a call can choose -/

namespace Base

/-- The low lines that a call finds in the table, and those it draws between its own points and
stored ones. -/
def lowLines (s : Base) (c : Call) : List ConstraintLine :=
  s.lowConstraints.entries.map (fun e => e.2) ++
    (s.highPoints.elems.filter (fun h => c.Tb < h.x)).map (fun h => between (s.newLow c) h) ++
    (s.lowPoints.elems.filter (fun l => l.x < c.Tb)).map (fun l => between l (s.newHigh c))

def highLines (s : Base) (c : Call) : List ConstraintLine :=
  s.highConstraints.entries.map (fun e => e.2) ++
    (s.highPoints.elems.filter (fun h => h.x < c.Tb)).map (fun h => between (s.newLow c) h) ++
    (s.lowPoints.elems.filter (fun l => c.Tb < l.x)).map (fun l => between l (s.newHigh c))

/-- Neither set holds a point that is newer than the data point of the call. -/
def Newest (s : Base) (c : Call) : Prop :=
  (∀ p ∈ s.lowPoints.elems, p.x ≤ c.Tb) ∧ ∀ p ∈ s.highPoints.elems, p.x ≤ c.Tb

instance (s : Base) (c : Call) : Decidable (s.Newest c) := inferInstanceAs (Decidable (_ ∧ _))

section
variable {s : Base} {c : Call}

theorem mem_lowLines (drawn : s.TablesDrawn) {e : Entry} (he : e ∈ (s.added c).lowConstraints) :
    e.2 ∈ s.lowLines c := by
  simp only [lowLines, List.mem_append, List.mem_map, List.mem_filter, decide_eq_true_eq]
  obtain (held | ⟨h, hh, later, rfl⟩) | ⟨l, hl, later, rfl⟩ := ((added_tables drawn c).2.1 e).mp he
  · exact .inl (.inl ⟨e, held, rfl⟩)
  · exact .inl (.inr ⟨h, ⟨hh, later⟩, rfl⟩)
  · obtain hl | ⟨rfl, _⟩ := mem_added_lowPoints.mp hl
    · exact .inr ⟨l, ⟨hl, later⟩, rfl⟩
    · exact absurd later (lt_irrefl c.Tb)

theorem mem_highLines (drawn : s.TablesDrawn) {e : Entry} (he : e ∈ (s.added c).highConstraints) :
    e.2 ∈ s.highLines c := by
  simp only [highLines, List.mem_append, List.mem_map, List.mem_filter, decide_eq_true_eq]
  obtain (held | ⟨h, hh, later, rfl⟩) | ⟨l, hl, later, rfl⟩ := ((added_tables drawn c).2.2 e).mp he
  · exact .inl (.inl ⟨e, held, rfl⟩)
  · exact .inl (.inr ⟨h, ⟨hh, later⟩, rfl⟩)
  · obtain hl | ⟨rfl, _⟩ := mem_added_lowPoints.mp hl
    · exact .inr ⟨l, ⟨hl, later⟩, rfl⟩
    · exact absurd later (lt_irrefl c.Tb)

end

end Base

/-- Behind the search a call has the pair held before, or two of its lines whose product is below
the one held before. -/
theorem pruned_pair {M : Type} [Subclass M] {o : Object M} {c : Call} {t : Base}
    (drawn : o.base.TablesDrawn) (prunes : (o.searched c).base.Prunes t) {low high : ConstraintLine}
    (hlow : t.currentLow = some low) (hhigh : t.currentHigh = some high) :
    (o.base.currentLow = some low ∧ o.base.currentHigh = some high) ∨
    (low ∈ o.base.lowLines c ∧ high ∈ o.base.highLines c ∧
      Base.tmpDiff low high < o.base.diffFactor) := by
  have same := prunes.samePair
  rw [same.currentLow] at hlow
  rw [same.currentHigh] at hhigh
  obtain unchanged | ⟨l, hl, h, hh, lt, taken⟩ := (searched_tightest o c).taken
  · rw [unchanged] at hlow hhigh
    exact .inl ⟨hlow, hhigh⟩
  · rw [taken] at hlow hhigh
    cases hlow
    cases hhigh
    exact .inr ⟨Base.mem_lowLines drawn hl, Base.mem_highLines drawn hh, lt⟩

/-! ## One call in both builds -/

section
variable {M : Type} [Subclass M]

/-- A check fails in the call and ends the process. -/
def Aborts (o : Object M) (c : Call) : Prop :=
  ∃ e t, addDataPoint .loguru c o = .error e t ∧ aborts .loguru e = true

/-- The call throws, in the build without loguru. -/
def Throws (o : Object M) (c : Call) : Prop := ∃ e t, addDataPoint .plain c o = .error e t

/-- Both builds end the call in the same way, and if they fail they fail a check. -/
def EndsAlike (o : Object M) (c : Call) : Prop :=
  addDataPoint .loguru c o = addDataPoint .plain c o ∧
    ∀ u, addDataPoint .plain c o ≠ .error .outOfRange u

theorem EndsAlike.aborts_iff {o : Object M} {c : Call} (h : EndsAlike o c) :
    Aborts o c ↔ Throws o c := by
  obtain ⟨same, finds⟩ := h
  constructor
  · rintro ⟨e, t, failed, _⟩
    exact ⟨e, t, same.symm.trans failed⟩
  · rintro ⟨e, t, failed⟩
    refine ⟨e, t, same.trans failed, ?_⟩
    have check : e ≠ .outOfRange := by
      rintro rfl
      exact finds t failed
    simp [aborts, check]

theorem driftFails_eq_of_ne {value : ℚ} (h : value ≠ 0) :
    driftFails .loguru value = driftFails .plain value := by
  apply Bool.eq_iff_iff.mpr
  simp only [driftFails, decide_eq_true_eq]
  exact ⟨le_of_lt, fun le => lt_of_le_of_ne le h⟩

/-- The checks tell the builds apart by a drift of zero only. -/
theorem publish_builds {M : Type} {t : Object M} (tilted : ∀ low high,
    t.base.currentLow = some low → t.base.currentHigh = some high → low.a + high.a ≠ 0) :
    publish .loguru t = publish .plain t := by
  simp only [publish_run]
  cases hlow : t.base.currentLow with
  | none => rfl
  | some low =>
    cases hhigh : t.base.currentHigh with
    | none => rfl
    | some high =>
      have nonzero : (low.a + high.a) / 2 ≠ 0 := by
        intro zero
        exact tilted low high hlow hhigh (by linarith)
      simp only [driftFails_eq_of_ne nonzero]

variable [LawfulSubclass M]

theorem Returns.loguru {o t : Object M} {c : Call} (h : Returns .plain o c t) :
    Returns .loguru o c t := by
  have outcome := addDataPoint_outcome .plain o c
  rw [h] at outcome
  cases outcome with
  | counted first => rw [Returns, addDataPoint_run, if_neg first]
  | returned later cleaned hlow hhigh check =>
    have positive := of_decide_eq_false check
    have passes : driftFails .loguru _ = false := decide_eq_false fun negative => positive negative.le
    rw [Returns, addDataPoint_eq, if_pos later, cleaned]
    simp only [publish_run, hlow, hhigh, passes, Bool.false_eq_true, if_false]

/-- The pair of the object, if it has one, has a positive drift. -/
def Rising (s : Base) : Prop :=
  ∀ low high, s.currentLow = some low → s.currentHigh = some high → 0 < low.a + high.a

theorem init_rising (max : ℚ) : Rising (Base.init max) := by
  intro low high hlow _
  cases hlow

theorem returns_rising {max : ℚ} {past : List Call} {o : Object M}
    (run : Run (Returns .plain) (Object.init max) past o) : Rising o.base := by
  refine run.invariant (P := fun _ o => Rising o.base) (init_rising max) ?_
  intro past o c t _ ih step low high hlow hhigh
  have outcome := addDataPoint_outcome .plain o c
  rw [step] at outcome
  cases outcome with
  | counted => exact ih low high hlow hhigh
  | returned _ _ held held' check =>
    have positive := of_decide_eq_false check
    cases held.symm.trans hlow
    cases held'.symm.trans hhigh
    linarith

end

section
variable {algo : Algo} {build : Build} {max : ℚ} {past : List Call} {c : Call}
  {o : Object algo.Members}

/-- The cleanup of MiniSync needs the data points in order, that of TinySync does not. -/
def InStep (algo : Algo) (s : Base) (c : Call) : Prop := algo = .miniSync → s.Newest c

theorem run_ready_of_newest (run : Run (fun o c t => InStep algo o.base c ∧ Goes build o c t)
    (Object.init max : Object algo.Members) past o) :
    algo = .miniSync → OrderedSubclass.Ready o := by
  refine run.invariant (P := fun _ o => algo = .miniSync → OrderedSubclass.Ready o)
    (fun _ => OrderedSubclass.ready_init max) ?_
  intro past o c t _ ready step mini
  obtain ⟨low, high⟩ := step.1 mini
  rw [← step.2.left_eq]
  exact left_ready build (ready mini) low high

theorem cleanup_ok (run : Run (fun o c t => InStep algo o.base c ∧ Goes build o c t)
    (Object.init max) past o) (inStep : InStep algo o.base c) :
    ∃ t, Subclass.cleanup (o.searched c) = .ok () t := by
  have ready := run_ready_of_newest run
  cases algo with
  | tinySync =>
    obtain ⟨t, cleaned, _⟩ := TinySync.cleanup_run (o.searched c)
    exact ⟨t, cleaned⟩
  | miniSync =>
    obtain ⟨low, high⟩ := inStep rfl
    obtain ⟨t, cleaned, _⟩ :=
      OrderedSubclass.cleanup_ready (searched_ready (OrderedSubclass.ready_added (ready rfl) low high))
    exact ⟨t, cleaned⟩

/-- What keeps the builds together at a call: for MiniSync no stored point is newer, and no two
lines that it can choose have opposite slopes and a product below the one held. -/
def Harmless (algo : Algo) (s : Base) (c : Call) : Prop :=
  InStep algo s c ∧ ∀ low ∈ s.lowLines c, ∀ high ∈ s.highLines c,
    Base.tmpDiff low high < s.diffFactor → low.a + high.a ≠ 0

instance (algo : Algo) (s : Base) (c : Call) : Decidable (Harmless algo s c) :=
  inferInstanceAs (Decidable ((algo = .miniSync → s.Newest c) ∧ _))

theorem Harmless.endsAlike
    (run : Run (fun o c t => Harmless algo o.base c ∧ Returns .plain o c t) (Object.init max) past o)
    (harmless : Harmless algo o.base c) : EndsAlike o c := by
  have returned := run.mono fun _ _ _ h => h.2
  obtain ⟨t, cleaned⟩ := cleanup_ok (run.mono fun _ _ _ h => ⟨h.1.1, h.2.goes⟩) harmless.1
  have drawn := (run_historical (returned.mono fun _ _ _ h => Returns.goes h)).drawn
  have tilted : ∀ low high, t.base.currentLow = some low → t.base.currentHigh = some high →
      low.a + high.a ≠ 0 := by
    intro low high hlow hhigh
    obtain ⟨heldLow, heldHigh⟩ | ⟨hl, hh, lt⟩ :=
      pruned_pair drawn (cleanup_ok_prunes cleaned) hlow hhigh
    · exact (returns_rising returned low high heldLow heldHigh).ne'
    · exact harmless.2 low hl high hh lt
  unfold EndsAlike
  simp only [addDataPoint_eq, cleaned, publish_builds tilted]
  refine ⟨trivial, ?_⟩
  intro u
  split
  · exact publish_finds .plain t u
  · simp

end

/-! ## Whole runs in both builds -/

/-- The four estimates of two objects are equal. -/
def SameEstimates (s t : Base) : Prop :=
  s.getDrift = t.getDrift ∧ s.getDriftError = t.getDriftError ∧
    s.getOffset = t.getOffset ∧ s.getOffsetError = t.getOffsetError

/-- As long as no call has failed in either build the estimates are equal, and
the next call aborts in the one build if and only if it throws in the other. -/
def BuildsAgree (algo : Algo) (max : ℚ) (calls : List Call) : Prop :=
  ∀ past rest, calls = past ++ rest → ∀ o o' : Object algo.Members,
    Run (Returns .loguru) (Object.init max) past o → Run (Returns .plain) (Object.init max) past o' →
    SameEstimates o.base o'.base ∧ ∀ c more, rest = c :: more → (Aborts o c ↔ Throws o' c)

/-- **When the builds agree.** They do in every run whose calls are all harmless. -/
theorem buildsAgree_of_harmless (algo : Algo) (max : ℚ) (calls : List Call)
    (harmless : ∀ past c more, calls = past ++ c :: more → ∀ o : Object algo.Members,
      Run (Returns .plain) (Object.init max) past o → Harmless algo o.base c) :
    BuildsAgree algo max calls := by
  intro past rest split o o' loguru plain
  obtain rfl := run_unique loguru (plain.mono fun _ _ _ h => h.loguru)
  refine ⟨⟨rfl, rfl, rfl, rfl⟩, ?_⟩
  intro c more next
  rw [next] at split
  have steps : Run (fun o c t => Harmless algo o.base c ∧ Returns .plain o c t) (Object.init max)
      past o := by
    apply plain.with_condition
    intro before d after splitPast
    apply harmless before d (after ++ c :: more)
    rw [split, splitPast]
    simp
  exact (Harmless.endsAlike steps (harmless past c more split o plain)).aborts_iff

/-- Of these three calls the last fails in both builds, with a negative drift. -/
theorem buildsAgree_of_harmless_three :
    BuildsAgree .miniSync 1000 [.listed (-1) 0 1, .listed 0 1 2, .listed (-5) 2 (-3)] := by
  apply buildsAgree_of_harmless
  refine forall_split_cons ?_ (forall_split_cons ?_ (forall_split_cons ?_ forall_split_nil))
  all_goals
    intro o run
    rw [run_eq_after (run.mono fun _ _ _ h => Returns.goes h)]
    decide +kernel

/-- Two data points with the same bounds and nothing else make a drift of zero. -/
theorem not_buildsAgree : ¬ ∀ algo max calls, BuildsAgree algo max calls := by
  intro agree
  let first : Call := .listed (-1) 0 2
  let second : Call := .listed (-1) 1 2
  let o : Object TinySync := (Object.init 1000).after .plain [first]
  have plain : Run (Returns .plain) (Object.init 1000) [first] o := run_after (by decide +kernel)
  have loguru := plain.mono fun _ _ _ h => h.loguru
  obtain ⟨_, next⟩ := agree .tinySync 1000 [first, second] [first] [second] rfl o o loguru plain
  have throws : failure? (addDataPoint .plain second o) = some .drift := by decide +kernel
  have returns : failure? (addDataPoint .loguru second o) = none := by decide +kernel
  obtain ⟨e, t, aborts, _⟩ := (next second [] rfl).mpr ⟨_, _, failure?_eq_some.mp throws⟩
  rw [aborts] at returns
  cases returns

end MiniSynCPP
