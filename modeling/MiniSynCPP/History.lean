import MiniSynCPP.Cleanup

/-!
# Runs of calls

In a run the caller goes on after every exception that `addDataPoint` throws;
an abort ends the run. Whatever the order of the calls and whichever of them
fail, every line an object holds runs between points of its history.
-/

namespace MiniSynCPP

open Containers Runs Lines

section
variable {M : Type} [Subclass M]

/-- A call that returns normally. -/
def Returns (build : Build) (o : Object M) (c : Call) (t : Object M) : Prop :=
  addDataPoint build c o = .ok () t

/-- A call that returns, or throws an exception that the caller catches. -/
def Goes (build : Build) (o : Object M) (c : Call) (t : Object M) : Prop :=
  Returns build o c t ∨ ∃ e, aborts build e = false ∧ addDataPoint build c o = .error e t

theorem Returns.goes {build : Build} {o t : Object M} {c : Call} (h : Returns build o c t) :
    Goes build o c t := .inl h

theorem Goes.left_eq {build : Build} {o t : Object M} {c : Call} (h : Goes build o c t) :
    left (addDataPoint build c o) = t := by
  rcases h with h | ⟨e, _, h⟩ <;> rw [h] <;> rfl

/-- A call that meets the entries of both tables in the order they are listed in. -/
def Call.listed (To Tb Tr : ℚ) : Call := ⟨To, Tb, Tr, .listed, .listed⟩

/-- An order that meets the entries of a table backwards. -/
def backwards : IterOrder Entry := ⟨List.reverse, List.reverse_perm⟩

/-- The object after some calls, the exceptions of which are caught. -/
def Object.after (build : Build) (o : Object M) (calls : List Call) : Object M :=
  calls.foldl (fun o c => left (addDataPoint build c o)) o

/-- Whether all of the calls return. -/
def allReturn (build : Build) (o : Object M) : List Call → Bool
  | [] => true
  | c :: calls => (failure? (addDataPoint build c o)).isNone &&
      allReturn build (left (addDataPoint build c o)) calls

theorem Returns.unique {build : Build} {o t u : Object M} {c : Call} (h : Returns build o c t)
    (h' : Returns build o c u) : t = u := by
  rw [Returns, h] at h'
  cases h'
  rfl

theorem run_unique {build : Build} {o t u : Object M} {past : List Call}
    (h : Run (Returns build) o past t) (h' : Run (Returns build) o past u) : t = u :=
  h.unique (fun _ _ _ _ => Returns.unique) h'

theorem goes_plain (o : Object M) (c : Call) : Goes .plain o c (left (addDataPoint .plain c o)) := by
  unfold Goes Returns
  cases addDataPoint .plain c o with
  | ok _ t => exact .inl rfl
  | error e t => exact .inr ⟨e, rfl, rfl⟩

theorem run_after_plain (o : Object M) (calls : List Call) :
    Run (Goes .plain) o calls (o.after .plain calls) := by
  induction calls generalizing o with
  | nil => exact .start
  | cons c calls ih => exact (Run.step .start (goes_plain o c)).append (ih _)

theorem after_plain [LawfulSubclass M] (build : Build) (o : Object M) (calls : List Call) :
    o.after build calls = o.after .plain calls := by
  induction calls generalizing o with
  | nil => rfl
  | cons c calls ih => exact (congrArg (Object.after build · calls) (left_plain build o c)).trans (ih _)

theorem run_after {build : Build} {o : Object M} {calls : List Call}
    (h : allReturn build o calls = true) : Run (Returns build) o calls (o.after build calls) := by
  induction calls generalizing o with
  | nil => exact .start
  | cons c calls ih =>
    obtain ⟨first, rest⟩ := (Bool.and_eq_true _ _).mp h
    exact (Run.step .start (failure?_eq_none.mp (Option.isNone_iff_eq_none.mp first))).append (ih rest)

end

section
variable {M : Type} [Subclass M]

theorem run_eq_after {build : Build} {o t : Object M} {past : List Call}
    (h : Run (Goes build) o past t) : t = o.after build past := by
  induction h with
  | start => rfl
  | @step past s t c _ last ih =>
    rw [Object.after, List.foldl_append, ← last.left_eq, ih]
    rfl

/-- The initial `diff_factor` exceeds every product that the calls compare it with. -/
def ProductsBelow (build : Build) (algo : Algo) (max : ℚ) (calls : List Call) : Prop :=
  ∀ past c rest, calls = past ++ c :: rest → ∀ o : Object algo.Members,
    Run (Goes build) (Object.init max) past o → 1 < (o.base.added c).processedTimestamps →
    ∀ low ∈ (o.base.added c).lowConstraints, ∀ high ∈ (o.base.added c).highConstraints,
      Base.tmpDiff low.2 high.2 < max

/-- `ProductsBelow` for calls that can be run. -/
def productsBelow (build : Build) (max : ℚ) (o : Object M) : List Call → Bool
  | [] => true
  | c :: calls =>
    ((o.base.added c).lowConstraints.entries.all fun low =>
      (o.base.added c).highConstraints.entries.all fun high => Base.tmpDiff low.2 high.2 < max) &&
      productsBelow build max (left (addDataPoint build c o)) calls

theorem productsBelow_after {build : Build} {max : ℚ} {o : Object M} {past more : List Call}
    (h : productsBelow build max o (past ++ more) = true) :
    productsBelow build max (o.after build past) more = true := by
  induction past generalizing o with
  | nil => exact h
  | cons c past ih => exact ih ((Bool.and_eq_true _ _).mp h).2

theorem productsBelow_past {build : Build} {max : ℚ} {o : Object M} {past more : List Call}
    (h : productsBelow build max o (past ++ more) = true) : productsBelow build max o past = true := by
  induction past generalizing o with
  | nil => rfl
  | cons c past ih =>
    obtain ⟨here, later⟩ := (Bool.and_eq_true _ _).mp h
    exact (Bool.and_eq_true _ _).mpr ⟨here, ih later⟩

theorem productsBelow_of_check {build : Build} {algo : Algo} {max : ℚ} {calls : List Call}
    (h : productsBelow build max (Object.init max : Object algo.Members) calls = true) :
    ProductsBelow build algo max calls := by
  intro past c rest split o run _ low hl high hh
  rw [split] at h
  have here := productsBelow_after h
  rw [← run_eq_after run] at here
  have lows := List.all_eq_true.mp ((Bool.and_eq_true _ _).mp here).1 low hl
  exact of_decide_eq_true (List.all_eq_true.mp lows high hh)

theorem ProductsBelow.past {build : Build} {algo : Algo} {max : ℚ} {past more : List Call}
    (h : ProductsBelow build algo max (past ++ more)) : ProductsBelow build algo max past := by
  intro before d rest split
  exact h before d (rest ++ more) (by rw [split]; simp)

theorem ProductsBelow.last {build : Build} {algo : Algo} {max : ℚ} {past : List Call} {c : Call}
    {o : Object algo.Members} (h : ProductsBelow build algo max (past ++ [c]))
    (run : Run (Goes build) (Object.init max) past o)
    (recalculates : 1 < (o.base.added c).processedTimestamps) :
    ∀ low ∈ (o.base.added c).lowConstraints, ∀ high ∈ (o.base.added c).highConstraints,
      Base.tmpDiff low.2 high.2 < max :=
  h past c [] rfl o run recalculates

end

/-! ## Lines as lines of the plane -/

def PointPtr.xy (p : PointPtr) : ℚ × ℚ := (p.x, p.y)

@[simp] theorem PointPtr.xy_fst (p : PointPtr) : p.xy.1 = p.x := rfl

@[simp] theorem PointPtr.xy_snd (p : PointPtr) : p.xy.2 = p.y := rfl

def ConstraintLine.line (l : ConstraintLine) : Line ℚ := ⟨l.a, l.b⟩

@[simp] theorem ConstraintLine.line_slope (l : ConstraintLine) : l.line.slope = l.a := rfl

@[simp] theorem ConstraintLine.line_icept (l : ConstraintLine) : l.line.icept = l.b := rfl

theorem between_line (l : LPointPtr) (h : HPointPtr) :
    (between l h).line = through l.xy h.xy := rfl

/-- A high line is drawn from its low point, the later one, to its high point. -/
theorem between_line' {l : LPointPtr} {h : HPointPtr} (hx : h.x < l.x) :
    (between l h).line = through h.xy l.xy := by
  rw [between_line, through_comm (by simpa using hx.ne')]

/-- The points of the plane that a history of calls consists of. -/
def samples (past : List Call) : Points ℚ where
  lows := {p | ∃ c ∈ past, p = (c.Tb, c.To)}
  highs := {p | ∃ c ∈ past, p = (c.Tb, c.Tr)}

theorem samples_sub_snoc (past : List Call) (c : Call) :
    (samples past).Sub (samples (past ++ [c])) := by
  constructor
  · rintro p ⟨d, hd, rfl⟩
    exact ⟨d, List.mem_append_left [c] hd, rfl⟩
  · rintro p ⟨d, hd, rfl⟩
    exact ⟨d, List.mem_append_left [c] hd, rfl⟩

theorem fits_samples {past : List Call} {a b : ℚ} :
    Fits (samples past) ⟨a, b⟩ ↔ ∀ c ∈ past, c.To ≤ a * c.Tb + b ∧ a * c.Tb + b ≤ c.Tr := by
  constructor
  · intro h c hc
    exact ⟨h.1 _ ⟨c, hc, rfl⟩, h.2 _ ⟨c, hc, rfl⟩⟩
  · intro h
    constructor
    · rintro p ⟨c, hc, rfl⟩
      exact (h c hc).1
    · rintro p ⟨c, hc, rfl⟩
      exact (h c hc).2

theorem brackets_samples {past : List Call} {a b : ℚ} :
    Brackets (samples past) ⟨a, b⟩ ↔ ∀ c ∈ past, c.To < a * c.Tb + b ∧ a * c.Tb + b < c.Tr := by
  constructor
  · intro h c hc
    exact ⟨h.1 _ ⟨c, hc, rfl⟩, h.2 _ ⟨c, hc, rfl⟩⟩
  · intro h
    constructor
    · rintro p ⟨c, hc, rfl⟩
      exact (h c hc).1
    · rintro p ⟨c, hc, rfl⟩
      exact (h c hc).2

theorem rightHalf_samples {past : List Call} (h : ∀ c ∈ past, 0 ≤ c.Tb) :
    RightHalf (samples past) := by
  constructor
  · rintro p ⟨c, hc, rfl⟩
    exact h c hc
  · rintro p ⟨c, hc, rfl⟩
    exact h c hc

/-- The timestamps of a call, without the orders that the tables are met in. -/
def Call.data (c : Call) : ℚ × ℚ × ℚ := (c.To, c.Tb, c.Tr)

theorem exists_of_data {past past' : List Call} (h : past.map Call.data = past'.map Call.data)
    {c : Call} (hc : c ∈ past) : ∃ d ∈ past', c.To = d.To ∧ c.Tb = d.Tb ∧ c.Tr = d.Tr := by
  have mem := List.mem_map_of_mem (f := Call.data) hc
  rw [h] at mem
  obtain ⟨d, hd, same⟩ := List.mem_map.mp mem
  simp only [Call.data, Prod.mk.injEq] at same
  exact ⟨d, hd, same.1.symm, same.2.1.symm, same.2.2.symm⟩

/-- The points of the plane depend on the data only. -/
theorem samples_sub_of_data {past past' : List Call} (h : past.map Call.data = past'.map Call.data) :
    (samples past).Sub (samples past') := by
  constructor
  · intro p hp
    obtain ⟨c, hc, rfl⟩ := hp
    obtain ⟨d, hd, To, Tb, _⟩ := exists_of_data h hc
    exact ⟨d, hd, by rw [To, Tb]⟩
  · intro p hp
    obtain ⟨c, hc, rfl⟩ := hp
    obtain ⟨d, hd, _, Tb, Tr⟩ := exists_of_data h hc
    exact ⟨d, hd, by rw [Tb, Tr]⟩

/-! ## What a call leaves of the current pair and the tables -/

namespace Base

/-- The two objects hold the same pair of lines. -/
structure SamePair (s t : Base) : Prop where
  currentLow : t.currentLow = s.currentLow
  currentHigh : t.currentHigh = s.currentHigh
  lowPts : t.lowConstraintPts = s.lowConstraintPts
  highPts : t.highConstraintPts = s.highConstraintPts
  diffFactor : t.diffFactor = s.diffFactor

theorem SamePair.refl (s : Base) : s.SamePair s := ⟨rfl, rfl, rfl, rfl, rfl⟩

theorem SamePair.trans {s t u : Base} (h : s.SamePair t) (h' : t.SamePair u) : s.SamePair u :=
  ⟨h'.1.trans h.1, h'.2.trans h.2, h'.3.trans h.3, h'.4.trans h.4, h'.5.trans h.5⟩

theorem added_samePair (s : Base) (c : Call) : s.SamePair (s.added c) := ⟨rfl, rfl, rfl, rfl, rfl⟩

theorem Prunes.samePair {s t : Base} (h : s.Prunes t) : s.SamePair t := by
  rw [h.frame]
  exact ⟨rfl, rfl, rfl, rfl, rfl⟩

/-- What is true of the object after a call, whether it returned or failed. -/
structure Frame (s : Base) (c : Call) (t : Base) : Prop where
  count : t.processedTimestamps = s.processedTimestamps + 1
  lowPoints : ∀ p ∈ t.lowPoints, p ∈ (s.added c).lowPoints
  highPoints : ∀ p ∈ t.highPoints, p ∈ (s.added c).highPoints
  lowConstraints : ∀ e ∈ t.lowConstraints, e ∈ (s.added c).lowConstraints
  highConstraints : ∀ e ∈ t.highConstraints, e ∈ (s.added c).highConstraints
  pair : s.SamePair t ∨ ∃ low ∈ (s.added c).lowConstraints, ∃ high ∈ (s.added c).highConstraints,
    tmpDiff low.2 high.2 < s.diffFactor ∧ (s.take low high).SamePair t

theorem added_frame (s : Base) (c : Call) : s.Frame c (s.added c) :=
  ⟨rfl, fun _ h => h, fun _ h => h, fun _ h => h, fun _ h => h, .inl (s.added_samePair c)⟩

/-- The search and the cleanup leave a frame of the call behind. -/
theorem Tightest.frame {s t u : Base} {c : Call}
    (h : (s.added c).Tightest (s.added c).lowConstraints.entries (s.added c).highConstraints.entries t)
    (h' : t.Prunes u) : s.Frame c u := by
  have same := h'.samePair
  have count := congrArg processedTimestamps h'.frame
  rcases h.taken with rfl | ⟨low, hl, high, hh, lt, rfl⟩
  · exact ⟨count, h'.lowPoints, h'.highPoints, h'.lowConstraints, h'.highConstraints,
      .inl ((s.added_samePair c).trans same)⟩
  · have taken : (s.take low high).SamePair ((s.added c).take low high) :=
      ⟨rfl, rfl, rfl, rfl, rfl⟩
    exact ⟨count, h'.lowPoints, h'.highPoints, h'.lowConstraints, h'.highConstraints,
      .inr ⟨low, hl, high, hh, lt, taken.trans same⟩⟩

theorem Frame.estimate {s t : Base} {c : Call} (h : s.Frame c t) (low high : ConstraintLine) :
    s.Frame c (t.estimate low high) := by
  have same : t.SamePair (t.estimate low high) := ⟨rfl, rfl, rfl, rfl, rfl⟩
  refine ⟨h.count, h.lowPoints, h.highPoints, h.lowConstraints, h.highConstraints, ?_⟩
  refine h.pair.imp (SamePair.trans · same) ?_
  rintro ⟨low, hl, high, hh, lt, taken⟩
  exact ⟨low, hl, high, hh, lt, taken.trans same⟩

end Base

section
variable {M : Type} [Subclass M] [LawfulSubclass M]

theorem cleanup_ok_prunes {o t : Object M} (h : Subclass.cleanup o = .ok () t) :
    o.base.Prunes t.base := by
  have := LawfulSubclass.cleanup_prunes o
  rwa [h] at this

omit [LawfulSubclass M] in
theorem searched_frame {o t : Object M} {c : Call} (h : (o.searched c).base.Prunes t.base) :
    o.base.Frame c t.base :=
  (searched_tightest o c).frame h

theorem call_frame (build : Build) (o : Object M) (c : Call) :
    o.base.Frame c (left (addDataPoint build c o)).base := by
  have outcome := addDataPoint_outcome build o c
  generalize addDataPoint build c o = result at outcome ⊢
  cases outcome with
  | counted => exact o.base.added_frame c
  | interrupted _ pruned =>
    have := LawfulSubclass.cleanup_prunes (o.searched c)
    rw [pruned] at this
    exact searched_frame this
  | lowNull _ pruned _ => exact searched_frame (cleanup_ok_prunes pruned)
  | highNull _ pruned _ _ => exact searched_frame (cleanup_ok_prunes pruned)
  | drift _ pruned _ _ _ => exact (searched_frame (cleanup_ok_prunes pruned)).estimate _ _
  | returned _ pruned _ _ _ => exact (searched_frame (cleanup_ok_prunes pruned)).estimate _ _

theorem Goes.frame {build : Build} {o t : Object M} {c : Call} (h : Goes build o c t) :
    o.base.Frame c t.base := by
  have := call_frame build o c
  rwa [h.left_eq] at this

/-- The estimates after a recalculating call that returned. -/
structure Base.Estimates (s : Base) (low high : ConstraintLine) : Prop where
  currentLow : s.currentLow = some low
  currentHigh : s.currentHigh = some high
  drift : s.currentDrift = ⟨(low.a + high.a) / 2, (low.a - high.a) / 2⟩
  offset : s.currentOffset = ⟨(low.b + high.b) / 2, (high.b - low.b) / 2⟩

theorem Returns.estimates {build : Build} {o t : Object M} {c : Call} (h : Returns build o c t)
    (recalculates : 1 < (o.base.added c).processedTimestamps) :
    ∃ low high, t.base.Estimates low high ∧ driftFails build t.base.getDrift = false := by
  have outcome := addDataPoint_outcome build o c
  rw [h] at outcome
  cases outcome with
  | counted first => exact absurd recalculates first
  | @returned t low high _ _ hlow hhigh check => exact ⟨low, high, ⟨hlow, hhigh, rfl, rfl⟩, check⟩

end

/-! ## Where everything an object holds comes from -/

/-- A line from a low point of the history to a later high point of it. -/
structure IsLow (past : List Call) (e : Entry) : Prop where
  low : e.1.1.xy ∈ (samples past).lows
  high : e.1.2.xy ∈ (samples past).highs
  later : e.1.1.x < e.1.2.x
  line : e = drawn e.1.1 e.1.2

/-- A line from a high point of the history to a later low point of it. -/
structure IsHigh (past : List Call) (e : Entry) : Prop where
  high : e.1.2.xy ∈ (samples past).highs
  low : e.1.1.xy ∈ (samples past).lows
  later : e.1.2.x < e.1.1.x
  line : e = drawn e.1.1 e.1.2

theorem IsLow.snoc {past : List Call} {e : Entry} (h : IsLow past e) (c : Call) :
    IsLow (past ++ [c]) e :=
  ⟨(samples_sub_snoc past c).1 h.low, (samples_sub_snoc past c).2 h.high, h.later, h.line⟩

theorem IsHigh.snoc {past : List Call} {e : Entry} (h : IsHigh past e) (c : Call) :
    IsHigh (past ++ [c]) e :=
  ⟨(samples_sub_snoc past c).2 h.high, (samples_sub_snoc past c).1 h.low, h.later, h.line⟩

namespace Base

/-- `low` and `high` are the current pair, with the product that it was chosen for. -/
structure Holds (s : Base) (low high : Entry) : Prop where
  currentLow : s.currentLow = some low.2
  currentHigh : s.currentHigh = some high.2
  lowPts : s.lowConstraintPts = (some low.1.1, some low.1.2)
  highPts : s.highConstraintPts = (some high.1.1, some high.1.2)
  diffFactor : s.diffFactor = tmpDiff low.2 high.2

/-- No pair has been chosen yet. -/
structure Unset (max : ℚ) (s : Base) : Prop where
  currentLow : s.currentLow = none
  currentHigh : s.currentHigh = none
  lowPts : s.lowConstraintPts = (none, none)
  highPts : s.highConstraintPts = (none, none)
  diffFactor : s.diffFactor = max

theorem take_holds (s : Base) (low high : Entry) : (s.take low high).Holds low high :=
  ⟨rfl, rfl, rfl, rfl, rfl⟩

theorem Holds.same {s t : Base} {low high : Entry} (h : s.Holds low high) (h' : s.SamePair t) :
    t.Holds low high :=
  ⟨h'.1.trans h.1, h'.2.trans h.2, h'.3.trans h.3, h'.4.trans h.4, h'.5.trans h.5⟩

theorem Unset.same {max : ℚ} {s t : Base} (h : s.Unset max) (h' : s.SamePair t) : t.Unset max :=
  ⟨h'.1.trans h.1, h'.2.trans h.2, h'.3.trans h.3, h'.4.trans h.4, h'.5.trans h.5⟩

/-- **Provenance.** Points, table entries and the current pair all come from
the history. -/
structure Historical (max : ℚ) (past : List Call) (s : Base) : Prop where
  count : s.processedTimestamps = UInt32.ofNat past.length
  lowPoints : ∀ p ∈ s.lowPoints, p.xy ∈ (samples past).lows
  highPoints : ∀ p ∈ s.highPoints, p.xy ∈ (samples past).highs
  lowConstraints : ∀ e ∈ s.lowConstraints, IsLow past e
  highConstraints : ∀ e ∈ s.highConstraints, IsHigh past e
  pair : s.Unset max ∨ ∃ low high, IsLow past low ∧ IsHigh past high ∧ s.Holds low high

theorem Historical.drawn {max : ℚ} {past : List Call} {s : Base} (h : s.Historical max past) :
    s.TablesDrawn :=
  ⟨fun e he => (h.lowConstraints e he).line, fun e he => (h.highConstraints e he).line⟩

theorem init_historical (max : ℚ) : (Base.init max).Historical max [] :=
  ⟨rfl, by simp [Base.init], by simp [Base.init], by simp [Base.init], by simp [Base.init],
    .inl ⟨rfl, rfl, rfl, rfl, rfl⟩⟩

section
variable {max : ℚ} {past : List Call} {s t : Base} {c : Call}

theorem newLow_mem (s : Base) (past : List Call) (c : Call) :
    (s.newLow c).xy ∈ (samples (past ++ [c])).lows :=
  ⟨c, by simp, rfl⟩

theorem newHigh_mem (s : Base) (past : List Call) (c : Call) :
    (s.newHigh c).xy ∈ (samples (past ++ [c])).highs :=
  ⟨c, by simp, rfl⟩

theorem Historical.added_lowPoints (h : s.Historical max past) {p : LPointPtr}
    (hp : p ∈ (s.added c).lowPoints) : p.xy ∈ (samples (past ++ [c])).lows := by
  rcases mem_added_lowPoints.mp hp with hp | ⟨rfl, _⟩
  · exact (samples_sub_snoc past c).1 (h.lowPoints p hp)
  · exact newLow_mem s past c

theorem Historical.added_highPoints (h : s.Historical max past) {p : HPointPtr}
    (hp : p ∈ (s.added c).highPoints) : p.xy ∈ (samples (past ++ [c])).highs := by
  rcases mem_added_highPoints.mp hp with hp | ⟨rfl, _⟩
  · exact (samples_sub_snoc past c).2 (h.highPoints p hp)
  · exact newHigh_mem s past c

theorem Historical.added_low (h : s.Historical max past) {e : Entry}
    (he : e ∈ (s.added c).lowConstraints) : IsLow (past ++ [c]) e := by
  rcases ((added_tables h.drawn c).2.1 e).mp he with (he | ⟨q, hq, hx, rfl⟩) | ⟨p, hp, hx, rfl⟩
  · exact (h.lowConstraints e he).snoc c
  · exact ⟨newLow_mem s past c, (samples_sub_snoc past c).2 (h.highPoints q hq), hx, rfl⟩
  · exact ⟨h.added_lowPoints hp, newHigh_mem s past c, hx, rfl⟩

theorem Historical.added_high (h : s.Historical max past) {e : Entry}
    (he : e ∈ (s.added c).highConstraints) : IsHigh (past ++ [c]) e := by
  rcases ((added_tables h.drawn c).2.2 e).mp he with (he | ⟨q, hq, hx, rfl⟩) | ⟨p, hp, hx, rfl⟩
  · exact (h.highConstraints e he).snoc c
  · exact ⟨(samples_sub_snoc past c).2 (h.highPoints q hq), newLow_mem s past c, hx, rfl⟩
  · exact ⟨newHigh_mem s past c, h.added_lowPoints hp, hx, rfl⟩

theorem Historical.step (h : s.Historical max past) (frame : s.Frame c t) :
    t.Historical max (past ++ [c]) := by
  refine ⟨?_, fun p hp => h.added_lowPoints (frame.lowPoints p hp),
    fun p hp => h.added_highPoints (frame.highPoints p hp),
    fun e he => h.added_low (frame.lowConstraints e he),
    fun e he => h.added_high (frame.highConstraints e he), ?_⟩
  · rw [frame.count, h.count, List.length_append, UInt32.ofNat_add]
    rfl
  · rcases frame.pair with same | ⟨low, hl, high, hh, _, same⟩
    · rcases h.pair with unset | ⟨low, high, hl, hh, held⟩
      · exact .inl (unset.same same)
      · exact .inr ⟨low, high, hl.snoc c, hh.snoc c, held.same same⟩
    · exact .inr ⟨low, high, h.added_low hl, h.added_high hh, (s.take_holds low high).same same⟩

/-- Any further call recalculates, until the counter wraps. -/
theorem Historical.recalculates (h : s.Historical max past) (c : Call) (started : past ≠ [])
    (short : past.length + 1 < 2 ^ 32) : 1 < (s.added c).processedTimestamps := by
  have pos := List.length_pos_iff.mpr started
  rw [(s.added_frame c).count, h.count, UInt32.lt_iff_toNat_lt, UInt32.toNat_add,
    UInt32.toNat_ofNat']
  simp only [UInt32.toNat_one]
  omega

/-- Until then only the first call counts and does nothing else. -/
theorem Historical.first (h : s.Historical max past) (short : past.length + 1 < 2 ^ 32)
    (counted : ¬ 1 < (s.added c).processedTimestamps) : past = [] := by
  by_contra started
  exact counted (h.recalculates c started short)

end

end Base

section
variable {M : Type} [Subclass M] [LawfulSubclass M]

/-- The first call returns and does not recalculate. -/
theorem returns_first (build : Build) (max : ℚ) (c : Call) :
    Returns build (Object.init max : Object M) c ((Object.init max).added c) := by
  have first : ¬ 1 < ((Object.init max : Object M).base.added c).processedTimestamps := by
    have count : ((Object.init max : Object M).base.added c).processedTimestamps = 0 + 1 := rfl
    rw [count]
    decide
  rw [Returns, addDataPoint_eq, if_neg first]

theorem run_historical {build : Build} {max : ℚ} {past : List Call} {o : Object M}
    (h : Run (Goes build) (Object.init max) past o) : o.base.Historical max past := by
  refine h.invariant (P := fun past o => Base.Historical max past o.base)
    (Base.init_historical max) ?_
  intro past o c t _ ih step
  exact ih.step step.frame

end

end MiniSynCPP
