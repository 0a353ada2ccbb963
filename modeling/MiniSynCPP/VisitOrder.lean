import MiniSynCPP.Builds
import MiniSynCPP.Extremes

/-!
# The visiting order of the hash tables

Two runs of TinySync on the same data points. They settle on the same lines,
but where a call takes a new pair and different points lie on its lines the
visiting order decides which of them is kept. Up to the first such tie the two
objects are alike.
-/

namespace MiniSynCPP

open Containers Runs Lines

/-- Data points in order, right of the origin and strictly around one line. -/
structure Bracketed (f : Line ℚ) (calls : List Call) : Prop where
  increasing : Increasing calls
  right : ∀ d ∈ calls, 0 ≤ d.Tb
  brackets : Brackets (samples calls) f

section
variable {f : Line ℚ} {calls calls' : List Call}

theorem Bracketed.past (h : Bracketed f (calls ++ calls')) : Bracketed f calls where
  increasing := h.increasing.past
  right d hd := h.right d (List.mem_append_left calls' hd)
  brackets := by
    apply h.brackets.sub
    constructor
    · rintro p ⟨d, hd, rfl⟩
      exact ⟨d, List.mem_append_left calls' hd, rfl⟩
    · rintro p ⟨d, hd, rfl⟩
      exact ⟨d, List.mem_append_left calls' hd, rfl⟩

theorem Bracketed.congr (h : Bracketed f calls) (same : calls.map Call.data = calls'.map Call.data) :
    Bracketed f calls' where
  increasing := by
    have increasing : (calls.map Call.data).Pairwise (fun x y => x.2.1 < y.2.1) :=
      List.pairwise_map.mpr h.increasing
    rw [same] at increasing
    exact (List.pairwise_map (R := fun x y : ℚ × ℚ × ℚ => x.2.1 < y.2.1)).mp increasing
  right d hd := by
    obtain ⟨e, he, _, Tb, _⟩ := exists_of_data same.symm hd
    rw [Tb]
    exact h.right e he
  brackets := h.brackets.sub (samples_sub_of_data same.symm)

end

namespace Base

/-- Only one pair of points draws the flattest low line of the call, and only one its steepest
high line. -/
structure Untied (s : Base) (c : Call) : Prop where
  low : ∀ e ∈ (s.added c).lowConstraints, ∀ e' ∈ (s.added c).lowConstraints,
    (∀ d ∈ (s.added c).lowConstraints, e.2.a ≤ d.2.a) → e'.2 = e.2 → e' = e
  high : ∀ e ∈ (s.added c).highConstraints, ∀ e' ∈ (s.added c).highConstraints,
    (∀ d ∈ (s.added c).highConstraints, d.2.a ≤ e.2.a) → e'.2 = e.2 → e' = e

/-- The call finds a pair whose product is below the one held before, and so takes a new pair. -/
def Improves (s : Base) (c : Call) : Prop :=
  ∃ low ∈ (s.added c).lowConstraints, ∃ high ∈ (s.added c).highConstraints,
    tmpDiff low.2 high.2 < s.diffFactor

/-- The two objects hold the same points, pair and estimates. -/
structure Alike (s t : Base) : Prop where
  lowPoints : t.lowPoints = s.lowPoints
  highPoints : t.highPoints = s.highPoints
  pair : s.SamePair t
  drift : t.currentDrift = s.currentDrift
  offset : t.currentOffset = s.currentOffset
  count : t.processedTimestamps = s.processedTimestamps
  nextAddr : t.nextAddr = s.nextAddr

theorem Alike.refl (s : Base) : s.Alike s := ⟨rfl, rfl, .refl s, rfl, rfl, rfl, rfl⟩

section
variable {s t : Base} {c d : Call} {low high low' high' : ConstraintLine}

theorem Alike.newLow (h : s.Alike t) (same : c.data = d.data) : t.newLow d = s.newLow c := by
  simp only [Call.data, Prod.mk.injEq] at same
  obtain ⟨To, Tb, _⟩ := same
  rw [Base.newLow, Base.newLow, fresh, fresh, h.nextAddr, To, Tb]

theorem Alike.newHigh (h : s.Alike t) (same : c.data = d.data) : t.newHigh d = s.newHigh c := by
  simp only [Call.data, Prod.mk.injEq] at same
  obtain ⟨_, Tb, Tr⟩ := same
  rw [Base.newHigh, Base.newHigh, h.nextAddr, Tb, Tr]

theorem Alike.added (h : s.Alike t) (same : c.data = d.data) : (s.added c).Alike (t.added d) where
  lowPoints := by
    have lows : t.lowPoints.insert (t.newLow d) = s.lowPoints.insert (s.newLow c) := by
      rw [h.lowPoints, h.newLow same]
    exact lows
  highPoints := by
    have highs : t.highPoints.insert (t.newHigh d) = s.highPoints.insert (s.newHigh c) := by
      rw [h.highPoints, h.newHigh same]
    exact highs
  pair := ((s.added_samePair c).symm.trans h.pair).trans (t.added_samePair d)
  drift := h.drift
  offset := h.offset
  count := congrArg (· + 1) h.count
  nextAddr := congrArg (· + 1 + 1) h.nextAddr

theorem Alike.withPoints (h : s.Alike t) (same : c.data = d.data) :
    t.lowsWith d = s.lowsWith c ∧ t.highsWith d = s.highsWith c := by
  unfold lowsWith highsWith
  rw [h.lowPoints, h.highPoints, h.newLow same, h.newHigh same]
  exact ⟨rfl, rfl⟩

theorem Alike.extreme (h : s.Alike t) (same : c.data = d.data) (extreme : t.Extreme d low high) :
    s.Extreme c low high := by
  obtain ⟨lows, highs⟩ := h.withPoints same
  obtain ⟨drawsLow, drawsHigh, least, most⟩ := extreme
  unfold DrawsLow at drawsLow least
  unfold DrawsHigh at drawsHigh most
  rw [lows, highs] at drawsLow drawsHigh least most
  exact ⟨drawsLow, drawsHigh, least, most⟩

theorem Extreme.unique (h : s.Extreme c low high) (h' : s.Extreme c low' high') :
    low' = low ∧ high' = high := by
  obtain ⟨flatter, above⟩ := h.low low' h'.drawsLow
  obtain ⟨flatter', above'⟩ := h'.low low h.drawsLow
  obtain ⟨steeper, below⟩ := h.high high' h'.drawsHigh
  obtain ⟨steeper', below'⟩ := h'.high high h.drawsHigh
  cases low
  cases low'
  cases high
  cases high'
  simp only [ConstraintLine.mk.injEq]
  exact ⟨⟨le_antisymm flatter' flatter, le_antisymm above above'⟩,
    le_antisymm steeper steeper', le_antisymm below' below⟩

theorem Alike.low_iff (h : s.Alike t) (same : c.data = d.data) (hs : s.Mirrors) (ht : t.Mirrors)
    (e : Entry) : e ∈ (t.added d).lowConstraints ↔ e ∈ (s.added c).lowConstraints := by
  obtain ⟨lows, highs⟩ := h.withPoints same
  rw [hs.added_low, ht.added_low, lows, highs]

theorem Alike.high_iff (h : s.Alike t) (same : c.data = d.data) (hs : s.Mirrors) (ht : t.Mirrors)
    (e : Entry) : e ∈ (t.added d).highConstraints ↔ e ∈ (s.added c).highConstraints := by
  obtain ⟨lows, highs⟩ := h.withPoints same
  rw [hs.added_high, ht.added_high, lows, highs]

theorem Holds.samePair {e e' : Entry} (h : s.Holds e e') (h' : t.Holds e e') : s.SamePair t :=
  ⟨h'.1.trans h.1.symm, h'.2.trans h.2.symm, h'.3.trans h.3.symm, h'.4.trans h.4.symm,
    h'.5.trans h.5.symm⟩

theorem Recalculated.samePair (h : s.Recalculated c t) (settled : ¬ s.Improves c) : s.SamePair t := by
  obtain same | ⟨low, hl, high, hh, lt, _⟩ := h.pair
  · exact same
  · exact absurd ⟨low, hl, high, hh, lt⟩ settled

theorem Alike.improves_iff (h : s.Alike t) (same : c.data = d.data) (hs : s.Mirrors) (ht : t.Mirrors) :
    t.Improves d ↔ s.Improves c := by
  simp only [Improves, h.low_iff same hs ht, h.high_iff same hs ht, h.pair.diffFactor]

/-- What a call of TinySync leaves behind is fixed by the pair it ends with. -/
structure KeepsUsed (s : Base) (c : Call) (t : Base) : Prop where
  lowPoints : t.lowPoints = (s.added c).lowPoints.eraseIf (fun p => !t.usesLow p)
  highPoints : t.highPoints = (s.added c).highPoints.eraseIf (fun p => !t.usesHigh p)
  count : t.processedTimestamps = (s.added c).processedTimestamps
  nextAddr : t.nextAddr = (s.added c).nextAddr

theorem Alike.kept {s' t' : Base} (h : s.Alike s') (same : c.data = d.data)
    (keeps : s.KeepsUsed c t) (keeps' : s'.KeepsUsed d t') (pair : t.SamePair t')
    (drift : t'.currentDrift = t.currentDrift) (offset : t'.currentOffset = t.currentOffset) :
    t.Alike t' where
  lowPoints := by
    have used : t'.usesLow = t.usesLow := funext pair.usesLow
    rw [keeps'.lowPoints, keeps.lowPoints, (h.added same).lowPoints, used]
  highPoints := by
    have used : t'.usesHigh = t.usesHigh := funext pair.usesHigh
    rw [keeps'.highPoints, keeps.highPoints, (h.added same).highPoints, used]
  pair := pair
  drift := drift
  offset := offset
  count := by rw [keeps'.count, keeps.count, (h.added same).count]
  nextAddr := by rw [keeps'.nextAddr, keeps.nextAddr, (h.added same).nextAddr]

end

end Base

/-! ## Two runs of TinySync -/

section
variable {build : Build} {max : ℚ} {f : Line ℚ} {past past' : List Call} {c d : Call}
  {o o' t t' : Object (Algo.Members .tinySync)}

theorem Returns.keepsUsed (returns : Returns build o c t)
    (later : 1 < (o.base.added c).processedTimestamps) : o.base.KeepsUsed c t.base := by
  obtain ⟨first, _⟩ | ⟨_, u, cleaned, called⟩ := call_left returns.proceeds.2
  · exact absurd later first
  · obtain ⟨v, run, leaves, prunes, _⟩ := TinySync.cleanup_run (o.searched c)
    obtain rfl : v = u := by
      have := run.symm.trans cleaned
      cases this
      rfl
    obtain ⟨⟨lowPoints, highPoints⟩, _⟩ := (searched_tightest o c).untouched
    have same := prunes.samePair
    have usedLow : v.base.usesLow = (o.searched c).base.usesLow := funext same.usesLow
    have usedHigh : v.base.usesHigh = (o.searched c).base.usesHigh := funext same.usesHigh
    have frame := prunes.counts
    have searched := (searched_tightest o c).counts
    have left := returns.goes.left_eq
    obtain ⟨drift, offset, published⟩ := publish_left build v
    rw [called, published] at left
    rw [← left]
    have lows := leaves.lowPoints
    have highs := leaves.highPoints
    rw [lowPoints, ← usedLow] at lows
    rw [highPoints, ← usedHigh] at highs
    exact ⟨lows, highs, frame.1.trans searched.1, frame.2.trans searched.2⟩

/-- The pair of a recalculating call, with what makes it comparable in two runs. -/
structure Settled (o t : Object (Algo.Members .tinySync)) (c : Call) (low high : Entry) : Prop where
  recalculated : o.base.Recalculated c t.base
  held : t.base.Holds low high
  estimates : t.base.Estimates low.2 high.2
  best : o.base.Best c low high
  extreme : o.base.Extreme c low.2 high.2

theorem Returns.exists_settled (run : Run (Returns build) (Object.init max) past o)
    (returns : Returns build o c t) (later : 1 < (o.base.added c).processedTimestamps)
    (bracketed : Bracketed f (past ++ [c])) : ∃ low high, Settled o t c low high := by
  have proceeds := run.mono fun _ _ _ h => Returns.proceeds h
  obtain ⟨low, high, _, _, held, estimates⟩ := returns.settled (run_goes proceeds) later
  obtain ⟨best, extreme⟩ := returns.proceeds.best proceeds later bracketed.increasing.distinct
    bracketed.right bracketed.brackets held
  obtain ⟨first, _⟩ | ⟨_, recalculated⟩ := returns.proceeds.recalculated
  · exact absurd later first
  · exact ⟨low, high, recalculated, held, estimates, best, extreme⟩

theorem run_mirrored (run : Run (Returns build) (Object.init max) past o)
    (bracketed : Bracketed f past) : o.base.Mirrors :=
  (run_pair (run.mono fun _ _ _ h => Returns.proceeds h) bracketed.increasing.distinct).1

/-- Two objects that are alike settle on the same lines. -/
theorem Settled.lines {low high low' high' : Entry} (alike : o.base.Alike o'.base)
    (same : c.data = d.data) (settled : Settled o t c low high)
    (settled' : Settled o' t' d low' high') : low'.2 = low.2 ∧ high'.2 = high.2 :=
  settled.extreme.unique (alike.extreme same settled'.extreme)

/-- Unless the call takes a new pair and ties they also settle on the same points. -/
theorem Settled.samePair {low high low' high' : Entry} (alike : o.base.Alike o'.base)
    (same : c.data = d.data) (hs : o.base.Mirrors) (hs' : o'.base.Mirrors)
    (untied : o.base.Improves c → o.base.Untied c) (settled : Settled o t c low high)
    (settled' : Settled o' t' d low' high') : t.base.SamePair t'.base := by
  by_cases improves : o.base.Improves c
  · obtain ⟨uniqueLow, uniqueHigh⟩ := untied improves
    obtain ⟨lowLine, highLine⟩ := settled.lines alike same settled'
    have lowMem := (alike.low_iff same hs hs' low').mp settled'.best.low_mem
    have highMem := (alike.high_iff same hs hs' high').mp settled'.best.high_mem
    obtain rfl := uniqueLow low settled.best.low_mem low' lowMem settled.best.flattest lowLine
    obtain rfl := uniqueHigh high settled.best.high_mem high' highMem settled.best.steepest highLine
    exact settled.held.samePair settled'.held
  · have improves' : ¬ o'.base.Improves d := fun h => improves ((alike.improves_iff same hs hs').mp h)
    have unchanged := settled.recalculated.samePair improves
    have unchanged' := settled'.recalculated.samePair improves'
    exact unchanged.symm.trans (alike.pair.trans unchanged')

theorem Settled.alike {low high low' high' : Entry} (alike : o.base.Alike o'.base)
    (same : c.data = d.data) (hs : o.base.Mirrors) (hs' : o'.base.Mirrors)
    (untied : o.base.Improves c → o.base.Untied c) (settled : Settled o t c low high)
    (settled' : Settled o' t' d low' high') (keeps : o.base.KeepsUsed c t.base)
    (keeps' : o'.base.KeepsUsed d t'.base) : t.base.Alike t'.base := by
  have pair := settled.samePair alike same hs hs' untied settled'
  obtain ⟨rfl, rfl⟩ := (settled.held.same pair).unique settled'.held
  exact alike.kept same keeps keeps' pair
    (settled'.estimates.drift.trans settled.estimates.drift.symm)
    (settled'.estimates.offset.trans settled.estimates.offset.symm)

theorem Returns.counted (returns : Returns build o c t)
    (first : ¬ 1 < (o.base.added c).processedTimestamps) : t = o.added c := by
  obtain ⟨_, same⟩ | ⟨later, _⟩ := returns.proceeds.recalculated
  · exact same
  · exact absurd later first

/-- No call of the list ties when it takes a new pair. -/
def NeverTies (build : Build) (max : ℚ) (calls : List Call) : Prop :=
  ∀ past c rest, calls = past ++ c :: rest → ∀ o : Object (Algo.Members .tinySync),
    Run (Returns build) (Object.init max) past o → 1 < (o.base.added c).processedTimestamps →
      o.base.Improves c → o.base.Untied c

theorem NeverTies.before (h : NeverTies build max (past ++ past')) : NeverTies build max past := by
  intro before d rest split
  exact h before d (rest ++ past') (by rw [split]; simp)

theorem run_alike (run : Run (Returns build) (Object.init max) past o)
    (run' : Run (Returns build) (Object.init max) past' o')
    (same : past.map Call.data = past'.map Call.data) (bracketed : Bracketed f past)
    (untied : NeverTies build max past) : o.base.Alike o'.base := by
  have both : Bracketed f past ∧ NeverTies build max past := ⟨bracketed, untied⟩
  refine run.coupled (f := Call.data) (Q := fun past => Bracketed f past ∧ NeverTies build max past)
    (P := fun o o' => o.base.Alike o'.base) ?_ (Base.Alike.refl _) ?_ run' same both
  · intro past c h
    exact ⟨h.1.past, h.2.before⟩
  · intro past past' o o' c d t t' before before' same h alike sameData returns returns'
    obtain ⟨bracketed, untied⟩ := h
    have bracketed' : Bracketed f (past' ++ [d]) :=
      bracketed.congr (by rw [List.map_append, List.map_append, same, List.map_singleton, sameData,
        List.map_singleton])
    have counts : (o'.base.added d).processedTimestamps = (o.base.added c).processedTimestamps :=
      (alike.added sameData).count
    by_cases later : 1 < (o.base.added c).processedTimestamps
    · have later' : 1 < (o'.base.added d).processedTimestamps := by rwa [counts]
      obtain ⟨low, high, settled⟩ := returns.exists_settled before later bracketed
      obtain ⟨low', high', settled'⟩ := returns'.exists_settled before' later' bracketed'
      exact settled.alike alike sameData (run_mirrored before bracketed.past)
        (run_mirrored before' bracketed'.past) (untied past c [] rfl o before later) settled'
        (returns.keepsUsed later) (returns'.keepsUsed later')
    · have first : ¬ 1 < (o'.base.added d).processedTimestamps := by rwa [counts]
      rw [returns.counted later, returns'.counted first]
      exact alike.added sameData

theorem Base.Alike.sameEstimates {s t : Base} (h : s.Alike t) : SameEstimates s t := by
  unfold SameEstimates getDrift getDriftError getOffset getOffsetError
  rw [h.drift, h.offset]
  exact ⟨rfl, rfl, rfl, rfl⟩

/-- Where the last call settles on the same lines the estimates are equal, tie or no tie. -/
theorem Settled.sameEstimates {low high low' high' : Entry} (alike : o.base.Alike o'.base)
    (same : c.data = d.data) (settled : Settled o t c low high)
    (settled' : Settled o' t' d low' high') : SameEstimates t.base t'.base := by
  obtain ⟨lowLine, highLine⟩ := settled.lines alike same settled'
  unfold SameEstimates Base.getDrift Base.getDriftError Base.getOffset Base.getOffsetError
  rw [settled.estimates.drift, settled.estimates.offset, settled'.estimates.drift,
    settled'.estimates.offset, lowLine, highLine]
  exact ⟨rfl, rfl, rfl, rfl⟩

end

/-- **Visiting orders do not matter until a tie.** As long as no call before the last one ties when it
takes a new pair, the estimates of TinySync depend on the data points only. -/
theorem tinySync_sameEstimates (build : Build) (max a b : ℚ) (past past' : List Call) (c d : Call)
    (o o' : Object (Algo.Members .tinySync))
    (same : (past ++ [c]).map Call.data = (past' ++ [d]).map Call.data)
    (run : Run (Returns build) (Object.init max) (past ++ [c]) o)
    (run' : Run (Returns build) (Object.init max) (past' ++ [d]) o')
    (increasing : Increasing (past ++ [c])) (right : ∀ e ∈ past ++ [c], 0 ≤ e.Tb)
    (bracketed : ∀ e ∈ past ++ [c], e.To < a * e.Tb + b ∧ a * e.Tb + b < e.Tr)
    (untied : NeverTies build max past) : SameEstimates o.base o'.base := by
  have around : Bracketed ⟨a, b⟩ (past ++ [c]) := ⟨increasing, right, brackets_samples.mpr bracketed⟩
  have around' := around.congr same
  rw [List.map_append, List.map_append] at same
  obtain ⟨samePast, sameLast⟩ := List.append_inj' same rfl
  have sameData : c.data = d.data := List.singleton_inj.mp sameLast
  obtain ⟨s, before, returns⟩ := run.snoc_inv
  obtain ⟨s', before', returns'⟩ := run'.snoc_inv
  have alike := run_alike before before' samePast around.past untied
  have counts : (s'.base.added d).processedTimestamps = (s.base.added c).processedTimestamps :=
    (alike.added sameData).count
  by_cases later : 1 < (s.base.added c).processedTimestamps
  · have later' : 1 < (s'.base.added d).processedTimestamps := by rwa [counts]
    obtain ⟨low, high, settled⟩ := returns.exists_settled before later around
    obtain ⟨low', high', settled'⟩ := returns'.exists_settled before' later' around'
    exact settled.sameEstimates alike sameData settled'
  · have first : ¬ 1 < (s'.base.added d).processedTimestamps := by rwa [counts]
    rw [returns.counted later, returns'.counted first]
    exact (alike.added sameData).sameEstimates

theorem Base.untied_of_single {s : Base} {c : Call}
    (low : (s.added c).lowConstraints.entries.length = 1)
    (high : (s.added c).highConstraints.entries.length = 1) : s.Untied c := by
  obtain ⟨e, lows⟩ := List.length_eq_one_iff.mp low
  obtain ⟨e', highs⟩ := List.length_eq_one_iff.mp high
  constructor
  · intro d hd d' hd' _ _
    rw [UnorderedMap.mem_def, lows, List.mem_singleton] at hd hd'
    rw [hd, hd']
  · intro d hd d' hd' _ _
    rw [UnorderedMap.mem_def, highs, List.mem_singleton] at hd hd'
    rw [hd, hd']

/-- The third call meets its tables backwards in the second run. It ties, but takes no pair. -/
theorem tinySync_sameEstimates_four :
    let third := Call.listed (-3) 2 5
    let third' : Call := { third with lowOrder := backwards, highOrder := backwards }
    let past := [Call.listed (-1) 0 1, .listed 0 1 2, third]
    let past' := [Call.listed (-1) 0 1, .listed 0 1 2, third']
    let c := Call.listed 2 3 4
    SameEstimates ((Object.init 1000 : Object (Algo.Members .tinySync)).after .plain (past ++ [c])).base
      ((Object.init 1000 : Object (Algo.Members .tinySync)).after .plain (past' ++ [c])).base := by
  intro third third' past past' c
  apply tinySync_sameEstimates .plain 1000 1 0 past past' c c _ _ rfl
    (run_after (by decide +kernel)) (run_after (by decide +kernel))
    (by simp [past, third, c, Increasing, Call.listed]; norm_num)
    (by simp [past, third, c, Call.listed]) (by simp [past, third, c, Call.listed]; norm_num)
  refine forall_split_cons ?_ (forall_split_cons ?_ (forall_split_cons ?_ forall_split_nil))
  · intro o run later
    rw [run.nil_inv] at later
    exact absurd later (by decide +kernel)
  · intro o run _ _
    rw [run_eq_after (run.mono fun _ _ _ h => Returns.goes h)]
    exact Base.untied_of_single (by decide +kernel) (by decide +kernel)
  · intro o run _ improves
    rw [run_eq_after (run.mono fun _ _ _ h => Returns.goes h)] at improves
    simp only [Base.Improves, UnorderedMap.mem_def] at improves
    exact absurd improves (by decide +kernel)

/-- The estimates after a run depend on the data points only. -/
def OrderIndependent : Prop :=
  ∀ (build : Build) (max a b : ℚ) (calls calls' : List Call) (o o' : Object (Algo.Members .tinySync)),
    calls.map Call.data = calls'.map Call.data → Increasing calls → (∀ d ∈ calls, 0 ≤ d.Tb) →
    (∀ d ∈ calls, d.To < a * d.Tb + b ∧ a * d.Tb + b < d.Tr) →
    Run (Returns build) (Object.init max) calls o → Run (Returns build) (Object.init max) calls' o' →
    SameEstimates o.base o'.base

/-- The first two low points and the third high point are on one line. Whichever of the low points
the third call keeps, the fourth call misses the other. -/
theorem not_orderIndependent : ¬ OrderIndependent := by
  intro independent
  let first : Call := .listed (-1) 0 5
  let second : Call := .listed 3 1 8
  let third : Call := .listed (67 / 10) 2 7
  let fourth : Call := .listed 4 3 (21 / 2)
  let third' : Call := { third with lowOrder := backwards, highOrder := backwards }
  let calls := [first, second, third, fourth]
  let calls' := [first, second, third', fourth]
  let o : Object (Algo.Members .tinySync) := (Object.init 1000).after .plain calls
  let o' : Object (Algo.Members .tinySync) := (Object.init 1000).after .plain calls'
  have run : Run (Returns .plain) (Object.init 1000) calls o := run_after (by decide +kernel)
  have run' : Run (Returns .plain) (Object.init 1000) calls' o' := run_after (by decide +kernel)
  have same := independent .plain 1000 (17 / 5) 0 calls calls' o o' rfl
    (by simp [calls, first, second, third, fourth, Increasing, Call.listed]; norm_num)
    (by simp [calls, first, second, third, fourth, Call.listed])
    (by simp [calls, first, second, third, fourth, Call.listed]; norm_num) run run'
  have differ : o.base.getDrift ≠ o'.base.getDrift := by decide +kernel
  exact differ same.1

end MiniSynCPP
