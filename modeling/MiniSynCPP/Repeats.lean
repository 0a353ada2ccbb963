import MiniSynCPP.Selection

/-!
# Data points that repeat the first reference timestamp

Points at one timestamp give no lines. A recalculating call among them finds
no pair, and its cleanup then drops every point, its own included. From there
on no call ever finds a pair again.
-/

namespace MiniSynCPP

open Containers Runs

/-- Both current lines are set. -/
def NonNull (s : Base) : Prop := s.currentLow ≠ none ∧ s.currentHigh ≠ none

theorem Base.Frame.nonNull {s t : Base} {c : Call} (h : s.Frame c t) (hs : NonNull s) :
    NonNull t := by
  unfold NonNull at hs ⊢
  obtain same | ⟨low, _, high, _, _, same⟩ := h.pair
  · rw [same.currentLow, same.currentHigh]
    exact hs
  · rw [same.currentLow, same.currentHigh]
    simp [Base.take]

/-- The object after calls at the one timestamp `x`: nothing but points, and
these only if the last call did not recalculate. -/
structure Idle (max x : ℚ) (past : List Call) (s : Base) : Prop where
  unset : s.Unset max
  lowTable : ∀ e, e ∉ s.lowConstraints
  highTable : ∀ e, e ∉ s.highConstraints
  lows : ∀ p ∈ s.lowPoints, p.x = x
  highs : ∀ p ∈ s.highPoints, p.x = x
  stored : ¬ 1 < s.processedTimestamps → past ≠ [] →
    (∃ p, p ∈ s.lowPoints) ∧ ∃ p, p ∈ s.highPoints
  dropped : 1 < s.processedTimestamps → (∀ p, p ∉ s.lowPoints) ∧ ∀ p, p ∉ s.highPoints

theorem init_idle (max x : ℚ) : Idle max x [] (Base.init max) :=
  ⟨⟨rfl, rfl, rfl, rfl, rfl⟩, by simp [Base.init], by simp [Base.init], by simp [Base.init],
    by simp [Base.init], fun _ h => absurd rfl h, by simp [Base.init]⟩

section
variable {max x : ℚ} {past : List Call} {s : Base} {c : Call}

theorem Idle.tablesDrawn (h : Idle max x past s) : s.TablesDrawn :=
  ⟨fun e he => absurd he (h.lowTable e), fun e he => absurd he (h.highTable e)⟩

/-- The lines that a call draws while nothing but points is stored. -/
theorem Idle.low_iff (h : Idle max x past s) (le : x ≤ c.Tb) (e : Entry) :
    e ∈ (s.added c).lowConstraints ↔
      ∃ l ∈ (s.added c).lowPoints, l.x < c.Tb ∧ e = drawn l (s.newHigh c) := by
  rw [(Base.added_tables h.tablesDrawn c).2.1]
  constructor
  · intro he
    obtain (he | ⟨p, hp, lt, _⟩) | he := he
    · exact absurd he (h.lowTable e)
    · rw [h.highs p hp] at lt
      exact absurd lt (not_lt.mpr le)
    · exact he
  · exact .inr

theorem Idle.high_iff (h : Idle max x past s) (le : x ≤ c.Tb) (e : Entry) :
    e ∈ (s.added c).highConstraints ↔
      ∃ p ∈ s.highPoints, p.x < c.Tb ∧ e = drawn (s.newLow c) p := by
  rw [(Base.added_tables h.tablesDrawn c).2.2]
  constructor
  · intro he
    obtain (he | he) | ⟨l, hl, lt, _⟩ := he
    · exact absurd he (h.highTable e)
    · exact he
    · obtain hl | ⟨rfl, _⟩ := Base.mem_added_lowPoints.mp hl
      · rw [h.lows l hl] at lt
        exact absurd lt (not_lt.mpr le)
      · exact absurd lt (lt_irrefl c.Tb)
  · exact fun he => .inl (.inr he)

theorem Idle.added_lows (h : Idle max x past s) (same : c.Tb = x) :
    ∀ p ∈ (s.added c).lowPoints, p.x = x := by
  intro p hp
  obtain hp | ⟨rfl, _⟩ := Base.mem_added_lowPoints.mp hp
  · exact h.lows p hp
  · exact same

theorem Idle.added_highs (h : Idle max x past s) (same : c.Tb = x) :
    ∀ p ∈ (s.added c).highPoints, p.x = x := by
  intro p hp
  obtain hp | ⟨rfl, _⟩ := Base.mem_added_highPoints.mp hp
  · exact h.highs p hp
  · exact same

theorem Idle.no_low (h : Idle max x past s) (same : c.Tb = x) (e : Entry) :
    e ∉ (s.added c).lowConstraints := by
  intro he
  obtain ⟨l, hl, lt, _⟩ := (h.low_iff same.ge e).mp he
  rw [h.added_lows same l hl, same] at lt
  exact lt_irrefl x lt

theorem Idle.no_high (h : Idle max x past s) (same : c.Tb = x) (e : Entry) :
    e ∉ (s.added c).highConstraints := by
  intro he
  obtain ⟨p, hp, lt, _⟩ := (h.high_iff same.ge e).mp he
  rw [h.highs p hp, same] at lt
  exact lt_irrefl x lt

/-- With both sets empty a call draws no line, whatever its timestamp. -/
theorem Idle.no_low_of_dropped (h : Idle max x past s) (le : x ≤ c.Tb)
    (dropped : 1 < s.processedTimestamps) (e : Entry) : e ∉ (s.added c).lowConstraints := by
  intro he
  obtain ⟨l, hl, lt, _⟩ := (h.low_iff le e).mp he
  obtain hl | ⟨rfl, _⟩ := Base.mem_added_lowPoints.mp hl
  · exact (h.dropped dropped).1 l hl
  · exact lt_irrefl c.Tb lt

theorem Idle.counted (h : Idle max x past s) (same : c.Tb = x)
    (first : ¬ 1 < (s.added c).processedTimestamps) : Idle max x (past ++ [c]) (s.added c) := by
  refine ⟨h.unset.same (s.added_samePair c), h.no_low same, h.no_high same,
    h.added_lows same, h.added_highs same, ?_, fun later => absurd later first⟩
  intro _ _
  constructor
  · by_cases taken : ∃ p ∈ s.lowPoints, p.x = c.Tb
    · obtain ⟨p, hp, _⟩ := taken
      exact ⟨p, Base.mem_added_lowPoints.mpr (.inl hp)⟩
    · exact ⟨s.newLow c,
        Base.mem_added_lowPoints.mpr (.inr ⟨rfl, fun p hp e => taken ⟨p, hp, e⟩⟩)⟩
  · by_cases taken : ∃ p ∈ s.highPoints, p.x = c.Tb
    · obtain ⟨p, hp, _⟩ := taken
      exact ⟨p, Base.mem_added_highPoints.mpr (.inl hp)⟩
    · exact ⟨s.newHigh c,
        Base.mem_added_highPoints.mpr (.inr ⟨rfl, fun p hp e => taken ⟨p, hp, e⟩⟩)⟩

theorem Idle.publish (h : Idle max x past s) (drift offset : Estimate) :
    Idle max x past { s with currentDrift := drift, currentOffset := offset } :=
  ⟨⟨h.unset.1, h.unset.2, h.unset.3, h.unset.4, h.unset.5⟩, h.lowTable, h.highTable, h.lows,
    h.highs, h.stored, h.dropped⟩

end

/-- Without candidates the search leaves the pair unset. -/
theorem Base.Frame.unset {max : ℚ} {s t : Base} {c : Call} (h : s.Frame c t)
    (none : ∀ e, e ∉ (s.added c).lowConstraints) (unset : s.Unset max) : t.Unset max := by
  obtain same | ⟨low, hl, _⟩ := h.pair
  · exact unset.same same
  · exact absurd hl (none low)

section
variable {M : Type} [Subclass M] [LawfulSubclass M] {build : Build} {max x : ℚ} {past : List Call}
  {c : Call} {o t : Object M}

/-- The search found no pair, so the cleanup drops all points. -/
theorem Idle.recalculated (h : Idle max x past o.base) (same : c.Tb = x)
    (cleaned : Subclass.cleanup (o.searched c) = .ok () t)
    (later : 1 < (o.base.added c).processedTimestamps) : Idle max x (past ++ [c]) t.base := by
  have recalculated := cleanup_recalculated cleaned
  have frame := searched_frame (cleanup_ok_prunes cleaned)
  have unset := frame.unset (h.no_low same) h.unset
  have searched : (o.searched c).base = o.base.added c := by
    obtain unchanged | ⟨low, hl, _⟩ := (searched_tightest o c).taken
    · exact unchanged
    · exact absurd hl (h.no_low same low)
  have unused : (o.searched c).base.Unused := by
    rw [searched]
    have none := h.unset.same (o.base.added_samePair c)
    constructor
    · simp [Base.usesLow, none.lowPts, none.highPts]
    · simp [Base.usesHigh, none.lowPts, none.highPts]
    · intro p hp q hq
      rw [h.added_lows same p hp, h.added_lows same q hq]
    · intro p hp q hq
      rw [h.added_highs same p hp, h.added_highs same q hq]
  obtain ⟨noLow, noHigh⟩ := LawfulSubclass.cleanup_unused cleaned unused
  have counts : 1 < t.base.processedTimestamps := by
    rw [frame.count]
    exact later
  refine ⟨unset, ?_, ?_, fun p hp => absurd hp (noLow p), fun p hp => absurd hp (noHigh p),
    fun first => absurd counts first, fun _ => ⟨noLow, noHigh⟩⟩
  · intro e he
    exact h.no_low same e ((recalculated.low e).mp he).1
  · intro e he
    exact h.no_high same e ((recalculated.high e).mp he).1.1

theorem run_idle [OrderedSubclass M] (run : Run (Goes build) (Object.init max) past o)
    (same : ∀ d ∈ past, d.Tb = x) : Idle max x past o.base := by
  refine run.invariant_of_inputs (Q := fun past => ∀ d ∈ past, d.Tb = x)
    (P := fun past o => Idle max x past o.base) ?_ (init_idle max x) ?_ same
  · intro past c h d hd
    exact h d (List.mem_append_left [c] hd)
  · intro past o c t before same h step
    have last : c.Tb = x := same c (by simp)
    have low : ∀ p ∈ o.base.lowPoints, p.x ≤ c.Tb :=
      fun p hp => ((h.lows p hp).trans last.symm).le
    have high : ∀ p ∈ o.base.highPoints, p.x ≤ c.Tb :=
      fun p hp => ((h.highs p hp).trans last.symm).le
    have inOrder : InOrder past := by
      apply List.pairwise_of_forall_mem_list
      intro d hd e he
      rw [same d (List.mem_append_left [c] hd), same e (List.mem_append_left [c] he)]
    have left := step.left_eq
    obtain ⟨first, called⟩ | ⟨later, u, cleaned, _, called⟩ :=
      addDataPoint_ready build (run_ready before inOrder) low high
    · rw [called] at left
      rw [← left]
      exact h.counted last first
    · obtain ⟨drift, offset, published⟩ := publish_left build u
      rw [called, published] at left
      rw [← left]
      exact (h.recalculated last cleaned later).publish drift offset

end

/-! ## The first growth of the timestamp -/

/-- When the reference timestamp first grows, one call has come before, or one
more than a multiple of what the counter wraps at. -/
def GrowsAtOnce (calls : List Call) : Prop :=
  ∀ lead c more x, calls = lead ++ c :: more → lead ≠ [] → (∀ d ∈ lead, d.Tb = x) → x < c.Tb →
    lead.length % 2 ^ 32 = 1

theorem GrowsAtOnce.past {past more : List Call} (h : GrowsAtOnce (past ++ more)) :
    GrowsAtOnce past := by
  intro lead d rest x split
  exact h lead d (rest ++ more) x (by rw [split]; simp)

theorem Increasing.growsAtOnce {calls : List Call} (h : Increasing calls) : GrowsAtOnce calls := by
  intro lead c more x split started same _
  rw [split] at h
  cases lead with
  | nil => exact absurd rfl started
  | cons d lead =>
    cases lead with
    | nil => rfl
    | cons e lead =>
      have lt : d.Tb < e.Tb := List.rel_of_pairwise_cons h (by simp)
      rw [same d (by simp), same e (by simp)] at lt
      exact absurd lt (lt_irrefl x)

/-- No call ends with a null line once the timestamp has grown. -/
def NeverNull (algo : Algo) (max : ℚ) (calls : List Call) : Prop :=
  ∀ past c rest, calls = past ++ c :: rest → (∃ d ∈ past, d.Tb < c.Tb) →
    ∀ o o' : Object algo.Members, Run (Goes .plain) (Object.init max) past o → Goes .plain o c o' →
      NonNull o'.base

section
variable {M : Type} [Subclass M] [LawfulSubclass M] [OrderedSubclass M] {build : Build}
  {max x : ℚ} {past : List Call} {c : Call} {o t : Object M}

theorem count_toNat {s : Base} (h : s.Historical max past) :
    s.processedTimestamps.toNat = past.length % 2 ^ 32 := by
  rw [h.count, UInt32.toNat_ofNat']

omit [Subclass M] [LawfulSubclass M] [OrderedSubclass M] in
/-- With a point stored on either side a newer data point gives a pair. -/
theorem Idle.takes {s t : Base} (h : Idle max x past s) (lt : x < c.Tb)
    (stored : (∃ p, p ∈ s.lowPoints) ∧ ∃ p, p ∈ s.highPoints) (recalculated : s.Recalculated c t)
    (below : ∀ low ∈ (s.added c).lowConstraints, ∀ high ∈ (s.added c).highConstraints,
      Base.tmpDiff low.2 high.2 < max) :
    ∃ low ∈ (s.added c).lowConstraints, ∃ high ∈ (s.added c).highConstraints,
      (s.take low high).SamePair t := by
  obtain ⟨⟨l, hl⟩, ⟨p, hp⟩⟩ := stored
  have low : drawn l (s.newHigh c) ∈ (s.added c).lowConstraints :=
    (h.low_iff lt.le _).mpr ⟨l, Base.mem_added_lowPoints.mpr (.inl hl), by rwa [h.lows l hl], rfl⟩
  have high : drawn (s.newLow c) p ∈ (s.added c).highConstraints :=
    (h.high_iff lt.le _).mpr ⟨p, hp, by rwa [h.highs p hp], rfl⟩
  obtain same | ⟨low', hl', high', hh', _, same⟩ := recalculated.pair
  · have least := recalculated.least _ low _ high
    rw [same.diffFactor, h.unset.diffFactor] at least
    exact absurd (below _ low _ high) (not_lt.mpr least)
  · exact ⟨low', hl', high', hh', same⟩

theorem Idle.grows (h : Idle max x past o.base) (run : Run (Goes build) (Object.init max) past o)
    (inOrder : InOrder (past ++ [c])) (step : Goes build o c t) (lt : x < c.Tb)
    (one : past.length % 2 ^ 32 = 1)
    (below : 1 < (o.base.added c).processedTimestamps → ∀ low ∈ (o.base.added c).lowConstraints,
      ∀ high ∈ (o.base.added c).highConstraints, Base.tmpDiff low.2 high.2 < max) :
    NonNull t.base := by
  have count := count_toNat (run_historical run)
  rw [one] at count
  have counted : ¬ 1 < o.base.processedTimestamps := by
    rw [UInt32.lt_iff_toNat_lt, count]
    decide
  have started : past ≠ [] := by
    intro e
    rw [e] at one
    simp at one
  obtain ⟨first, _⟩ | ⟨later, recalculated⟩ := step.ordered run inOrder
  · apply absurd _ first
    rw [(o.base.added_frame c).count, UInt32.lt_iff_toNat_lt, UInt32.toNat_add, count]
    decide
  · obtain ⟨low, _, high, _, same⟩ := h.takes lt (h.stored counted started) recalculated (below later)
    unfold NonNull
    rw [same.currentLow, same.currentHigh]
    simp [Base.take]

/-- With no point stored, or without a search, it does not. -/
theorem Idle.stays_null (h : Idle max x past o.base) (run : Run (Goes build) (Object.init max) past o)
    (inOrder : InOrder (past ++ [c])) (step : Goes build o c t) (lt : x < c.Tb)
    (many : past.length % 2 ^ 32 ≠ 1) : t.base.currentLow = none := by
  have count := count_toNat (run_historical run)
  by_cases dropped : 1 < o.base.processedTimestamps
  · exact (step.frame.unset (h.no_low_of_dropped lt.le dropped) h.unset).currentLow
  · have zero : o.base.processedTimestamps.toNat = 0 := by
      rw [UInt32.lt_iff_toNat_lt, UInt32.toNat_one] at dropped
      omega
    obtain ⟨_, rfl⟩ | ⟨later, _⟩ := step.ordered run inOrder
    · exact h.unset.currentLow
    · rw [(o.base.added_frame c).count, UInt32.lt_iff_toNat_lt, UInt32.toNat_add, zero] at later
      exact absurd later (by decide)

end

theorem run_nonNull {algo : Algo} {build : Build} {max : ℚ} {past : List Call}
    {o : Object algo.Members} (run : Run (Goes build) (Object.init max) past o)
    (inOrder : InOrder past) (grows : GrowsAtOnce past)
    (below : ProductsBelow build algo max past) :
    (∃ x, ∀ d ∈ past, d.Tb = x) ∨ NonNull o.base := by
  have all : InOrder past ∧ GrowsAtOnce past ∧ ProductsBelow build algo max past :=
    ⟨inOrder, grows, below⟩
  refine run.invariant_of_inputs
    (Q := fun past => InOrder past ∧ GrowsAtOnce past ∧ ProductsBelow build algo max past)
    (P := fun past o => (∃ x, ∀ d ∈ past, d.Tb = x) ∨ NonNull o.base) ?_ (.inl ⟨0, by simp⟩) ?_ all
  · intro past c h
    exact ⟨h.1.past, h.2.1.past, h.2.2.past⟩
  · intro past o c t before h ih step
    obtain ⟨inOrder, grows, below⟩ := h
    obtain ⟨x, same⟩ | nonNull := ih
    · by_cases started : past = []
      · rw [started]
        exact .inl ⟨c.Tb, by simp⟩
      · by_cases repeated : c.Tb = x
        · apply Or.inl
          refine ⟨x, ?_⟩
          intro d hd
          obtain hd | hd := List.mem_append.mp hd
          · exact same d hd
          · rwa [List.mem_singleton.mp hd]
        · obtain ⟨d, hd⟩ := List.exists_mem_of_ne_nil past started
          have le := inOrder.newest d hd
          rw [same d hd] at le
          have lt := lt_of_le_of_ne le (Ne.symm repeated)
          have one := grows past c [] x rfl started same lt
          exact .inr ((run_idle before same).grows before inOrder step lt one (below.last before))
    · exact .inr (step.frame.nonNull nonNull)

/-- **When the estimator survives repeats.** For data points in order it does
exactly when the second one is newer than the first, or all are equally old
(or the counter happened to wrap just before the timestamp first grew). -/
theorem neverNull_iff (algo : Algo) (max : ℚ) (calls : List Call) (inOrder : InOrder calls)
    (below : ProductsBelow .plain algo max calls) :
    NeverNull algo max calls ↔ GrowsAtOnce calls := by
  constructor
  · intro never lead c more x split started same lt
    by_contra many
    let o : Object algo.Members := (Object.init max).after .plain lead
    have run : Run (Goes .plain) (Object.init max) lead o := run_after_plain _ lead
    have step := goes_plain o c
    obtain ⟨d, hd⟩ := List.exists_mem_of_ne_nil lead started
    have nonNull := never lead c more split ⟨d, hd, by rwa [same d hd]⟩ o _ run step
    rw [split, List.append_cons] at inOrder
    exact nonNull.1 ((run_idle run same).stays_null run inOrder.past step lt many)
  · intro grows past c rest split newer o o' run step
    rw [split, List.append_cons] at grows inOrder below
    obtain ⟨x, same⟩ | nonNull :=
      run_nonNull (run.step step) inOrder.past grows.past below.past
    · obtain ⟨d, hd, lt⟩ := newer
      rw [same d (List.mem_append_left [c] hd), same c (by simp)] at lt
      exact absurd lt (lt_irrefl x)
    · exact nonNull

/-- Repeats after the second timestamp do no harm. -/
theorem neverNull_repeated :
    NeverNull .miniSync 1000 [.listed (-1) 0 1, .listed 0 1 2, .listed 0 1 2, .listed 1 2 3] := by
  apply (neverNull_iff .miniSync 1000 _ (by simp [InOrder, Call.listed])
    (productsBelow_of_check (by decide +kernel))).mpr
  intro lead c more x split started same _
  cases lead with
  | nil => exact absurd rfl started
  | cons d lead =>
    cases lead with
    | nil => rfl
    | cons e lead =>
      simp only [List.cons_append, List.cons.injEq] at split
      obtain ⟨rfl, rfl, _⟩ := split
      have := (same (.listed (-1) 0 1) (by simp)).trans (same (.listed 0 1 2) (by simp)).symm
      simp [Call.listed] at this

/-- Past every exception, a call whose timestamp has grown ends with two lines. -/
def SurvivesRepeats (algo : Algo) : Prop :=
  ∀ (max a b : ℚ) (calls : List Call), InOrder calls → 0 < a → (∀ d ∈ calls, 0 ≤ d.Tb) →
    (∀ d ∈ calls, d.To < a * d.Tb + b ∧ a * d.Tb + b < d.Tr) →
    ProductsBelow .plain algo max calls → NeverNull algo max calls

/-- The first data point twice and then a newer one, which throws. -/
theorem not_survivesRepeats : ¬ SurvivesRepeats .tinySync ∧ ¬ SurvivesRepeats .miniSync := by
  let past := [Call.listed (-1) 0 1, .listed (-1) 0 1]
  let c := Call.listed 0 1 2
  have inOrder : InOrder (past ++ [c]) := by simp [past, c, InOrder, Call.listed]
  have right : ∀ d ∈ past ++ [c], 0 ≤ d.Tb := by simp [past, c, Call.listed]
  have bracketed : ∀ d ∈ past ++ [c], d.To < 1 * d.Tb + 0 ∧ 1 * d.Tb + 0 < d.Tr := by
    simp [past, c, Call.listed]
  have newer : ∃ d ∈ past, d.Tb < c.Tb := ⟨.listed (-1) 0 1, by simp [past], by simp [c, Call.listed]⟩
  constructor
  · intro survives
    have never := survives 1000 1 0 (past ++ [c]) inOrder one_pos right bracketed
      (productsBelow_of_check (by decide +kernel))
    let o : Object (Algo.Members .tinySync) := (Object.init 1000).after .plain past
    let o' : Object (Algo.Members .tinySync) := left (addDataPoint .plain c o)
    have null : o'.base.currentLow = none := by decide +kernel
    have nonNull := never past c [] rfl newer o o' (run_after_plain _ past) (goes_plain o c)
    exact nonNull.1 null
  · intro survives
    have never := survives 1000 1 0 (past ++ [c]) inOrder one_pos right bracketed
      (productsBelow_of_check (by decide +kernel))
    let o : Object (Algo.Members .miniSync) := (Object.init 1000).after .plain past
    let o' : Object (Algo.Members .miniSync) := left (addDataPoint .plain c o)
    have null : o'.base.currentLow = none := by decide +kernel
    have nonNull := never past c [] rfl newer o o' (run_after_plain _ past) (goes_plain o c)
    exact nonNull.1 null

end MiniSynCPP
