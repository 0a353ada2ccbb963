import MiniSynCPP.Subclasses

/-!
# What one call does

One equation or inversion lemma for each function, so that later modules
unfold none of them: `addConstraint` never fails, adding a point enters its
lines into the tables, the search ends with a pair of least product, and
either `cleanup` only drops points together with their lines.
-/

namespace MiniSynCPP

open Containers Runs

/-! ## Lines between points -/

/-- The line that `ConstraintLine.new` builds for points of different `x`. -/
def between (l : LPointPtr) (h : HPointPtr) : ConstraintLine :=
  let a := (h.y - l.y) / (h.x - l.x)
  { a := a, b := l.y - a * l.x }

theorem new_eq_between {l : LPointPtr} {h : HPointPtr} (hx : l.x ≠ h.x) :
    ConstraintLine.new l.toPoint h.toPoint = .ok (between l h) := by
  simp [ConstraintLine.new, between, hx]

/-- The table entry of a pair of points. -/
def drawn (l : LPointPtr) (h : HPointPtr) : Entry := ((l, h), between l h)

/-- Every entry is the line through its two points. -/
def Drawn (t : Table) : Prop := ∀ e ∈ t, e = drawn e.1.1 e.1.2

def joinLow (t : Table) (l : LPointPtr) (h : HPointPtr) : Table :=
  if l.x < h.x then t.emplace (l, h) (between l h) else t

def joinHigh (t : Table) (l : LPointPtr) (h : HPointPtr) : Table :=
  if h.x < l.x then t.emplace (l, h) (between l h) else t

theorem emplace_of_contains {t : Table} {k : LPointPtr × HPointPtr} {v : ConstraintLine}
    (h : t.contains k = true) : t.emplace k v = t := by
  rw [UnorderedMap.emplace, dif_pos h]

theorem addConstraint_run (s : Base) (l : LPointPtr) (h : HPointPtr) :
    (discard (Base.addConstraint l h) : EStateM Failure Base PUnit) s = .ok ⟨⟩
      { s with
        lowConstraints := joinLow s.lowConstraints l h
        highConstraints := joinHigh s.highConstraints l h } := by
  rcases lt_trichotomy l.x h.x with hx | hx | hx
  · have notEq := hx.ne
    have notGt := hx.not_gt
    cases known : s.lowConstraints.contains (l, h) with
    | true => simp [Base.addConstraint, joinLow, joinHigh, hx, notEq, notGt, known,
        emplace_of_contains]
    | false => simp [Base.addConstraint, joinLow, joinHigh, hx, notEq, notGt, known, new_eq_between]
  · simp [Base.addConstraint, joinLow, joinHigh, hx]
  · have notEq := hx.ne'
    have notLt := hx.not_gt
    cases known : s.highConstraints.contains (l, h) with
    | true => simp [Base.addConstraint, joinLow, joinHigh, hx, notEq, notLt, known,
        emplace_of_contains]
    | false => simp [Base.addConstraint, joinLow, joinHigh, hx, notEq, notLt, known, new_eq_between]

theorem mem_emplace_drawn {t : Table} (ht : Drawn t) {l : LPointPtr} {h : HPointPtr} {e : Entry} :
    e ∈ t.emplace (l, h) (between l h) ↔ e ∈ t ∨ e = drawn l h := by
  rw [UnorderedMap.mem_emplace]
  constructor
  · exact fun he => he.imp_right And.left
  · intro he
    cases known : t.contains (l, h) with
    | false => exact he.imp_right (⟨·, rfl⟩)
    | true =>
      obtain ⟨line, hline⟩ := UnorderedMap.contains_iff.mp known
      have same := ht _ hline
      refine he.elim .inl fun heq => .inl ?_
      rw [heq]
      simpa only [← same] using hline

theorem mem_joinLow {t : Table} (ht : Drawn t) {l : LPointPtr} {h : HPointPtr} {e : Entry} :
    e ∈ joinLow t l h ↔ e ∈ t ∨ (l.x < h.x ∧ e = drawn l h) := by
  unfold joinLow
  split
  · rename_i hx; simp [mem_emplace_drawn ht, hx]
  · rename_i hx; simp [hx]

theorem mem_joinHigh {t : Table} (ht : Drawn t) {l : LPointPtr} {h : HPointPtr} {e : Entry} :
    e ∈ joinHigh t l h ↔ e ∈ t ∨ (h.x < l.x ∧ e = drawn l h) := by
  unfold joinHigh
  split
  · rename_i hx; simp [mem_emplace_drawn ht, hx]
  · rename_i hx; simp [hx]

/-- A fold that enters one line a step, for `joinLow` and `joinHigh` in either
argument. -/
theorem mem_foldl_join (join : Table → PointPtr → Table) {cond : PointPtr → Prop}
    {line : PointPtr → Entry} (drawnLine : ∀ p, line p = drawn (line p).1.1 (line p).1.2)
    (step : ∀ t p e, Drawn t → (e ∈ join t p ↔ e ∈ t ∨ (cond p ∧ e = line p)))
    (l : List PointPtr) {t : Table} (ht : Drawn t) :
    Drawn (l.foldl join t) ∧
      ∀ e, e ∈ l.foldl join t ↔ e ∈ t ∨ ∃ p ∈ l, cond p ∧ e = line p := by
  induction l generalizing t with
  | nil => exact ⟨ht, by simp⟩
  | cons p l ih =>
    have joined : Drawn (join t p) := by
      intro e he
      rcases (step t p e ht).mp he with he | ⟨_, rfl⟩
      · exact ht e he
      · exact drawnLine p
    obtain ⟨all, mem⟩ := ih joined
    refine ⟨all, fun e => ?_⟩
    rw [List.foldl_cons, mem, step t p e ht, or_assoc]
    simp only [List.mem_cons, exists_eq_or_imp]

/-! ## Adding a point -/

namespace Base

/-- The pointer that the next allocation returns. -/
def fresh (s : Base) (x y : ℚ) : PointPtr := ⟨⟨x, y⟩, s.nextAddr⟩

/-- What `addLowPoint` does to the object. -/
def addLow (s : Base) (Tb To : ℚ) : Base :=
  let lp := s.fresh Tb To
  { s with
    nextAddr := s.nextAddr + 1
    lowConstraints := s.highPoints.elems.foldl (fun t hp => joinLow t lp hp) s.lowConstraints
    highConstraints := s.highPoints.elems.foldl (fun t hp => joinHigh t lp hp) s.highConstraints
    lowPoints := s.lowPoints.insert lp }

/-- What `addHighPoint` does to the object. -/
def addHigh (s : Base) (Tb Tr : ℚ) : Base :=
  let hp := s.fresh Tb Tr
  { s with
    nextAddr := s.nextAddr + 1
    lowConstraints := s.lowPoints.elems.foldl (fun t lp => joinLow t lp hp) s.lowConstraints
    highConstraints := s.lowPoints.elems.foldl (fun t lp => joinHigh t lp hp) s.highConstraints
    highPoints := s.highPoints.insert hp }

/-- Entering one line for each element of `l` touches the two tables only. -/
theorem foldl_join (pair : PointPtr → LPointPtr × HPointPtr) (l : List PointPtr) (s : Base) :
    l.foldl (fun s p => { s with
        lowConstraints := joinLow s.lowConstraints (pair p).1 (pair p).2
        highConstraints := joinHigh s.highConstraints (pair p).1 (pair p).2 }) s =
      { s with
        lowConstraints := l.foldl (fun t p => joinLow t (pair p).1 (pair p).2) s.lowConstraints
        highConstraints :=
          l.foldl (fun t p => joinHigh t (pair p).1 (pair p).2) s.highConstraints } := by
  induction l generalizing s with
  | nil => rfl
  | cons p l ih => rw [List.foldl_cons, ih]; rfl

theorem forM_addConstraint (pair : PointPtr → LPointPtr × HPointPtr) (l : List PointPtr)
    (s : Base) :
    (l.forM fun p => discard (addConstraint (pair p).1 (pair p).2)) s = .ok ⟨⟩
      { s with
        lowConstraints := l.foldl (fun t p => joinLow t (pair p).1 (pair p).2) s.lowConstraints
        highConstraints :=
          l.foldl (fun t p => joinHigh t (pair p).1 (pair p).2) s.highConstraints } := by
  have loop := forM_eq_foldl (P := fun _ => True)
    (fun p s _ => addConstraint_run s (pair p).1 (pair p).2) (fun _ _ _ => trivial) l
    (s := s) trivial
  exact loop.trans (congrArg (EStateM.Result.ok PUnit.unit) (foldl_join pair l s))

theorem addLowPoint_run (Tb To : ℚ) (s : Base) :
    addLowPoint Tb To s = .ok (s.fresh Tb To) (s.addLow Tb To) := by
  have loop := forM_addConstraint (fun hp => (s.fresh Tb To, hp)) s.highPoints.elems
    { s with nextAddr := s.nextAddr + 1 }
  simp only [addLowPoint, makeShared, bind_run, get_run, set_run, pure_run]
  simp only [fresh] at loop
  rw [loop]
  rfl

theorem addHighPoint_run (Tb Tr : ℚ) (s : Base) :
    addHighPoint Tb Tr s = .ok (s.fresh Tb Tr) (s.addHigh Tb Tr) := by
  have loop := forM_addConstraint (fun lp => (lp, s.fresh Tb Tr)) s.lowPoints.elems
    { s with nextAddr := s.nextAddr + 1 }
  simp only [addHighPoint, makeShared, bind_run, get_run, set_run, pure_run]
  simp only [fresh] at loop
  rw [loop]
  rfl

/-- Both tables hold lines through the points of their keys only. -/
def TablesDrawn (s : Base) : Prop := Drawn s.lowConstraints ∧ Drawn s.highConstraints

theorem addLow_tables {s : Base} (hs : s.TablesDrawn) (Tb To : ℚ) :
    (s.addLow Tb To).TablesDrawn ∧
    (∀ e, e ∈ (s.addLow Tb To).lowConstraints ↔ e ∈ s.lowConstraints ∨
      ∃ h ∈ s.highPoints, Tb < h.x ∧ e = drawn (s.fresh Tb To) h) ∧
    ∀ e, e ∈ (s.addLow Tb To).highConstraints ↔ e ∈ s.highConstraints ∨
      ∃ h ∈ s.highPoints, h.x < Tb ∧ e = drawn (s.fresh Tb To) h := by
  obtain ⟨low, memLow⟩ := mem_foldl_join (fun t h => joinLow t (s.fresh Tb To) h)
    (fun h => rfl) (fun t h e ht => mem_joinLow ht) s.highPoints.elems hs.1
  obtain ⟨high, memHigh⟩ := mem_foldl_join (fun t h => joinHigh t (s.fresh Tb To) h)
    (fun h => rfl) (fun t h e ht => mem_joinHigh ht) s.highPoints.elems hs.2
  exact ⟨⟨low, high⟩, memLow, memHigh⟩

theorem addHigh_tables {s : Base} (hs : s.TablesDrawn) (Tb Tr : ℚ) :
    (s.addHigh Tb Tr).TablesDrawn ∧
    (∀ e, e ∈ (s.addHigh Tb Tr).lowConstraints ↔ e ∈ s.lowConstraints ∨
      ∃ l ∈ s.lowPoints, l.x < Tb ∧ e = drawn l (s.fresh Tb Tr)) ∧
    ∀ e, e ∈ (s.addHigh Tb Tr).highConstraints ↔ e ∈ s.highConstraints ∨
      ∃ l ∈ s.lowPoints, Tb < l.x ∧ e = drawn l (s.fresh Tb Tr) := by
  obtain ⟨low, memLow⟩ := mem_foldl_join (fun t l => joinLow t l (s.fresh Tb Tr))
    (fun l => rfl) (fun t l e ht => mem_joinLow ht) s.lowPoints.elems hs.1
  obtain ⟨high, memHigh⟩ := mem_foldl_join (fun t l => joinHigh t l (s.fresh Tb Tr))
    (fun l => rfl) (fun t l e ht => mem_joinHigh ht) s.lowPoints.elems hs.2
  exact ⟨⟨low, high⟩, memLow, memHigh⟩

/-- The low point that a call allocates. -/
def newLow (s : Base) (c : Call) : LPointPtr := s.fresh c.Tb c.To

/-- The high point that a call allocates. -/
def newHigh (s : Base) (c : Call) : HPointPtr := ⟨⟨c.Tb, c.Tr⟩, s.nextAddr + 1⟩

/-- What a call has done to the object before any recalculation. -/
def added (s : Base) (c : Call) : Base :=
  let t := (s.addLow c.Tb c.To).addHigh c.Tb c.Tr
  { t with processedTimestamps := t.processedTimestamps + 1 }

/-- The points that lines are drawn between in a call: the stored ones and the
call's own, whether or not the set took them in. -/
def lowsWith (s : Base) (c : Call) : Set LPointPtr := {l | l ∈ s.lowPoints ∨ l = s.newLow c}

def highsWith (s : Base) (c : Call) : Set HPointPtr := {h | h ∈ s.highPoints ∨ h = s.newHigh c}

/-- The tables hold exactly the lines between stored points of different `x`. -/
structure Mirrors (s : Base) : Prop where
  low : ∀ e, e ∈ s.lowConstraints ↔
    e.1.1 ∈ s.lowPoints ∧ e.1.2 ∈ s.highPoints ∧ e.1.1.x < e.1.2.x ∧ e = drawn e.1.1 e.1.2
  high : ∀ e, e ∈ s.highConstraints ↔
    e.1.1 ∈ s.lowPoints ∧ e.1.2 ∈ s.highPoints ∧ e.1.2.x < e.1.1.x ∧ e = drawn e.1.1 e.1.2

theorem Mirrors.drawn {s : Base} (hs : s.Mirrors) : s.TablesDrawn :=
  ⟨fun e he => ((hs.low e).mp he).2.2.2, fun e he => ((hs.high e).mp he).2.2.2⟩

theorem added_lowPoints (s : Base) (c : Call) :
    (s.added c).lowPoints = s.lowPoints.insert (s.newLow c) := rfl

theorem added_highPoints (s : Base) (c : Call) :
    (s.added c).highPoints = s.highPoints.insert (s.newHigh c) := rfl

theorem mem_added_lowPoints {s : Base} {c : Call} {l : LPointPtr} :
    l ∈ (s.added c).lowPoints ↔
      l ∈ s.lowPoints ∨ (l = s.newLow c ∧ ∀ p ∈ s.lowPoints, p.x ≠ c.Tb) := by
  rw [added_lowPoints]
  exact OrderedSet.mem_insert

theorem mem_added_highPoints {s : Base} {c : Call} {h : HPointPtr} :
    h ∈ (s.added c).highPoints ↔
      h ∈ s.highPoints ∨ (h = s.newHigh c ∧ ∀ p ∈ s.highPoints, p.x ≠ c.Tb) := by
  rw [added_highPoints]
  exact OrderedSet.mem_insert

theorem added_tables {s : Base} (hs : s.TablesDrawn) (c : Call) :
    (s.added c).TablesDrawn ∧
    (∀ e, e ∈ (s.added c).lowConstraints ↔ (e ∈ s.lowConstraints ∨
      ∃ h ∈ s.highPoints, c.Tb < h.x ∧ e = MiniSynCPP.drawn (s.newLow c) h) ∨
      ∃ l ∈ (s.added c).lowPoints, l.x < c.Tb ∧ e = MiniSynCPP.drawn l (s.newHigh c)) ∧
    ∀ e, e ∈ (s.added c).highConstraints ↔ (e ∈ s.highConstraints ∨
      ∃ h ∈ s.highPoints, h.x < c.Tb ∧ e = MiniSynCPP.drawn (s.newLow c) h) ∨
      ∃ l ∈ (s.added c).lowPoints, c.Tb < l.x ∧ e = MiniSynCPP.drawn l (s.newHigh c) := by
  obtain ⟨afterLow, low₁, high₁⟩ := addLow_tables hs c.Tb c.To
  obtain ⟨afterHigh, low₂, high₂⟩ := addHigh_tables afterLow c.Tb c.Tr
  refine ⟨afterHigh, fun e => ?_, fun e => ?_⟩
  · exact (low₂ e).trans (or_congr_left (low₁ e))
  · exact (high₂ e).trans (or_congr_left (high₁ e))

/-- After the points of a call are added, the tables hold exactly the lines
between the stored points and the call's own. -/
theorem Mirrors.added_low {s : Base} (hs : s.Mirrors) (c : Call) (e : Entry) :
    e ∈ (s.added c).lowConstraints ↔ e.1.1 ∈ s.lowsWith c ∧ e.1.2 ∈ s.highsWith c ∧
      e.1.1.x < e.1.2.x ∧ e = MiniSynCPP.drawn e.1.1 e.1.2 := by
  rw [(added_tables hs.drawn c).2.1, hs.low]
  constructor
  · rintro ((⟨hl, hh, hx, he⟩ | ⟨h, hh, hx, rfl⟩) | ⟨l, hl, hx, rfl⟩)
    · exact ⟨.inl hl, .inl hh, hx, he⟩
    · exact ⟨.inr rfl, .inl hh, hx, rfl⟩
    · exact ⟨(mem_added_lowPoints.mp hl).imp_right And.left, .inr rfl, hx, rfl⟩
  · rintro ⟨hl | hl, hh | hh, hx, he⟩
    · exact .inl (.inl ⟨hl, hh, hx, he⟩)
    · rw [hh] at hx he
      exact .inr ⟨_, mem_added_lowPoints.mpr (.inl hl), hx, he⟩
    · rw [hl] at hx he
      exact .inl (.inr ⟨_, hh, hx, he⟩)
    · rw [hl, hh] at hx
      exact absurd hx (lt_irrefl c.Tb)

theorem Mirrors.added_high {s : Base} (hs : s.Mirrors) (c : Call) (e : Entry) :
    e ∈ (s.added c).highConstraints ↔ e.1.1 ∈ s.lowsWith c ∧ e.1.2 ∈ s.highsWith c ∧
      e.1.2.x < e.1.1.x ∧ e = MiniSynCPP.drawn e.1.1 e.1.2 := by
  rw [(added_tables hs.drawn c).2.2, hs.high]
  constructor
  · rintro ((⟨hl, hh, hx, he⟩ | ⟨h, hh, hx, rfl⟩) | ⟨l, hl, hx, rfl⟩)
    · exact ⟨.inl hl, .inl hh, hx, he⟩
    · exact ⟨.inr rfl, .inl hh, hx, rfl⟩
    · exact ⟨(mem_added_lowPoints.mp hl).imp_right And.left, .inr rfl, hx, rfl⟩
  · rintro ⟨hl | hl, hh | hh, hx, he⟩
    · exact .inl (.inl ⟨hl, hh, hx, he⟩)
    · rw [hh] at hx he
      exact .inr ⟨_, mem_added_lowPoints.mpr (.inl hl), hx, he⟩
    · rw [hl] at hx he
      exact .inl (.inr ⟨_, hh, hx, he⟩)
    · rw [hl, hh] at hx
      exact absurd hx (lt_irrefl c.Tb)

/-! ## The search for the tightest bound -/

/-- What a search over the pairs of `lows` and `highs` made of `s`: it ends at a
product that none of them undercuts, and has taken a pair only if that pair
undercuts the product held before. -/
structure Tightest (s : Base) (lows highs : List Entry) (t : Base) : Prop where
  least : ∀ low ∈ lows, ∀ high ∈ highs, t.diffFactor ≤ tmpDiff low.2 high.2
  taken : t = s ∨ ∃ low ∈ lows, ∃ high ∈ highs,
    tmpDiff low.2 high.2 < s.diffFactor ∧ t = s.take low high

/-- The search changes only the pair and its product. -/
theorem Tightest.untouched {s t : Base} {lows highs : List Entry} (h : s.Tightest lows highs t) :
    (t.lowPoints = s.lowPoints ∧ t.highPoints = s.highPoints) ∧
      t.currentDrift = s.currentDrift ∧ t.currentOffset = s.currentOffset := by
  obtain same | ⟨low, _, high, _, _, same⟩ := h.taken
  · rw [same]
    exact ⟨⟨rfl, rfl⟩, rfl, rfl⟩
  · rw [same]
    exact ⟨⟨rfl, rfl⟩, rfl, rfl⟩

theorem Tightest.counts {s t : Base} {lows highs : List Entry} (h : s.Tightest lows highs t) :
    t.processedTimestamps = s.processedTimestamps ∧ t.nextAddr = s.nextAddr := by
  obtain same | ⟨low, _, high, _, _, same⟩ := h.taken
  · rw [same]
    exact ⟨rfl, rfl⟩
  · rw [same]
    exact ⟨rfl, rfl⟩

theorem foldl_compare (pairs : List (Entry × Entry)) (s : Base) :
    let t := pairs.foldl (fun s p => s.compare p.1 p.2) s
    (∀ p ∈ pairs, t.diffFactor ≤ tmpDiff p.1.2 p.2.2) ∧ t.diffFactor ≤ s.diffFactor ∧
    (t = s ∨ ∃ p ∈ pairs, tmpDiff p.1.2 p.2.2 < s.diffFactor ∧ t = s.take p.1 p.2) := by
  induction pairs generalizing s with
  | nil => exact ⟨by simp, le_refl _, .inl rfl⟩
  | cons p pairs ih =>
    obtain ⟨least, le, taken⟩ := ih (s.compare p.1 p.2)
    simp only [List.foldl_cons]
    by_cases hlt : tmpDiff p.1.2 p.2.2 < s.diffFactor
    · have step : s.compare p.1 p.2 = s.take p.1 p.2 := if_pos hlt
      rw [step] at le taken least ⊢
      refine ⟨List.forall_mem_cons.mpr ⟨le, least⟩, le.trans hlt.le, .inr ?_⟩
      rcases taken with taken | ⟨q, hq, lt, taken⟩
      · exact ⟨p, List.mem_cons_self, hlt, taken⟩
      · exact ⟨q, List.mem_cons_of_mem p hq, lt.trans hlt, taken⟩
    · have step : s.compare p.1 p.2 = s := if_neg hlt
      rw [step] at le taken least ⊢
      refine ⟨List.forall_mem_cons.mpr ⟨le.trans (not_lt.mp hlt), least⟩, le, ?_⟩
      refine taken.imp_right ?_
      rintro ⟨q, hq, lt, taken⟩
      exact ⟨q, List.mem_cons_of_mem p hq, lt, taken⟩

theorem findTightest_spec (s : Base) (lows highs : List Entry) :
    Tightest s lows highs (s.findTightest lows highs) := by
  obtain ⟨least, _, taken⟩ := foldl_compare (lows ×ˢ highs) s
  have same : s.findTightest lows highs =
      (lows ×ˢ highs).foldl (fun s p => s.compare p.1 p.2) s := foldl_foldl compare lows highs s
  rw [← same] at least taken
  refine ⟨fun low hl high hh => ?_, taken.imp_right ?_⟩
  · exact least (low, high) (List.mem_product.mpr ⟨hl, hh⟩)
  · rintro ⟨⟨low, high⟩, hp, lt, taken⟩
    obtain ⟨hl, hh⟩ := List.mem_product.mp hp
    exact ⟨low, hl, high, hh, lt, taken⟩

/-! ## Dropping points -/

/-- `t` is `s` after some points and lines were dropped. The points of the
current pair stay. -/
structure Prunes (s t : Base) : Prop where
  lowPoints : ∀ p ∈ t.lowPoints, p ∈ s.lowPoints
  highPoints : ∀ p ∈ t.highPoints, p ∈ s.highPoints
  usedLow : ∀ p ∈ s.lowPoints, s.usesLow p = true → p ∈ t.lowPoints
  usedHigh : ∀ p ∈ s.highPoints, s.usesHigh p = true → p ∈ t.highPoints
  lowConstraints : ∀ e ∈ t.lowConstraints, e ∈ s.lowConstraints
  highConstraints : ∀ e ∈ t.highConstraints, e ∈ s.highConstraints
  frame : t = { s with
    lowPoints := t.lowPoints, highPoints := t.highPoints
    lowConstraints := t.lowConstraints, highConstraints := t.highConstraints }

theorem Prunes.counts {s t : Base} (h : s.Prunes t) :
    t.processedTimestamps = s.processedTimestamps ∧ t.nextAddr = s.nextAddr := by
  rw [h.frame]
  exact ⟨rfl, rfl⟩

/-- The tables of `t` are those of `s` cut down to the points of `t`. -/
structure Rebuilds (s t : Base) : Prop where
  low : ∀ e, e ∈ t.lowConstraints ↔
    e ∈ s.lowConstraints ∧ e.1.1 ∈ t.lowPoints ∧ e.1.2 ∈ t.highPoints
  high : ∀ e, e ∈ t.highConstraints ↔ (e ∈ s.highConstraints ∧
    s.lowConstraints.contains e.1 = false) ∧ e.1.1 ∈ t.lowPoints ∧ e.1.2 ∈ t.highPoints

/-- `put` inserts an entry into a table that holds no other entry of its key. -/
def Puts (put : Table → LPointPtr × HPointPtr → ConstraintLine → Table) : Prop :=
  ∀ t k v, (∀ w, (k, w) ∈ t → w = v) → ∀ e, e ∈ put t k v ↔ e ∈ t ∨ e = (k, v)

theorem puts_emplace : Puts UnorderedMap.emplace := by
  intro t k v same e
  rw [UnorderedMap.mem_emplace]
  refine ⟨fun he => he.imp_right And.left, fun he => ?_⟩
  cases known : t.contains k with
  | false => exact he.imp_right (⟨·, rfl⟩)
  | true =>
    obtain ⟨w, hw⟩ := UnorderedMap.contains_iff.mp known
    exact .inl (he.elim id fun heq => by rw [heq, ← same w hw]; exact hw)

theorem puts_assign : Puts UnorderedMap.assign := by
  intro t k v same e
  rw [UnorderedMap.mem_assign]
  refine ⟨fun he => he.imp_left And.left, fun he => ?_⟩
  by_cases hk : e.1 = k
  · refine .inr (he.elim (fun held => ?_) id)
    obtain ⟨k', w⟩ := e
    obtain rfl : k' = k := hk
    rw [same w held]
  · exact he.imp_left (⟨·, hk⟩)

section
variable {put : Table → LPointPtr × HPointPtr → ConstraintLine → Table} (hput : Puts put)
include hput

/-- One pair is put back into the table it came from, a low line first. -/
theorem restore_spec {s t : Base} (subLow : ∀ e ∈ t.lowConstraints, e ∈ s.lowConstraints)
    (subHigh : ∀ e ∈ t.highConstraints, e ∈ s.highConstraints) (k : LPointPtr × HPointPtr) :
    let u := restore put s t k
    (∀ e, e ∈ u.lowConstraints ↔ e ∈ t.lowConstraints ∨ (e ∈ s.lowConstraints ∧ e.1 = k)) ∧
    (∀ e, e ∈ u.highConstraints ↔ e ∈ t.highConstraints ∨ ((e ∈ s.highConstraints ∧
      s.lowConstraints.contains e.1 = false) ∧ e.1 = k)) ∧
    u = { t with lowConstraints := u.lowConstraints, highConstraints := u.highConstraints } := by
  cases hlow : s.lowConstraints.find? k with
  | some line =>
    have held := UnorderedMap.find?_eq_some.mp hlow
    have known := UnorderedMap.contains_iff.mpr ⟨line, held⟩
    simp only [restore, hlow]
    refine ⟨fun e => ?_, fun e => ?_, trivial⟩
    · rw [hput t.lowConstraints k line fun w hw => UnorderedMap.eq_of_key (subLow _ hw) held]
      refine or_congr_right ⟨fun he => he ▸ ⟨held, rfl⟩, fun he => ?_⟩
      obtain ⟨k', w⟩ := e
      obtain rfl : k' = k := he.2
      rw [UnorderedMap.eq_of_key he.1 held]
    · refine ⟨.inl, fun he => he.elim id ?_⟩
      rintro ⟨⟨_, absent⟩, rfl⟩
      rw [known] at absent
      cases absent
  | none =>
    have absent : s.lowConstraints.contains k = false := by simp [UnorderedMap.contains, hlow]
    have noLow : ∀ e ∈ s.lowConstraints, e.1 ≠ k := fun e he hk =>
      UnorderedMap.contains_eq_false.mp absent e.2 (hk ▸ he)
    cases hhigh : s.highConstraints.find? k with
    | some line =>
      have held := UnorderedMap.find?_eq_some.mp hhigh
      simp only [restore, hlow, hhigh]
      refine ⟨fun e => ⟨.inl, fun he => he.elim id fun h => absurd h.2 (noLow e h.1)⟩,
        fun e => ?_, trivial⟩
      rw [hput t.highConstraints k line fun w hw => UnorderedMap.eq_of_key (subHigh _ hw) held]
      refine or_congr_right ⟨fun he => he ▸ ⟨⟨held, absent⟩, rfl⟩, fun he => ?_⟩
      obtain ⟨k', w⟩ := e
      obtain rfl : k' = k := he.2
      rw [UnorderedMap.eq_of_key he.1.1 held]
    | none =>
      have noHigh : ∀ e ∈ s.highConstraints, e.1 ≠ k := fun e he hk => by
        have := UnorderedMap.find?_eq_some.mpr (hk ▸ he : (k, e.2) ∈ s.highConstraints)
        rw [hhigh] at this
        cases this
      simp only [restore, hlow, hhigh]
      exact ⟨fun e => ⟨.inl, fun he => he.elim id fun h => absurd h.2 (noLow e h.1)⟩,
        fun e => ⟨.inl, fun he => he.elim id fun h => absurd h.2 (noHigh e h.1.1)⟩, trivial⟩

/-- The loop over the pairs of remaining points puts all of them back. -/
theorem foldl_restore {s : Base} (pairs : List (LPointPtr × HPointPtr)) {t : Base}
    (subLow : ∀ e ∈ t.lowConstraints, e ∈ s.lowConstraints)
    (subHigh : ∀ e ∈ t.highConstraints, e ∈ s.highConstraints) :
    let u := pairs.foldl (restore put s) t
    (∀ e, e ∈ u.lowConstraints ↔ e ∈ t.lowConstraints ∨ (e ∈ s.lowConstraints ∧ e.1 ∈ pairs)) ∧
    (∀ e, e ∈ u.highConstraints ↔ e ∈ t.highConstraints ∨ ((e ∈ s.highConstraints ∧
      s.lowConstraints.contains e.1 = false) ∧ e.1 ∈ pairs)) ∧
    u = { t with lowConstraints := u.lowConstraints, highConstraints := u.highConstraints } := by
  induction pairs generalizing t with
  | nil => exact ⟨by simp, by simp, rfl⟩
  | cons k pairs ih =>
    obtain ⟨low, high, frame⟩ := restore_spec hput subLow subHigh k
    obtain ⟨low', high', frame'⟩ := ih (t := restore put s t k)
      (fun e he => ((low e).mp he).elim (subLow e) And.left)
      (fun e he => ((high e).mp he).elim (subHigh e) (·.1.1))
    simp only [List.foldl_cons]
    refine ⟨fun e => ?_, fun e => ?_, ?_⟩
    · rw [low', low, or_assoc, ← and_or_left, List.mem_cons]
    · rw [high', high, or_assoc, ← and_or_left, List.mem_cons]
    · rw [frame']
      simp only
      rw [frame]

theorem rebuild_spec (s : Base) :
    Rebuilds s (rebuild put s) ∧ rebuild put s = { s with
      lowConstraints := (rebuild put s).lowConstraints
      highConstraints := (rebuild put s).highConstraints } := by
  have flat : rebuild put s = ((s.highPoints.elems ×ˢ s.lowPoints.elems).map Prod.swap).foldl
      (restore put s) { s with lowConstraints := .empty, highConstraints := .empty } := by
    rw [List.foldl_map]
    exact foldl_foldl (fun t h l => restore put s t (l, h)) _ _ _
  have mem : ∀ k : LPointPtr × HPointPtr,
      k ∈ (s.highPoints.elems ×ˢ s.lowPoints.elems).map Prod.swap ↔
        k.1 ∈ s.lowPoints ∧ k.2 ∈ s.highPoints := by
    rintro ⟨l, h⟩
    simp [OrderedSet.mem_def, and_comm]
  obtain ⟨low, high, frame⟩ := foldl_restore hput (s := s)
    (t := { s with lowConstraints := .empty, highConstraints := .empty })
    ((s.highPoints.elems ×ˢ s.lowPoints.elems).map Prod.swap) (by simp) (by simp)
  rw [← flat] at low high frame
  refine ⟨⟨fun e => ?_, fun e => ?_⟩, frame⟩
  · rw [low, mem, congrArg lowPoints frame, congrArg highPoints frame]
    simp
  · rw [high, mem, congrArg lowPoints frame, congrArg highPoints frame]
    simp

end

end Base

end MiniSynCPP
