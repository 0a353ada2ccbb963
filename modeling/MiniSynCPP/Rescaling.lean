import MiniSynCPP.Couplings
import MiniSynCPP.Images
import MiniSynCPP.Published

/-!
# Units of time

The two clocks count in some unit, and the local clock from some instant on.
A change of the units and of that instant goes through both algorithms: points,
lines, slopes and products change accordingly, every comparison comes out the
same, and so do the failures.
-/

namespace MiniSynCPP

open Containers Couplings Runs

/-- Units of the reference clock and the local clock, and what the local clock showed at the start. -/
structure Units where
  reference : ℚ
  own : ℚ
  start : ℚ
  reference_pos : 0 < reference
  own_pos : 0 < own

namespace Units
variable (u : Units)

/-- Back to the old units. -/
def inv : Units where
  reference := u.reference⁻¹
  own := u.own⁻¹
  start := -(u.start / u.own)
  reference_pos := inv_pos.mpr u.reference_pos
  own_pos := inv_pos.mpr u.own_pos

/-- The slope of a line. -/
def slope (m : ℚ) : ℚ := m * (u.own / u.reference)

/-- The difference of two local times. -/
def span (d : ℚ) : ℚ := d * u.own

/-- A local time. -/
def time (t : ℚ) : ℚ := t * u.own + u.start

/-- The product that the search minimises. -/
def product (d : ℚ) : ℚ := d * (u.own / u.reference * u.own)

def ptr (p : PointPtr) : PointPtr := ⟨⟨p.x * u.reference, u.time p.y⟩, p.addr⟩

def line (l : ConstraintLine) : ConstraintLine := ⟨u.slope l.a, u.time l.b⟩

def pair (k : PointPtr × PointPtr) : PointPtr × PointPtr := (u.ptr k.1, u.ptr k.2)

def entry : Entry → Entry := Prod.map u.pair u.line

theorem ratio_pos : 0 < u.own / u.reference := div_pos u.own_pos u.reference_pos

theorem climbs : Climbs (fun p : PointPtr => p.x) (fun p : PointPtr => p.x) u.ptr :=
  fun _ _ => mul_lt_mul_iff_of_pos_right u.reference_pos

theorem time_sub (t t' : ℚ) : u.time t - u.time t' = u.span (t - t') := by
  unfold time span
  ring

theorem slope_lt_iff {m m' : ℚ} : u.slope m < u.slope m' ↔ m < m' :=
  mul_lt_mul_iff_of_pos_right u.ratio_pos

theorem product_lt_iff {d d' : ℚ} : u.product d < u.product d' ↔ d < d' :=
  mul_lt_mul_iff_of_pos_right (mul_pos u.ratio_pos u.own_pos)

theorem inv_time (t : ℚ) : u.inv.time (u.time t) = t := by
  have own := u.own_pos.ne'
  simp only [time, inv]
  field_simp
  ring

theorem time_inv (t : ℚ) : u.time (u.inv.time t) = t := by
  have own := u.own_pos.ne'
  simp only [time, inv]
  field_simp
  ring

theorem inv_slope (m : ℚ) : u.inv.slope (u.slope m) = m := by
  have reference := u.reference_pos.ne'
  have own := u.own_pos.ne'
  simp only [slope, inv]
  field_simp

theorem slope_inv (m : ℚ) : u.slope (u.inv.slope m) = m := by
  have reference := u.reference_pos.ne'
  have own := u.own_pos.ne'
  simp only [slope, inv]
  field_simp

theorem inv_ptr : Function.LeftInverse u.inv.ptr u.ptr := by
  intro p
  simp only [ptr, inv_time]
  simp only [inv, mul_inv_cancel_right₀ u.reference_pos.ne']

theorem ptr_inv : Function.LeftInverse u.ptr u.inv.ptr := by
  intro p
  simp only [ptr, time_inv]
  simp only [inv, inv_mul_cancel_right₀ u.reference_pos.ne']

theorem ptr_inj : Function.Injective u.ptr := u.inv_ptr.injective

theorem pair_inj : Function.Injective u.pair := fun _ _ same =>
  Prod.ext (u.ptr_inj (congrArg Prod.fst same)) (u.ptr_inj (congrArg Prod.snd same))

theorem inv_entry : Function.LeftInverse u.inv.entry u.entry := by
  intro e
  simp only [entry, Prod.map, pair, line, u.inv_ptr _, inv_slope, inv_time]

theorem entry_inv : Function.LeftInverse u.entry u.inv.entry := by
  intro e
  simp only [entry, Prod.map, pair, line, u.ptr_inv _, slope_inv, time_inv]

/-- The same data point, and the tables in the same order. -/
def call (c : Call) : Call where
  To := u.time c.To
  Tb := c.Tb * u.reference
  Tr := u.time c.Tr
  lowOrder := c.lowOrder.through u.entry u.inv.entry u.entry_inv
  highOrder := c.highOrder.through u.entry u.inv.entry u.entry_inv

theorem lowOrder_visit (c : Call) (entries : List Entry) :
    (u.call c).lowOrder.visit (entries.map u.entry) = (c.lowOrder.visit entries).map u.entry :=
  IterOrder.through_visit u.entry_inv u.inv_entry c.lowOrder entries

theorem highOrder_visit (c : Call) (entries : List Entry) :
    (u.call c).highOrder.visit (entries.map u.entry) = (c.highOrder.visit entries).map u.entry :=
  IterOrder.through_visit u.entry_inv u.inv_entry c.highOrder entries

/-! ## Lines -/

theorem x_eq_iff {p q : PointPtr} : (u.ptr p).x = (u.ptr q).x ↔ p.x = q.x := u.climbs.eq_iff p q

theorem x_lt_iff {p q : PointPtr} : (u.ptr p).x < (u.ptr q).x ↔ p.x < q.x := u.climbs p q

theorem slope_ptr (p q : PointPtr) :
    MiniSynCPP.slope (u.ptr p) (u.ptr q) = u.slope (MiniSynCPP.slope p q) := by
  unfold MiniSynCPP.slope slope
  rw [mul_div_assoc', div_mul_eq_mul_div, div_div]
  simp only [ptr, time_sub, span, ← sub_mul]

theorem new_ptr (p q : PointPtr) :
    ConstraintLine.new (u.ptr p).toPoint (u.ptr q).toPoint =
      (ConstraintLine.new p.toPoint q.toPoint).map u.line := by
  have reference := u.reference_pos.ne'
  by_cases same : p.x = q.x
  · rw [ConstraintLine.new, ConstraintLine.new, if_pos same, if_pos (u.x_eq_iff.mpr same)]
    rfl
  · rw [ConstraintLine.new, ConstraintLine.new, if_neg same, if_neg fun h => same (u.x_eq_iff.mp h)]
    have icept : (u.ptr p).y - MiniSynCPP.slope (u.ptr p) (u.ptr q) * (u.ptr p).x =
        u.time (p.y - MiniSynCPP.slope p q * p.x) := by
      rw [u.slope_ptr]
      simp only [ptr, time, slope]
      field_simp
      ring
    calc Except.ok ⟨MiniSynCPP.slope (u.ptr p) (u.ptr q),
          (u.ptr p).y - MiniSynCPP.slope (u.ptr p) (u.ptr q) * (u.ptr p).x⟩
        = Except.ok (u.line ⟨MiniSynCPP.slope p q, p.y - MiniSynCPP.slope p q * p.x⟩) := by
          rw [icept, u.slope_ptr]
          rfl

theorem tmpDiff_line (low high : ConstraintLine) :
    Base.tmpDiff (u.line low) (u.line high) = u.product (Base.tmpDiff low high) := by
  simp only [Base.tmpDiff, line, slope, time, product]
  ring

theorem drift_line (low high : ConstraintLine) :
    (⟨((u.line low).a + (u.line high).a) / 2, ((u.line low).a - (u.line high).a) / 2⟩ : Estimate) =
      ⟨u.slope ((low.a + high.a) / 2), u.slope ((low.a - high.a) / 2)⟩ := by
  refine congrArg₂ Estimate.mk ?_ ?_
  · simp only [line, slope]
    ring
  · simp only [line, slope]
    ring

theorem offset_line (low high : ConstraintLine) :
    (⟨((u.line low).b + (u.line high).b) / 2, ((u.line high).b - (u.line low).b) / 2⟩ : Estimate) =
      ⟨u.time ((low.b + high.b) / 2), u.span ((high.b - low.b) / 2)⟩ := by
  refine congrArg₂ Estimate.mk ?_ ?_
  · simp only [line, time]
    ring
  · simp only [line, time_sub, span]
    ring

end Units

/-! ## States in other units -/

/-- Drift and offset here and there: still those of the constructor, or with their units changed. -/
inductive Units.Estimates (u : Units) : Estimate → Estimate → Estimate → Estimate → Prop
  | initial : u.Estimates ⟨1, 0⟩ ⟨0, 0⟩ ⟨1, 0⟩ ⟨0, 0⟩
  | published (drift offset : Estimate) : u.Estimates drift offset
      ⟨u.slope drift.value, u.slope drift.error⟩ ⟨u.time offset.value, u.span offset.error⟩

/-- The least product here and there: still that of the constructor, or with its unit changed. -/
inductive Units.Factors (u : Units) (max : ℚ) : ℚ → ℚ → Prop
  | initial : u.Factors max max max
  | taken (d : ℚ) : u.Factors max d (u.product d)

/-- `s'` is `s` in other units. -/
structure Base.Rescaled (u : Units) (max : ℚ) (s s' : Base) : Prop where
  lowConstraints : s'.lowConstraints.entries = s.lowConstraints.entries.map u.entry
  highConstraints : s'.highConstraints.entries = s.highConstraints.entries.map u.entry
  lowPoints : s'.lowPoints.elems = s.lowPoints.elems.map u.ptr
  highPoints : s'.highPoints.elems = s.highPoints.elems.map u.ptr
  currentHigh : s'.currentHigh = s.currentHigh.map u.line
  currentLow : s'.currentLow = s.currentLow.map u.line
  highConstraintPts : s'.highConstraintPts = s.highConstraintPts.map (.map u.ptr) (.map u.ptr)
  lowConstraintPts : s'.lowConstraintPts = s.lowConstraintPts.map (.map u.ptr) (.map u.ptr)
  diffFactor : u.Factors max s.diffFactor s'.diffFactor
  processedTimestamps : s'.processedTimestamps = s.processedTimestamps
  nextAddr : s'.nextAddr = s.nextAddr
  estimates : u.Estimates s.currentDrift s.currentOffset s'.currentDrift s'.currentOffset

section Base
variable {u : Units} {max : ℚ} {s s' : Base}

theorem Base.init_rescaled (u : Units) (max : ℚ) : (init max).Rescaled u max (init max) where
  lowConstraints := rfl
  highConstraints := rfl
  lowPoints := rfl
  highPoints := rfl
  currentHigh := rfl
  currentLow := rfl
  highConstraintPts := rfl
  lowConstraintPts := rfl
  diffFactor := .initial
  processedTimestamps := rfl
  nextAddr := rfl
  estimates := .initial

namespace Base

theorem makeShared_rescaled (p : Point) :
    Couples (Rescaled u max) (fun q q' => q' = u.ptr q) (makeShared p)
      (makeShared ⟨p.x * u.reference, u.time p.y⟩) := by
  refine couples_bind couples_get fun s s' related => ?_
  refine couples_bind (couples_set { related with nextAddr := congrArg (· + 1) related.nextAddr }) ?_
  intro _ _ _
  refine couples_pure ?_
  rw [related.nextAddr]
  rfl

theorem new_rescaled (lp hp : PointPtr) :
    Couples (Rescaled u max) (fun l l' => l' = u.line l)
      (ofExcept (ConstraintLine.new lp.toPoint hp.toPoint) : EStateM Failure Base ConstraintLine)
      (ofExcept (ConstraintLine.new (u.ptr lp).toPoint (u.ptr hp).toPoint) : EStateM Failure Base _) := by
  rw [u.new_ptr]
  cases ConstraintLine.new lp.toPoint hp.toPoint with
  | ok => exact couples_pure rfl
  | error e => exact couples_throw e

theorem addConstraint_rescaled (lp hp : PointPtr) :
    Couples (Rescaled u max) Eq (addConstraint lp hp) (addConstraint (u.ptr lp) (u.ptr hp)) := by
  refine couples_bind couples_get fun s s' related => ?_
  have low := UnorderedMap.contains_image u.pair_inj related.lowConstraints (lp, hp)
  have high := UnorderedMap.contains_image u.pair_inj related.highConstraints (lp, hp)
  refine couples_ite u.x_eq_iff (couples_pure rfl) ?_
  refine couples_ite (and_congr u.x_lt_iff (by rw [← low]; rfl)) ?_ ?_
  · refine couples_bind (new_rescaled lp hp) fun line line' same => ?_
    rw [same]
    exact couples_bind (couples_set { related with
      lowConstraints := UnorderedMap.emplace_image u.pair_inj related.lowConstraints (lp, hp) line })
      fun _ _ _ => couples_pure rfl
  refine couples_ite (and_congr u.x_lt_iff (by rw [← high]; rfl)) ?_ (couples_pure rfl)
  · refine couples_bind (new_rescaled lp hp) fun line line' same => ?_
    rw [same]
    exact couples_bind (couples_set { related with
      highConstraints := UnorderedMap.emplace_image u.pair_inj related.highConstraints (lp, hp) line })
      fun _ _ _ => couples_pure rfl

theorem addLowPoint_rescaled (Tb To : ℚ) : Couples (Rescaled u max) (fun q q' => q' = u.ptr q)
    (addLowPoint Tb To) (addLowPoint (Tb * u.reference) (u.time To)) := by
  refine couples_bind (makeShared_rescaled ⟨Tb, To⟩) fun lp lp' same => ?_
  rw [same]
  refine couples_bind couples_get fun s s' related => ?_
  rw [related.highPoints]
  refine couples_bind (couples_forM fun hp _ => couples_discard (addConstraint_rescaled lp hp)) ?_
  intro _ _ _
  refine couples_bind (couples_modify fun s s' related => { related with
    lowPoints := OrderedSet.insert_image u.climbs related.lowPoints lp }) ?_
  exact fun _ _ _ => couples_pure rfl

theorem addHighPoint_rescaled (Tb Tr : ℚ) : Couples (Rescaled u max) (fun q q' => q' = u.ptr q)
    (addHighPoint Tb Tr) (addHighPoint (Tb * u.reference) (u.time Tr)) := by
  refine couples_bind (makeShared_rescaled ⟨Tb, Tr⟩) fun hp hp' same => ?_
  rw [same]
  refine couples_bind couples_get fun s s' related => ?_
  rw [related.lowPoints]
  refine couples_bind (couples_forM fun lp _ => couples_discard (addConstraint_rescaled lp hp)) ?_
  intro _ _ _
  refine couples_bind (couples_modify fun s s' related => { related with
    highPoints := OrderedSet.insert_image u.climbs related.highPoints hp }) ?_
  exact fun _ _ _ => couples_pure rfl

theorem compare_rescaled (low high : Entry) (below : tmpDiff low.2 high.2 < max)
    (below' : u.product (tmpDiff low.2 high.2) < max) (related : s.Rescaled u max s') :
    (s.compare low high).Rescaled u max (s'.compare (u.entry low) (u.entry high)) := by
  have product : tmpDiff (u.entry low).2 (u.entry high).2 = u.product (tmpDiff low.2 high.2) :=
    u.tmpDiff_line low.2 high.2
  have tighter : tmpDiff (u.entry low).2 (u.entry high).2 < s'.diffFactor ↔
      tmpDiff low.2 high.2 < s.diffFactor := by
    rw [product]
    have factors := related.diffFactor
    generalize s.diffFactor = d, s'.diffFactor = d' at factors ⊢
    cases factors with
    | initial => exact iff_of_true below' below
    | taken => exact u.product_lt_iff
  unfold compare
  by_cases taken : tmpDiff low.2 high.2 < s.diffFactor
  · have factors : u.Factors max (tmpDiff low.2 high.2) (tmpDiff (u.entry low).2 (u.entry high).2) := by
      rw [product]
      exact .taken _
    rw [if_pos taken, if_pos (tighter.mpr taken)]
    exact { related with
      currentHigh := rfl
      currentLow := rfl
      highConstraintPts := rfl
      lowConstraintPts := rfl
      diffFactor := factors }
  · rw [if_neg taken, if_neg fun h => taken (tighter.mp h)]
    exact related

theorem findTightest_rescaled (lows highs : List Entry)
    (below : ∀ low ∈ lows, ∀ high ∈ highs,
      tmpDiff low.2 high.2 < max ∧ u.product (tmpDiff low.2 high.2) < max)
    (related : s.Rescaled u max s') :
    (s.findTightest lows highs).Rescaled u max
      (s'.findTightest (lows.map u.entry) (highs.map u.entry)) := by
  refine foldl_coupled (R := Rescaled u max) (fun low hl _ _ related => ?_) related
  refine foldl_coupled (R := Rescaled u max) (fun high hh _ _ related => ?_) related
  exact compare_rescaled low high (below low hl high hh).1 (below low hl high hh).2 related

theorem usesLow_rescaled (related : s.Rescaled u max s') (p : LPointPtr) :
    s'.usesLow (u.ptr p) = s.usesLow p := by
  have same : ∀ q : Option LPointPtr, q.map u.ptr = some (u.ptr p) ↔ q = some p := fun q =>
    (Option.map_injective u.ptr_inj).eq_iff (b := some p)
  simp only [usesLow, related.lowConstraintPts, related.highConstraintPts, Prod.map_fst, same]

theorem usesHigh_rescaled (related : s.Rescaled u max s') (p : HPointPtr) :
    s'.usesHigh (u.ptr p) = s.usesHigh p := by
  have same : ∀ q : Option HPointPtr, q.map u.ptr = some (u.ptr p) ↔ q = some p := fun q =>
    (Option.map_injective u.ptr_inj).eq_iff (b := some p)
  simp only [usesHigh, related.lowConstraintPts, related.highConstraintPts, Prod.map_snd, same]

/-- An insertion that goes along with a change of units. -/
def PutsAlike (u : Units) (put : Table → LPointPtr × HPointPtr → ConstraintLine → Table) : Prop :=
  ∀ (m n : Table), n.entries = m.entries.map u.entry → ∀ k l,
    (put n (u.pair k) (u.line l)).entries = (put m k l).entries.map u.entry

theorem restore_rescaled {put : Table → LPointPtr × HPointPtr → ConstraintLine → Table}
    (puts : PutsAlike u put) {old old' : Base} (before : old.Rescaled u max old')
    (related : s.Rescaled u max s') (k : LPointPtr × HPointPtr) :
    (restore put old s k).Rescaled u max (restore put old' s' (u.pair k)) := by
  have low := UnorderedMap.find?_image u.pair_inj before.lowConstraints k
  have high := UnorderedMap.find?_image u.pair_inj before.highConstraints k
  unfold restore
  rw [low, high]
  cases old.lowConstraints.find? k with
  | some line => exact { related with lowConstraints := puts _ _ related.lowConstraints k line }
  | none =>
    cases old.highConstraints.find? k with
    | some line => exact { related with highConstraints := puts _ _ related.highConstraints k line }
    | none => exact related

theorem rebuild_rescaled {put : Table → LPointPtr × HPointPtr → ConstraintLine → Table}
    (puts : PutsAlike u put) (related : s.Rescaled u max s') :
    (rebuild put s).Rescaled u max (rebuild put s') := by
  unfold rebuild
  rw [related.highPoints, related.lowPoints]
  refine foldl_coupled (R := Rescaled u max) (fun hp _ t t' inner => ?_)
    { related with lowConstraints := rfl, highConstraints := rfl }
  exact foldl_coupled (R := Rescaled u max) (g := u.ptr)
    (fun lp _ t t' inner => restore_rescaled puts related inner (lp, hp)) inner

theorem estimate_rescaled (low high : ConstraintLine) (related : s.Rescaled u max s') :
    (s.estimate low high).Rescaled u max (s'.estimate (u.line low) (u.line high)) := by
  refine { related with estimates := ?_ }
  simp only [estimate, u.drift_line, u.offset_line]
  exact .published _ _

end Base
end Base

/-! ## The two subclasses -/

/-- The object with its members in other units. -/
structure Object.Rescaled {M : Type} (members : M → M → Prop) (u : Units) (max : ℚ) (o o' : Object M) :
    Prop where
  base : o.base.Rescaled u max o'.base
  members : members o.members o'.members

theorem onBase_part {M α : Type} (m : EStateM Failure Base α) :
    (onBase m : EStateM Failure (Object M) α) = part Object.base (fun o s => { o with base := s }) m := by
  funext o
  unfold onBase part
  cases m o.base with
  | ok | error => rfl

theorem onBase_rescaled {M α α' : Type} {members : M → M → Prop} {S : α → α' → Prop} {u : Units}
    {max : ℚ} {m : EStateM Failure Base α} {m' : EStateM Failure Base α'}
    (h : Couples (Base.Rescaled u max) S m m') :
    Couples (Object.Rescaled members u max) S (onBase m) (onBase m') := by
  rw [onBase_part, onBase_part]
  exact couples_part h (fun _ _ related => related.base)
    fun _ _ _ _ related state => ⟨state, related.members⟩

/-- A subclass whose functions go along with a change of units. -/
class RescaledSubclass (M : Type) [Subclass M] where
  members : Units → M → M → Prop
  init : ∀ u, members u Subclass.init Subclass.init
  addLowPoint : ∀ (u : Units) (max Tb To : ℚ),
    Couples (Object.Rescaled (members u) u max) (fun q q' => q' = u.ptr q)
    (Subclass.addLowPoint Tb To : EStateM Failure (Object M) LPointPtr)
    (Subclass.addLowPoint (Tb * u.reference) (u.time To))
  addHighPoint : ∀ (u : Units) (max Tb Tr : ℚ),
    Couples (Object.Rescaled (members u) u max) (fun q q' => q' = u.ptr q)
    (Subclass.addHighPoint Tb Tr : EStateM Failure (Object M) HPointPtr)
    (Subclass.addHighPoint (Tb * u.reference) (u.time Tr))
  cleanup : ∀ (u : Units) (max : ℚ), Couples (Object.Rescaled (members u) u max) (fun _ _ => True)
    (Subclass.cleanup : EStateM Failure (Object M) Unit) Subclass.cleanup

section TinySync

theorem putsAlike_assign (u : Units) : Base.PutsAlike u UnorderedMap.assign :=
  fun _ _ image k l => UnorderedMap.assign_image u.pair_inj image k l

theorem putsAlike_emplace (u : Units) : Base.PutsAlike u UnorderedMap.emplace :=
  fun _ _ image k l => UnorderedMap.emplace_image u.pair_inj image k l

instance : RescaledSubclass TinySync where
  members _ _ _ := True
  init _ := trivial
  addLowPoint u max Tb To := onBase_rescaled (Base.addLowPoint_rescaled Tb To)
  addHighPoint u max Tb Tr := onBase_rescaled (Base.addHighPoint_rescaled Tb Tr)
  cleanup u max := by
    change Couples _ _ TinySync.cleanup TinySync.cleanup
    refine onBase_rescaled (couples_modify fun s s' related => ?_)
    refine Base.rebuild_rescaled (putsAlike_assign u) ?_
    have lowsKept := OrderedSet.eraseIf_image (q := fun p => !s'.usesLow p) (p := fun p => !s.usesLow p)
      (fun p => congrArg (!·) (Base.usesLow_rescaled related p)) related.lowPoints
    have lows : Base.Rescaled u max { s with lowPoints := s.lowPoints.eraseIf fun p => !s.usesLow p }
        { s' with lowPoints := s'.lowPoints.eraseIf fun p => !s'.usesLow p } :=
      { related with lowPoints := lowsKept }
    have highsKept := OrderedSet.eraseIf_image (q := fun p => !s'.usesHigh p) (p := fun p => !s.usesHigh p)
      (fun p => congrArg (!·) (Base.usesHigh_rescaled related p)) related.highPoints
    exact { lows with highPoints := highsKept }

end TinySync

section MiniSync
variable {u : Units} {max : ℚ}

def Units.slopeEntry (u : Units) : (PointPtr × PointPtr) × ℚ → (PointPtr × PointPtr) × ℚ :=
  Prod.map u.pair u.slope

/-- The points of one side and the slopes between them in other units. -/
structure Side.Rescaled (u : Units) (t t' : Side) : Prop where
  points : t'.points.elems = t.points.elems.map u.ptr
  slopes : t'.slopes.entries = t.slopes.entries.map u.slopeEntry

structure MiniSync.Rescaled (u : Units) (m m' : MiniSync) : Prop where
  lowSlopes : m'.lowSlopes.entries = m.lowSlopes.entries.map u.slopeEntry
  highSlopes : m'.highSlopes.entries = m.highSlopes.entries.map u.slopeEntry

theorem addSlopes_rescaled {points points' : PointSet} {slopes slopes' : SlopeTable}
    (points_eq : points'.elems = points.elems.map u.ptr)
    (slopes_eq : slopes'.entries = slopes.entries.map u.slopeEntry) (lp : PointPtr) :
    (addSlopes points' slopes' (u.ptr lp)).entries =
      (addSlopes points slopes lp).entries.map u.slopeEntry := by
  unfold addSlopes
  rw [points_eq]
  refine foldl_coupled (R := fun m n : SlopeTable => n.entries = m.entries.map u.slopeEntry)
    (fun olp _ m n image => ?_) slopes_eq
  by_cases same : lp.x = olp.x
  · rw [if_pos same, if_pos (u.x_eq_iff.mpr same)]
    exact image
  · rw [if_neg same, if_neg fun h => same (u.x_eq_iff.mp h), u.slope_ptr]
    exact UnorderedMap.emplace_image u.pair_inj image (olp, lp) (slope olp lp)

theorem slopeAt_rescaled {slopes slopes' : SlopeTable}
    (image : slopes'.entries = slopes.entries.map u.slopeEntry) (k : PointPtr × PointPtr) :
    slopeAt slopes' (u.pair k) = (slopeAt slopes k).map u.slope := by
  unfold slopeAt
  rw [UnorderedMap.find?_image u.pair_inj image k]
  cases slopes.find? k with
  | none => rfl
  | some m => rfl

/-- A comparison of slopes that comes out the same in all units. -/
def ComparesAlike (u : Units) (cmp : ℚ → ℚ → Bool) : Prop :=
  ∀ m m', cmp (u.slope m) (u.slope m') = cmp m m'

theorem storeTest_rescaled {cmp : ℚ → ℚ → Bool} (alike : ComparesAlike u cmp) {t t' : Side}
    (related : t.Rescaled u t') (j : PointPtr) : storeTest cmp t' (u.ptr j) = storeTest cmp t j := by
  unfold storeTest
  rw [OrderedSet.before_image u.climbs related.points, OrderedSet.after_image u.climbs related.points,
    anyM_map]
  refine anyM_congr fun i _ => ?_
  rw [anyM_map]
  refine anyM_congr fun k _ => ?_
  have into := slopeAt_rescaled related.slopes (i, j)
  have out := slopeAt_rescaled related.slopes (j, k)
  change slopeAt t'.slopes (u.ptr i, u.ptr j) = _ at into
  change slopeAt t'.slopes (u.ptr j, u.ptr k) = _ at out
  rw [into, out]
  cases slopeAt t.slopes (i, j) with
  | error e => rfl
  | ok m =>
    cases slopeAt t.slopes (j, k) with
    | error e => rfl
    | ok m' => exact congrArg Except.ok (alike m m')

theorem forget_rescaled {t t' : Side} (related : t.Rescaled u t') (j : PointPtr) :
    (t.forget j).Rescaled u (t'.forget (u.ptr j)) where
  points := OrderedSet.erase_image u.climbs related.points j
  slopes := UnorderedMap.eraseIf_image (fun e => by
    simp only [Prod.map_fst, Units.pair, u.ptr_inj.eq_iff]) related.slopes

theorem pruneAt_rescaled {used used' : PointPtr → Bool} {cmp : ℚ → ℚ → Bool} (alike : ComparesAlike u cmp)
    (same : ∀ p, used' (u.ptr p) = used p) (j : PointPtr) :
    Couples (Side.Rescaled u) (fun _ _ => True) (pruneAt used cmp j) (pruneAt used' cmp (u.ptr j)) := by
  unfold pruneAt
  refine couples_ite (by rw [same]) ?_ (couples_pure trivial)
  refine couples_bind couples_get fun t t' related => ?_
  rw [storeTest_rescaled alike related j]
  refine couples_bind (couples_ofExcept _) fun store store' same => ?_
  rw [same]
  exact couples_ite Iff.rfl (couples_modify fun t t' related => forget_rescaled related j)
    (couples_pure trivial)

theorem prune_rescaled {used used' : PointPtr → Bool} {cmp : ℚ → ℚ → Bool} (alike : ComparesAlike u cmp)
    (same : ∀ p, used' (u.ptr p) = used p) :
    Couples (Side.Rescaled u) (fun _ _ => True) (prune used cmp) (prune used' cmp) := by
  refine couples_bind couples_get fun t t' related => ?_
  rw [related.points]
  exact couples_forM fun j _ => pruneAt_rescaled alike same j

theorem onLows_part {α : Type} (m : EStateM Failure Side α) : MiniSync.onLows m =
    part (fun o => ⟨o.base.lowPoints, o.members.lowSlopes⟩)
      (fun o t => ⟨{ o.base with lowPoints := t.points }, { o.members with lowSlopes := t.slopes }⟩) m := by
  funext o
  unfold MiniSync.onLows part
  cases m ⟨o.base.lowPoints, o.members.lowSlopes⟩ with
  | ok | error => rfl

theorem onHighs_part {α : Type} (m : EStateM Failure Side α) : MiniSync.onHighs m =
    part (fun o => ⟨o.base.highPoints, o.members.highSlopes⟩)
      (fun o t => ⟨{ o.base with highPoints := t.points }, { o.members with highSlopes := t.slopes }⟩) m := by
  funext o
  unfold MiniSync.onHighs part
  cases m ⟨o.base.highPoints, o.members.highSlopes⟩ with
  | ok | error => rfl

theorem onLows_rescaled {m m' : EStateM Failure Side PUnit}
    (h : Couples (Side.Rescaled u) (fun _ _ => True) m m') :
    Couples (Object.Rescaled (MiniSync.Rescaled u) u max) (fun _ _ => True) (MiniSync.onLows m)
      (MiniSync.onLows m') := by
  rw [onLows_part, onLows_part]
  refine couples_part h ?_ ?_
  · exact fun _ _ related => ⟨related.base.lowPoints, related.members.lowSlopes⟩
  · exact fun _ _ _ _ related state => ⟨{ related.base with lowPoints := state.points },
      { related.members with lowSlopes := state.slopes }⟩

theorem onHighs_rescaled {m m' : EStateM Failure Side PUnit}
    (h : Couples (Side.Rescaled u) (fun _ _ => True) m m') :
    Couples (Object.Rescaled (MiniSync.Rescaled u) u max) (fun _ _ => True) (MiniSync.onHighs m)
      (MiniSync.onHighs m') := by
  rw [onHighs_part, onHighs_part]
  refine couples_part h ?_ ?_
  · exact fun _ _ related => ⟨related.base.highPoints, related.members.highSlopes⟩
  · exact fun _ _ _ _ related state => ⟨{ related.base with highPoints := state.points },
      { related.members with highSlopes := state.slopes }⟩

theorem MiniSync.cleanup_rescaled :
    Couples (Object.Rescaled (MiniSync.Rescaled u) u max) (fun _ _ => True) MiniSync.cleanup
      MiniSync.cleanup := by
  have above : ComparesAlike u fun m m' => m > m' := fun _ _ => decide_eq_decide.mpr u.slope_lt_iff
  have below : ComparesAlike u fun m m' => m < m' := fun _ _ => decide_eq_decide.mpr u.slope_lt_iff
  refine couples_bind couples_get fun o o' related => ?_
  refine couples_bind (onLows_rescaled (prune_rescaled above (Base.usesLow_rescaled related.base))) ?_
  intro _ _ _
  refine couples_bind couples_get fun o o' related => ?_
  refine couples_bind (onHighs_rescaled (prune_rescaled below (Base.usesHigh_rescaled related.base))) ?_
  intro _ _ _
  exact onBase_rescaled (couples_modify fun s s' related =>
    Base.rebuild_rescaled (putsAlike_emplace u) related)

instance : RescaledSubclass MiniSync where
  members := MiniSync.Rescaled
  init _ := ⟨rfl, rfl⟩
  addLowPoint u max Tb To := by
    change Couples _ _ (MiniSync.addLowPoint _ _) (MiniSync.addLowPoint _ _)
    refine couples_bind (onBase_rescaled (Base.addLowPoint_rescaled Tb To)) fun lp lp' same => ?_
    rw [same]
    refine couples_bind (couples_modify fun o o' related => ?_) fun _ _ _ => couples_pure rfl
    have slopes := addSlopes_rescaled related.base.lowPoints related.members.lowSlopes lp
    exact ⟨related.base, { related.members with lowSlopes := slopes }⟩
  addHighPoint u max Tb Tr := by
    change Couples _ _ (MiniSync.addHighPoint _ _) (MiniSync.addHighPoint _ _)
    refine couples_bind (onBase_rescaled (Base.addHighPoint_rescaled Tb Tr)) fun hp hp' same => ?_
    rw [same]
    refine couples_bind (couples_modify fun o o' related => ?_) fun _ _ _ => couples_pure rfl
    have slopes := addSlopes_rescaled related.base.highPoints related.members.highSlopes hp
    exact ⟨related.base, { related.members with highSlopes := slopes }⟩
  cleanup _ _ := MiniSync.cleanup_rescaled

end MiniSync

instance : (algo : Algo) → RescaledSubclass algo.Members
  | .tinySync => inferInstanceAs (RescaledSubclass TinySync)
  | .miniSync => inferInstanceAs (RescaledSubclass MiniSync)

/-! ## Estimates in other units -/

/-- The estimates of `s'` are those of `s` in other units. -/
structure Base.Converted (u : Units) (s s' : Base) : Prop where
  drift : s'.getDrift = u.slope s.getDrift
  driftError : s'.getDriftError = u.slope s.getDriftError
  offset : s'.getOffset = u.time s.getOffset
  offsetError : s'.getOffsetError = u.span s.getOffsetError

namespace Base
variable {u : Units} {max : ℚ} {s s' t t' : Base}

theorem Converted.congr (h : Converted u s s') (same : SameEstimates s t) (same' : SameEstimates s' t') :
    Converted u t t' where
  drift := by rw [← same.1, ← same'.1, h.drift]
  driftError := by rw [← same.2.1, ← same'.2.1, h.driftError]
  offset := by rw [← same.2.2.1, ← same'.2.2.1, h.offset]
  offsetError := by rw [← same.2.2.2, ← same'.2.2.2, h.offsetError]

theorem Converted.estimate (u : Units) (s s' : Base) (low high : ConstraintLine) :
    Converted u (s.estimate low high) (s'.estimate (u.line low) (u.line high)) :=
  ⟨congrArg Estimate.value (u.drift_line low high), congrArg Estimate.error (u.drift_line low high),
    congrArg Estimate.value (u.offset_line low high), congrArg Estimate.error (u.offset_line low high)⟩

/-- Estimates of the current pair follow the units. -/
theorem Rescaled.published (related : s.Rescaled u max s') {low high low' high' : ConstraintLine}
    (estimates : s.Estimates low high) (estimates' : s'.Estimates low' high') : Converted u s s' := by
  have sameLow := related.currentLow
  have sameHigh := related.currentHigh
  rw [estimates.currentLow, estimates'.currentLow] at sameLow
  rw [estimates.currentHigh, estimates'.currentHigh] at sameHigh
  cases sameLow
  cases sameHigh
  refine (Converted.estimate u s s' low high).congr ?_ ?_
  · unfold SameEstimates getDrift getDriftError getOffset getOffsetError
    rw [estimates.drift, estimates.offset]
    exact ⟨rfl, rfl, rfl, rfl⟩
  · unfold SameEstimates getDrift getDriftError getOffset getOffsetError
    rw [estimates'.drift, estimates'.offset]
    exact ⟨rfl, rfl, rfl, rfl⟩

theorem Rescaled.initial_or_converted (related : s.Rescaled u max s') :
    SameEstimates (init max) s ∧ SameEstimates (init max) s' ∨ Converted u s s' := by
  have estimates := related.estimates
  unfold SameEstimates getDrift getDriftError getOffset getOffsetError
  generalize hd : s.currentDrift = d, ho : s.currentOffset = o, hd' : s'.currentDrift = d',
    ho' : s'.currentOffset = o' at estimates
  cases estimates with
  | initial => exact .inl ⟨⟨rfl, rfl, rfl, rfl⟩, rfl, rfl, rfl, rfl⟩
  | published =>
    refine .inr ⟨?_, ?_, ?_, ?_⟩ <;>
      simp only [getDrift, getDriftError, getOffset, getOffsetError, hd, ho, hd', ho']

end Base

/-! ## Calls and runs -/

/-- The products that the search can meet are below the initial `diff_factor`, here and there. -/
def Base.Below (u : Units) (max : ℚ) (s : Base) : Prop :=
  ∀ low ∈ s.lowConstraints.entries, ∀ high ∈ s.highConstraints.entries,
    tmpDiff low.2 high.2 < max ∧ u.product (tmpDiff low.2 high.2) < max

section
variable {M : Type} [Subclass M] [LawfulSubclass M] [RescaledSubclass M] {u : Units} {max : ℚ}
  {o o' : Object M}

theorem driftFails_rescaled {drift offset drift' offset' : Estimate} (build : Build)
    (h : u.Estimates drift offset drift' offset') :
    driftFails build drift'.value = driftFails build drift.value := by
  cases h with
  | initial => rfl
  | published =>
    have sign : ∀ m, 0 < u.slope m ↔ 0 < m := fun m => mul_pos_iff_of_pos_right u.ratio_pos
    have sign' : ∀ m, u.slope m < 0 ↔ m < 0 := fun m => by
      rw [← u.slope_lt_iff (m := m), Units.slope, Units.slope, zero_mul]
    cases build with
    | plain =>
      refine decide_eq_decide.mpr ?_
      rw [← not_lt, sign, not_lt]
    | loguru => exact decide_eq_decide.mpr (sign' _)

theorem added_rescaled (related : o.Rescaled (RescaledSubclass.members u) u max o') (c : Call) :
    (o.added c).Rescaled (RescaledSubclass.members u) u max (o'.added (u.call c)) := by
  have points : Couples (Object.Rescaled (RescaledSubclass.members (M := M) u) u max)
      (fun q q' => q' = u.ptr q) (addPoints c) (addPoints (u.call c)) :=
    couples_bind (couples_discard (RescaledSubclass.addLowPoint u max c.Tb c.To)) fun _ _ _ =>
      RescaledSubclass.addHighPoint u max c.Tb c.Tr
  have placed := (points o o' related).left
  rw [addPoints_run, addPoints_run] at placed
  exact ⟨{ placed.base with processedTimestamps := congrArg (· + 1) placed.base.processedTimestamps },
    placed.members⟩

theorem searched_rescaled (related : o.Rescaled (RescaledSubclass.members u) u max o') (c : Call)
    (below : (o.base.added c).Below u max) :
    (o.searched c).Rescaled (RescaledSubclass.members u) u max (o'.searched (u.call c)) := by
  have added := added_rescaled related c
  have lows : (o'.base.added (u.call c)).lowConstraints.entries = _ := added.base.lowConstraints
  have highs : (o'.base.added (u.call c)).highConstraints.entries = _ := added.base.highConstraints
  have tightest := Base.findTightest_rescaled (c.lowOrder.visit (o.base.added c).lowConstraints.entries)
    (c.highOrder.visit (o.base.added c).highConstraints.entries)
    (fun low hl high hh => below low (c.lowOrder.mem_visit.mp hl) high (c.highOrder.mem_visit.mp hh))
    added.base
  unfold Object.searched
  rw [lows, highs]
  exact ⟨by rw [u.lowOrder_visit, u.highOrder_visit]; exact tightest, added.members⟩

omit [LawfulSubclass M] in
theorem publish_rescaled (build : Build) :
    Couples (Object.Rescaled (RescaledSubclass.members (M := M) u) u max) (fun _ _ => True)
      (publish build) (publish build) := by
  refine couples_bind couples_get fun o o' related => ?_
  rw [related.base.currentLow]
  cases o.base.currentLow with
  | none => exact couples_throw _
  | some low =>
    refine couples_bind couples_get fun o o' related => ?_
    rw [related.base.currentHigh]
    cases o.base.currentHigh with
    | none => exact couples_throw _
    | some high =>
      refine couples_bind (onBase_rescaled (couples_modify fun s s' related =>
        Base.estimate_rescaled low high related)) fun _ _ _ => ?_
      refine couples_bind couples_get fun o o' related => ?_
      exact couples_ite (by rw [driftFails_rescaled build related.base.estimates]) (couples_throw _)
        (couples_pure trivial)

/-- One call with its arguments in other units does the same in other units. -/
theorem addDataPoint_rescaled (build : Build) (related : o.Rescaled (RescaledSubclass.members u) u max o')
    (c : Call) (below : (o.base.added c).Below u max) :
    Coupled (Object.Rescaled (RescaledSubclass.members u) u max) (fun _ _ => True)
      (addDataPoint build c o) (addDataPoint build (u.call c) o') := by
  have counted : (o'.base.added (u.call c)).processedTimestamps = (o.base.added c).processedTimestamps :=
    (added_rescaled related c).base.processedTimestamps
  rw [addDataPoint_run, addDataPoint_run, counted]
  by_cases recalculates : 1 < (o.base.added c).processedTimestamps
  · have tail := couples_bind (RescaledSubclass.cleanup (M := M) u max) fun _ _ _ =>
      publish_rescaled (u := u) build
    rw [if_pos recalculates, if_pos recalculates]
    exact tail _ _ (searched_rescaled related c below)
  · rw [if_neg recalculates, if_neg recalculates]
    exact .ok trivial (added_rescaled related c)

/-- The products of a call are those of its image in other units. -/
theorem below_of_check {build : Build} (related : o.Rescaled (RescaledSubclass.members u) u max o')
    {c : Call} {calls : List Call} (below : productsBelow build max o (c :: calls) = true)
    (below' : productsBelow build max o' ((c :: calls).map u.call) = true) :
    (o.base.added c).Below u max := by
  intro low hl high hh
  have added := (added_rescaled related c).base
  have low' : u.entry low ∈ (o'.base.added (u.call c)).lowConstraints.entries :=
    added.lowConstraints.symm ▸ List.mem_map_of_mem hl
  have high' : u.entry high ∈ (o'.base.added (u.call c)).highConstraints.entries :=
    added.highConstraints.symm ▸ List.mem_map_of_mem hh
  have here := List.all_eq_true.mp (List.all_eq_true.mp ((Bool.and_eq_true _ _).mp below).1 low hl) high hh
  have there := List.all_eq_true.mp
    (List.all_eq_true.mp ((Bool.and_eq_true _ _).mp below').1 (u.entry low) low') (u.entry high) high'
  rw [← u.tmpDiff_line]
  exact ⟨of_decide_eq_true here, of_decide_eq_true there⟩

theorem after_rescaled (build : Build) (calls : List Call)
    (related : o.Rescaled (RescaledSubclass.members u) u max o')
    (below : productsBelow build max o calls = true)
    (below' : productsBelow build max o' (calls.map u.call) = true) :
    (o.after build calls).Rescaled (RescaledSubclass.members u) u max (o'.after build (calls.map u.call)) ∧
    allReturn build o' (calls.map u.call) = allReturn build o calls := by
  induction calls generalizing o o' with
  | nil => exact ⟨related, rfl⟩
  | cons c calls ih =>
    have outcome := addDataPoint_rescaled build related c (below_of_check related below below')
    obtain ⟨later, returns⟩ := ih outcome.left ((Bool.and_eq_true _ _).mp below).2
      ((Bool.and_eq_true _ _).mp below').2
    refine ⟨later, ?_⟩
    rw [List.map_cons, allReturn, allReturn, outcome.failure, returns]

omit [Subclass M] [LawfulSubclass M] [RescaledSubclass M] in
theorem publish_converts (build : Build) {R : M → M → Prop} (related : o.Rescaled R u max o') :
    SameEstimates o.base (left (publish build o)).base ∧
      SameEstimates o'.base (left (publish build o')).base ∨
    Base.Converted u (left (publish build o)).base (left (publish build o')).base := by
  rw [left_publish, left_publish, related.base.currentLow, related.base.currentHigh]
  cases o.base.currentLow with
  | none => exact .inl ⟨⟨rfl, rfl, rfl, rfl⟩, rfl, rfl, rfl, rfl⟩
  | some low =>
    cases o.base.currentHigh with
    | none => exact .inl ⟨⟨rfl, rfl, rfl, rfl⟩, rfl, rfl, rfl, rfl⟩
    | some high => exact .inr (.estimate u _ _ low high)

/-- A call publishes here and there, or nowhere. -/
theorem addDataPoint_converts (build : Build) (related : o.Rescaled (RescaledSubclass.members u) u max o')
    (c : Call) (below : (o.base.added c).Below u max) (converted : Base.Converted u o.base o'.base) :
    Base.Converted u (left (addDataPoint build c o)).base
      (left (addDataPoint build (u.call c) o')).base := by
  have counted : (o'.base.added (u.call c)).processedTimestamps = (o.base.added c).processedTimestamps :=
    (added_rescaled related c).base.processedTimestamps
  rw [addDataPoint_eq, addDataPoint_eq, counted]
  by_cases recalculates : 1 < (o.base.added c).processedTimestamps
  · rw [if_pos recalculates, if_pos recalculates]
    have cleaned := RescaledSubclass.cleanup (M := M) u max _ _ (searched_rescaled related c below)
    have kept := converted.congr (cleanup_estimates o c) (cleanup_estimates o' (u.call c))
    generalize (Subclass.cleanup (o.searched c) : EStateM.Result Failure (Object M) Unit) = r,
      (Subclass.cleanup (o'.searched (u.call c)) : EStateM.Result Failure (Object M) Unit) = r'
      at cleaned kept ⊢
    cases cleaned with
    | error => exact kept
    | ok _ state =>
      obtain ⟨same, same'⟩ | published := publish_converts build state
      · exact kept.congr same same'
      · exact published
  · rw [if_neg recalculates, if_neg recalculates]
    exact converted.congr ⟨rfl, rfl, rfl, rfl⟩ ⟨rfl, rfl, rfl, rfl⟩

theorem after_converted (build : Build) (calls : List Call)
    (related : o.Rescaled (RescaledSubclass.members u) u max o')
    (below : productsBelow build max o calls = true)
    (below' : productsBelow build max o' (calls.map u.call) = true)
    (converted : Base.Converted u o.base o'.base) :
    Base.Converted u (o.after build calls).base (o'.after build (calls.map u.call)).base := by
  induction calls generalizing o o' with
  | nil => exact converted
  | cons c calls ih =>
    have here := below_of_check related below below'
    exact ih (addDataPoint_rescaled build related c here).left ((Bool.and_eq_true _ _).mp below).2
      ((Bool.and_eq_true _ _).mp below').2 (addDataPoint_converts build related c here converted)

/-- A call that recalculates and returns has published. -/
theorem Returns.converted {build : Build} (related : o.Rescaled (RescaledSubclass.members u) u max o')
    {c : Call} (below : (o.base.added c).Below u max) (recalculates : 1 < (o.base.added c).processedTimestamps)
    (returned : failure? (addDataPoint build c o) = none) :
    Base.Converted u (left (addDataPoint build c o)).base
      (left (addDataPoint build (u.call c) o')).base := by
  have outcome := addDataPoint_rescaled build related c below
  have counted : (o'.base.added (u.call c)).processedTimestamps = (o.base.added c).processedTimestamps :=
    (added_rescaled related c).base.processedTimestamps
  have returned' := outcome.failure.trans returned
  obtain ⟨low, high, estimates, _⟩ := Returns.estimates (failure?_eq_none.mp returned) recalculates
  obtain ⟨low', high', estimates', _⟩ :=
    Returns.estimates (failure?_eq_none.mp returned') (counted.symm ▸ recalculates)
  exact outcome.left.base.published estimates estimates'

end

theorem init_rescaled {M : Type} [Subclass M] [RescaledSubclass M] (u : Units) (max : ℚ) :
    (Object.init max : Object M).Rescaled (RescaledSubclass.members u) u max (Object.init max) :=
  ⟨Base.init_rescaled u max, RescaledSubclass.init u⟩

end MiniSynCPP
