import Mathlib.Algebra.Order.Field.Rat
import MiniSynCPP.Containers
import MiniSynCPP.Lines
import MiniSynCPP.Runs

/-!
# Points, constraint lines and the common base of the two algorithms

`long double` and `us_t` are exact rationals. A `shared_ptr` to a point is the
address of its allocation with the point, which never changes; two pointers
are equal when they came from one allocation.
-/

namespace MiniSynCPP

open Containers Runs

/-- What ends `addDataPoint` early. -/
inductive Failure
  /-- "Points in a constraint line cannot have the same REF timestamp!" -/
  | sameTimestamp
  /-- "current_low is null!" -/
  | lowNull
  /-- "current_high is null!" -/
  | highNull
  /-- "Drift must be >=0 for monotonically increasing clocks..." -/
  | drift
  /-- `std::out_of_range` of a slope lookup. -/
  | outOfRange
  deriving DecidableEq, Repr

structure Point where
  x : ℚ
  y : ℚ
  deriving DecidableEq

abbrev LowPoint := Point

abbrev HighPoint := Point

structure PointPtr extends Point where
  addr : ℕ
  deriving DecidableEq

abbrev LPointPtr := PointPtr

abbrev HPointPtr := PointPtr

structure ConstraintLine where
  a : ℚ
  b : ℚ
  deriving DecidableEq

/-- The constructor of `ConstraintLine`. -/
def ConstraintLine.new (p1 : LowPoint) (p2 : HighPoint) : Except Failure ConstraintLine :=
  if p1.x = p2.x then .error .sameTimestamp
  else
    let a := (p2.y - p1.y) / (p2.x - p1.x)
    .ok { a := a, b := p1.y - a * p1.x }

abbrev PointSet := OrderedSet (fun p : PointPtr => p.x)

abbrev Table := UnorderedMap (LPointPtr × HPointPtr) ConstraintLine

abbrev Entry := (LPointPtr × HPointPtr) × ConstraintLine

structure Estimate where
  value : ℚ
  error : ℚ
  deriving DecidableEq

/-- The members of `Base`. `nextAddr` is the allocator: the next fresh address. -/
structure Base where
  lowConstraints : Table
  highConstraints : Table
  lowPoints : PointSet
  highPoints : PointSet
  currentHigh : Option ConstraintLine
  currentLow : Option ConstraintLine
  highConstraintPts : Option LPointPtr × Option HPointPtr
  lowConstraintPts : Option LPointPtr × Option HPointPtr
  currentDrift : Estimate
  currentOffset : Estimate
  diffFactor : ℚ
  processedTimestamps : UInt32
  nextAddr : ℕ

/-- The constructor; `max` is `numeric_limits<long double>::max()`. -/
def Base.init (max : ℚ) : Base where
  lowConstraints := .empty
  highConstraints := .empty
  lowPoints := .empty
  highPoints := .empty
  currentHigh := none
  currentLow := none
  highConstraintPts := (none, none)
  lowConstraintPts := (none, none)
  currentDrift := ⟨1, 0⟩
  currentOffset := ⟨0, 0⟩
  diffFactor := max
  processedTimestamps := 0
  nextAddr := 0

namespace Base

def getDrift (s : Base) : ℚ := s.currentDrift.value

def getDriftError (s : Base) : ℚ := s.currentDrift.error

def getOffset (s : Base) : ℚ := s.currentOffset.value

def getOffsetError (s : Base) : ℚ := s.currentOffset.error

/-- `std::make_shared`. -/
def makeShared (p : Point) : EStateM Failure Base PointPtr := do
  let s ← get
  set { s with nextAddr := s.nextAddr + 1 }
  return { p with addr := s.nextAddr }

def addConstraint (lp : LPointPtr) (hp : HPointPtr) : EStateM Failure Base Bool := do
  let s ← get
  if lp.x = hp.x then return false
  else if lp.x < hp.x ∧ s.lowConstraints.contains (lp, hp) = false then
    let line ← ofExcept (ConstraintLine.new lp.toPoint hp.toPoint)
    set { s with lowConstraints := s.lowConstraints.emplace (lp, hp) line }
    return true
  else if lp.x > hp.x ∧ s.highConstraints.contains (lp, hp) = false then
    let line ← ofExcept (ConstraintLine.new lp.toPoint hp.toPoint)
    set { s with highConstraints := s.highConstraints.emplace (lp, hp) line }
    return true
  else return false

def addLowPoint (Tb To : ℚ) : EStateM Failure Base LPointPtr := do
  let lp ← makeShared ⟨Tb, To⟩
  (← get).highPoints.elems.forM fun hp => discard (addConstraint lp hp)
  modify fun s => { s with lowPoints := s.lowPoints.insert lp }
  return lp

def addHighPoint (Tb Tr : ℚ) : EStateM Failure Base HPointPtr := do
  let hp ← makeShared ⟨Tb, Tr⟩
  (← get).lowPoints.elems.forM fun lp => discard (addConstraint lp hp)
  modify fun s => { s with highPoints := s.highPoints.insert hp }
  return hp

/-- The product that the search for the tightest bound minimises. -/
def tmpDiff (low high : ConstraintLine) : ℚ := (low.a - high.a) * (high.b - low.b)

/-- Makes the two lines the current pair. -/
def take (s : Base) (low high : Entry) : Base :=
  { s with
    diffFactor := tmpDiff low.2 high.2
    currentLow := some low.2
    lowConstraintPts := (some low.1.1, some low.1.2)
    currentHigh := some high.2
    highConstraintPts := (some high.1.1, some high.1.2) }

/-- One comparison of the search. -/
def compare (s : Base) (low high : Entry) : Base :=
  if tmpDiff low.2 high.2 < s.diffFactor then s.take low high else s

/-- The search over all pairs of a low and a high constraint. -/
def findTightest (s : Base) (lows highs : List Entry) : Base :=
  lows.foldl (fun s low => highs.foldl (fun s high => s.compare low high) s) s

/-- The estimates from the current pair of lines. -/
def estimate (s : Base) (low high : ConstraintLine) : Base :=
  { s with
    currentDrift := ⟨(low.a + high.a) / 2, (low.a - high.a) / 2⟩
    currentOffset := ⟨(low.b + high.b) / 2, (high.b - low.b) / 2⟩ }

/-- `*iter` is one of the low points of the current pair. -/
def usesLow (s : Base) (p : LPointPtr) : Bool :=
  s.lowConstraintPts.1 = some p || s.highConstraintPts.1 = some p

/-- `*iter` is one of the high points of the current pair. -/
def usesHigh (s : Base) (p : HPointPtr) : Bool :=
  s.lowConstraintPts.2 = some p || s.highConstraintPts.2 = some p

/-- Both `cleanup`s end by putting the lines between the remaining points back
from the moved-out tables, with `put` for the insertion. -/
def restore (put : Table → LPointPtr × HPointPtr → ConstraintLine → Table) (old t : Base)
    (pair : LPointPtr × HPointPtr) : Base :=
  match old.lowConstraints.find? pair with
  | some line => { t with lowConstraints := put t.lowConstraints pair line }
  | none =>
    match old.highConstraints.find? pair with
    | some line => { t with highConstraints := put t.highConstraints pair line }
    | none => t

def rebuild (put : Table → LPointPtr × HPointPtr → ConstraintLine → Table) (s : Base) : Base :=
  s.highPoints.elems.foldl
    (fun t hPoint => s.lowPoints.elems.foldl (fun t lPoint => restore put s t (lPoint, hPoint)) t)
    { s with lowConstraints := .empty, highConstraints := .empty }

end Base

/-! ## Virtual functions -/

/-- An object of a subclass with further members `M`. -/
structure Object (M : Type) where
  base : Base
  members : M

/-- What a subclass adds to `Base`: its members and the virtual functions. -/
class Subclass (M : Type) where
  init : M
  addLowPoint : ℚ → ℚ → EStateM Failure (Object M) LPointPtr
  addHighPoint : ℚ → ℚ → EStateM Failure (Object M) HPointPtr
  cleanup : EStateM Failure (Object M) Unit

/-- A call of a `Base` function on an object of a subclass. -/
def onBase {M α : Type} (m : EStateM Failure Base α) : EStateM Failure (Object M) α := fun o =>
  match m o.base with
  | .ok a s => .ok a { o with base := s }
  | .error e s => .error e { o with base := s }

/-- The two builds: without and with `LIBMINISYNCPP_LOGURU_ENABLE`. -/
inductive Build
  | plain
  | loguru
  deriving DecidableEq, Repr

/-- The last check of a recalculation: `value <= 0` throws in the one build,
`CHECK_GE_F(value, 0)` fails in the other. -/
def driftFails : Build → ℚ → Bool
  | .plain, value => value ≤ 0
  | .loguru, value => value < 0

/-- A failed check ends the process in the loguru build. The exception of a
failed lookup is thrown in both. -/
def aborts : Build → Failure → Bool
  | .plain, _ => false
  | .loguru, e => e ≠ .outOfRange

/-- The arguments of one `addDataPoint`, with the orders in which this call
meets the entries of the two constraint tables. -/
structure Call where
  To : ℚ
  Tb : ℚ
  Tr : ℚ
  lowOrder : IterOrder Entry
  highOrder : IterOrder Entry

section
variable {M : Type} [Subclass M]

def Object.init (max : ℚ) : Object M := ⟨.init max, Subclass.init⟩

def recalculateEstimates (build : Build) (c : Call) : EStateM Failure (Object M) Unit := do
  onBase <| modify fun s => s.findTightest (c.lowOrder.visit s.lowConstraints.entries)
    (c.highOrder.visit s.highConstraints.entries)
  Subclass.cleanup
  let some low := (← get).base.currentLow | throw .lowNull
  let some high := (← get).base.currentHigh | throw .highNull
  onBase <| modify fun s => s.estimate low high
  if driftFails build (← get).base.currentDrift.value then throw .drift

def addDataPoint (build : Build) (c : Call) : EStateM Failure (Object M) Unit := do
  discard <| Subclass.addLowPoint c.Tb c.To
  discard <| Subclass.addHighPoint c.Tb c.Tr
  onBase <| modify fun s => { s with processedTimestamps := s.processedTimestamps + 1 }
  if (← get).base.processedTimestamps > 1 then recalculateEstimates build c

end

end MiniSynCPP
