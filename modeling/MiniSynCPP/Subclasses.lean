import MiniSynCPP.Base

/-!
# TinySync and MiniSync
-/

namespace MiniSynCPP

open Containers Runs

/-! ## TinySync -/

/-- TinySync has no members of its own. -/
structure TinySync where
  deriving DecidableEq

namespace TinySync

def cleanup : EStateM Failure (Object TinySync) Unit :=
  onBase <| modify fun s =>
    let s := { s with lowPoints := s.lowPoints.eraseIf (fun p => !s.usesLow p) }
    let s := { s with highPoints := s.highPoints.eraseIf (fun p => !s.usesHigh p) }
    s.rebuild .assign

instance : Subclass TinySync where
  init := {}
  addLowPoint Tb To := onBase (Base.addLowPoint Tb To)
  addHighPoint Tb Tr := onBase (Base.addHighPoint Tb Tr)
  cleanup := cleanup

end TinySync

/-! ## MiniSync -/

abbrev SlopeTable := UnorderedMap (PointPtr × PointPtr) ℚ

structure MiniSync where
  lowSlopes : SlopeTable
  highSlopes : SlopeTable

def slope (olp lp : PointPtr) : ℚ := (lp.y - olp.y) / (lp.x - olp.x)

/-- The slopes from the stored points to the newest one, which is always the
second of the pair. -/
def addSlopes (points : PointSet) (slopes : SlopeTable) (lp : PointPtr) : SlopeTable :=
  points.elems.foldl (fun t olp =>
    if lp.x = olp.x then t else t.emplace (olp, lp) (slope olp lp)) slopes

/-- The points of one side with the slopes between them. -/
structure Side where
  points : PointSet
  slopes : SlopeTable

/-- `slopes.at(pair)`. -/
def slopeAt (slopes : SlopeTable) (pair : PointPtr × PointPtr) : Except Failure ℚ :=
  match slopes.find? pair with
  | some m => .ok m
  | none => .error .outOfRange

/-- Whether some slope into `j` and some slope out of `j` compare as `cmp` asks. -/
def storeTest (cmp : ℚ → ℚ → Bool) (t : Side) (j : PointPtr) : Except Failure Bool :=
  (t.points.before j).anyM fun i => (t.points.after j).anyM fun k => do
    return cmp (← slopeAt t.slopes (i, j)) (← slopeAt t.slopes (j, k))

/-- Deletes a point and all slopes at it. -/
def Side.forget (t : Side) (j : PointPtr) : Side where
  points := t.points.erase j
  slopes := t.slopes.eraseIf (fun e => e.1.1 = j || e.1.2 = j)

def pruneAt (used : PointPtr → Bool) (cmp : ℚ → ℚ → Bool) (j : PointPtr) :
    EStateM Failure Side PUnit := do
  if !used j then
    let store ← ofExcept (storeTest cmp (← get) j)
    if !store then modify fun t => t.forget j

/-- The loop over one side that both halves of `cleanup` are. -/
def prune (used : PointPtr → Bool) (cmp : ℚ → ℚ → Bool) : EStateM Failure Side PUnit := do
  (← get).points.elems.forM (pruneAt used cmp)

namespace MiniSync

def onLows {α : Type} (m : EStateM Failure Side α) : EStateM Failure (Object MiniSync) α :=
  fun o =>
    let put (t : Side) : Object MiniSync :=
      ⟨{ o.base with lowPoints := t.points }, { o.members with lowSlopes := t.slopes }⟩
    match m ⟨o.base.lowPoints, o.members.lowSlopes⟩ with
    | .ok a t => .ok a (put t)
    | .error e t => .error e (put t)

def onHighs {α : Type} (m : EStateM Failure Side α) : EStateM Failure (Object MiniSync) α :=
  fun o =>
    let put (t : Side) : Object MiniSync :=
      ⟨{ o.base with highPoints := t.points }, { o.members with highSlopes := t.slopes }⟩
    match m ⟨o.base.highPoints, o.members.highSlopes⟩ with
    | .ok a t => .ok a (put t)
    | .error e t => .error e (put t)

def addLowPoint (Tb To : ℚ) : EStateM Failure (Object MiniSync) LPointPtr := do
  let lp ← onBase (Base.addLowPoint Tb To)
  modify fun o =>
    { o with members.lowSlopes := addSlopes o.base.lowPoints o.members.lowSlopes lp }
  return lp

def addHighPoint (Tb Tr : ℚ) : EStateM Failure (Object MiniSync) HPointPtr := do
  let hp ← onBase (Base.addHighPoint Tb Tr)
  modify fun o =>
    { o with members.highSlopes := addSlopes o.base.highPoints o.members.highSlopes hp }
  return hp

/-- A low point between others is stored iff it is above one of their chords,
a high point iff it is below one. -/
def cleanup : EStateM Failure (Object MiniSync) Unit := do
  onLows (prune (← get).base.usesLow (fun m m' => m > m'))
  onHighs (prune (← get).base.usesHigh (fun m m' => m < m'))
  onBase <| modify fun s => s.rebuild .emplace

instance : Subclass MiniSync where
  init := ⟨.empty, .empty⟩
  addLowPoint := addLowPoint
  addHighPoint := addHighPoint
  cleanup := cleanup

end MiniSync

/-- The two algorithms that `API::Factory` creates. -/
inductive Algo
  | tinySync
  | miniSync
  deriving DecidableEq, Repr

abbrev Algo.Members : Algo → Type
  | .tinySync => TinySync
  | .miniSync => MiniSync

instance : (algo : Algo) → Subclass algo.Members
  | .tinySync => inferInstanceAs (Subclass TinySync)
  | .miniSync => inferInstanceAs (Subclass MiniSync)

end MiniSynCPP
