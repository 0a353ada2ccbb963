import MiniSynCPP.Repeats

/-!
# From the local clock back to the reference

The estimator fits the local time over the reference time. The converter
applies the same line to a local reading, so it moves by the drift and the
offset once more instead of back.
-/

namespace MiniSynCPP

open Runs Lines

/-- `getCurrentAdjustedTime` with what the local clock reads. -/
def Base.getCurrentAdjustedTime (s : Base) (t_now : ℚ) : ℚ :=
  s.currentDrift.value * t_now + s.currentOffset.value

/-- Both bounds of every data point are on the line. -/
def OnLine (a b : ℚ) (calls : List Call) : Prop :=
  ∀ d ∈ calls, d.To = a * d.Tb + b ∧ d.Tr = a * d.Tb + b

theorem OnLine.past {a b : ℚ} {past more : List Call} (h : OnLine a b (past ++ more)) :
    OnLine a b past :=
  fun d hd => h d (List.mem_append_left more hd)

section
variable {a b : ℚ} {past : List Call}

theorem OnLine.low_eval (h : OnLine a b past) {p : ℚ × ℚ} (hp : p ∈ (samples past).lows) :
    (⟨a, b⟩ : Line ℚ).eval p.1 = p.2 := by
  obtain ⟨c, hc, rfl⟩ := hp
  exact (h c hc).1.symm

theorem OnLine.high_eval (h : OnLine a b past) {p : ℚ × ℚ} (hp : p ∈ (samples past).highs) :
    (⟨a, b⟩ : Line ℚ).eval p.1 = p.2 := by
  obtain ⟨c, hc, rfl⟩ := hp
  exact (h c hc).2.symm

theorem line_inj {l : ConstraintLine} (h : l.line = ⟨a, b⟩) : l = ⟨a, b⟩ := by
  cases h
  rfl

theorem OnLine.low_eq (h : OnLine a b past) {e : Entry} (he : IsLow past e) : e.2 = ⟨a, b⟩ := by
  apply line_inj
  rw [he.line_eq]
  exact through_eq he.later.ne (h.low_eval he.low) (h.high_eval he.high)

theorem OnLine.high_eq (h : OnLine a b past) {e : Entry} (he : IsHigh past e) : e.2 = ⟨a, b⟩ := by
  apply line_inj
  rw [he.line_eq]
  exact through_eq he.later.ne (h.high_eval he.high) (h.low_eval he.low)

/-- All products are zero. -/
theorem OnLine.productsBelow {build : Build} {algo : Algo} {max : ℚ} (h : OnLine a b past)
    (positive : 0 < max) : ProductsBelow build algo max past := by
  intro before c rest split o run _ low hl high hh
  rw [split, List.append_cons] at h
  have known := run_historical run
  rw [h.past.low_eq (known.added_low hl), h.past.high_eq (known.added_high hh)]
  simpa [Base.tmpDiff] using positive

end

/-- The published line is the line of the clocks, without error. -/
structure Fitted (a b : ℚ) (s : Base) : Prop where
  drift : s.currentDrift = ⟨a, 0⟩
  offset : s.currentOffset = ⟨b, 0⟩

section
variable {M : Type} [Subclass M] [LawfulSubclass M] [OrderedSubclass M] {build : Build}
  {max a b : ℚ} {past : List Call} {c : Call} {o t : Object M}

omit [LawfulSubclass M] [OrderedSubclass M] [Subclass M] in
theorem publish_set {low high : ConstraintLine} (hlow : t.base.currentLow = some low)
    (hhigh : t.base.currentHigh = some high) :
    left (publish build t) = { t with base := t.base.estimate low high } := by
  rw [publish_run, hlow, hhigh]
  simp only
  split <;> rfl

theorem Goes.fitted (run : Run (Goes build) (Object.init max) past o)
    (inOrder : InOrder (past ++ [c])) (onLine : OnLine a b (past ++ [c]))
    (ih : NonNull o.base → Fitted a b o.base) (step : Goes build o c t) (set : NonNull t.base) :
    Fitted a b t.base := by
  have known := run_historical run
  have left := step.left_eq
  obtain ⟨_, called⟩ | ⟨_, u, cleaned, _, called⟩ := addDataPoint_ready build
    (run_ready run inOrder.past) (known.lows_le inOrder) (known.highs_le inOrder)
  · rw [called] at left
    rw [← left] at set ⊢
    exact ⟨(ih set).drift, (ih set).offset⟩
  · obtain unset | ⟨low, high, isLow, isHigh, held⟩ := (run_historical (run.step step)).pair
    · exact absurd unset.currentLow set.1
    · obtain ⟨drift, offset, published⟩ := publish_left build u
      have pair : u.base.currentLow = some low.2 ∧ u.base.currentHigh = some high.2 := by
        rw [called, published] at left
        rw [← held.currentLow, ← held.currentHigh, ← left]
        exact ⟨rfl, rfl⟩
      rw [called, publish_set pair.1 pair.2, onLine.low_eq isLow, onLine.high_eq isHigh] at left
      rw [← left]
      simp only [Base.estimate]
      constructor
      · simp only [Estimate.mk.injEq]
        constructor <;> ring
      · simp only [Estimate.mk.injEq]
        constructor <;> ring

theorem run_fitted (run : Run (Goes build) (Object.init max) past o) (inOrder : InOrder past)
    (onLine : OnLine a b past) : NonNull o.base → Fitted a b o.base := by
  have both : InOrder past ∧ OnLine a b past := ⟨inOrder, onLine⟩
  refine run.invariant_of_inputs (Q := fun past => InOrder past ∧ OnLine a b past)
    (P := fun _ o => NonNull o.base → Fitted a b o.base) ?_ ?_ ?_ both
  · intro past c h
    exact ⟨h.1.past, h.2.past⟩
  · intro set
    exact absurd rfl set.1
  · intro past o c t before h ih step
    exact step.fitted before h.1 h.2 ih

end

/-- Applying a rising line twice comes back to `t` only where the line meets `t` at once. -/
theorem twice_eq_iff {a b t : ℚ} (drift : 0 < a) : a * (a * t + b) + b = t ↔ a * t + b = t := by
  constructor
  · intro back
    obtain lt | eq | gt := lt_trichotomy (a * t + b) t
    · have := mul_lt_mul_of_pos_left lt drift
      linarith
    · exact eq
    · have := mul_lt_mul_of_pos_left gt drift
      linarith
  · intro fixed
    rw [fixed, fixed]

/-- **When the adjusted time is the reference time.** With exact data points it is so only while the
local clock shows the reference time by itself. -/
theorem adjustedTime_eq_iff (algo : Algo) (build : Build) (max a b t : ℚ) (calls : List Call)
    (o : Object algo.Members) (run : Run (Goes build) (Object.init max) calls o)
    (positive : 0 < max) (drift : 0 < a) (increasing : Increasing calls) (two : 2 ≤ calls.length)
    (onLine : OnLine a b calls) :
    o.base.getCurrentAdjustedTime (a * t + b) = t ↔ a * t + b = t := by
  have set : NonNull o.base := by
    obtain ⟨x, same⟩ | set := run_nonNull run increasing.inOrder increasing.growsAtOnce
      (onLine.productsBelow positive)
    · cases calls with
      | nil => simp at two
      | cons c more =>
        cases more with
        | nil => simp at two
        | cons d more =>
          have lt : c.Tb < d.Tb := List.rel_of_pairwise_cons increasing (by simp)
          rw [same c (by simp), same d (by simp)] at lt
          exact absurd lt (lt_irrefl x)
    · exact set
  have fitted := run_fitted run increasing.inOrder onLine set
  unfold Base.getCurrentAdjustedTime
  rw [fitted.drift, fitted.offset]
  exact twice_eq_iff drift

/-- A clock twice as fast as the reference, at the instant when both show -1. -/
theorem adjustedTime_eq_once :
    let calls := [Call.listed 1 0 1, .listed 3 1 3]
    let o : Object MiniSync := (Object.init 1000).after .plain calls
    o.base.getCurrentAdjustedTime (2 * -1 + 1) = -1 ↔ (2 * -1 + 1 : ℚ) = -1 := by
  intro calls o
  exact adjustedTime_eq_iff .miniSync .plain 1000 2 1 (-1) calls o (run_after_plain _ calls)
    (by decide) (by decide) (by simp [calls, Increasing, Call.listed]) (by decide)
    (by simp [calls, OnLine, Call.listed]; norm_num)

/-- With exact data points the local reading is converted to the reference time. -/
def ConvertsBack (algo : Algo) : Prop :=
  ∀ (max a b t : ℚ) (calls : List Call) (o : Object algo.Members), 0 < max → 0 < a →
    Increasing calls → 2 ≤ calls.length → (∀ d ∈ calls, 0 ≤ d.Tb) → OnLine a b calls →
    Run (Goes .plain) (Object.init max) calls o → o.base.getCurrentAdjustedTime (a * t + b) = t

/-- A clock that is 1 ahead of the reference is moved on to 2 ahead. -/
theorem not_convertsBack : ¬ ConvertsBack .tinySync ∧ ¬ ConvertsBack .miniSync := by
  let calls := [Call.listed 1 0 1, .listed 2 1 2]
  have increasing : Increasing calls := by simp [calls, Increasing, Call.listed]
  have right : ∀ d ∈ calls, 0 ≤ d.Tb := by simp [calls, Call.listed]
  have onLine : OnLine 1 1 calls := by simp [calls, OnLine, Call.listed]; norm_num
  constructor
  · intro converts
    let o : Object (Algo.Members .tinySync) := (Object.init 1000).after .plain calls
    have back := converts 1000 1 1 0 calls o (by decide) (by decide) increasing (by decide) right
      onLine (run_after_plain _ calls)
    have adjusted : o.base.getCurrentAdjustedTime (1 * 0 + 1) = 2 := by decide +kernel
    rw [adjusted] at back
    exact absurd back (by decide)
  · intro converts
    let o : Object (Algo.Members .miniSync) := (Object.init 1000).after .plain calls
    have back := converts 1000 1 1 0 calls o (by decide) (by decide) increasing (by decide) right
      onLine (run_after_plain _ calls)
    have adjusted : o.base.getCurrentAdjustedTime (1 * 0 + 1) = 2 := by decide +kernel
    rw [adjusted] at back
    exact absurd back (by decide)

end MiniSynCPP
