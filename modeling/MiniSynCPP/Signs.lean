import MiniSynCPP.Selection

/-!
# The signs of the errors

The product of two gaps does not tell two negative gaps from two positive
ones, and a negative product is less than any other. When the stored points
and the new data point admit a common line no candidate lines cross, and all
gaps are open.
-/

namespace MiniSynCPP

open Containers Runs Lines

/-- A low and a high line in the order that makes both of their gaps nonnegative. -/
def InLine (low high : ConstraintLine) : Prop := high.a ≤ low.a ∧ low.b ≤ high.b

def ErrorsNonneg (s : Base) : Prop := 0 ≤ s.getDriftError ∧ 0 ≤ s.getOffsetError

/-- The estimates and the current pair have nonnegative errors. -/
structure Signed (s : Base) : Prop where
  errors : ErrorsNonneg s
  pair : ∀ low high, s.currentLow = some low → s.currentHigh = some high → InLine low high

/-- No two lines of the tables cross once the points of the call are added. -/
def Uncrossed (s : Base) (c : Call) : Prop :=
  ∀ low ∈ (s.added c).lowConstraints, ∀ high ∈ (s.added c).highConstraints, InLine low.2 high.2

/-- Lines between points that admit a common line do not cross. -/
theorem uncrossed_of_fits {s : Base} {c : Call} {f : Line ℚ} (hs : s.Mirrors)
    (fits : Fits (s.pointsWith c) f) (right : RightHalf (s.pointsWith c)) : Uncrossed s c := by
  intro low hl high hh
  obtain ⟨pl, ql, later⟩ := hs.low_points hl
  obtain ⟨qh, ph, later'⟩ := hs.high_points hh
  have above := slope_le_through fits pl ql later
  have below := through_slope_le fits qh ph later'
  have left := through_icept_le fits pl (right.1 _ pl) above
  have right := le_through_icept fits qh (right.2 _ qh) below
  rw [← hs.low_line hl] at above left
  rw [← hs.high_line hh] at below right
  exact ⟨below.trans above, left.trans right⟩

section
variable {M : Type} [Subclass M] [LawfulSubclass M] {build : Build} {o t : Object M} {c : Call}

omit [LawfulSubclass M] in
theorem Signed.pruned {t : Base} (h : Signed o.base) (uncrossed : Uncrossed o.base c)
    (prunes : (o.searched c).base.Prunes t) : Signed t := by
  have tight := searched_tightest o c
  obtain ⟨_, drift, offset⟩ := tight.untouched
  have same := prunes.samePair
  constructor
  · unfold ErrorsNonneg Base.getDriftError Base.getOffsetError
    rw [prunes.frame]
    simp only [drift, offset]
    exact h.errors
  · intro low high hlow hhigh
    rw [same.currentLow] at hlow
    rw [same.currentHigh] at hhigh
    obtain unchanged | ⟨l, hl, u, hu, _, taken⟩ := tight.taken
    · rw [unchanged] at hlow hhigh
      exact h.pair low high hlow hhigh
    · rw [taken] at hlow hhigh
      cases hlow
      cases hhigh
      exact uncrossed l hl u hu

theorem Signed.estimate {t : Base} {low high : ConstraintLine} (h : Signed t)
    (hlow : t.currentLow = some low) (hhigh : t.currentHigh = some high) :
    Signed (t.estimate low high) := by
  obtain ⟨slopes, icepts⟩ := h.pair low high hlow hhigh
  refine ⟨?_, h.pair⟩
  unfold ErrorsNonneg Base.getDriftError Base.getOffsetError Base.estimate
  simp only
  constructor <;> linarith

theorem Signed.step (h : Signed o.base) (uncrossed : Uncrossed o.base c) (goes : Goes build o c t) :
    Signed t.base := by
  rw [← goes.left_eq]
  have outcome := addDataPoint_outcome build o c
  generalize addDataPoint build c o = result at outcome ⊢
  cases outcome with
  | counted => exact ⟨h.errors, h.pair⟩
  | interrupted _ stopped =>
    have prunes := LawfulSubclass.cleanup_prunes (o.searched c)
    rw [stopped] at prunes
    exact h.pruned uncrossed prunes
  | lowNull _ cleaned => exact h.pruned uncrossed (cleanup_ok_prunes cleaned)
  | highNull _ cleaned => exact h.pruned uncrossed (cleanup_ok_prunes cleaned)
  | drift _ cleaned hlow hhigh =>
    exact (h.pruned uncrossed (cleanup_ok_prunes cleaned)).estimate hlow hhigh
  | returned _ cleaned hlow hhigh =>
    exact (h.pruned uncrossed (cleanup_ok_prunes cleaned)).estimate hlow hhigh

/-- One line fits the stored points and the new data point. -/
def Feasible (s : Base) (c : Call) : Prop := ∃ f, Fits (s.pointsWith c) f

theorem fits_pointsWith {s : Base} {c : Call} {a b : ℚ} : Fits (s.pointsWith c) ⟨a, b⟩ ↔
    ((∀ l ∈ s.lowPoints.elems, l.y ≤ a * l.x + b) ∧ ∀ h ∈ s.highPoints.elems, a * h.x + b ≤ h.y) ∧
      c.To ≤ a * c.Tb + b ∧ a * c.Tb + b ≤ c.Tr := by
  constructor
  · intro fits
    exact ⟨⟨fun l hl => fits.1 _ ⟨l, .inl hl, rfl⟩, fun h hh => fits.2 _ ⟨h, .inl hh, rfl⟩⟩,
      fits.1 _ ⟨s.newLow c, .inr rfl, rfl⟩, fits.2 _ ⟨s.newHigh c, .inr rfl, rfl⟩⟩
  · rintro ⟨⟨lows, highs⟩, new, new'⟩
    constructor
    · rintro p ⟨l, hl | rfl, rfl⟩
      · exact lows l hl
      · exact new
    · rintro p ⟨h, hh | rfl, rfl⟩
      · exact highs h hh
      · exact new'

end

/-- **When the errors are nonnegative.** They are in every state of every run in which one line fits
what is stored and the new data point, call by call: not the same line at each call, and not the
points that have been dropped. -/
theorem errors_nonneg (algo : Algo) (build : Build) (max : ℚ) (past : List Call)
    (o : Object algo.Members)
    (run : Run (fun o c t => Feasible o.base c ∧ Goes build o c t) (Object.init max) past o)
    (increasing : Increasing past) (right : ∀ d ∈ past, 0 ≤ d.Tb) : ErrorsNonneg o.base := by
  have inputs : Increasing past ∧ ∀ d ∈ past, 0 ≤ d.Tb := ⟨increasing, right⟩
  have signed : Signed o.base := by
    refine run.invariant_of_inputs (Q := fun past => Increasing past ∧ ∀ d ∈ past, 0 ≤ d.Tb)
      (P := fun _ o => Signed o.base) ?_ ?_ ?_ inputs
    · intro past c h
      exact ⟨h.1.past, fun d hd => h.2 d (List.mem_append_left [c] hd)⟩
    · refine ⟨⟨le_refl _, le_refl _⟩, ?_⟩
      intro low high hlow _
      cases hlow
    · intro past o c t before h signed step
      obtain ⟨⟨f, fits⟩, goes⟩ := step
      have ran := before.mono fun _ _ _ h => h.2
      obtain ⟨hs, _⟩ := run_kept ran h.1.past
      have atRight := Base.rightHalf_sub (rightHalf_samples h.2)
        ((run_historical ran).pointsWith_sub c)
      exact signed.step (uncrossed_of_fits hs fits atRight) goes
  exact signed.errors

/-- No line fits all five data points, but when the last one arrives the low point that rules out its
line has been dropped. -/
theorem errors_nonneg_five :
    ErrorsNonneg ((Object.init 1000 : Object (Algo.Members .tinySync)).after .plain
      [.listed (-4) 0 1, .listed 1 1 5, .listed 2 2 7, .listed 2 3 4, .listed 6 4 7]).base := by
  have run := run_after_plain (Object.init 1000 : Object (Algo.Members .tinySync))
    [.listed (-4) 0 1, .listed 1 1 5, .listed 2 2 7, .listed 2 3 4, .listed 6 4 7]
  apply errors_nonneg .tinySync .plain 1000 _ _ (run.with_condition ?_)
    (by simp [Increasing, Call.listed]; norm_num) (by simp [Call.listed])
  refine forall_split_cons ?_ (forall_split_cons ?_ (forall_split_cons ?_ (forall_split_cons ?_
    (forall_split_cons ?_ forall_split_nil))))
  case refine_5 =>
    intro o before
    rw [run_eq_after before]
    exact ⟨⟨2, -2⟩, fits_pointsWith.mpr (by decide +kernel)⟩
  all_goals
    intro o before
    rw [run_eq_after before]
    exact ⟨⟨1 / 2, 1⟩, fits_pointsWith.mpr (by decide +kernel)⟩

/-- No call that returns leaves a negative error. -/
def ErrorsNeverNegative (algo : Algo) : Prop :=
  ∀ (build : Build) (max : ℚ) (past : List Call) (c : Call) (o o' : Object algo.Members),
    Run (Goes build) (Object.init max) past o → Returns build o c o' →
    (∀ d ∈ past ++ [c], d.To ≤ d.Tr) → Increasing (past ++ [c]) → (∀ d ∈ past ++ [c], 0 ≤ d.Tb) →
    ErrorsNonneg o'.base

/-- Three data points that no line fits, the clocks having drifted, leave a
drift error of -1/4. -/
theorem not_errorsNeverNegative :
    ¬ ErrorsNeverNegative .tinySync ∧ ¬ ErrorsNeverNegative .miniSync := by
  constructor
  · intro never
    let past := [Call.listed 0 0 1, .listed 2 1 2]
    let o : Object TinySync := (Object.init 1000).after .plain past
    let o' : Object TinySync := left (addDataPoint .plain (.listed 0 2 1) o)
    have returns : Returns .plain o (.listed 0 2 1) o' := failure?_eq_none.mp (by decide +kernel)
    have nonneg := never .plain 1000 past (.listed 0 2 1) o o' (run_after_plain _ past) returns
      (by simp [past, Call.listed]) (by simp [past, Increasing, Call.listed])
      (by simp [past, Call.listed])
    have negative : o'.base.getDriftError < 0 := by decide +kernel
    exact absurd nonneg.1 (not_le.mpr negative)
  · intro never
    let past := [Call.listed 0 0 1, .listed 2 1 2]
    let o : Object MiniSync := (Object.init 1000).after .plain past
    let o' : Object MiniSync := left (addDataPoint .plain (.listed 0 2 1) o)
    have returns : Returns .plain o (.listed 0 2 1) o' := failure?_eq_none.mp (by decide +kernel)
    have nonneg := never .plain 1000 past (.listed 0 2 1) o o' (run_after_plain _ past) returns
      (by simp [past, Call.listed]) (by simp [past, Increasing, Call.listed])
      (by simp [past, Call.listed])
    have negative : o'.base.getDriftError < 0 := by decide +kernel
    exact absurd nonneg.1 (not_le.mpr negative)

end MiniSynCPP
