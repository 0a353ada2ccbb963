import Mathlib.Algebra.Order.Field.Basic
import Mathlib.Order.Interval.Set.Basic
import Mathlib.Tactic.FieldSimp
import Mathlib.Tactic.Linarith
import Mathlib.Tactic.Ring

/-!
# Lines between low and high points

Points of the plane that a line has to pass above (`lows`) and below
(`highs`). An *upper* line is a fitting line that touches a low point and a
later high point, a *lower* line one that touches a high point and a later
low point. They are the steepest and the flattest fitting lines, and at
nonnegative abscissas also the ones of least and of greatest intercept.
-/

namespace Lines

structure Line (K : Type) where
  slope : K
  icept : K
  deriving DecidableEq

/-- Bounds on a line at given abscissas: it runs above `lows` and below `highs`. -/
@[ext]
structure Points (K : Type) where
  lows : Set (K × K)
  highs : Set (K × K)

variable {K : Type} [Field K]

def Line.eval (f : Line K) (x : K) : K := f.slope * x + f.icept

/-- The line through two points of different abscissas. -/
def through (p q : K × K) : Line K where
  slope := (q.2 - p.2) / (q.1 - p.1)
  icept := p.2 - (q.2 - p.2) / (q.1 - p.1) * p.1

@[simp] theorem through_left (p q : K × K) : (through p q).eval p.1 = p.2 := by
  simp [through, Line.eval]

theorem through_right {p q : K × K} (h : p.1 ≠ q.1) : (through p q).eval q.1 = q.2 := by
  have hne : q.1 - p.1 ≠ 0 := sub_ne_zero.mpr h.symm
  simp only [through, Line.eval]
  field_simp
  ring

theorem through_eq {f : Line K} {p q : K × K} (h : p.1 ≠ q.1) (hp : f.eval p.1 = p.2)
    (hq : f.eval q.1 = q.2) : through p q = f := by
  have hne : q.1 - p.1 ≠ 0 := sub_ne_zero.mpr h.symm
  have slope : (q.2 - p.2) / (q.1 - p.1) = f.slope := by
    rw [← hp, ← hq, Line.eval, Line.eval, div_eq_iff hne]
    ring
  have icept : p.2 - f.slope * p.1 = f.icept := by
    rw [← hp, Line.eval]
    ring
  rw [through, slope, icept]

theorem through_comm {p q : K × K} (h : p.1 ≠ q.1) : through p q = through q p := by
  have hpq : q.1 - p.1 ≠ 0 := sub_ne_zero.mpr h.symm
  have hqp : p.1 - q.1 ≠ 0 := sub_ne_zero.mpr h
  have hs : (q.2 - p.2) / (q.1 - p.1) = (p.2 - q.2) / (p.1 - q.1) := by
    rw [div_eq_div_iff hpq hqp]; ring
  simp only [through, Line.mk.injEq, hs, true_and]
  field_simp
  ring

/-- Reflection at the horizontal axis, which exchanges low and high points. -/
def Line.mirror (f : Line K) : Line K := ⟨-f.slope, -f.icept⟩

def mirror (p : K × K) : K × K := (p.1, -p.2)

def Points.mirror (D : Points K) : Points K where
  lows := {p | Lines.mirror p ∈ D.highs}
  highs := {p | Lines.mirror p ∈ D.lows}

@[simp] theorem mirror_mirror (p : K × K) : mirror (mirror p) = p := by simp [mirror]

@[simp] theorem mirror_fst (p : K × K) : (mirror p).1 = p.1 := rfl

@[simp] theorem mirror_snd (p : K × K) : (mirror p).2 = -p.2 := rfl

@[simp] theorem Points.mirror_mirror (D : Points K) : D.mirror.mirror = D := by
  simp [Points.mirror]

@[simp] theorem Line.mirror_mirror (f : Line K) : f.mirror.mirror = f := by simp [Line.mirror]

@[simp] theorem Line.mirror_eval (f : Line K) (x : K) : f.mirror.eval x = -f.eval x := by
  simp only [Line.mirror, Line.eval]; ring

@[simp] theorem mem_mirror_lows {D : Points K} {p : K × K} :
    p ∈ D.mirror.lows ↔ mirror p ∈ D.highs := Iff.rfl

@[simp] theorem mem_mirror_highs {D : Points K} {p : K × K} :
    p ∈ D.mirror.highs ↔ mirror p ∈ D.lows := Iff.rfl

theorem through_mirror (p q : K × K) : through (mirror p) (mirror q) = (through p q).mirror := by
  simp only [through, Line.mirror, mirror, Line.mk.injEq]
  constructor <;> ring

variable [LinearOrder K]

def Fits (D : Points K) (f : Line K) : Prop :=
  (∀ p ∈ D.lows, p.2 ≤ f.eval p.1) ∧ ∀ q ∈ D.highs, f.eval q.1 ≤ q.2

/-- No point of `D` is on the line. -/
def Brackets (D : Points K) (f : Line K) : Prop :=
  (∀ p ∈ D.lows, p.2 < f.eval p.1) ∧ ∀ q ∈ D.highs, f.eval q.1 < q.2

/-- Every point of `D` has a nonnegative abscissa. -/
def RightHalf (D : Points K) : Prop :=
  (∀ p ∈ D.lows, 0 ≤ p.1) ∧ ∀ q ∈ D.highs, 0 ≤ q.1

theorem Brackets.fits {D : Points K} {f : Line K} (h : Brackets D f) : Fits D f :=
  ⟨fun p hp => (h.1 p hp).le, fun q hq => (h.2 q hq).le⟩

def Points.Sub (D E : Points K) : Prop := D.lows ⊆ E.lows ∧ D.highs ⊆ E.highs

theorem Fits.sub {D E : Points K} {f : Line K} (h : Fits E f) (hs : D.Sub E) : Fits D f :=
  ⟨fun p hp => h.1 p (hs.1 hp), fun q hq => h.2 q (hs.2 hq)⟩

theorem Brackets.sub {D E : Points K} {f : Line K} (h : Brackets E f) (hs : D.Sub E) :
    Brackets D f :=
  ⟨fun p hp => h.1 p (hs.1 hp), fun q hq => h.2 q (hs.2 hq)⟩

variable [IsStrictOrderedRing K]

section Crossing
variable {f g : Line K} {x x₁ x₂ : K}

/-- A line that starts below another and ends above it is the steeper one. -/
theorem slope_le_of_cross (h : x₁ < x₂) (h₁ : g.eval x₁ ≤ f.eval x₁)
    (h₂ : f.eval x₂ ≤ g.eval x₂) : f.slope ≤ g.slope := by
  simp only [Line.eval] at h₁ h₂
  by_contra hlt
  have : 0 < (f.slope - g.slope) * (x₂ - x₁) :=
    mul_pos (sub_pos.mpr (not_le.mp hlt)) (sub_pos.mpr h)
  linarith

theorem slope_lt_of_cross (h : x₁ < x₂) (h₁ : g.eval x₁ < f.eval x₁)
    (h₂ : f.eval x₂ ≤ g.eval x₂) : f.slope < g.slope := by
  refine lt_of_le_of_ne (slope_le_of_cross h h₁.le h₂) fun e => ?_
  simp only [Line.eval, e] at h₁ h₂
  linarith

theorem slope_lt_of_cross' (h : x₁ < x₂) (h₁ : g.eval x₁ ≤ f.eval x₁)
    (h₂ : f.eval x₂ < g.eval x₂) : f.slope < g.slope := by
  refine lt_of_le_of_ne (slope_le_of_cross h h₁ h₂.le) fun e => ?_
  simp only [Line.eval, e] at h₁ h₂
  linarith

/-- To the left of a point where it is below, the steeper line stays below. -/
theorem eval_le_left (hs : f.slope ≤ g.slope) (hx : x ≤ x₁) (h : g.eval x₁ ≤ f.eval x₁) :
    g.eval x ≤ f.eval x := by
  simp only [Line.eval] at *
  have : 0 ≤ (g.slope - f.slope) * (x₁ - x) := mul_nonneg (sub_nonneg.mpr hs) (sub_nonneg.mpr hx)
  linarith

/-- To the right of a point where it is above, the steeper line stays above. -/
theorem eval_le_right (hs : f.slope ≤ g.slope) (hx : x₁ ≤ x) (h : f.eval x₁ ≤ g.eval x₁) :
    f.eval x ≤ g.eval x := by
  simp only [Line.eval] at *
  have : 0 ≤ (g.slope - f.slope) * (x - x₁) := mul_nonneg (sub_nonneg.mpr hs) (sub_nonneg.mpr hx)
  linarith

theorem eval_le_between (hx₁ : x₁ ≤ x) (hx₂ : x ≤ x₂) (h₁ : f.eval x₁ ≤ g.eval x₁)
    (h₂ : f.eval x₂ ≤ g.eval x₂) : f.eval x ≤ g.eval x := by
  rcases le_total f.slope g.slope with hs | hs
  · exact eval_le_right hs hx₁ h₁
  · exact eval_le_left hs hx₂ h₂

theorem icept_le_left (hs : f.slope ≤ g.slope) (hx : 0 ≤ x₁) (h : g.eval x₁ ≤ f.eval x₁) :
    g.icept ≤ f.icept := by
  simpa [Line.eval] using eval_le_left hs hx h

theorem eq_of_slope_of_eval (hs : f.slope = g.slope) (h : f.eval x = g.eval x) : f = g := by
  obtain ⟨a, b⟩ := f
  obtain ⟨c, d⟩ := g
  simp only [Line.eval] at hs h
  subst hs
  simpa using h

end Crossing

/-- The lines through a low point and a later high point bound every fitting
line from above. -/
theorem slope_le_through {D : Points K} {f : Line K} (hf : Fits D f) {p q : K × K}
    (hp : p ∈ D.lows) (hq : q ∈ D.highs) (hx : p.1 < q.1) : f.slope ≤ (through p q).slope :=
  slope_le_of_cross hx ((through_left p q).trans_le (hf.1 p hp))
    ((hf.2 q hq).trans_eq (through_right hx.ne).symm)

theorem slope_lt_through {D : Points K} {f : Line K} (hf : Brackets D f) {p q : K × K}
    (hp : p ∈ D.lows) (hq : q ∈ D.highs) (hx : p.1 < q.1) : f.slope < (through p q).slope :=
  slope_lt_of_cross hx ((through_left p q).trans_lt (hf.1 p hp))
    ((hf.2 q hq).le.trans_eq (through_right hx.ne).symm)

theorem through_icept_le {D : Points K} {f : Line K} (hf : Fits D f) {p q : K × K}
    (hp : p ∈ D.lows) (h0 : 0 ≤ p.1) (hs : f.slope ≤ (through p q).slope) :
    (through p q).icept ≤ f.icept :=
  icept_le_left hs h0 ((through_left p q).trans_le (hf.1 p hp))

theorem through_icept_lt {D : Points K} {f : Line K} (hf : Brackets D f) {p q : K × K}
    (hp : p ∈ D.lows) (h0 : 0 ≤ p.1) (hs : f.slope ≤ (through p q).slope) :
    (through p q).icept < f.icept := by
  have below : (through p q).eval p.1 < f.eval p.1 := (through_left p q).trans_lt (hf.1 p hp)
  simp only [Line.eval] at below
  have : 0 ≤ ((through p q).slope - f.slope) * p.1 := mul_nonneg (sub_nonneg.mpr hs) h0
  linarith

theorem fits_mirror {D : Points K} {f : Line K} (h : Fits D f) : Fits D.mirror f.mirror := by
  refine ⟨fun p hp => ?_, fun q hq => ?_⟩
  · have := h.2 _ (mem_mirror_lows.mp hp)
    simp only [mirror_fst, mirror_snd] at this
    simpa using neg_le_neg this
  · have := h.1 _ (mem_mirror_highs.mp hq)
    simp only [mirror_fst, mirror_snd] at this
    simpa using neg_le_neg this

theorem brackets_mirror {D : Points K} {f : Line K} (h : Brackets D f) :
    Brackets D.mirror f.mirror := by
  refine ⟨fun p hp => ?_, fun q hq => ?_⟩
  · have := h.2 _ (mem_mirror_lows.mp hp)
    simp only [mirror_fst, mirror_snd] at this
    simpa using neg_lt_neg this
  · have := h.1 _ (mem_mirror_highs.mp hq)
    simp only [mirror_fst, mirror_snd] at this
    simpa using neg_lt_neg this

omit [IsStrictOrderedRing K] in
theorem rightHalf_mirror {D : Points K} (h : RightHalf D) : RightHalf D.mirror :=
  ⟨fun p hp => h.2 (mirror p) hp, fun q hq => h.1 (mirror q) hq⟩

/-- The same for a high point and a later low point. -/
theorem through_slope_le {D : Points K} {f : Line K} (hf : Fits D f) {q p : K × K}
    (hq : q ∈ D.highs) (hp : p ∈ D.lows) (hx : q.1 < p.1) : (through q p).slope ≤ f.slope := by
  have := slope_le_through (fits_mirror hf) (p := mirror q) (q := mirror p) (by simpa) (by simpa) hx
  rw [through_mirror] at this
  exact neg_le_neg_iff.mp this

theorem through_slope_lt {D : Points K} {f : Line K} (hf : Brackets D f) {q p : K × K}
    (hq : q ∈ D.highs) (hp : p ∈ D.lows) (hx : q.1 < p.1) : (through q p).slope < f.slope := by
  have := slope_lt_through (brackets_mirror hf) (p := mirror q) (q := mirror p) (by simpa) (by simpa)
    hx
  rw [through_mirror] at this
  exact neg_lt_neg_iff.mp this

theorem le_through_icept {D : Points K} {f : Line K} (hf : Fits D f) {q p : K × K}
    (hq : q ∈ D.highs) (h0 : 0 ≤ q.1) (hs : (through q p).slope ≤ f.slope) :
    f.icept ≤ (through q p).icept := by
  apply icept_le_left hs h0
  exact (hf.2 q hq).trans_eq (through_left q p).symm

theorem lt_through_icept {D : Points K} {f : Line K} (hf : Brackets D f) {q p : K × K}
    (hq : q ∈ D.highs) (h0 : 0 ≤ q.1) (hs : (through q p).slope ≤ f.slope) :
    f.icept < (through q p).icept := by
  have := through_icept_lt (brackets_mirror hf) (p := mirror q) (q := mirror p) (by simpa) h0
    (by rw [through_mirror]; exact neg_le_neg hs)
  rw [through_mirror] at this
  exact neg_lt_neg_iff.mp this

/-! ## Upper and lower lines -/

/-- `f` fits and is held by the low point `p` and the later high point `q`. -/
structure Upper (D : Points K) (f : Line K) (p q : K × K) : Prop where
  fits : Fits D f
  low : p ∈ D.lows
  high : q ∈ D.highs
  later : p.1 < q.1
  at_low : f.eval p.1 = p.2
  at_high : f.eval q.1 = q.2

/-- `f` fits and is held by the high point `q` and the later low point `p`. -/
structure Lower (D : Points K) (f : Line K) (q p : K × K) : Prop where
  fits : Fits D f
  high : q ∈ D.highs
  low : p ∈ D.lows
  later : q.1 < p.1
  at_high : f.eval q.1 = q.2
  at_low : f.eval p.1 = p.2

section Extremes
variable {D : Points K} {f g l u : Line K} {p q p' q' : K × K}

theorem Lower.mirror (h : Lower D f q p) :
    Upper D.mirror f.mirror (Lines.mirror q) (Lines.mirror p) :=
  ⟨fits_mirror h.fits, by simpa using h.high, by simpa using h.low, h.later, by simp [h.at_high],
    by simp [h.at_low]⟩

theorem Upper.mirror (h : Upper D f p q) :
    Lower D.mirror f.mirror (Lines.mirror p) (Lines.mirror q) :=
  ⟨fits_mirror h.fits, by simpa using h.low, by simpa using h.high, h.later, by simp [h.at_low],
    by simp [h.at_high]⟩

/-- The upper line is the steepest fitting line. -/
theorem Upper.slope_le (h : Upper D f p q) (hg : Fits D g) : g.slope ≤ f.slope :=
  slope_le_of_cross h.later (h.at_low.trans_le (hg.1 p h.low))
    ((hg.2 q h.high).trans_eq h.at_high.symm)

/-- The upper line meets the vertical axis below every fitting line. -/
theorem Upper.icept_le (h : Upper D f p q) (h0 : RightHalf D) (hg : Fits D g) :
    f.icept ≤ g.icept :=
  icept_le_left (h.slope_le hg) (h0.1 p h.low) (h.at_low.trans_le (hg.1 p h.low))

/-- To the right of its points the upper line is above every fitting line. -/
theorem Upper.le_right (h : Upper D f p q) (hg : Fits D g) {x : K} (hx : q.1 ≤ x) :
    g.eval x ≤ f.eval x :=
  eval_le_right (h.slope_le hg) hx ((hg.2 q h.high).trans_eq h.at_high.symm)

theorem Lower.le_slope (h : Lower D f q p) (hg : Fits D g) : f.slope ≤ g.slope := by
  simpa [Line.mirror] using h.mirror.slope_le (fits_mirror hg)

theorem Lower.le_icept (h : Lower D f q p) (h0 : RightHalf D) (hg : Fits D g) :
    g.icept ≤ f.icept := by
  simpa [Line.mirror] using h.mirror.icept_le (rightHalf_mirror h0) (fits_mirror hg)

theorem Lower.le_right (h : Lower D f q p) (hg : Fits D g) {x : K} (hx : p.1 ≤ x) :
    f.eval x ≤ g.eval x := by
  simpa using h.mirror.le_right (fits_mirror hg) hx

/-- The mean of two fitting lines with weights `t` and `1 - t` fits. -/
theorem Fits.mix (hf : Fits D f) (hg : Fits D g) {t : K}
    (h0 : 0 ≤ t) (h1 : t ≤ 1) :
    Fits D ⟨t * f.slope + (1 - t) * g.slope, t * f.icept + (1 - t) * g.icept⟩ := by
  have value : ∀ x, (⟨t * f.slope + (1 - t) * g.slope,
      t * f.icept + (1 - t) * g.icept⟩ : Line K).eval x = t * f.eval x + (1 - t) * g.eval x := by
    intro x
    simp only [Line.eval]
    ring
  have h1' : 0 ≤ 1 - t := sub_nonneg.mpr h1
  refine ⟨fun p hp => ?_, fun q hq => ?_⟩
  · rw [value]
    have := mul_le_mul_of_nonneg_left (hf.1 p hp) h0
    have := mul_le_mul_of_nonneg_left (hg.1 p hp) h1'
    linarith
  · rw [value]
    have := mul_le_mul_of_nonneg_left (hf.2 q hq) h0
    have := mul_le_mul_of_nonneg_left (hg.2 q hq) h1'
    linarith

theorem exists_weight {a b c : K} (hab : a ≤ c) (hcb : c ≤ b) :
    ∃ t, 0 ≤ t ∧ t ≤ 1 ∧ t * a + (1 - t) * b = c := by
  rcases hab.eq_or_lt with rfl | hlt
  · exact ⟨1, zero_le_one, le_refl 1, by ring⟩
  · have pos : 0 < b - a := by linarith
    refine ⟨(b - c) / (b - a), div_nonneg (by linarith) pos.le, ?_, ?_⟩
    · rw [div_le_one pos]; linarith
    · field_simp
      ring

/-- The slopes of the fitting lines are exactly those between the lower and
the upper line. -/
theorem slopes_eq_Icc (hl : Lower D l q' p') (hu : Upper D u p q) :
    {a | ∃ b, Fits D ⟨a, b⟩} = Set.Icc l.slope u.slope := by
  ext a
  constructor
  · rintro ⟨b, hf⟩
    exact ⟨hl.le_slope hf, hu.slope_le hf⟩
  · rintro ⟨hla, hau⟩
    obtain ⟨t, h0, h1, rfl⟩ := exists_weight hla hau
    exact ⟨_, hl.fits.mix hu.fits h0 h1⟩

/-- At nonnegative abscissas the same holds of the intercepts. -/
theorem icepts_eq_Icc (h0 : RightHalf D) (hl : Lower D l q' p') (hu : Upper D u p q) :
    {b | ∃ a, Fits D ⟨a, b⟩} = Set.Icc u.icept l.icept := by
  ext b
  constructor
  · rintro ⟨a, hf⟩
    exact ⟨hu.icept_le h0 hf, hl.le_icept h0 hf⟩
  · rintro ⟨hub, hbl⟩
    obtain ⟨t, h0, h1, rfl⟩ := exists_weight hub hbl
    exact ⟨_, hu.fits.mix hl.fits h0 h1⟩

end Extremes

section Spread
variable {D : Points K} {f g l u : Line K} {p q p' q' : K × K} {x lo hi x' lo' hi' : K}

/-- Where a low point is below a high one, all fitting lines pass between them. -/
theorem eval_sub_le (hf : Fits D f) (hg : Fits D g) (low : (x, lo) ∈ D.lows)
    (high : (x, hi) ∈ D.highs) : f.eval x - g.eval x ≤ hi - lo := by
  have above := hf.2 _ high
  have below := hg.1 _ low
  simp only at above below
  linarith

/-- Two such gaps bound what two fitting lines differ in slope. -/
theorem slope_sub_mul_le (hf : Fits D f) (hg : Fits D g) (low : (x, lo) ∈ D.lows)
    (high : (x, hi) ∈ D.highs) (low' : (x', lo') ∈ D.lows) (high' : (x', hi') ∈ D.highs) :
    (f.slope - g.slope) * (x' - x) ≤ hi - lo + (hi' - lo') := by
  have here := eval_sub_le hg hf low high
  have there := eval_sub_le hf hg low' high'
  simp only [Line.eval] at here there
  linarith

/-- And what they differ by elsewhere. -/
theorem eval_sub_le_of_gap (hf : Fits D f) (hg : Fits D g) (low : (x, lo) ∈ D.lows)
    (high : (x, hi) ∈ D.highs) (z : K) :
    f.eval z - g.eval z ≤ (f.slope - g.slope) * (z - x) + (hi - lo) := by
  have here := eval_sub_le hf hg low high
  simp only [Line.eval] at here ⊢
  linarith

/-- Right of all points a fitting line stays between the two extreme ones. -/
theorem between_extremes (hl : Lower D l q' p') (hu : Upper D u p q) (hf : Fits D f)
    (right : ∀ r ∈ D.highs, r.1 ≤ x) (right' : ∀ r ∈ D.lows, r.1 ≤ x) :
    l.eval x ≤ f.eval x ∧ f.eval x ≤ u.eval x :=
  ⟨hl.le_right hf (right' p' hl.low), hu.le_right hf (right q hu.high)⟩

end Spread

/-! ## The flattest line between bracketed points fits them all -/

/-- `p` and `q` carry the flattest of the lines from a low point to a later high point. -/
structure Flattest (D : Points K) (p q : K × K) : Prop where
  low : p ∈ D.lows
  high : q ∈ D.highs
  later : p.1 < q.1
  least : ∀ p' ∈ D.lows, ∀ q' ∈ D.highs, p'.1 < q'.1 →
    (through p q).slope ≤ (through p' q').slope

/-- `q` and `p` carry the steepest of the lines from a high point to a later low point. -/
structure Steepest (D : Points K) (q p : K × K) : Prop where
  high : q ∈ D.highs
  low : p ∈ D.lows
  later : q.1 < p.1
  greatest : ∀ q' ∈ D.highs, ∀ p' ∈ D.lows, q'.1 < p'.1 →
    (through q' p').slope ≤ (through q p).slope

theorem Steepest.mirror {D : Points K} {q p : K × K} (h : Steepest D q p) :
    Flattest D.mirror (Lines.mirror q) (Lines.mirror p) := by
  refine ⟨by simpa using h.high, by simpa using h.low, h.later, fun p' hp' q' hq' hx => ?_⟩
  have := h.greatest _ (mem_mirror_lows.mp hp') _ (mem_mirror_highs.mp hq') hx
  rw [through_mirror] at this ⊢
  simpa [Line.mirror] using neg_le_neg this

/-- A bracketing line leaves no low point above the flattest line: such a
point would carry a flatter line, or force every bracketing line to be
steeper than the flattest one. -/
theorem Flattest.low_le {D : Points K} {f : Line K} (hf : Brackets D f) {p q : K × K}
    (h : Flattest D p q) {r : K × K} (hr : r ∈ D.lows) : r.2 ≤ (through p q).eval r.1 := by
  by_contra hlt
  have above := not_le.mp hlt
  have atQ : (through p q).eval q.1 = q.2 := through_right h.later.ne
  rcases lt_trichotomy r.1 q.1 with hx | hx | hx
  · have flatter : (through r q).slope < (through p q).slope :=
      slope_lt_of_cross hx (by simpa using above) ((through_right hx.ne).trans_le atQ.ge)
    exact absurd (h.least r hr q h.high hx) (not_le.mpr flatter)
  · rw [hx, atQ] at above
    have lo := hf.1 r hr
    have hi := hf.2 q h.high
    rw [hx] at lo
    linarith
  · have steeper : (through p q).slope < f.slope :=
      slope_lt_of_cross hx ((hf.2 q h.high).trans_eq atQ.symm) (above.trans (hf.1 r hr)).le
    exact absurd (slope_lt_through hf h.low h.high h.later) (not_lt.mpr steeper.le)

theorem Flattest.le_high {D : Points K} {f : Line K} (hf : Brackets D f) {p q : K × K}
    (h : Flattest D p q) {r : K × K} (hr : r ∈ D.highs) : (through p q).eval r.1 ≤ r.2 := by
  by_contra hlt
  have below := not_le.mp hlt
  have atP : (through p q).eval p.1 = p.2 := through_left p q
  rcases lt_trichotomy r.1 p.1 with hx | hx | hx
  · have steeper : (through p q).slope < f.slope :=
      slope_lt_of_cross hx ((hf.2 r hr).trans below) (atP.trans_le (hf.1 p h.low).le)
    exact absurd (slope_lt_through hf h.low h.high h.later) (not_lt.mpr steeper.le)
  · rw [hx, atP] at below
    have lo := hf.1 p h.low
    have hi := hf.2 r hr
    rw [hx] at hi
    linarith
  · have flatter : (through p r).slope < (through p q).slope :=
      slope_lt_of_cross' hx (by simp) ((through_right hx.ne).trans_lt below)
    exact absurd (h.least p h.low r hr hx) (not_le.mpr flatter)

theorem Flattest.upper {D : Points K} {f : Line K} (hf : Brackets D f) {p q : K × K}
    (h : Flattest D p q) : Upper D (through p q) p q where
  fits := ⟨fun _ => h.low_le hf, fun _ => h.le_high hf⟩
  low := h.low
  high := h.high
  later := h.later
  at_low := through_left p q
  at_high := through_right h.later.ne

theorem Steepest.lower {D : Points K} {f : Line K} (hf : Brackets D f) {p q : K × K}
    (h : Steepest D q p) : Lower D (through q p) q p := by
  have := (h.mirror.upper (brackets_mirror hf)).mirror
  rwa [through_mirror, Line.mirror_mirror, Points.mirror_mirror, Lines.mirror_mirror,
    Lines.mirror_mirror] at this

/-! ## The least product of the two gaps -/

/-- When one upper candidate is flattest and meets the axis highest, and one
lower candidate is steepest and meets it lowest, a pair of candidates whose
product of gaps is no greater consists of those two lines. -/
theorem eq_of_product_le {u u' l l' : Line K} (hus : u.slope ≤ u'.slope)
    (hui : u'.icept ≤ u.icept) (hls : l'.slope ≤ l.slope) (hli : l.icept ≤ l'.icept)
    (hs : l.slope < u.slope) (hi : u.icept < l.icept)
    (h : (u'.slope - l'.slope) * (l'.icept - u'.icept) ≤ (u.slope - l.slope) * (l.icept - u.icept)) :
    u' = u ∧ l' = l := by
  have slopeGap : u.slope - l.slope ≤ u'.slope - l'.slope := by linarith
  have iceptGap : l.icept - u.icept ≤ l'.icept - u'.icept := by linarith
  have slopePos : 0 < u.slope - l.slope := by linarith
  have iceptPos : 0 < l.icept - u.icept := by linarith
  have slopeEq : u'.slope - l'.slope ≤ u.slope - l.slope := by
    refine le_of_mul_le_mul_right (le_trans ?_ h) iceptPos
    exact mul_le_mul_of_nonneg_left iceptGap (slopePos.le.trans slopeGap)
  have iceptEq : l'.icept - u'.icept ≤ l.icept - u.icept := by
    refine le_of_mul_le_mul_left (le_trans ?_ h) slopePos
    exact mul_le_mul_of_nonneg_right slopeGap (iceptPos.le.trans iceptGap)
  obtain ⟨us, ui⟩ := u
  obtain ⟨us', ui'⟩ := u'
  obtain ⟨ls, li⟩ := l
  obtain ⟨ls', li'⟩ := l'
  simp only [Line.mk.injEq] at *
  refine ⟨⟨?_, ?_⟩, ?_, ?_⟩ <;> linarith

/-! ## Points that may be forgotten -/

/-- Below every line that passes, right of `X`, between `l` and `u`, the kept
low points stand for all of them. -/
def CoversLows (D kept : Points K) (l u : Line K) (X : K) : Prop :=
  ∀ (g : Line K) (x : K), X < x → l.eval x ≤ g.eval x → g.eval x ≤ u.eval x →
    (∀ p ∈ kept.lows, p.2 ≤ g.eval p.1) → ∀ p ∈ D.lows, p.2 ≤ g.eval p.1

theorem below_chord {p r s : K × K} (hpr : p.1 < r.1) (hrs : r.1 < s.1)
    (h : (through p r).slope ≤ (through r s).slope) : r.2 ≤ (through p s).eval r.1 := by
  by_contra hlt
  have above := not_le.mp hlt
  have steeper : (through p s).slope < (through p r).slope :=
    slope_lt_of_cross' hpr (by simp) (by rwa [through_right hpr.ne])
  have flatter : (through r s).slope < (through p s).slope :=
    slope_lt_of_cross hrs (by simpa using above)
      (by rw [through_right hrs.ne, through_right (hpr.trans hrs).ne])
  exact absurd h (not_le.mpr (flatter.trans steeper))

/-- It is enough to keep the low points that hold the two extreme lines, and
of those between them the ones above their chord. -/
theorem coversLows_of_chord {E kept : Points K} {l u : Line K} {p q p' q' : K × K} {X : K}
    (hu : Upper E u p q) (hl : Lower E l q' p') (hp : p ∈ kept.lows) (hp' : p' ∈ kept.lows)
    (hX : ∀ r ∈ E.lows, r.1 ≤ X)
    (chord : ∀ r ∈ E.lows, r ∉ kept.lows → p.1 < r.1 → r.1 < p'.1 →
      r.2 ≤ (through p p').eval r.1) :
    CoversLows E kept l u X := by
  intro g x hx hlg hgu hkept r hr
  have pUnder := hkept p hp
  have pUnder' := hkept p' hp'
  by_cases hk : r ∈ kept.lows
  · exact hkept r hk
  by_cases hleft : r.1 ≤ p.1
  · have flatter : g.slope ≤ u.slope :=
      slope_le_of_cross ((hX p hu.low).trans_lt hx) (hu.at_low.trans_le pUnder) hgu
    exact (hu.fits.1 r hr).trans (eval_le_left flatter hleft (hu.at_low.trans_le pUnder))
  by_cases hright : p'.1 ≤ r.1
  · exact (hl.fits.1 r hr).trans
      (eval_le_between hright ((hX r hr).trans hx.le) (hl.at_low.trans_le pUnder') hlg)
  · have hlt := not_le.mp hleft
    have hlt' := not_le.mp hright
    refine (chord r hr hk hlt hlt').trans (eval_le_between hlt.le hlt'.le ?_ ?_)
    · simpa using pUnder
    · rwa [through_right (hlt.trans hlt').ne]

omit [IsStrictOrderedRing K] in
/-- Points kept of the kept ones stand for all points, as long as the later
passage lies inside the earlier one. -/
theorem CoversLows.trans {D kept E kept' D' : Points K} {l u l' u' : Line K} {X X' : K}
    (h : CoversLows D kept l u X) (h' : CoversLows E kept' l' u' X') (hX : X ≤ X')
    (hl : ∀ x, X' < x → l.eval x ≤ l'.eval x) (hu : ∀ x, X' < x → u'.eval x ≤ u.eval x)
    (hsub : kept.lows ⊆ E.lows) (hD : ∀ r ∈ D'.lows, r ∈ D.lows ∨ r ∈ E.lows) :
    CoversLows D' kept' l' u' X' := by
  intro g x hx hlg hgu hkept r hr
  have underE := h' g x hx hlg hgu hkept
  rcases hD r hr with hr | hr
  · exact h g x (hX.trans_lt hx) ((hl x hx).trans hlg) (hgu.trans (hu x hx))
      (fun p hp => underE p (hsub hp)) r hr
  · exact underE r hr

/-- One more sample of points, all at an abscissa beyond `X`. -/
structure Extends (D N D' : Points K) (X x : K) : Prop where
  later : X < x
  old_low : ∀ r ∈ D.lows, r.1 ≤ X
  old_high : ∀ r ∈ D.highs, r.1 ≤ X
  new_low : ∀ r ∈ N.lows, r.1 = x
  new_high : ∀ r ∈ N.highs, r.1 = x
  lows : ∀ r, r ∈ D'.lows ↔ r ∈ D.lows ∨ r ∈ N.lows
  highs : ∀ r, r ∈ D'.highs ↔ r ∈ D.highs ∨ r ∈ N.highs

/-- An upper line is the line through its two points. -/
theorem Upper.eq_through {D : Points K} {u : Line K} {pu qu : K × K} (hu : Upper D u pu qu) :
    u = through pu qu := by
  refine eq_of_slope_of_eval (x := pu.1) ?_ (hu.at_low.trans (through_left pu qu).symm)
  apply le_antisymm
  · exact slope_le_through hu.fits hu.low hu.high hu.later
  · exact slope_le_of_cross hu.later (by simp [hu.at_low]) (by simp [hu.at_high, through_right hu.later.ne])

/-- A line of the slope of `u` that fits the points of `u` is `u`. -/
theorem Upper.eq_of_slope {D E : Points K} {u g : Line K} {pu qu : K × K} (hu : Upper D u pu qu)
    (fits : Fits E g) (hpu : pu ∈ E.lows) (hqu : qu ∈ E.highs) (same : g.slope = u.slope) : g = u := by
  refine eq_of_slope_of_eval same (x := pu.1) (le_antisymm ?_ ?_)
  · refine eval_le_left same.ge hu.later.le ?_
    exact (fits.2 qu hqu).trans_eq hu.at_high.symm
  · exact hu.at_low.trans_le (fits.1 pu hpu)

/-- A flattest line that is flatter than before starts at an old low point and ends at the new
high point. -/
theorem Flattest.ends_new {D kept N E : Points K} {u : Line K} {pu qu p q : K × K} {X x : K}
    (h : Flattest E p q) (hu : Upper D u pu qu) (hsub : kept.Sub D) (hE : Extends kept N E X x)
    (flatter : (through p q).slope < u.slope) : p ∈ D.lows ∧ q.1 = x := by
  have old : p ∈ D.lows := by
    rcases (hE.lows p).mp h.low with hp | hp
    · exact hsub.1 hp
    · have atEnd := hE.new_low p hp
      have qle : q.1 ≤ x := by
        rcases (hE.highs q).mp h.high with hq | hq
        · exact (hE.old_high q hq).trans hE.later.le
        · exact (hE.new_high q hq).le
      exact absurd h.later (by rw [atEnd]; exact not_lt.mpr qle)
  refine ⟨old, ?_⟩
  rcases (hE.highs q).mp h.high with hq | hq
  · exact absurd (slope_le_through hu.fits old (hsub.2 hq) h.later) (not_le.mpr flatter)
  · exact hE.new_high q hq

/-- **Pruning loses nothing.** The flattest line between the kept points and
one more sample fits every point seen so far, although it was chosen among
the kept ones only. -/
theorem upper_of_kept {D kept N D' E : Points K} {l u f : Line K} {pu qu pl ql p q : K × K}
    {X x : K} (hu : Upper D u pu qu) (hl : Lower D l ql pl) (hpu : pu ∈ kept.lows)
    (hqu : qu ∈ kept.highs) (hsub : kept.Sub D) (hD : Extends D N D' X x)
    (hE : Extends kept N E X x) (hf : Brackets D' f) (hcov : CoversLows D kept l u X)
    (h : Flattest E p q) : Upper D' (through p q) p q := by
  have subE : E.Sub D' :=
    ⟨fun r hr => (hD.lows r).mpr (((hE.lows r).mp hr).imp_left (hsub.1 ·)),
      fun r hr => (hD.highs r).mpr (((hE.highs r).mp hr).imp_left (hsub.2 ·))⟩
  have subD : D.Sub D' :=
    ⟨fun r hr => (hD.lows r).mpr (.inl hr), fun r hr => (hD.highs r).mpr (.inl hr)⟩
  have hw := h.upper (hf.sub subE)
  have newLow : ∀ r ∈ N.lows, r.2 ≤ (through p q).eval r.1 :=
    fun r hr => hw.fits.1 r ((hE.lows r).mpr (.inr hr))
  have newHigh : ∀ r ∈ N.highs, (through p q).eval r.1 ≤ r.2 :=
    fun r hr => hw.fits.2 r ((hE.highs r).mpr (.inr hr))
  have hle : (through p q).slope ≤ u.slope := by
    rw [hu.eq_through]
    exact h.least pu ((hE.lows pu).mpr (.inl hpu)) qu ((hE.highs qu).mpr (.inl hqu)) hu.later
  refine ⟨?_, subE.1 h.low, subE.2 h.high, h.later, through_left p q, through_right h.later.ne⟩
  -- the kept upper line stays flattest, or the new high point holds the flattest line
  rcases hle.eq_or_lt with hs | hs
  · have same := hu.eq_of_slope hw.fits ((hE.lows pu).mpr (.inl hpu)) ((hE.highs qu).mpr (.inl hqu)) hs
    refine ⟨fun r hr => ?_, fun r hr => ?_⟩
    · rcases (hD.lows r).mp hr with hr | hr
      · rw [same]; exact hu.fits.1 r hr
      · exact newLow r hr
    · rcases (hD.highs r).mp hr with hr | hr
      · rw [same]; exact hu.fits.2 r hr
      · exact newHigh r hr
  · obtain ⟨lowOld, highNew⟩ := h.ends_new hu hsub hE hs
    have belowLower : p.2 ≤ l.eval p.1 := hl.fits.1 p lowOld
    have aboveLower : l.eval q.1 ≤ (through p q).eval q.1 := by
      rw [through_right h.later.ne]
      refine le_trans ?_ (hf.2 q (subE.2 h.high)).le
      exact hl.le_right (hf.fits.sub subD) (by rw [highNew]; exact (hD.old_low pl hl.low).trans hD.later.le)
    have belowUpper : ∀ y, p.1 ≤ y → (through p q).eval y ≤ u.eval y := fun y hy =>
      eval_le_right hs.le hy (by simpa using hu.fits.1 p lowOld)
    have steeper : l.slope ≤ (through p q).slope := (hl.le_slope (hf.fits.sub subD)).trans
      (slope_le_through hf.fits (subE.1 h.low) (subE.2 h.high) h.later)
    refine ⟨fun r hr => ?_, fun r hr => ?_⟩
    · rcases (hD.lows r).mp hr with hr | hr
      · refine hcov (through p q) q.1 (by rw [highNew]; exact hD.later) aboveLower
          (belowUpper q.1 h.later.le) (fun s hs => ?_) r hr
        exact hw.fits.1 s ((hE.lows s).mpr (.inl hs))
      · exact newLow r hr
    · rcases (hD.highs r).mp hr with hr | hr
      · rcases le_total p.1 r.1 with hx | hx
        · exact (belowUpper r.1 hx).trans (hu.fits.2 r hr)
        · refine le_trans (eval_le_left steeper hx ?_) (hl.fits.2 r hr)
          simpa using belowLower
      · exact newHigh r hr

omit [IsStrictOrderedRing K] in
theorem Extends.mirror {D N D' : Points K} {X x : K} (h : Extends D N D' X x) :
    Extends D.mirror N.mirror D'.mirror X x :=
  ⟨h.later, fun r hr => h.old_high (Lines.mirror r) hr, fun r hr => h.old_low (Lines.mirror r) hr,
    fun r hr => h.new_high (Lines.mirror r) hr, fun r hr => h.new_low (Lines.mirror r) hr,
    fun r => h.highs (Lines.mirror r), fun r => h.lows (Lines.mirror r)⟩

theorem Flattest.mirror {D : Points K} {p q : K × K} (h : Flattest D p q) :
    Steepest D.mirror (Lines.mirror p) (Lines.mirror q) := by
  refine ⟨by simpa using h.low, by simpa using h.high, h.later, fun q' hq' p' hp' hx => ?_⟩
  have := h.least _ (mem_mirror_highs.mp hq') _ (mem_mirror_lows.mp hp') hx
  rw [through_mirror] at this ⊢
  simpa [Line.mirror] using neg_le_neg this

theorem lower_of_kept {D kept N D' E : Points K} {l u f : Line K} {pu qu pl ql p q : K × K}
    {X x : K} (hu : Upper D u pu qu) (hl : Lower D l ql pl) (hpl : pl ∈ kept.lows)
    (hql : ql ∈ kept.highs) (hsub : kept.Sub D) (hD : Extends D N D' X x)
    (hE : Extends kept N E X x) (hf : Brackets D' f)
    (hcov : CoversLows D.mirror kept.mirror u.mirror l.mirror X) (h : Steepest E q p) :
    Lower D' (through q p) q p := by
  have := upper_of_kept hl.mirror hu.mirror (by simpa) (by simpa)
    (show kept.mirror.Sub D.mirror from ⟨fun r hr => hsub.2 hr, fun r hr => hsub.1 hr⟩)
    hD.mirror hE.mirror (brackets_mirror hf) hcov h.mirror
  simpa [through_mirror] using this.mirror

/-- The low points of `E` between `p` and `p'` that are not kept are below the chord. -/
def BelowChord (E kept : Points K) (p p' : K × K) : Prop :=
  ∀ r ∈ E.lows, r ∉ kept.lows → p.1 < r.1 → r.1 < p'.1 → r.2 ≤ (through p p').eval r.1

/-- The kept points stand for all points in `D`, now and at every later
abscissa: they hold the two extreme lines and cover both sides. -/
structure Summary (D kept : Points K) (u l : Line K) (pu qu ql pl : K × K) (X : K) : Prop where
  upper : Upper D u pu qu
  lower : Lower D l ql pl
  sub : kept.Sub D
  upper_low : pu ∈ kept.lows
  upper_high : qu ∈ kept.highs
  lower_high : ql ∈ kept.highs
  lower_low : pl ∈ kept.lows
  lows : CoversLows D kept l u X
  highs : CoversLows D.mirror kept.mirror u.mirror l.mirror X

section
variable {D kept N D' E kept' : Points K} {u l f : Line K} {pu qu ql pl p q q' p' : K × K} {X x : K}

/-- Points that are kept by the two chord tests sum up all points they are kept of. -/
theorem summary_of_chords (hu : Upper E u p q) (hl : Lower E l q' p') (hsub : kept.Sub E)
    (hp : p ∈ kept.lows) (hq : q ∈ kept.highs) (hq' : q' ∈ kept.highs) (hp' : p' ∈ kept.lows)
    (lowsLe : ∀ r ∈ E.lows, r.1 ≤ X) (highsLe : ∀ r ∈ E.highs, r.1 ≤ X)
    (lows : BelowChord E kept p p')
    (highs : BelowChord E.mirror kept.mirror (mirror q') (mirror q)) :
    Summary E kept u l p q q' p' X where
  upper := hu
  lower := hl
  sub := hsub
  upper_low := hp
  upper_high := hq
  lower_high := hq'
  lower_low := hp'
  lows := coversLows_of_chord hu hl hp hp' lowsLe lows
  highs := coversLows_of_chord hl.mirror hu.mirror (by simpa) (by simpa)
    (fun r hr => highsLe (mirror r) hr) highs

/-- **A summary can be extended** by a sample behind all points and pruned again. -/
theorem Summary.extend (h : Summary D kept u l pu qu ql pl X) (hD : Extends D N D' X x)
    (hE : Extends kept N E X x) (hf : Brackets D' f) (flattest : Flattest E p q)
    (steepest : Steepest E q' p')
    (next : Summary E kept' (through p q) (through q' p') p q q' p' x) :
    Summary D' kept' (through p q) (through q' p') p q q' p' x := by
  have upper := upper_of_kept h.upper h.lower h.upper_low h.upper_high h.sub hD hE hf h.lows flattest
  have lower :=
    lower_of_kept h.upper h.lower h.lower_low h.lower_high h.sub hD hE hf h.highs steepest
  have subD : D.Sub D' :=
    ⟨fun r hr => (hD.lows r).mpr (.inl hr), fun r hr => (hD.highs r).mpr (.inl hr)⟩
  have subE : E.Sub D' :=
    ⟨fun r hr => (hD.lows r).mpr (((hE.lows r).mp hr).imp_left (h.sub.1 ·)),
      fun r hr => (hD.highs r).mpr (((hE.highs r).mp hr).imp_left (h.sub.2 ·))⟩
  have above : ∀ y, x < y → l.eval y ≤ (through q' p').eval y := by
    intro y hy
    apply h.lower.le_right (lower.fits.sub subD)
    exact (hD.old_low pl h.lower.low).trans (hD.later.trans hy).le
  have below : ∀ y, x < y → (through p q).eval y ≤ u.eval y := by
    intro y hy
    apply h.upper.le_right (upper.fits.sub subD)
    exact (hD.old_high qu h.upper.high).trans (hD.later.trans hy).le
  refine ⟨upper, lower, ⟨next.sub.1.trans subE.1, next.sub.2.trans subE.2⟩, next.upper_low,
    next.upper_high, next.lower_high, next.lower_low, ?_, ?_⟩
  · apply h.lows.trans next.lows hD.later.le above below
    · exact fun r hr => (hE.lows r).mpr (.inl hr)
    · exact fun r hr => ((hD.lows r).mp hr).imp_right fun new => (hE.lows r).mpr (.inr new)
  · apply h.highs.trans next.highs hD.later.le
    · intro y hy
      simpa using neg_le_neg (below y hy)
    · intro y hy
      simpa using neg_le_neg (above y hy)
    · exact fun r hr => (hE.highs (mirror r)).mpr (.inl hr)
    · exact fun r hr =>
        ((hD.highs (mirror r)).mp hr).imp_right fun new => (hE.highs (mirror r)).mpr (.inr new)

end

end Lines
