import Mathlib.Algebra.Order.Archimedean.Basic
import Mathlib.Algebra.Order.Field.Power
import Mathlib.Data.Int.Log
import Mathlib.Data.List.DropRight
import Mathlib.Data.Rat.Floor
import Mathlib.Tactic.FieldSimp
import Mathlib.Tactic.Linarith
import Mathlib.Tactic.Positivity
import Mathlib.Tactic.Ring

/-!
# Decimal numerals

The text that `printf` makes of a number with `%g`: so many significant digits,
half to even, without trailing zeros, and with an exponent where the number is
very small or very large. A reader gets the rounded number back.
-/

namespace Decimals

/-! ## Rounding -/

/-- The nearest integer, the even one of two. -/
def halfEven (x : ℚ) : ℤ :=
  if x - ⌊x⌋ < 1 / 2 then ⌊x⌋ else if 1 / 2 < x - ⌊x⌋ then ⌊x⌋ + 1 else ⌊x⌋ + ⌊x⌋ % 2

theorem halfEven_bounds (x : ℚ) : ⌊x⌋ ≤ halfEven x ∧ halfEven x ≤ ⌊x⌋ + 1 := by
  unfold halfEven
  split_ifs <;> omega

theorem halfEven_intCast (n : ℤ) : halfEven n = n := by
  simp [halfEven]

theorem abs_halfEven_sub_le (x : ℚ) : |(halfEven x : ℚ) - x| ≤ 1 / 2 := by
  have low := Int.floor_le x
  have high := Int.lt_floor_add_one x
  unfold halfEven
  split_ifs with below above
  · rw [abs_le]
    constructor <;> linarith
  · push_cast
    rw [abs_le]
    constructor <;> linarith
  · obtain even | odd := Int.emod_two_eq_zero_or_one ⌊x⌋
    · rw [even, abs_le]
      push_cast
      constructor <;> linarith
    · rw [odd, abs_le]
      push_cast
      constructor <;> linarith

theorem halfEven_mono {x y : ℚ} (le : x ≤ y) : halfEven x ≤ halfEven y := by
  obtain same | less := (Int.floor_mono le).eq_or_lt
  · have gap : x - ⌊x⌋ ≤ y - ⌊y⌋ := by
      rw [same]
      linarith
    unfold halfEven
    rw [← same] at gap ⊢
    split_ifs <;> first | omega | linarith
  · have := halfEven_bounds x
    have := halfEven_bounds y
    omega

/-- `x` in units of the last of its `p + 1` significant digits, rounded. -/
def leading (p : ℕ) (x : ℚ) : ℤ := halfEven (x * 10 ^ (p - Int.log 10 x))

/-- A positive number with `p + 1` significant digits. -/
def roundedPos (p : ℕ) (x : ℚ) : ℚ := leading p x * 10 ^ (Int.log 10 x - p)

/-- A number with `p + 1` significant digits. -/
def rounded (p : ℕ) (x : ℚ) : ℚ :=
  if 0 < x then roundedPos p x else if x < 0 then -roundedPos p (-x) else 0

section Rounding
variable {p : ℕ} {x y : ℚ}

theorem scaled_bounds (p : ℕ) (pos : 0 < x) :
    (10 : ℚ) ^ p ≤ x * 10 ^ (p - Int.log 10 x) ∧ x * 10 ^ (p - Int.log 10 x) < 10 ^ (p + 1) := by
  have scale : (0 : ℚ) < 10 ^ (p - Int.log 10 x) := by positivity
  have low := mul_le_mul_of_nonneg_right (Int.zpow_log_le_self (b := 10) (by omega) pos) scale.le
  have high := mul_lt_mul_of_pos_right (Int.lt_zpow_succ_log_self (b := 10) (by omega) x) scale
  rw [Nat.cast_ofNat, ← zpow_add₀ (by norm_num)] at low high
  rw [show Int.log 10 x + ((p : ℤ) - Int.log 10 x) = (p : ℕ) by ring, zpow_natCast] at low
  rw [show Int.log 10 x + 1 + ((p : ℤ) - Int.log 10 x) = ((p + 1 : ℕ) : ℤ) by push_cast; ring,
    zpow_natCast] at high
  exact ⟨low, high⟩

theorem leading_bounds (p : ℕ) (pos : 0 < x) :
    (10 : ℤ) ^ p ≤ leading p x ∧ leading p x ≤ 10 ^ (p + 1) := by
  obtain ⟨low, high⟩ := scaled_bounds p pos
  have least := halfEven_mono low
  have greatest := halfEven_mono high.le
  rw [show (10 : ℚ) ^ p = ((10 ^ p : ℤ) : ℚ) by push_cast; rfl, halfEven_intCast] at least
  rw [show (10 : ℚ) ^ (p + 1) = ((10 ^ (p + 1) : ℤ) : ℚ) by push_cast; rfl, halfEven_intCast] at greatest
  exact ⟨least, greatest⟩

theorem roundedPos_bounds (p : ℕ) (pos : 0 < x) :
    (10 : ℚ) ^ Int.log 10 x ≤ roundedPos p x ∧ roundedPos p x ≤ 10 ^ (Int.log 10 x + 1) := by
  obtain ⟨low, high⟩ := leading_bounds p pos
  have scale : (0 : ℚ) < 10 ^ (Int.log 10 x - p) := by positivity
  have low' : (10 : ℚ) ^ p ≤ leading p x := by exact_mod_cast low
  have high' : (leading p x : ℚ) ≤ 10 ^ (p + 1) := by exact_mod_cast high
  have least := mul_le_mul_of_nonneg_right low' scale.le
  have greatest := mul_le_mul_of_nonneg_right high' scale.le
  rw [← zpow_natCast, ← zpow_add₀ (by norm_num)] at least greatest
  rw [show ((p : ℕ) : ℤ) + (Int.log 10 x - p) = Int.log 10 x by ring] at least
  rw [show ((p + 1 : ℕ) : ℤ) + (Int.log 10 x - p) = Int.log 10 x + 1 by push_cast; ring] at greatest
  exact ⟨least, greatest⟩

theorem roundedPos_pos (p : ℕ) (pos : 0 < x) : 0 < roundedPos p x :=
  lt_of_lt_of_le (by positivity) (roundedPos_bounds p pos).1

theorem roundedPos_mono (p : ℕ) (pos : 0 < x) (le : x ≤ y) : roundedPos p x ≤ roundedPos p y := by
  obtain same | less := (Int.log_mono_right (b := 10) pos le).eq_or_lt
  · unfold roundedPos leading
    rw [same]
    have scaled : x * 10 ^ (p - Int.log 10 y) ≤ y * 10 ^ (p - Int.log 10 y) :=
      mul_le_mul_of_nonneg_right le (by positivity)
    exact mul_le_mul_of_nonneg_right (by exact_mod_cast halfEven_mono scaled) (by positivity)
  · calc roundedPos p x
        ≤ 10 ^ (Int.log 10 x + 1) := (roundedPos_bounds p pos).2
      _ ≤ 10 ^ Int.log 10 y := zpow_le_zpow_right₀ (by norm_num) less
      _ ≤ roundedPos p y := (roundedPos_bounds p (pos.trans_le le)).1

/-- Half a unit of the last digit. -/
theorem abs_roundedPos_sub_le (p : ℕ) (pos : 0 < x) : |roundedPos p x - x| ≤ x / (2 * 10 ^ p) := by
  have scale : (0 : ℚ) < 10 ^ (Int.log 10 x - p) := by positivity
  have unscaled : x = x * 10 ^ (p - Int.log 10 x) * 10 ^ (Int.log 10 x - p) := by
    rw [mul_assoc, ← zpow_add₀ (by norm_num)]
    simp
  have half : |roundedPos p x - x| ≤ 1 / 2 * 10 ^ (Int.log 10 x - p) := by
    have near := abs_halfEven_sub_le (x * 10 ^ (p - Int.log 10 x))
    calc |roundedPos p x - x|
        = |(leading p x - x * 10 ^ (p - Int.log 10 x)) * 10 ^ (Int.log 10 x - p)| := by
          rw [sub_mul, ← unscaled]
          rfl
      _ = |leading p x - x * 10 ^ (p - Int.log 10 x)| * 10 ^ (Int.log 10 x - p) := by
          rw [abs_mul, abs_of_pos scale]
      _ ≤ 1 / 2 * 10 ^ (Int.log 10 x - p) := mul_le_mul_of_nonneg_right near scale.le
  have unit : (10 : ℚ) ^ (Int.log 10 x - p) ≤ x / 10 ^ p := by
    rw [zpow_sub₀ (by norm_num), zpow_natCast]
    exact div_le_div_of_nonneg_right
      (by exact_mod_cast Int.zpow_log_le_self (b := 10) (by omega) pos) (by positivity)
  calc |roundedPos p x - x|
      ≤ 1 / 2 * 10 ^ (Int.log 10 x - p) := half
    _ ≤ 1 / 2 * (x / 10 ^ p) := by linarith
    _ = x / (2 * 10 ^ p) := by ring

theorem rounded_of_pos (p : ℕ) (pos : 0 < x) : rounded p x = roundedPos p x := if_pos pos

theorem rounded_of_neg (p : ℕ) (neg : x < 0) : rounded p x = -roundedPos p (-x) := by
  rw [rounded, if_neg neg.le.not_gt, if_pos neg]

theorem rounded_zero (p : ℕ) : rounded p 0 = 0 := by simp [rounded]

theorem rounded_neg (p : ℕ) (x : ℚ) : rounded p (-x) = -rounded p x := by
  obtain neg | rfl | pos := lt_trichotomy x 0
  · rw [rounded_of_neg p neg, rounded_of_pos p (neg_pos.mpr neg), neg_neg]
  · rw [neg_zero, rounded_zero, neg_zero]
  · rw [rounded_of_pos p pos, rounded_of_neg p (neg_lt_zero.mpr pos), neg_neg]

theorem rounded_nonneg (p : ℕ) (nonneg : 0 ≤ x) : 0 ≤ rounded p x := by
  obtain rfl | pos := nonneg.eq_or_lt
  · rw [rounded_zero]
  · rw [rounded_of_pos p pos]
    exact (roundedPos_pos p pos).le

theorem rounded_mono (p : ℕ) : Monotone (rounded p) := by
  have right : ∀ {x y : ℚ}, 0 ≤ x → x ≤ y → rounded p x ≤ rounded p y := by
    intro x y nonneg le
    obtain rfl | pos := nonneg.eq_or_lt
    · rw [rounded_zero]
      exact rounded_nonneg p le
    · rw [rounded_of_pos p pos, rounded_of_pos p (pos.trans_le le)]
      exact roundedPos_mono p pos le
  intro x y le
  obtain nonneg | neg := le_or_gt 0 x
  · exact right nonneg le
  obtain nonpos | pos := le_or_gt y 0
  · have mirrored := right (neg_nonneg.mpr nonpos) (neg_le_neg le)
    rw [rounded_neg, rounded_neg] at mirrored
    exact neg_le_neg_iff.mp mirrored
  · have below := rounded_nonneg p (neg_nonneg.mpr neg.le)
    rw [rounded_neg] at below
    exact (neg_nonneg.mp below).trans (rounded_nonneg p pos.le)

/-- Rounding to `p + 1` digits has a relative error of at most half a unit of the last one. -/
theorem abs_rounded_sub_le (p : ℕ) (x : ℚ) : |rounded p x - x| ≤ |x| / (2 * 10 ^ p) := by
  obtain neg | rfl | pos := lt_trichotomy x 0
  · have near := abs_roundedPos_sub_le p (neg_pos.mpr neg)
    rw [rounded_of_neg p neg, abs_of_neg neg, ← abs_neg, neg_sub, sub_neg_eq_add, add_comm]
    rwa [sub_neg_eq_add] at near
  · simp [rounded_zero]
  · rw [rounded_of_pos p pos, abs_of_pos pos]
    exact abs_roundedPos_sub_le p pos

end Rounding

/-! ## Printing -/

/-- `mantissa / 10 ^ p * 10 ^ exponent`. -/
structure Scientific where
  mantissa : ℕ
  exponent : ℤ
  deriving DecidableEq

/-- Rounding may carry into a new first digit. -/
def scientific (p : ℕ) (x : ℚ) : Scientific :=
  if leading p x = 10 ^ (p + 1) then ⟨10 ^ p, Int.log 10 x + 1⟩
  else ⟨(leading p x).toNat, Int.log 10 x⟩

/-- The digits of `r`, with zeros before them up to `k` digits. -/
def padded (k r : ℕ) : List Char :=
  List.replicate (k - (Nat.toDigits 10 r).length) '0' ++ Nat.toDigits 10 r

def fraction (k r : ℕ) : List Char := (padded k r).rdropWhile (· = '0')

/-- `m / 10 ^ k`. No zeros end the fraction, and no point stands before an empty one. -/
def fixed (k m : ℕ) : List Char :=
  Nat.toDigits 10 (m / 10 ^ k) ++
    if fraction k (m % 10 ^ k) = [] then [] else '.' :: fraction k (m % 10 ^ k)

def exponentText (e : ℤ) : List Char := (if e < 0 then '-' else '+') :: padded 2 e.natAbs

def generalPos (p : ℕ) (x : ℚ) : List Char :=
  if -4 ≤ (scientific p x).exponent ∧ (scientific p x).exponent ≤ p then
    fixed (p - (scientific p x).exponent).toNat (scientific p x).mantissa
  else fixed p (scientific p x).mantissa ++ 'e' :: exponentText (scientific p x).exponent

/-- `%g` with a precision of `p + 1`. -/
def general (p : ℕ) (x : ℚ) : List Char :=
  if 0 < x then generalPos p x else if x < 0 then '-' :: generalPos p (-x) else ['0']

/-! ## Reading -/

def digits? (t : List Char) : Option ℕ :=
  if !t.isEmpty && t.all Char.isDigit then some (Nat.ofDigitChars 10 t 0) else none

def unsigned? (t : List Char) : Option ℚ :=
  match t.splitOn '.' with
  | [whole] => (digits? whole).map fun a : ℕ => (a : ℚ)
  | [whole, fraction] => do
    let a ← digits? whole
    let b ← digits? fraction
    return (a + b / 10 ^ fraction.length : ℚ)
  | _ => none

def exponent? (t : List Char) : Option ℤ :=
  if t.head? = some '-' then (digits? t.tail).map fun n : ℕ => -(n : ℤ)
  else if t.head? = some '+' then (digits? t.tail).map fun n : ℕ => (n : ℤ)
  else none

def magnitude? (t : List Char) : Option ℚ :=
  match t.splitOn 'e' with
  | [digits] => unsigned? digits
  | [digits, exponent] => do
    let x ← unsigned? digits
    let e ← exponent? exponent
    return x * 10 ^ e
  | _ => none

/-- The number that a numeral stands for. -/
def number? (t : List Char) : Option ℚ :=
  if t.head? = some '-' then (magnitude? t.tail).map fun x => -x else magnitude? t

/-! ## What is printed reads back rounded -/

section RoundTrip
variable {p k m r : ℕ} {x : ℚ} {c : Char}

theorem scientific_value (p : ℕ) (pos : 0 < x) :
    ((scientific p x).mantissa : ℚ) * 10 ^ ((scientific p x).exponent - p) = roundedPos p x := by
  unfold scientific roundedPos
  split_ifs with carried
  · rw [carried]
    push_cast
    rw [← zpow_natCast, ← zpow_natCast, ← zpow_add₀ (by norm_num), ← zpow_add₀ (by norm_num)]
    congr 1
    push_cast
    ring
  · have nonneg : 0 ≤ leading p x := le_trans (by positivity) (leading_bounds p pos).1
    have cast : (((leading p x).toNat : ℤ) : ℚ) = leading p x := by rw [Int.toNat_of_nonneg nonneg]
    rw [← cast]
    push_cast
    rfl

theorem isDigit_of_mem_padded (h : c ∈ padded k r) : c.isDigit = true := by
  obtain zero | digit := List.mem_append.mp h
  · rw [List.eq_of_mem_replicate zero]
    rfl
  · exact Nat.isDigit_of_mem_toDigits (by omega) (by omega) digit

theorem isDigit_of_mem_fraction (h : c ∈ fraction k r) : c.isDigit = true :=
  isDigit_of_mem_padded ((List.rdropWhile_prefix _ (padded k r)).subset h)

theorem isDigit_of_mem_toDigits {n : ℕ} (h : c ∈ Nat.toDigits 10 n) : c.isDigit = true :=
  Nat.isDigit_of_mem_toDigits (by omega) (by omega) h

theorem padded_ne_nil (k r : ℕ) : padded k r ≠ [] := by
  simp [padded]

theorem ofDigitChars_padded (k r : ℕ) : Nat.ofDigitChars 10 (padded k r) 0 = r := by
  rw [padded, Nat.ofDigitChars_append, Nat.ofDigitChars_replicate_zero, Nat.mul_zero,
    Nat.ofDigitChars_ten_toDigits]

theorem length_padded (wide : 0 < k) (fits : r < 10 ^ k) : (padded k r).length = k := by
  have short := (Nat.length_toDigits_le_iff (by omega) wide).mpr fits
  rw [padded, List.length_append, List.length_replicate]
  omega

theorem digits?_of_isDigit {t : List Char} (full : t ≠ []) (digits : ∀ c ∈ t, c.isDigit = true) :
    digits? t = some (Nat.ofDigitChars 10 t 0) :=
  if_pos (by simp [full, List.all_eq_true.mpr digits])

theorem digits?_toDigits (n : ℕ) : digits? (Nat.toDigits 10 n) = some n := by
  rw [digits?_of_isDigit Nat.toDigits_ne_nil fun c hc => isDigit_of_mem_toDigits hc,
    Nat.ofDigitChars_ten_toDigits]

theorem digits?_padded (k r : ℕ) : digits? (padded k r) = some r := by
  rw [digits?_of_isDigit (padded_ne_nil k r) fun c hc => isDigit_of_mem_padded hc, ofDigitChars_padded]

/-- Nothing but zeros was dropped. -/
theorem padded_eq_fraction_append (k r : ℕ) :
    ∃ j, padded k r = fraction k r ++ List.replicate j '0' := by
  have zeros : ∀ c ∈ (padded k r).rtakeWhile (· = '0'), c = '0' := fun c hc => by
    simpa using List.mem_rtakeWhile_imp hc
  refine ⟨((padded k r).rtakeWhile (· = '0')).length, ?_⟩
  rw [← List.eq_replicate_length.mpr zeros]
  exact (List.rdropWhile_append_rtakeWhile ..).symm

/-- What is kept stands for the same part of the whole. -/
theorem ofDigitChars_fraction (fits : r < 10 ^ k) :
    Nat.ofDigitChars 10 (fraction k r) 0 * 10 ^ k = r * 10 ^ (fraction k r).length := by
  obtain rfl | wide := k.eq_zero_or_pos
  · obtain rfl : r = 0 := by simpa using fits
    rfl
  obtain ⟨j, split⟩ := padded_eq_fraction_append k r
  have value := ofDigitChars_padded k r
  have length := length_padded wide fits
  rw [split, Nat.ofDigitChars_append, Nat.ofDigitChars_replicate_zero] at value
  rw [split, List.length_append, List.length_replicate] at length
  calc Nat.ofDigitChars 10 (fraction k r) 0 * 10 ^ k
      = Nat.ofDigitChars 10 (fraction k r) 0 * 10 ^ ((fraction k r).length + j) := by rw [length]
    _ = 10 ^ j * Nat.ofDigitChars 10 (fraction k r) 0 * 10 ^ (fraction k r).length := by ring
    _ = r * 10 ^ (fraction k r).length := by rw [value]

theorem not_mem_of_isDigit {t : List Char} (digits : ∀ c ∈ t, c.isDigit = true)
    (other : c.isDigit = false) : c ∉ t := by
  intro h
  rw [digits c h] at other
  cases other

theorem unsigned?_fixed (k m : ℕ) : unsigned? (fixed k m) = some (m / 10 ^ k : ℚ) := by
  have point : '.' ∉ Nat.toDigits 10 (m / 10 ^ k) :=
    not_mem_of_isDigit (fun c hc => isDigit_of_mem_toDigits hc) rfl
  have fits : m % 10 ^ k < 10 ^ k := Nat.mod_lt _ (by positivity)
  have value := ofDigitChars_fraction fits
  have whole : (m : ℚ) = 10 ^ k * (m / 10 ^ k : ℕ) + (m % 10 ^ k : ℕ) := by
    exact_mod_cast (Nat.div_add_mod m (10 ^ k)).symm
  have scale : (10 : ℚ) ^ k ≠ 0 := by positivity
  obtain none | some := eq_or_ne (fraction k (m % 10 ^ k)) []
  · rw [none] at value
    have exact : m % 10 ^ k = 0 := by simpa using value.symm
    rw [fixed, if_pos none, List.append_nil, unsigned?, List.splitOn_eq_singleton point]
    simp only [digits?_toDigits, Option.map_some]
    rw [whole, exact]
    field_simp
    simp
  · have point' : '.' ∉ fraction k (m % 10 ^ k) :=
      not_mem_of_isDigit (fun c hc => isDigit_of_mem_fraction hc) rfl
    rw [fixed, if_neg some, unsigned?, List.splitOn_append_cons_self_of_not_mem point,
      List.splitOn_eq_singleton point']
    simp only [digits?_toDigits, digits?_of_isDigit some fun c hc => isDigit_of_mem_fraction hc,
      Option.bind_eq_bind, Option.bind_some]
    have value' : (Nat.ofDigitChars 10 (fraction k (m % 10 ^ k)) 0 : ℚ) * 10 ^ k =
        (m % 10 ^ k : ℕ) * 10 ^ (fraction k (m % 10 ^ k)).length := by exact_mod_cast value
    have split : (Nat.ofDigitChars 10 (fraction k (m % 10 ^ k)) 0 : ℚ) /
        10 ^ (fraction k (m % 10 ^ k)).length = (m % 10 ^ k : ℕ) / 10 ^ k :=
      (div_eq_div_iff (by positivity) scale).mpr value'
    rw [split, whole, add_div, mul_div_cancel_left₀ _ scale]
    rfl

theorem exponent?_exponentText (e : ℤ) : exponent? (exponentText e) = some e := by
  obtain neg | nonneg := lt_or_ge e 0
  · rw [exponentText, if_pos neg, exponent?, List.head?_cons, if_pos rfl, List.tail_cons, digits?_padded,
      Option.map_some]
    congr 1
    omega
  · rw [exponentText, if_neg nonneg.not_gt, exponent?, List.head?_cons, if_neg (by decide), if_pos rfl,
      List.tail_cons, digits?_padded, Option.map_some]
    congr 1
    omega

theorem mem_fixed (h : c ∈ fixed k m) : c.isDigit = true ∨ c = '.' := by
  obtain whole | rest := List.mem_append.mp h
  · exact .inl (isDigit_of_mem_toDigits whole)
  · split_ifs at rest with none
    · cases rest
    · obtain point | digit := List.mem_cons.mp rest
      · exact .inr point
      · exact .inl (isDigit_of_mem_fraction digit)

theorem mem_exponentText {e : ℤ} (h : c ∈ exponentText e) : c.isDigit = true ∨ c = '-' ∨ c = '+' := by
  obtain sign | digit := List.mem_cons.mp h
  · right
    split_ifs at sign with neg
    · exact .inl sign
    · exact .inr sign
  · exact .inl (isDigit_of_mem_padded digit)

theorem not_mem_fixed (other : c.isDigit = false) (point : c ≠ '.') : c ∉ fixed k m := by
  intro h
  obtain digit | h := mem_fixed h
  · rw [digit] at other
    cases other
  · exact point h

theorem magnitude?_generalPos (p : ℕ) (pos : 0 < x) :
    magnitude? (generalPos p x) = some (roundedPos p x) := by
  have noExponent : ∀ k m, 'e' ∉ fixed k m := fun _ _ => not_mem_fixed rfl (by decide)
  have value := scientific_value p pos
  unfold generalPos
  generalize scientific p x = s at value ⊢
  split_ifs with short
  · have scale : (((p - s.exponent).toNat : ℕ) : ℤ) = p - s.exponent := by omega
    rw [magnitude?, List.splitOn_eq_singleton (noExponent _ _)]
    simp only [unsigned?_fixed]
    rw [← value, ← zpow_natCast, scale, div_eq_mul_inv, ← zpow_neg, neg_sub]
  · have sign : 'e' ∉ exponentText s.exponent := by
      intro h
      obtain h | h | h := mem_exponentText h
      · exact absurd h (by decide)
      · exact absurd h (by decide)
      · exact absurd h (by decide)
    rw [magnitude?, List.splitOn_append_cons_self_of_not_mem (noExponent _ _),
      List.splitOn_eq_singleton sign]
    simp only [unsigned?_fixed, exponent?_exponentText, Option.bind_eq_bind, Option.bind_some]
    rw [← value, zpow_sub₀ (by norm_num), zpow_natCast, div_mul_eq_mul_div, mul_div_assoc]
    rfl

/-- A digit comes first. -/
theorem head?_fixed_append (k m : ℕ) (t : List Char) : (fixed k m ++ t).head? ≠ some '-' := by
  obtain ⟨d, ds, digits⟩ := List.exists_cons_of_ne_nil (Nat.toDigits_ne_nil (n := m / 10 ^ k) (b := 10))
  have first : d.isDigit = true := isDigit_of_mem_toDigits (n := m / 10 ^ k) (by simp [digits])
  rw [fixed, digits, List.cons_append, List.cons_append, List.head?_cons]
  intro h
  rw [Option.some.inj h] at first
  exact absurd first (by decide)

theorem head?_generalPos (p : ℕ) (x : ℚ) : (generalPos p x).head? ≠ some '-' := by
  unfold generalPos
  split_ifs
  · rw [← List.append_nil (fixed _ _)]
    exact head?_fixed_append _ _ _
  · exact head?_fixed_append _ _ _

/-- Natural numbers are read as printed. -/
theorem number?_toDigits (n : ℕ) : number? (Nat.toDigits 10 n) = some (n : ℚ) := by
  have digit : ∀ c ∈ Nat.toDigits 10 n, c.isDigit = true := fun c hc => isDigit_of_mem_toDigits hc
  have sign : (Nat.toDigits 10 n).head? ≠ some '-' := fun h =>
    absurd (digit _ (List.mem_of_mem_head? h)) (by decide)
  rw [number?, if_neg sign, magnitude?, List.splitOn_eq_singleton (not_mem_of_isDigit digit rfl)]
  simp only [unsigned?, List.splitOn_eq_singleton (not_mem_of_isDigit (c := '.') digit rfl), digits?_toDigits,
    Option.map_some]

/-- What is printed reads back as the rounded number. -/
theorem number?_general (p : ℕ) (x : ℚ) : number? (general p x) = some (rounded p x) := by
  obtain neg | rfl | pos := lt_trichotomy x 0
  · rw [general, if_neg neg.le.not_gt, if_pos neg, number?, List.head?_cons, if_pos rfl, List.tail_cons,
      magnitude?_generalPos p (neg_pos.mpr neg), Option.map_some, rounded_of_neg p neg]
  · have zero : general p 0 = Nat.toDigits 10 0 := by simp [general]
    rw [zero, number?_toDigits, rounded_zero, Nat.cast_zero]
  · rw [general, if_pos pos, number?, if_neg (head?_generalPos p x), magnitude?_generalPos p pos,
      rounded_of_pos p pos]

theorem mem_generalPos (h : c ∈ generalPos p x) : c.isDigit = true ∨ c ∈ ['.', 'e', '-', '+'] := by
  unfold generalPos at h
  split_ifs at h
  · exact (mem_fixed h).imp_right fun h => by simp [h]
  · obtain h | h := List.mem_append.mp h
    · exact (mem_fixed h).imp_right fun h => by simp [h]
    · obtain rfl | h := List.mem_cons.mp h
      · exact .inr (by simp)
      · obtain h | rfl | rfl := mem_exponentText h
        · exact .inl h
        · exact .inr (by simp)
        · exact .inr (by simp)

/-- The characters of a numeral. -/
theorem mem_general (h : c ∈ general p x) : c.isDigit = true ∨ c ∈ ['.', 'e', '-', '+'] := by
  unfold general at h
  split_ifs at h
  · exact mem_generalPos h
  · obtain rfl | h := List.mem_cons.mp h
    · exact .inr (by simp)
    · exact mem_generalPos h
  · rw [List.mem_singleton.mp h]
    exact .inl rfl

end RoundTrip

example : [0, 2189.86, 50614, 0.0305614, -128.6, 0.000161442, 0.00001, 1556290000123456.78].map (general 5) =
    ["0", "2189.86", "50614", "0.0305614", "-128.6", "0.000161442", "1e-05", "1.55629e+15"].map
      String.toList := by
  decide +kernel

end Decimals
