import Mathlib.Data.List.Chain
import MiniSynCPP.Repeats

/-!
# The data points of a correct synchronisation

Each exchange gives two data points that share `To` and `Tr`. Their own two
lines make a drift of zero; with the next exchange there is a high line that
does not fall, and from then on the steepest high line never does.
-/

namespace MiniSynCPP

open Containers Runs Lines

/-- The two calls with the timestamps of one beacon: at the reception of the
beacon by the reference node, and at its reply. -/
structure Exchange where
  recv : Call
  reply : Call
  sameTo : recv.To = reply.To
  sameTr : recv.Tr = reply.Tr

namespace Exchange

def calls (e : Exchange) : List Call := [e.recv, e.reply]

/-- The timestamps of one exchange, with the clocks related by `a` and `b`. -/
structure Timed (a b : ℚ) (e : Exchange) : Prop where
  nonneg : 0 ≤ e.recv.Tb
  forward : e.recv.Tb < e.reply.Tb
  trip : e.recv.To < e.recv.Tr
  sent : e.recv.To < a * e.recv.Tb + b
  received : a * e.reply.Tb + b < e.reply.Tr

/-- `f` starts after `e` has ended, on either clock. -/
def Before (e f : Exchange) : Prop := e.reply.Tb < f.recv.Tb ∧ e.recv.Tr ≤ f.recv.To

end Exchange

/-- The calls that `SyncNode::sync` makes in a list of exchanges. -/
def callsOf (es : List Exchange) : List Call := es.flatMap Exchange.calls

theorem mem_callsOf {es : List Exchange} {c : Call} :
    c ∈ callsOf es ↔ ∃ e ∈ es, c = e.recv ∨ c = e.reply := by
  simp [callsOf, Exchange.calls]

section
variable {a b : ℚ} {es : List Exchange}

theorem increasing_callsOf (timed : ∀ e ∈ es, e.Timed a b) (chain : es.IsChain Exchange.Before) :
    Increasing (callsOf es) := by
  let Later (e f : Exchange) : Prop :=
    e.recv.Tb < e.reply.Tb ∧ f.recv.Tb < f.reply.Tb ∧ e.reply.Tb < f.recv.Tb
  have trans : ∀ {e f g}, Later e f → Later f g → Later e g :=
    fun h h' => ⟨h.1, h'.2.1, h.2.2.trans (h.2.1.trans h'.2.2)⟩
  let _ : Trans Later Later Later := ⟨trans⟩
  have later : es.IsChain Later := (List.IsChain.iff_mem.mp chain).imp
    fun e f h => ⟨(timed e h.1).forward, (timed f h.2.1).forward, h.2.2.1⟩
  unfold Increasing callsOf
  apply List.pairwise_flatMap.mpr
  constructor
  · intro e he
    simpa [Exchange.calls] using (timed e he).forward
  · refine later.pairwise.imp ?_
    intro e f h
    simp only [Exchange.calls, List.mem_cons, List.not_mem_nil, or_false, forall_eq_or_imp, forall_eq]
    exact ⟨⟨h.1.trans h.2.2, h.1.trans (h.2.2.trans h.2.1)⟩, h.2.2, h.2.2.trans h.2.1⟩

theorem nonneg_callsOf (timed : ∀ e ∈ es, e.Timed a b) : ∀ c ∈ callsOf es, 0 ≤ c.Tb := by
  intro c hc
  obtain ⟨e, he, rfl | rfl⟩ := mem_callsOf.mp hc
  · exact (timed e he).nonneg
  · exact (timed e he).nonneg.trans (timed e he).forward.le

theorem bracketed_callsOf (ha : 0 < a) (timed : ∀ e ∈ es, e.Timed a b) :
    ∀ c ∈ callsOf es, c.To < a * c.Tb + b ∧ a * c.Tb + b < c.Tr := by
  intro c hc
  obtain ⟨e, he, rfl | rfl⟩ := mem_callsOf.mp hc
  · have rises := mul_lt_mul_of_pos_left (timed e he).forward ha
    have received := (timed e he).received
    rw [← e.sameTr] at received
    exact ⟨(timed e he).sent, by linarith⟩
  · have rises := mul_lt_mul_of_pos_left (timed e he).forward ha
    have sent := (timed e he).sent
    rw [e.sameTo] at sent
    exact ⟨by linarith, (timed e he).received⟩

end

section
variable {M : Type} [Subclass M] [LawfulSubclass M] [OrderedSubclass M] {build : Build} {max : ℚ}
  {past : List Call} {c : Call} {o : Object M}

/-- A recalculating call returns if the pair it ends with is set and passes the check. -/
theorem exists_returns (run : Run (Goes build) (Object.init max) past o)
    (inOrder : InOrder (past ++ [c])) (later : 1 < (o.base.added c).processedTimestamps) :
    ∃ t : Base, o.base.Recalculated c t ∧ ∀ low high, t.Holds low high →
      driftFails build ((low.2.a + high.2.a) / 2) = false →
      ∃ o', Returns build o c o' ∧ o'.base.Holds low high := by
  have known := run_historical run
  obtain ⟨first, _⟩ | ⟨_, t, cleaned, _, called⟩ := addDataPoint_ready build
    (run_ready run inOrder.past) (known.lows_le inOrder) (known.highs_le inOrder)
  · exact absurd later first
  · refine ⟨t.base, cleanup_recalculated cleaned, ?_⟩
    intro low high held check
    refine ⟨{ t with base := t.base.estimate low.2 high.2 }, ?_, held.1, held.2, held.3, held.4, held.5⟩
    rw [Returns, called, publish_run, held.currentLow, held.currentHigh]
    simp only [check, Bool.false_eq_true, if_false]

/-- With a candidate that does not fall the next drift is not negative. -/
theorem returns_of_rising {a b : ℚ} (run : Run (Goes .loguru) (Object.init max) past o)
    (started : past ≠ []) (short : past.length + 1 < 2 ^ 32) (increasing : Increasing (past ++ [c]))
    (right : ∀ d ∈ past ++ [c], 0 ≤ d.Tb)
    (bracketed : ∀ d ∈ past ++ [c], d.To < a * d.Tb + b ∧ a * d.Tb + b < d.Tr)
    {low high e : Entry} (held : o.base.Holds low high)
    (he : e ∈ (o.base.added c).highConstraints) (rising : 0 ≤ e.2.a) :
    ∃ o', Returns .loguru o c o' ∧ ∃ low high, o'.base.Holds low high ∧ 0 ≤ high.2.a := by
  have known := run_historical run
  obtain ⟨hs, kept⟩ := run_kept run increasing.past
  have hf := (brackets_samples.mpr bracketed).sub (known.pointsWith_sub c)
  have h0 := Base.rightHalf_sub (rightHalf_samples right) (known.pointsWith_sub c)
  obtain ⟨t, recalculated, returns⟩ :=
    exists_returns run increasing.inOrder (known.recalculates c started short)
  have pair : ∃ low high, t.Holds low high := by
    obtain same | ⟨low', _, high', _, _, same⟩ := recalculated.pair
    · exact ⟨low, high, held.same same⟩
    · exact ⟨low', high', (o.base.take_holds low' high').same same⟩
  obtain ⟨low', high', held'⟩ := pair
  have best := recalculated.best hs kept hf h0 held'
  have nonneg := rising.trans (best.steepest e he)
  have gap := (hs.gaps hf h0 best.low_mem best.high_mem).1
  obtain ⟨o', returned, held''⟩ := returns low' high' held' (by
    apply decide_eq_false
    apply not_lt.mpr
    linarith)
  exact ⟨o', returned, low', high', held'', nonneg⟩

/-- The two lines of one exchange have opposite slopes. -/
theorem exchange_slopes {e : Exchange} (forward : e.recv.Tb < e.reply.Tb) {l l' : LPointPtr}
    {p p' : HPointPtr} (hl : l.xy = (e.recv.Tb, e.recv.To)) (hp : p.xy = (e.recv.Tb, e.recv.Tr))
    (hl' : l'.xy = (e.reply.Tb, e.reply.To)) (hp' : p'.xy = (e.reply.Tb, e.reply.Tr)) :
    ((between l p').a + (between l' p).a) / 2 = 0 := by
  have lx : l.x = e.recv.Tb := congrArg Prod.fst hl
  have ly : l.y = e.recv.To := congrArg Prod.snd hl
  have px : p.x = e.recv.Tb := congrArg Prod.fst hp
  have py : p.y = e.recv.Tr := congrArg Prod.snd hp
  have lx' : l'.x = e.reply.Tb := congrArg Prod.fst hl'
  have ly' : l'.y = e.reply.To := congrArg Prod.snd hl'
  have px' : p'.x = e.reply.Tb := congrArg Prod.fst hp'
  have py' : p'.y = e.reply.Tr := congrArg Prod.snd hp'
  have up : e.reply.Tb - e.recv.Tb ≠ 0 := (sub_pos.mpr forward).ne'
  have down : e.recv.Tb - e.reply.Tb ≠ 0 := (sub_neg.mpr forward).ne
  simp only [between, lx, ly, px, py, lx', ly', px', py', ← e.sameTo, ← e.sameTr]
  rw [div_add_div _ _ up down, div_div]
  apply div_eq_zero_iff.mpr
  apply Or.inl
  ring

/-- The first exchange returns twice, with a drift of zero. -/
theorem first_exchange {a b : ℚ} {e : Exchange} (timed : e.Timed a b)
    (below : ∀ o : Object M, Run (Goes .loguru) (Object.init max) [e.recv] o →
      1 < (o.base.added e.reply).processedTimestamps →
      ∀ low ∈ (o.base.added e.reply).lowConstraints,
        ∀ high ∈ (o.base.added e.reply).highConstraints, Base.tmpDiff low.2 high.2 < max) :
    ∃ o : Object M, Run (Returns .loguru) (Object.init max) e.calls o ∧
      ∃ low high, o.base.Holds low high ∧ high.1.2.y ≤ e.recv.Tr := by
  have run := Run.step .start (returns_first (M := M) .loguru max e.recv)
  rw [List.nil_append] at run
  generalize (Object.init max : Object M).added e.recv = o at run
  have goes := run.mono fun _ _ _ h => Returns.goes h
  have known := run_historical goes
  have idle := run_idle (x := e.recv.Tb) goes (by simp)
  have inOrder : InOrder ([e.recv] ++ [e.reply]) := by simp [InOrder, timed.forward.le]
  obtain ⟨t, recalculated, returns⟩ :=
    exists_returns goes inOrder (known.recalculates e.reply (by simp) (by simp))
  -- the only stored points are those of the first call
  have lows : ∀ l ∈ o.base.lowPoints, l.xy = (e.recv.Tb, e.recv.To) := by
    intro l hl
    obtain ⟨d, hd, same⟩ := known.lowPoints l hl
    rw [same, List.mem_singleton.mp hd]
  have highs : ∀ p ∈ o.base.highPoints, p.xy = (e.recv.Tb, e.recv.Tr) := by
    intro p hp
    obtain ⟨d, hd, same⟩ := known.highPoints p hp
    rw [same, List.mem_singleton.mp hd]
  have counted : ¬ 1 < o.base.processedTimestamps := by
    rw [known.count, List.length_singleton]
    decide
  obtain ⟨low, lowMem, high, highMem, taken⟩ := idle.takes timed.forward (idle.stored counted (by simp))
    recalculated (below o goes (known.recalculates e.reply (by simp) (by simp)))
  obtain ⟨l, hl, lt, rfl⟩ := (idle.low_iff timed.forward.le low).mp lowMem
  obtain ⟨p, hp, _, rfl⟩ := (idle.high_iff timed.forward.le high).mp highMem
  have old : l ∈ o.base.lowPoints := by
    obtain hl | ⟨rfl, _⟩ := Base.mem_added_lowPoints.mp hl
    · exact hl
    · exact absurd lt (lt_irrefl e.reply.Tb)
  have newLow : (o.base.newLow e.reply).xy = (e.reply.Tb, e.reply.To) := rfl
  have newHigh : (o.base.newHigh e.reply).xy = (e.reply.Tb, e.reply.Tr) := rfl
  have zero := exchange_slopes timed.forward (lows l old) (highs p hp) newLow newHigh
  obtain ⟨o', returned, held⟩ := returns _ _ ((o.base.take_holds _ _).same taken) (by
    simp only [drawn, zero]
    decide)
  refine ⟨o', run.step returned, _, _, held, ?_⟩
  exact (congrArg Prod.snd (highs p hp)).le

/-- The two calls of a later exchange. -/
theorem next_exchange {a b : ℚ} {e₀ e : Exchange} (run : Run (Returns .loguru) (Object.init max) past o)
    (started : past ≠ []) (short : (past ++ e.calls).length < 2 ^ 32)
    (increasing : Increasing (past ++ e.calls)) (right : ∀ d ∈ past ++ e.calls, 0 ≤ d.Tb)
    (bracketed : ∀ d ∈ past ++ e.calls, d.To < a * d.Tb + b ∧ a * d.Tb + b < d.Tr)
    (before : e₀.Before e) {low high : Entry} (held : o.base.Holds low high)
    (rises : 0 ≤ high.2.a ∨ high.1.2.y ≤ e₀.recv.Tr) :
    ∃ o' : Object M, Run (Returns .loguru) (Object.init max) (past ++ e.calls) o' ∧
      ∃ low high, o'.base.Holds low high ∧ 0 ≤ high.2.a := by
  have split : past ++ e.calls = past ++ [e.recv] ++ [e.reply] := by simp [Exchange.calls]
  have grown : (past ++ [e.recv]).length = past.length + 1 := by simp
  rw [split] at increasing right bracketed short ⊢
  rw [List.length_append, List.length_singleton, grown] at short
  have goes := run.mono fun _ _ _ h => Returns.goes h
  have known := run_historical goes
  obtain ⟨hs, kept⟩ := run_kept goes increasing.past.past
  obtain ⟨_, stored⟩ := kept low high held
  have earlier : ∀ d ∈ past ++ [e.recv], d ∈ past ++ [e.recv] ++ [e.reply] :=
    fun d hd => List.mem_append_left _ hd
  -- a high line into the new low point that does not fall
  have candidate : ∃ line ∈ (o.base.added e.recv).highConstraints, 0 ≤ line.2.a := by
    obtain rises | flat := rises
    · exact ⟨high, hs.high_added stored, rises⟩
    · obtain ⟨_, hp, _, _⟩ := (hs.high high).mp stored
      obtain ⟨d, hd, same⟩ := known.highPoints _ hp
      have newer : high.1.2.x < e.recv.Tb := by
        rw [show high.1.2.x = d.Tb from congrArg Prod.fst same]
        exact increasing.past.newest d hd
      refine ⟨drawn (o.base.newLow e.recv) high.1.2,
        (hs.added_high e.recv _).mpr ⟨.inr rfl, .inl hp, newer, rfl⟩, ?_⟩
      apply div_nonneg_of_nonpos
      · exact sub_nonpos.mpr (flat.trans before.2)
      · exact (sub_neg.mpr newer).le
  obtain ⟨line, hline, rising⟩ := candidate
  obtain ⟨o₁, first, low₁, high₁, held₁, rising₁⟩ := returns_of_rising goes started (by omega)
    increasing.past (fun d hd => right d (earlier d hd)) (fun d hd => bracketed d (earlier d hd))
    held hline rising
  have run₁ := run.step first
  have goes₁ := goes.step first.goes
  obtain ⟨hs₁, kept₁⟩ := run_kept goes₁ increasing.past
  obtain ⟨o₂, second, low₂, high₂, held₂, rising₂⟩ := returns_of_rising goes₁ (by simp)
    (by omega) increasing right bracketed held₁ (hs₁.high_added (kept₁ low₁ high₁ held₁).2) rising₁
  exact ⟨o₂, run₁.step second, low₂, high₂, held₂, rising₂⟩

end

theorem run_callsOf {algo : Algo} {max a b : ℚ} {es : List Exchange} (ha : 0 < a)
    (timed : ∀ e ∈ es, e.Timed a b) (chain : es.IsChain Exchange.Before)
    (short : (callsOf es).length < 2 ^ 32) (below : ProductsBelow .loguru algo max (callsOf es)) :
    ∃ o : Object algo.Members, Run (Returns .loguru) (Object.init max) (callsOf es) o ∧
      ∀ e ∈ es.getLast?, ∃ low high, o.base.Holds low high ∧
        (0 ≤ high.2.a ∨ high.1.2.y ≤ e.recv.Tr) := by
  induction es using List.reverseRecOn with
  | nil => exact ⟨Object.init max, .start, by simp⟩
  | append_singleton es e ih =>
    have split : callsOf (es ++ [e]) = callsOf es ++ e.calls := by simp [callsOf]
    have earlier : ∀ f ∈ es, f ∈ es ++ [e] := fun f hf => List.mem_append_left [e] hf
    have last : e ∈ es ++ [e] := by simp
    have increasing := increasing_callsOf timed chain
    have right := nonneg_callsOf timed
    have bracketed := bracketed_callsOf ha timed
    obtain ⟨chain, _, links⟩ := List.isChain_append.mp chain
    rw [split] at short below increasing right bracketed ⊢
    obtain ⟨o, run, ends⟩ := ih (fun f hf => timed f (earlier f hf)) chain
      (by rw [List.length_append] at short; omega) below.past
    simp only [List.getLast?_concat, Option.mem_def, Option.some.injEq, forall_eq']
    cases es using List.reverseRecOn with
    | nil =>
      obtain ⟨o', run', low, high, held, flat⟩ := first_exchange (M := algo.Members) (timed e last)
        (fun o goes => below [e.recv] e.reply [] rfl o goes)
      exact ⟨o', run', low, high, held, .inr flat⟩
    | append_singleton es e₀ =>
      obtain ⟨low, high, held, rises⟩ := ends e₀ (by simp)
      have before := links e₀ (by simp) e (by simp)
      have started : callsOf (es ++ [e₀]) ≠ [] := by simp [callsOf, Exchange.calls]
      obtain ⟨o', run', low', high', held', rising⟩ :=
        next_exchange run started short increasing right bracketed before held rises
      exact ⟨o', run', low', high', held', .inl rising⟩

/-- **A correct synchronisation never fails a check.** Every call of every
exchange returns, and from the second on with two lines and a drift that is
not negative. -/
theorem exchanges_never_fail (algo : Algo) (max a b : ℚ) (es : List Exchange) (ha : 0 < a)
    (timed : ∀ e ∈ es, e.Timed a b) (chain : es.IsChain Exchange.Before)
    (short : (callsOf es).length < 2 ^ 32) (below : ProductsBelow .loguru algo max (callsOf es))
    (past rest : List Call) (split : callsOf es = past ++ rest) :
    ∃ o : Object algo.Members, Run (Returns .loguru) (Object.init max) past o ∧
      (2 ≤ past.length → NonNull o.base ∧ 0 ≤ o.base.getDrift) := by
  obtain ⟨whole, run, _⟩ := run_callsOf ha timed chain short below
  rw [split] at run short
  obtain ⟨o, run, _⟩ := Run.append_inv rest run
  refine ⟨o, run, ?_⟩
  intro second
  cases past using List.reverseRecOn with
  | nil => simp at second
  | append_singleton past c =>
    obtain ⟨o₀, before, last⟩ := run.snoc_inv
    simp only [List.length_append, List.length_singleton] at second short
    have started : past ≠ [] := by
      intro e
      rw [e] at second
      simp at second
    have known := run_historical (before.mono fun _ _ _ h => Returns.goes h)
    obtain ⟨low, high, estimates, check⟩ :=
      last.estimates (known.recalculates c started (by omega))
    constructor
    · unfold NonNull
      rw [estimates.currentLow, estimates.currentHigh]
      simp
    · exact not_lt.mp (of_decide_eq_false check)

/-- Two exchanges, the first of which ends before the second starts. -/
theorem exchanges_never_fail_two :
    let es : List Exchange := [⟨.listed (-1) 0 2, .listed (-1) 1 2, rfl, rfl⟩,
      ⟨.listed 2 3 5, .listed 2 4 5, rfl, rfl⟩]
    ∃ o : Object MiniSync, Run (Returns .loguru) (Object.init 1000) (callsOf es) o ∧
      (2 ≤ (callsOf es).length → NonNull o.base ∧ 0 ≤ o.base.getDrift) := by
  intro es
  have timed : ∀ e ∈ es, e.Timed 1 0 := by
    intro e he
    simp only [es, List.mem_cons, List.not_mem_nil, or_false] at he
    obtain rfl | rfl := he
    · constructor <;> norm_num [Call.listed]
    · constructor <;> norm_num [Call.listed]
  exact exchanges_never_fail .miniSync 1000 1 0 es one_pos timed
    (by simp [es, Exchange.Before, Call.listed]) (by simp [es, callsOf, Exchange.calls])
    (productsBelow_of_check (by decide +kernel)) (callsOf es) [] (by simp)

end MiniSynCPP
