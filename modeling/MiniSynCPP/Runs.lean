import Mathlib.Algebra.GroupWithZero.Nat
import Mathlib.Logic.Basic
import Mathlib.Data.List.Induction
import Mathlib.Data.List.ProdSigma

/-!
# Runs of a step relation

A run is a list of inputs, oldest first, and the state they lead to. An
invariant that may read the whole history is proved from the start and one
step. Methods of an object are `EStateM` programs: what a method changed
before it fails stays changed.
-/

namespace Runs

section Run
variable {σ ι : Type}

inductive Run (step : σ → ι → σ → Prop) (start : σ) : List ι → σ → Prop
  | start : Run step start [] start
  | step {past : List ι} {s t : σ} {i : ι} :
      Run step start past s → step s i t → Run step start (past ++ [i]) t

/-- What holds at the start and survives every step holds after every run. -/
theorem Run.invariant {step : σ → ι → σ → Prop} {s₀ : σ} {P : List ι → σ → Prop}
    (initial : P [] s₀)
    (preserved : ∀ past s i t, Run step s₀ past s → P past s → step s i t → P (past ++ [i]) t)
    {past : List ι} {s : σ} (h : Run step s₀ past s) : P past s := by
  induction h with
  | start => exact initial
  | step run hstep ih => exact preserved _ _ _ _ run ih hstep

/-- A condition on every input of the run restricts the steps. -/
theorem Run.invariant_of_inputs {step : σ → ι → σ → Prop} {s₀ : σ} {Q : List ι → Prop}
    {P : List ι → σ → Prop} (shrink : ∀ past i, Q (past ++ [i]) → Q past) (initial : P [] s₀)
    (preserved : ∀ past s i t, Run step s₀ past s → Q (past ++ [i]) → P past s → step s i t →
      P (past ++ [i]) t)
    {past : List ι} {s : σ} (h : Run step s₀ past s) (hQ : Q past) : P past s := by
  induction h with
  | start => exact initial
  | step run hstep ih => exact preserved _ _ _ _ run hQ (ih (shrink _ _ hQ)) hstep

theorem Run.mono {step step' : σ → ι → σ → Prop} {s₀ : σ} (sub : ∀ s i t, step s i t → step' s i t)
    {past : List ι} {s : σ} (h : Run step s₀ past s) : Run step' s₀ past s := by
  induction h with
  | start => exact .start
  | step _ hstep ih => exact .step ih (sub _ _ _ hstep)

/-- What holds at every place of a list, from what stands before it: the first place and the others. -/
theorem forall_split_cons {P : List ι → ι → Prop} {i : ι} {l : List ι} (first : P [] i)
    (others : ∀ before j rest, l = before ++ j :: rest → P (i :: before) j) :
    ∀ before j rest, i :: l = before ++ j :: rest → P before j := by
  intro before j rest split
  cases before with
  | nil =>
    obtain ⟨rfl, _⟩ := List.cons.inj split
    exact first
  | cons k before =>
    obtain ⟨rfl, tail⟩ := List.cons.inj split
    exact others before j rest tail

theorem forall_split_nil {P : List ι → ι → Prop} :
    ∀ before j rest, [] = before ++ j :: rest → P before j := by
  intro before j rest split
  simp at split

/-- A condition that holds of every prefix and the input behind it holds at every step. -/
theorem Run.with_condition {step : σ → ι → σ → Prop} {C : σ → ι → Prop} {s₀ s : σ} {past : List ι}
    (h : Run step s₀ past s)
    (meets : ∀ before i rest, past = before ++ i :: rest → ∀ s, Run step s₀ before s → C s i) :
    Run (fun s i t => C s i ∧ step s i t) s₀ past s := by
  induction h with
  | start => exact .start
  | @step past s t i run hstep ih =>
    refine .step (ih ?_) ⟨meets past i [] rfl s run, hstep⟩
    intro before j rest split
    apply meets before j (rest ++ [i])
    rw [split, List.append_assoc]
    rfl

theorem Run.nil_inv {step : σ → ι → σ → Prop} {s₀ s : σ} (h : Run step s₀ [] s) : s = s₀ := by
  generalize he : ([] : List ι) = past at h
  cases h with
  | start => rfl
  | step => simp at he

theorem Run.snoc_inv {step : σ → ι → σ → Prop} {s₀ t : σ} {past : List ι} {i : ι}
    (h : Run step s₀ (past ++ [i]) t) : ∃ s, Run step s₀ past s ∧ step s i t := by
  generalize he : past ++ [i] = whole at h
  cases h with
  | start => simp at he
  | step run hstep =>
    obtain ⟨rfl, hi⟩ := List.append_inj' he rfl
    obtain rfl := List.singleton_inj.mp hi
    exact ⟨_, run, hstep⟩

/-- Where the input determines the step, the inputs determine the run. -/
theorem Run.unique {step : σ → ι → σ → Prop} {s₀ s t : σ} {past : List ι} (h : Run step s₀ past s)
    (det : ∀ s i t t', step s i t → step s i t' → t = t') (h' : Run step s₀ past t) : s = t := by
  induction h generalizing t with
  | start => exact h'.nil_inv.symm
  | step _ last ih =>
    obtain ⟨v, before, last'⟩ := h'.snoc_inv
    obtain rfl := ih before
    exact det _ _ _ _ last last'

theorem Run.append_inv {step : σ → ι → σ → Prop} {s₀ t : σ} {past : List ι} (more : List ι)
    (h : Run step s₀ (past ++ more) t) : ∃ s, Run step s₀ past s ∧ Run step s more t := by
  induction more using List.reverseRecOn generalizing t with
  | nil => exact ⟨t, by simpa using h, .start⟩
  | append_singleton more i ih =>
    rw [← List.append_assoc] at h
    obtain ⟨u, before, last⟩ := h.snoc_inv
    obtain ⟨s, first, rest⟩ := ih before
    exact ⟨s, first, rest.step last⟩

/-- Two runs on inputs that differ only in what `f` does not read stay related, if every pair of
steps keeps them so. `Q` is a condition on the inputs of the first run. -/
theorem Run.coupled {κ : Type} {step : σ → ι → σ → Prop} {s₀ : σ} {f : ι → κ} {Q : List ι → Prop}
    {P : σ → σ → Prop} (shrink : ∀ past i, Q (past ++ [i]) → Q past) (initial : P s₀ s₀)
    (preserved : ∀ past past' s s' i i' t t', Run step s₀ past s → Run step s₀ past' s' →
      past.map f = past'.map f → Q (past ++ [i]) → P s s' → f i = f i' → step s i t →
      step s' i' t' → P t t')
    {past past' : List ι} {s s' : σ} (h : Run step s₀ past s) (h' : Run step s₀ past' s')
    (same : past.map f = past'.map f) (hQ : Q past) : P s s' := by
  induction h generalizing past' s' with
  | start =>
    rw [List.map_nil, eq_comm, List.map_eq_nil_iff] at same
    rw [same] at h'
    rwa [h'.nil_inv]
  | @step past s t i run hstep ih =>
    obtain rfl | ⟨init, i', rfl⟩ := List.eq_nil_or_concat past'
    · simp at same
    · rw [List.concat_eq_append] at h' same
      obtain ⟨u, before, last⟩ := h'.snoc_inv
      rw [List.map_append, List.map_append] at same
      obtain ⟨sameInit, sameLast⟩ := List.append_inj' same rfl
      have related := ih before sameInit (shrink _ _ hQ)
      exact preserved _ _ _ _ _ _ _ _ run before sameInit hQ related (List.singleton_inj.mp sameLast)
        hstep last

/-- A run that starts where another ended continues it. -/
theorem Run.append {step : σ → ι → σ → Prop} {s₀ s t : σ} {past more : List ι}
    (h : Run step s₀ past s) (h' : Run step s more t) : Run step s₀ (past ++ more) t := by
  induction h' with
  | start => simpa using h
  | step _ hstep ih => rw [← List.append_assoc]; exact .step ih hstep

/-- If `R` relates the starts, and every step to a run that ends related, then it relates every run
to a run. -/
theorem Run.simulation {σ' ι' : Type} {step : σ → ι → σ → Prop} {step' : σ' → ι' → σ' → Prop}
    {s₀ : σ} {t₀ : σ'} {R : σ → σ' → Prop} (initial : R s₀ t₀)
    (simulate : ∀ s i u t, step s i u → R s t → ∃ more v, Run step' t more v ∧ R u v)
    {past : List ι} {s : σ} (h : Run step s₀ past s) : ∃ past' t, Run step' t₀ past' t ∧ R s t := by
  induction h with
  | start => exact ⟨[], t₀, .start, initial⟩
  | step _ hstep ih =>
    obtain ⟨past', t, before, related⟩ := ih
    obtain ⟨more, v, after, related'⟩ := simulate _ _ _ _ hstep related
    exact ⟨past' ++ more, v, before.append after, related'⟩

/-- What every step pays out of `credit`, or earns by raising `income`, a run has paid in the end. -/
theorem Run.amortized {step : σ → ι → σ → Prop} (cost : ι → ℕ) (credit income : σ → ℕ)
    (pays : ∀ s i t, step s i t → cost i + credit t + income s ≤ credit s + income t)
    {s t : σ} {past : List ι} (h : Run step s past t) :
    (past.map cost).sum + credit t + income s ≤ credit s + income t := by
  induction h with
  | start => exact Nat.le_of_eq (by rw [List.map_nil, List.sum_nil, Nat.zero_add])
  | step _ hstep ih =>
    have paid := pays _ _ _ hstep
    rw [List.map_append, List.sum_append_nat, List.map_singleton, List.sum_singleton]
    omega

end Run

section Method
variable {ε σ α β : Type}

/-- The state a program leaves, whether it returned or failed. -/
def left : EStateM.Result ε σ α → σ
  | .ok _ s => s
  | .error _ s => s

@[simp] theorem left_ok (a : α) (s : σ) : left (.ok a s : EStateM.Result ε σ α) = s := rfl
@[simp] theorem left_error (e : ε) (s : σ) : left (.error e s : EStateM.Result ε σ α) = s := rfl

/-- What a program failed with. -/
def failure? : EStateM.Result ε σ α → Option ε
  | .ok _ _ => none
  | .error e _ => some e

theorem failure?_eq_none {r : EStateM.Result ε σ PUnit} :
    failure? r = none ↔ r = .ok ⟨⟩ (left r) := by
  cases r with
  | ok a s => simp [failure?]
  | error e s => simp [failure?]

theorem failure?_eq_some {r : EStateM.Result ε σ α} {e : ε} :
    failure? r = some e ↔ r = .error e (left r) := by
  cases r with
  | ok a s => simp [failure?]
  | error e s => simp [failure?]

/-- `P` holds after the program, returned or failed, whenever it held before. -/
def Keeps (P : σ → Prop) (m : EStateM ε σ α) : Prop := ∀ s, P s → P (left (m s))

@[simp] theorem bind_run (m : EStateM ε σ α) (f : α → EStateM ε σ β) (s : σ) :
    (m >>= f) s = match m s with | .ok a t => f a t | .error e t => .error e t := rfl

@[simp] theorem pure_run (a : α) (s : σ) : (pure a : EStateM ε σ α) s = .ok a s := rfl

@[simp] theorem map_run (f : α → β) (m : EStateM ε σ α) (s : σ) :
    (f <$> m) s = match m s with | .ok a t => .ok (f a) t | .error e t => .error e t := rfl

@[simp] theorem get_run (s : σ) : (get : EStateM ε σ σ) s = .ok s s := rfl

@[simp] theorem set_run (s t : σ) : (set t : EStateM ε σ PUnit) s = .ok ⟨⟩ t := rfl

@[simp] theorem modify_run (f : σ → σ) (s : σ) :
    (modify f : EStateM ε σ PUnit) s = .ok ⟨⟩ (f s) := rfl

@[simp] theorem throw_run (e : ε) (s : σ) : (throw e : EStateM ε σ α) s = .error e s := rfl

@[simp] theorem ofExcept_ok_run (a : α) (s : σ) :
    (ofExcept (.ok a : Except ε α) : EStateM ε σ α) s = .ok a s := rfl

@[simp] theorem ofExcept_error_run (e : ε) (s : σ) :
    (ofExcept (.error e : Except ε α) : EStateM ε σ α) s = .error e s := rfl

@[simp] theorem discard_run (m : EStateM ε σ α) (s : σ) :
    (discard m : EStateM ε σ PUnit) s =
      match m s with | .ok _ t => .ok ⟨⟩ t | .error e t => .error e t := rfl

theorem keeps_pure {P : σ → Prop} (a : α) : Keeps P (pure a : EStateM ε σ α) := fun _ h => h

theorem keeps_bind {P : σ → Prop} {m : EStateM ε σ α} {f : α → EStateM ε σ β}
    (hm : Keeps P m) (hf : ∀ a, Keeps P (f a)) : Keeps P (m >>= f) := by
  intro s hs
  have h := hm s hs
  rw [bind_run]
  cases hr : m s with
  | ok a t => rw [hr] at h; exact hf a t h
  | error e t => rw [hr] at h; exact h

theorem keeps_forM {P : σ → Prop} {f : α → EStateM ε σ PUnit} {l : List α}
    (hf : ∀ a ∈ l, Keeps P (f a)) : Keeps P (l.forM f) := by
  induction l with
  | nil => exact keeps_pure _
  | cons a l ih =>
    obtain ⟨ha, hl⟩ := List.forall_mem_cons.mp hf
    exact keeps_bind ha (fun _ => ih hl)

/-- A search whose test never fails is a plain search. -/
theorem anyM_ok {f : α → Except ε Bool} {g : α → Bool} {l : List α}
    (h : ∀ a ∈ l, f a = .ok (g a)) : l.anyM f = .ok (l.any g) := by
  induction l with
  | nil => rfl
  | cons a l ih =>
    obtain ⟨ha, hl⟩ := List.forall_mem_cons.mp h
    rw [List.anyM_cons, ha, List.any_cons]
    cases hg : g a with
    | true => simp [pure, Except.pure, bind, Except.bind]
    | false => simpa [bind, Except.bind] using ih hl

/-- A search fails only where one of its tests does. -/
theorem anyM_error {f : α → Except ε Bool} {l : List α} {e : ε} (h : l.anyM f = .error e) :
    ∃ a ∈ l, f a = .error e := by
  induction l with
  | nil => cases h
  | cons a l ih =>
    rw [List.anyM_cons] at h
    cases test : f a with
    | error d =>
      rw [test] at h
      cases h
      exact ⟨a, List.mem_cons_self, test⟩
    | ok found =>
      rw [test] at h
      cases found with
      | true => cases h
      | false =>
        obtain ⟨b, hb, failed⟩ := ih h
        exact ⟨b, List.mem_cons_of_mem a hb, failed⟩

/-- A loop fails only where its body does. -/
theorem forM_error {f : α → EStateM ε σ PUnit} {l : List α} {s t : σ} {e : ε}
    (h : l.forM f s = .error e t) : ∃ a ∈ l, ∃ u, f a u = .error e t := by
  induction l generalizing s with
  | nil => cases h
  | cons a l ih =>
    change (f a >>= fun _ => l.forM f) s = _ at h
    rw [bind_run] at h
    cases body : f a s with
    | error d u =>
      rw [body] at h
      cases h
      exact ⟨a, List.mem_cons_self, s, body⟩
    | ok _ u =>
      rw [body] at h
      obtain ⟨b, hb, failed⟩ := ih h
      exact ⟨b, List.mem_cons_of_mem a hb, failed⟩

/-- Two nested loops are one loop over the pairs, the outer element first. -/
theorem foldl_foldl {γ : Type} (f : σ → α → γ → σ) (l : List α) (l' : List γ) (s : σ) :
    l.foldl (fun s a => l'.foldl (fun s b => f s a b) s) s =
      (l ×ˢ l').foldl (fun s p => f s p.1 p.2) s := by
  induction l generalizing s with
  | nil => rfl
  | cons a l ih => rw [List.foldl_cons, ih, List.product_cons, List.foldl_append, List.foldl_map]

/-- A loop whose body never fails is a fold over its elements. -/
theorem forM_eq_foldl {f : α → EStateM ε σ PUnit} {g : σ → α → σ} {P : σ → Prop}
    (body : ∀ a s, P s → f a s = .ok ⟨⟩ (g s a)) (keep : ∀ a s, P s → P (g s a))
    (l : List α) {s : σ} (hs : P s) : l.forM f s = .ok ⟨⟩ (l.foldl g s) := by
  induction l generalizing s with
  | nil => rfl
  | cons a l ih =>
    change (f a >>= fun _ => l.forM f) s = _
    rw [bind_run, body a s hs]
    exact ih (keep a s hs)

end Method

end Runs
