import MiniSynCPP.Runs

/-!
# Two programs in step

A relation between the states of two programs, and rules that show that they
keep it: both return, or both fail with the same failure, and what they leave
is related again.
-/

namespace Couplings

open Runs

variable {ε σ σ' τ τ' α α' β β' : Type} {R : σ → σ' → Prop} {S : α → α' → Prop} {T : β → β' → Prop}

/-- Related outcomes. -/
inductive Coupled (R : σ → σ' → Prop) (S : α → α' → Prop) :
    EStateM.Result ε σ α → EStateM.Result ε σ' α' → Prop
  | ok {a : α} {a' : α'} {s : σ} {s' : σ'} (value : S a a') (state : R s s') :
      Coupled R S (.ok a s) (.ok a' s')
  | error {e : ε} {s : σ} {s' : σ'} (state : R s s') : Coupled R S (.error e s) (.error e s')

/-- Programs that keep the states related and return related values. -/
def Couples (R : σ → σ' → Prop) (S : α → α' → Prop) (m : EStateM ε σ α) (m' : EStateM ε σ' α') : Prop :=
  ∀ s s', R s s' → Coupled R S (m s) (m' s')

theorem Coupled.left {r : EStateM.Result ε σ α} {r' : EStateM.Result ε σ' α'} (h : Coupled R S r r') :
    R (left r) (left r') := by
  cases h with
  | ok _ state | error state => exact state

theorem Coupled.failure {r : EStateM.Result ε σ α} {r' : EStateM.Result ε σ' α'}
    (h : Coupled R S r r') : failure? r' = failure? r := by
  cases h with
  | ok | error => rfl

theorem couples_pure {a : α} {a' : α'} (h : S a a') :
    Couples R S (pure a : EStateM ε σ α) (pure a' : EStateM ε σ' α') :=
  fun _ _ related => .ok h related

theorem couples_bind {m : EStateM ε σ α} {m' : EStateM ε σ' α'} {f : α → EStateM ε σ β}
    {f' : α' → EStateM ε σ' β'} (first : Couples R S m m')
    (rest : ∀ a a', S a a' → Couples R T (f a) (f' a')) : Couples R T (m >>= f) (m' >>= f') := by
  intro s s' related
  have head := first s s' related
  rw [bind_run, bind_run]
  cases hm : m s with
  | ok a t =>
    cases hm' : m' s' with
    | ok a' t' =>
      rw [hm, hm'] at head
      cases head with
      | ok value state => exact rest a a' value t t' state
    | error =>
      rw [hm, hm'] at head
      cases head
  | error e t =>
    cases hm' : m' s' with
    | ok =>
      rw [hm, hm'] at head
      cases head
    | error e' t' =>
      rw [hm, hm'] at head
      cases head with
      | error state => exact .error state

theorem couples_get : Couples R R (get : EStateM ε σ σ) (get : EStateM ε σ' σ') :=
  fun _ _ related => .ok related related

theorem couples_set {s : σ} {s' : σ'} (h : R s s') :
    Couples R (fun _ _ => True) (set s : EStateM ε σ PUnit) (set s' : EStateM ε σ' PUnit) :=
  fun _ _ _ => .ok trivial h

theorem couples_modify {f : σ → σ} {f' : σ' → σ'} (h : ∀ s s', R s s' → R (f s) (f' s')) :
    Couples R (fun _ _ => True) (modify f : EStateM ε σ PUnit) (modify f' : EStateM ε σ' PUnit) :=
  fun s s' related => .ok trivial (h s s' related)

theorem couples_throw (e : ε) : Couples R S (throw e : EStateM ε σ α) (throw e : EStateM ε σ' α') :=
  fun _ _ related => .error related

theorem couples_discard {m : EStateM ε σ α} {m' : EStateM ε σ' α'} (h : Couples R S m m') :
    Couples R (fun _ _ => True) (discard m) (discard m') := by
  intro s s' related
  have outcome := h s s' related
  rw [discard_run, discard_run]
  generalize m s = r, m' s' = r' at outcome ⊢
  cases outcome with
  | ok _ state => exact .ok trivial state
  | error state => exact .error state

/-- A loop over a list and one over its image. -/
theorem couples_forM {f : α → EStateM ε σ PUnit} {f' : α' → EStateM ε σ' PUnit} {g : α → α'} {l : List α}
    (body : ∀ a ∈ l, Couples R (fun _ _ => True) (f a) (f' (g a))) :
    Couples R (fun _ _ => True) (l.forM f) ((l.map g).forM f') := by
  induction l with
  | nil => exact couples_pure trivial
  | cons a l ih =>
    obtain ⟨here, later⟩ := List.forall_mem_cons.mp body
    exact couples_bind here fun _ _ _ => ih later

/-- The same test decides on both sides. -/
theorem couples_ite {c c' : Prop} [Decidable c] [Decidable c'] {m n : EStateM ε σ α}
    {m' n' : EStateM ε σ' α'} (same : c' ↔ c) (yes : Couples R S m m') (no : Couples R S n n') :
    Couples R S (if c then m else n) (if c' then m' else n') := by
  by_cases h : c
  · rw [if_pos h, if_pos (same.mpr h)]
    exact yes
  · rw [if_neg h, if_neg fun h' => h (same.mp h')]
    exact no

theorem couples_ofExcept (x : Except ε α) :
    Couples R Eq (ofExcept x : EStateM ε σ α) (ofExcept x : EStateM ε σ' α) := by
  cases x with
  | ok a => exact couples_pure rfl
  | error e => exact couples_throw e

/-- A program on a part of the state. -/
def part (get : τ → σ) (put : τ → σ → τ) (m : EStateM ε σ α) : EStateM ε τ α := fun o =>
  match m (get o) with
  | .ok a s => .ok a (put o s)
  | .error e s => .error e (put o s)

theorem couples_part {Q : τ → τ' → Prop} {get : τ → σ} {put : τ → σ → τ} {get' : τ' → σ'}
    {put' : τ' → σ' → τ'} {m : EStateM ε σ α} {m' : EStateM ε σ' α'} (h : Couples R S m m')
    (opens : ∀ o o', Q o o' → R (get o) (get' o'))
    (closes : ∀ o o' s s', Q o o' → R s s' → Q (put o s) (put' o' s')) :
    Couples Q S (part get put m) (part get' put' m') := by
  intro o o' related
  have outcome := h _ _ (opens o o' related)
  unfold part
  generalize m (get o) = r, m' (get' o') = r' at outcome ⊢
  cases outcome with
  | ok value state => exact .ok value (closes o o' _ _ related state)
  | error state => exact .error (closes o o' _ _ related state)

theorem anyM_map {f : α' → Except ε Bool} (g : α → α') (l : List α) :
    (l.map g).anyM f = l.anyM fun a => f (g a) := by
  induction l with
  | nil => rfl
  | cons a l ih =>
    rw [List.map_cons, List.anyM_cons, List.anyM_cons, ih]

theorem anyM_congr {f g : α → Except ε Bool} {l : List α} (h : ∀ a ∈ l, f a = g a) :
    l.anyM f = l.anyM g := by
  induction l with
  | nil => rfl
  | cons a l ih =>
    obtain ⟨here, later⟩ := List.forall_mem_cons.mp h
    rw [List.anyM_cons, List.anyM_cons, here, ih later]

/-- A fold over a list and one over its image. -/
theorem foldl_coupled {f : σ → α → σ} {f' : σ' → α' → σ'} {g : α → α'} {l : List α}
    (body : ∀ a ∈ l, ∀ s s', R s s' → R (f s a) (f' s' (g a))) {s : σ} {s' : σ'} (related : R s s') :
    R (l.foldl f s) ((l.map g).foldl f' s') := by
  induction l generalizing s s' with
  | nil => exact related
  | cons a l ih =>
    obtain ⟨here, later⟩ := List.forall_mem_cons.mp body
    exact ih later (here s s' related)

end Couplings
