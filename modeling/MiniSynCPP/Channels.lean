import Mathlib.Data.List.Basic

/-!
# Datagram channels

A channel is the list of the datagrams in flight. It may lose or duplicate
any of them, and deliver any of them next, so that the order of the list
stands for nothing. It never makes one up.
-/

namespace Channels

variable {α : Type}

/-- What a channel does on its own; datagrams are named by their position. -/
inductive Fault
  | lose (i : ℕ)
  | duplicate (i : ℕ)

def Fault.apply : Fault → List α → List α
  | lose i, c => c.eraseIdx i
  | duplicate i, c => c ++ (getElem? c i).toList

/-- Delivery of the `i`th datagram. -/
def take? (c : List α) (i : ℕ) : Option (α × List α) := (getElem? c i).map fun d => (d, c.eraseIdx i)

theorem Fault.mem_of_apply {fault : Fault} {c : List α} {d : α} (h : d ∈ fault.apply c) : d ∈ c := by
  cases fault with
  | lose i => exact List.mem_of_mem_eraseIdx h
  | duplicate i =>
    obtain h | h := List.mem_append.mp h
    · exact h
    · exact List.mem_of_getElem? (Option.mem_toList.mp h)

theorem take?_eq_some {c rest : List α} {i : ℕ} {d : α} :
    take? c i = some (d, rest) ↔ getElem? c i = some d ∧ rest = c.eraseIdx i := by
  unfold take?
  cases getElem? c i with
  | none => simp
  | some e => simp only [Option.map_some, Option.some.injEq, Prod.mk.injEq, eq_comm (a := rest)]

theorem mem_of_take? {c rest : List α} {i : ℕ} {d : α} (h : take? c i = some (d, rest)) : d ∈ c :=
  List.mem_of_getElem? (take?_eq_some.mp h).1

/-- The datagrams that stay were there before. -/
theorem mem_of_take?_rest {c rest : List α} {i : ℕ} {d e : α} (h : take? c i = some (d, rest))
    (he : e ∈ rest) : e ∈ c := by
  rw [(take?_eq_some.mp h).2] at he
  exact List.mem_of_mem_eraseIdx he

/-- Only the delivered datagram leaves the channel. -/
theorem mem_rest_of_ne {c rest : List α} {i : ℕ} {d e : α} (h : take? c i = some (d, rest))
    (he : e ∈ c) (other : e ≠ d) : e ∈ rest := by
  obtain ⟨taken, rfl⟩ := take?_eq_some.mp h
  obtain ⟨j, hj⟩ := List.mem_iff_getElem?.mp he
  refine List.mem_eraseIdx_iff_getElem?.mpr ⟨j, ?_, hj⟩
  rintro rfl
  exact other (Option.some.inj (hj.symm.trans taken))

/-- Every datagram in flight can be the next one delivered. -/
theorem exists_take? {c : List α} {d : α} (h : d ∈ c) : ∃ i rest, take? c i = some (d, rest) := by
  obtain ⟨i, hi⟩ := List.mem_iff_getElem?.mp h
  exact ⟨i, c.eraseIdx i, take?_eq_some.mpr ⟨hi, rfl⟩⟩

/-! ## A part of a channel -/

section Part
variable {β γ : Type} {g : β → γ} {f : α → Option γ} {v : List β} {c rest : List α} {d : α} {i : ℕ}

/-- `v` holds the datagrams of `c` that `f` picks, in their order. -/
def Picks (g : β → γ) (f : α → Option γ) (v : List β) (c : List α) : Prop := v.map g = c.filterMap f

theorem split_of_getElem? (h : getElem? c i = some d) :
    c = c.take i ++ d :: c.drop (i + 1) ∧ c.eraseIdx i = c.take i ++ c.drop (i + 1) := by
  obtain ⟨bound, rfl⟩ := List.getElem?_eq_some_iff.mp h
  refine ⟨?_, List.eraseIdx_eq_take_drop_succ c i⟩
  rw [← List.drop_eq_getElem_cons bound, List.take_append_drop]

theorem eraseIdx_length_append (l l' : List α) (d : α) :
    (l ++ d :: l')[l.length]? = some d ∧ (l ++ d :: l').eraseIdx l.length = l ++ l' := by
  constructor
  · rw [List.getElem?_append_right (Nat.le_refl _), Nat.sub_self]
    rfl
  · rw [List.eraseIdx_append_of_length_le (Nat.le_refl _), Nat.sub_self]
    rfl

/-- What is picked is found in the part as well. -/
theorem Picks.find (h : Picks g f v c) {e : γ} (found : getElem? c i = some d) (picked : f d = some e) :
    ∃ j b, v[j]? = some b ∧ g b = e ∧ Picks g f (v.eraseIdx j) (c.eraseIdx i) := by
  obtain ⟨split, erased⟩ := split_of_getElem? found
  unfold Picks at h
  rw [split, List.filterMap_append, List.filterMap_cons_some picked] at h
  obtain ⟨v₁, v₂, rfl, before, after⟩ := List.map_eq_append_iff.mp h
  obtain ⟨b, v₃, rfl, same, later⟩ := List.map_eq_cons_iff.mp after
  obtain ⟨here, gone⟩ := eraseIdx_length_append v₁ v₃ b
  refine ⟨v₁.length, b, here, same, ?_⟩
  unfold Picks
  rw [gone, erased, List.map_append, List.filterMap_append, before, later]

theorem Picks.erase (h : Picks g f v c) (found : getElem? c i = some d) (dropped : f d = none) :
    Picks g f v (c.eraseIdx i) := by
  obtain ⟨split, erased⟩ := split_of_getElem? found
  unfold Picks at h ⊢
  rw [split, List.filterMap_append, List.filterMap_cons_none dropped] at h
  rw [erased, List.filterMap_append]
  exact h

theorem Picks.take (h : Picks g f v c) {e : γ} (taken : take? c i = some (d, rest))
    (picked : f d = some e) : ∃ j b rest', take? v j = some (b, rest') ∧ g b = e ∧ Picks g f rest' rest := by
  obtain ⟨found, rfl⟩ := take?_eq_some.mp taken
  obtain ⟨j, b, here, same, picks⟩ := h.find found picked
  exact ⟨j, b, _, take?_eq_some.mpr ⟨here, rfl⟩, same, picks⟩

theorem Picks.skip (h : Picks g f v c) (taken : take? c i = some (d, rest)) (dropped : f d = none) :
    Picks g f v rest := by
  obtain ⟨found, rfl⟩ := take?_eq_some.mp taken
  exact h.erase found dropped

theorem Picks.send (h : Picks g f v c) {b : β} (picked : f d = some (g b)) :
    Picks g f (v ++ [b]) (c ++ [d]) := by
  unfold Picks at h ⊢
  rw [List.map_append, List.filterMap_append, h, List.filterMap_cons_some picked]
  rfl

theorem Picks.ignore (h : Picks g f v c) {more : List α} (dropped : ∀ d ∈ more, f d = none) :
    Picks g f v (c ++ more) := by
  unfold Picks at h ⊢
  rw [List.filterMap_append, List.filterMap_eq_nil_iff.mpr dropped, List.append_nil]
  exact h

/-- A fault of the channel is one of the part, or does not touch it. -/
theorem Picks.fault (h : Picks g f v c) (fault : Fault) :
    Picks g f v (fault.apply c) ∨ ∃ fault' : Fault, Picks g f (fault'.apply v) (fault.apply c) := by
  cases fault with
  | lose i =>
    cases found : getElem? c i with
    | none =>
      left
      rw [Fault.apply, List.eraseIdx_of_length_le (List.getElem?_eq_none_iff.mp found)]
      exact h
    | some d =>
      cases picked : f d with
      | none => exact .inl (h.erase found picked)
      | some e =>
        obtain ⟨j, _, _, _, picks⟩ := h.find found picked
        exact .inr ⟨.lose j, picks⟩
  | duplicate i =>
    cases found : getElem? c i with
    | none =>
      left
      rw [Fault.apply, found]
      exact h.ignore fun _ hd => absurd hd List.not_mem_nil
    | some d =>
      cases picked : f d with
      | none =>
        left
        rw [Fault.apply, found]
        exact h.ignore fun e he => List.mem_singleton.mp he ▸ picked
      | some e =>
        obtain ⟨j, b, here, same, _⟩ := h.find found picked
        refine .inr ⟨.duplicate j, ?_⟩
        rw [Fault.apply, Fault.apply, found, here]
        exact h.send (same ▸ picked)

end Part

end Channels
