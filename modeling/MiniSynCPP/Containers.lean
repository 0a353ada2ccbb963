import Mathlib.Order.Lattice
import Mathlib.Data.List.Nodup
import Mathlib.Data.List.Pairwise

/-!
# Ordered sets and hash tables

Models of `std::set` with a key comparison and of `std::unordered_map`. A set
is its elements in key order. A table is a list of entries with distinct
keys; the list order stands for nothing, so a loop over a table goes through
`IterOrder`, which may meet the entries in any order.
-/

namespace Containers

section OrderedSet
variable {α K : Type} [LinearOrder K]

/-- The elements of a `std::set` whose comparison reads only `key`. -/
structure OrderedSet (key : α → K) where
  elems : List α
  sorted : elems.Pairwise (fun a b => key a < key b)

/-- Insertion into a sorted list. An element with an equal key stays and
the new one is rejected. -/
def insertSorted (key : α → K) (a : α) : List α → List α
  | [] => [a]
  | b :: l =>
    if key a < key b then a :: b :: l
    else if key a = key b then b :: l
    else b :: insertSorted key a l

theorem mem_insertSorted {key : α → K} {a b : α} {l : List α}
    (h : l.Pairwise (fun a b => key a < key b)) :
    b ∈ insertSorted key a l ↔ b ∈ l ∨ (b = a ∧ ∀ c ∈ l, key c ≠ key a) := by
  induction l with
  | nil => simp [insertSorted]
  | cons d l ih =>
    obtain ⟨hd, hl⟩ := List.pairwise_cons.mp h
    rw [insertSorted]
    split
    · rename_i hlt
      have away : ∀ c ∈ d :: l, key c ≠ key a := by
        intro c hc
        rcases List.mem_cons.mp hc with rfl | hc
        · exact hlt.ne'
        · exact (hlt.trans (hd c hc)).ne'
      rw [List.mem_cons]
      exact ⟨fun hb => hb.elim (fun e => .inr ⟨e, away⟩) .inl,
        fun hb => hb.elim .inr (fun e => .inl e.1)⟩
    · split
      · rename_i heq
        refine ⟨.inl, fun hb => hb.elim id (fun e => ?_)⟩
        exact absurd heq.symm (e.2 d List.mem_cons_self)
      · rename_i hne
        rw [List.mem_cons, ih hl, List.mem_cons, or_assoc]
        simp only [List.forall_mem_cons, ne_eq, Ne.symm hne, not_false_eq_true, true_and]

theorem insertSorted_sorted {key : α → K} (a : α) {l : List α}
    (h : l.Pairwise (fun a b => key a < key b)) :
    (insertSorted key a l).Pairwise (fun a b => key a < key b) := by
  induction l with
  | nil => simp [insertSorted]
  | cons d l ih =>
    obtain ⟨hd, hl⟩ := List.pairwise_cons.mp h
    rw [insertSorted]
    split
    · rename_i hlt
      refine List.pairwise_cons.mpr ⟨fun c hc => ?_, h⟩
      rcases List.mem_cons.mp hc with rfl | hc
      · exact hlt
      · exact hlt.trans (hd c hc)
    · split
      · exact h
      · rename_i hnlt hne
        refine List.pairwise_cons.mpr ⟨fun c hc => ?_, ih hl⟩
        rcases (mem_insertSorted hl).mp hc with hc | ⟨rfl, _⟩
        · exact hd c hc
        · exact lt_of_le_of_ne (not_lt.mp hnlt) (Ne.symm hne)

namespace OrderedSet
variable {key : α → K}

def empty : OrderedSet key := ⟨[], .nil⟩

instance : Membership α (OrderedSet key) := ⟨fun s a => a ∈ s.elems⟩

theorem mem_def {s : OrderedSet key} {a : α} : a ∈ s ↔ a ∈ s.elems := Iff.rfl

@[simp] theorem not_mem_empty (a : α) : a ∉ (empty : OrderedSet key) := List.not_mem_nil

/-- `std::set::insert`. -/
def insert (s : OrderedSet key) (a : α) : OrderedSet key :=
  ⟨insertSorted key a s.elems, insertSorted_sorted a s.sorted⟩

theorem mem_insert {s : OrderedSet key} {a b : α} :
    b ∈ s.insert a ↔ b ∈ s ∨ (b = a ∧ ∀ c ∈ s, key c ≠ key a) :=
  mem_insertSorted s.sorted

/-- The loop that erases the elements satisfying `p` one by one. -/
def eraseIf (s : OrderedSet key) (p : α → Bool) : OrderedSet key :=
  ⟨s.elems.filter (fun a => !p a), s.sorted.filter _⟩

@[simp] theorem mem_eraseIf {s : OrderedSet key} {p : α → Bool} {a : α} :
    a ∈ s.eraseIf p ↔ a ∈ s ∧ p a = false := by
  simp [eraseIf, mem_def]

/-- `std::set::erase` at the position of `a`. -/
def erase (s : OrderedSet key) (a : α) : OrderedSet key :=
  s.eraseIf (fun b => key b = key a)

/-- The elements from `begin()` up to the position of `a`. -/
def before (s : OrderedSet key) (a : α) : List α := s.elems.filter (fun b => key b < key a)

/-- The elements behind the position of `a`, up to `end()`. -/
def after (s : OrderedSet key) (a : α) : List α := s.elems.filter (fun b => key a < key b)

@[simp] theorem mem_before {s : OrderedSet key} {a b : α} :
    b ∈ s.before a ↔ b ∈ s ∧ key b < key a := by simp [before, mem_def]

@[simp] theorem mem_after {s : OrderedSet key} {a b : α} :
    b ∈ s.after a ↔ b ∈ s ∧ key a < key b := by simp [after, mem_def]

theorem keys_nodup (s : OrderedSet key) : (s.elems.map key).Nodup :=
  List.pairwise_map.mpr (s.sorted.imp fun h => ne_of_lt h)

/-- Two elements with one key are one element. -/
theorem eq_of_key {s : OrderedSet key} {a b : α} (ha : a ∈ s) (hb : b ∈ s)
    (h : key a = key b) : a = b :=
  List.inj_on_of_nodup_map s.keys_nodup ha hb h

end OrderedSet
end OrderedSet

section UnorderedMap
variable {K V : Type}

/-- A `std::unordered_map`: at most one entry a key. -/
structure UnorderedMap (K V : Type) where
  entries : List (K × V)
  nodup : (entries.map Prod.fst).Nodup

namespace UnorderedMap

def empty : UnorderedMap K V := ⟨[], .nil⟩

instance : Membership (K × V) (UnorderedMap K V) := ⟨fun m e => e ∈ m.entries⟩

theorem mem_def {m : UnorderedMap K V} {e : K × V} : e ∈ m ↔ e ∈ m.entries := Iff.rfl

@[simp] theorem not_mem_empty (e : K × V) : e ∉ (empty : UnorderedMap K V) := List.not_mem_nil

theorem eq_of_key {m : UnorderedMap K V} {k : K} {v w : V} (hv : (k, v) ∈ m) (hw : (k, w) ∈ m) :
    v = w := by
  have := List.inj_on_of_nodup_map m.nodup hv hw rfl
  exact (Prod.mk.inj this).2

/-- The loop that erases the entries satisfying `p` one by one. -/
def eraseIf (m : UnorderedMap K V) (p : K × V → Bool) : UnorderedMap K V :=
  ⟨m.entries.filter (fun e => !p e), m.nodup.sublist (List.filter_sublist.map _)⟩

@[simp] theorem mem_eraseIf {m : UnorderedMap K V} {p : K × V → Bool} {e : K × V} :
    e ∈ m.eraseIf p ↔ e ∈ m ∧ p e = false := by
  simp [eraseIf, mem_def]

variable [DecidableEq K]

/-- `find`, and `at` without its exception. -/
def find? (m : UnorderedMap K V) (k : K) : Option V :=
  (m.entries.find? (fun e => e.1 = k)).map Prod.snd

theorem find?_eq_some {m : UnorderedMap K V} {k : K} {v : V} :
    m.find? k = some v ↔ (k, v) ∈ m := by
  simp only [find?, Option.map_eq_some_iff]
  constructor
  · rintro ⟨⟨k', v'⟩, h, rfl⟩
    have hk := List.find?_some h
    simp only [decide_eq_true_eq] at hk
    subst hk
    exact List.mem_of_find?_eq_some h
  · intro h
    cases hf : m.entries.find? (fun e => e.1 = k) with
    | none => simpa using List.find?_eq_none.mp hf _ h
    | some e =>
      obtain ⟨k', v'⟩ := e
      have hk := List.find?_some hf
      simp only [decide_eq_true_eq] at hk
      subst hk
      exact ⟨_, rfl, eq_of_key (List.mem_of_find?_eq_some hf) h⟩

/-- `count(k) > 0`. -/
def contains (m : UnorderedMap K V) (k : K) : Bool := (m.find? k).isSome

theorem contains_iff {m : UnorderedMap K V} {k : K} : m.contains k = true ↔ ∃ v, (k, v) ∈ m := by
  simp only [contains, Option.isSome_iff_exists, find?_eq_some]

theorem contains_eq_false {m : UnorderedMap K V} {k : K} :
    m.contains k = false ↔ ∀ v, (k, v) ∉ m := by
  rw [← Bool.not_eq_true, contains_iff, not_exists]

theorem not_mem_keys {m : UnorderedMap K V} {k : K} (h : ¬ m.contains k = true) :
    k ∉ m.entries.map Prod.fst := by
  intro hk
  obtain ⟨⟨k', v⟩, hv, rfl⟩ := List.mem_map.mp hk
  exact h (contains_iff.mpr ⟨v, hv⟩)

/-- `emplace`: an entry that exists stays as it is. -/
def emplace (m : UnorderedMap K V) (k : K) (v : V) : UnorderedMap K V :=
  if h : m.contains k = true then m
  else ⟨m.entries ++ [(k, v)], by
    rw [List.map_append]
    exact m.nodup.append (List.nodup_singleton k) (by simpa using not_mem_keys h)⟩

theorem mem_emplace {m : UnorderedMap K V} {k : K} {v : V} {e : K × V} :
    e ∈ m.emplace k v ↔ e ∈ m ∨ (e = (k, v) ∧ m.contains k = false) := by
  rw [emplace]
  split
  · rename_i h; simp [h]
  · rename_i h
    simp only [Bool.not_eq_true] at h
    simp [mem_def, h]

/-- `operator[]` followed by an assignment: an entry that exists is replaced. -/
def assign (m : UnorderedMap K V) (k : K) (v : V) : UnorderedMap K V :=
  (m.eraseIf (fun e => e.1 = k)).emplace k v

theorem mem_assign {m : UnorderedMap K V} {k : K} {v : V} {e : K × V} :
    e ∈ m.assign k v ↔ (e ∈ m ∧ e.1 ≠ k) ∨ e = (k, v) := by
  have absent : (m.eraseIf (fun e => e.1 = k)).contains k = false :=
    contains_eq_false.mpr (by simp)
  simp [assign, mem_emplace, absent]

end UnorderedMap

/-- An order in which a loop meets the entries of a hash table. -/
structure IterOrder (α : Type) where
  visit : List α → List α
  perm : ∀ l, (visit l).Perm l

namespace IterOrder
variable {α : Type}

def listed : IterOrder α := ⟨id, fun _ => .refl _⟩

@[simp] theorem mem_visit (o : IterOrder α) {l : List α} {a : α} : a ∈ o.visit l ↔ a ∈ l :=
  (o.perm l).mem_iff

end IterOrder
end UnorderedMap

end Containers
