import MiniSynCPP.Containers

/-!
# Images of containers

What the operations of ordered sets and hash tables do with the images of their
arguments under a map that keeps the order of the keys, or tells keys apart.
-/

namespace Containers

section OrderedSet
variable {α β K L : Type} [LinearOrder K] [LinearOrder L] {key : α → K} {key' : β → L} {f : α → β}

/-- `f` keeps the order of the keys. -/
def Climbs (key : α → K) (key' : β → L) (f : α → β) : Prop :=
  ∀ a b, key' (f a) < key' (f b) ↔ key a < key b

theorem Climbs.eq_iff (h : Climbs key key' f) (a b : α) : key' (f a) = key' (f b) ↔ key a = key b := by
  rw [eq_iff_le_not_lt, eq_iff_le_not_lt, ← not_lt, ← not_lt, h a b, h b a]

theorem insertSorted_image (h : Climbs key key' f) (a : α) (l : List α) :
    insertSorted key' (f a) (l.map f) = (insertSorted key a l).map f := by
  induction l with
  | nil => rfl
  | cons b l ih =>
    rw [List.map_cons, insertSorted, insertSorted]
    simp only [h a b, h.eq_iff a b]
    split_ifs
    · rfl
    · rfl
    · rw [ih, List.map_cons]

namespace OrderedSet
variable {s : OrderedSet key} {t : OrderedSet key'}

theorem insert_image (h : Climbs key key' f) (image : t.elems = s.elems.map f) (a : α) :
    (t.insert (f a)).elems = (s.insert a).elems.map f := by
  rw [insert, insert]
  simp only
  rw [image, insertSorted_image h]

theorem eraseIf_image {p : α → Bool} {q : β → Bool} (same : ∀ a, q (f a) = p a)
    (image : t.elems = s.elems.map f) : (t.eraseIf q).elems = (s.eraseIf p).elems.map f := by
  rw [eraseIf, eraseIf]
  simp only
  rw [image, List.filter_map]
  congr 2
  funext a
  exact congrArg (!·) (same a)

theorem erase_image (h : Climbs key key' f) (image : t.elems = s.elems.map f) (a : α) :
    (t.erase (f a)).elems = (s.erase a).elems.map f :=
  eraseIf_image (fun b => decide_eq_decide.mpr (h.eq_iff b a)) image

theorem before_image (h : Climbs key key' f) (image : t.elems = s.elems.map f) (a : α) :
    t.before (f a) = (s.before a).map f := by
  rw [before, before, image, List.filter_map]
  congr 2
  funext b
  exact decide_eq_decide.mpr (h b a)

theorem after_image (h : Climbs key key' f) (image : t.elems = s.elems.map f) (a : α) :
    t.after (f a) = (s.after a).map f := by
  rw [after, after, image, List.filter_map]
  congr 2
  funext b
  exact decide_eq_decide.mpr (h a b)

end OrderedSet
end OrderedSet

section UnorderedMap
variable {K K' V V' : Type} {f : K → K'} {g : V → V'}

namespace UnorderedMap
variable {m : UnorderedMap K V} {n : UnorderedMap K' V'}

theorem eraseIf_image {p : K × V → Bool} {q : K' × V' → Bool} (same : ∀ e, q (Prod.map f g e) = p e)
    (image : n.entries = m.entries.map (Prod.map f g)) :
    (n.eraseIf q).entries = (m.eraseIf p).entries.map (Prod.map f g) := by
  rw [eraseIf, eraseIf]
  simp only
  rw [image, List.filter_map]
  congr 2
  funext e
  exact congrArg (!·) (same e)

variable [DecidableEq K] [DecidableEq K']

theorem find?_image (apart : Function.Injective f) (image : n.entries = m.entries.map (Prod.map f g))
    (k : K) : n.find? (f k) = (m.find? k).map g := by
  rw [find?, find?, image, List.find?_map]
  have same : ((fun e : K' × V' => decide (e.1 = f k)) ∘ Prod.map f g) = fun e => decide (e.1 = k) := by
    funext e
    exact decide_eq_decide.mpr apart.eq_iff
  rw [same, Option.map_map, Option.map_map]
  rfl

theorem contains_image (apart : Function.Injective f) (image : n.entries = m.entries.map (Prod.map f g))
    (k : K) : n.contains (f k) = m.contains k := by
  rw [contains, contains, find?_image apart image, Option.isSome_map]

theorem emplace_image (apart : Function.Injective f) (image : n.entries = m.entries.map (Prod.map f g))
    (k : K) (v : V) : (n.emplace (f k) (g v)).entries = (m.emplace k v).entries.map (Prod.map f g) := by
  have same := contains_image apart image k
  rw [emplace, emplace]
  by_cases h : m.contains k = true
  · rw [dif_pos h, dif_pos (same.trans h)]
    exact image
  · rw [dif_neg h, dif_neg (by rwa [same])]
    simp only
    rw [image, List.map_append]
    rfl

theorem assign_image (apart : Function.Injective f) (image : n.entries = m.entries.map (Prod.map f g))
    (k : K) (v : V) : (n.assign (f k) (g v)).entries = (m.assign k v).entries.map (Prod.map f g) :=
  emplace_image apart (eraseIf_image (fun _ => decide_eq_decide.mpr apart.eq_iff) image) k v

end UnorderedMap

/-- The order in which the preimages are met. -/
def IterOrder.through {α β : Type} (f : α → β) (g : β → α) (inverse : Function.LeftInverse f g)
    (o : IterOrder α) : IterOrder β where
  visit l := (o.visit (l.map g)).map f
  perm l := by
    have met := (o.perm (l.map g)).map f
    rwa [List.map_map, inverse.comp_eq_id, List.map_id] at met

theorem IterOrder.through_visit {α β : Type} {f : α → β} {g : β → α} (inverse : Function.LeftInverse f g)
    (inverse' : Function.LeftInverse g f) (o : IterOrder α) (l : List α) :
    (o.through f g inverse).visit (l.map f) = (o.visit l).map f := by
  simp only [through, List.map_map, inverse'.comp_eq_id, List.map_id]

end UnorderedMap

end Containers
