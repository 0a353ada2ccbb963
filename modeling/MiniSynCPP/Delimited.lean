import Mathlib.Data.List.Basic

/-!
# Delimited text

Lines of fields: a separator between the fields of a line, and a break after
every line. A reader of a column looks its name up in the first line.
-/

namespace Delimited

variable {α β γ : Type} [DecidableEq α] {sep brk : α}

def line (sep : α) (fields : List (List α)) : List α := [sep].intercalate fields

def lines (brk : α) (ls : List (List α)) : List α := ls.flatMap fun l => l ++ [brk]

/-- The fields of every line that is not empty. -/
def rows (sep brk : α) (t : List α) : List (List (List α)) :=
  ((t.splitOn brk).filter fun l => l ≠ []).map fun l => l.splitOn sep

def column? (sep brk : α) (name t : List α) : Option (List (List α)) :=
  match rows sep brk t with
  | [] => none
  | header :: records => (header.idxOf? name).bind fun i => records.mapM fun fields => fields[i]?

/-- A column of which every cell is the text of a value. -/
def values? (parse : List α → Option γ) (sep brk : α) (name t : List α) : Option (List γ) :=
  (column? sep brk name t).bind fun cells => cells.mapM parse

omit [DecidableEq α] in
theorem mapM_of_forall {f : β → Option γ} {g : β → γ} {l : List β} (h : ∀ x ∈ l, f x = some (g x)) :
    l.mapM f = some (l.map g) := by
  induction l with
  | nil => rfl
  | cons x l ih =>
    rw [List.mapM_cons, h x List.mem_cons_self, ih fun y hy => h y (List.mem_cons_of_mem _ hy)]
    rfl

theorem splitOn_lines {ls : List (List α)} (unbroken : ∀ l ∈ ls, brk ∉ l) :
    (lines brk ls).splitOn brk = ls ++ [[]] := by
  induction ls with
  | nil => rfl
  | cons l ls ih =>
    have rest := ih fun l hl => unbroken l (List.mem_cons_of_mem _ hl)
    rw [lines, List.flatMap_cons, List.append_assoc, List.singleton_append,
      List.splitOn_append_cons_self_of_not_mem (unbroken l List.mem_cons_self)]
    exact congrArg (l :: ·) rest

/-- Fields that keep clear of both delimiters, the first of them not empty. -/
structure Clean (sep brk : α) (fields : List (List α)) : Prop where
  started : ∃ c t rest, fields = (c :: t) :: rest
  whole : ∀ f ∈ fields, sep ∉ f
  unbroken : ∀ f ∈ fields, brk ∉ f

section Clean
variable {fields : List (List α)} {rs : List (List (List α))}

omit [DecidableEq α] in
theorem mem_line {c : α} (h : c ∈ line sep fields) : c = sep ∨ ∃ f ∈ fields, c ∈ f := by
  unfold line at h
  induction fields with
  | nil => simp at h
  | cons f fields ih =>
    cases fields with
    | nil => exact .inr ⟨f, List.mem_singleton_self f, by simpa using h⟩
    | cons g fields =>
      rw [List.intercalate_cons_cons, List.append_assoc] at h
      obtain h | h := List.mem_append.mp h
      · exact .inr ⟨f, List.mem_cons_self, h⟩
      · obtain h | h := List.mem_append.mp h
        · exact .inl (List.mem_singleton.mp h)
        · exact (ih h).imp_right fun ⟨f', mem, hc⟩ => ⟨f', List.mem_cons_of_mem _ mem, hc⟩

theorem Clean.splitOn_line (clean : Clean sep brk fields) : (line sep fields).splitOn sep = fields := by
  refine List.splitOn_intercalate sep clean.whole ?_
  obtain ⟨c, t, rest, rfl⟩ := clean.started
  exact List.cons_ne_nil _ _

omit [DecidableEq α] in
theorem Clean.not_mem_line (clean : Clean sep brk fields) (distinct : sep ≠ brk) :
    brk ∉ line sep fields := by
  intro h
  obtain rfl | ⟨f, hf, h⟩ := mem_line h
  · exact distinct rfl
  · exact clean.unbroken f hf h

omit [DecidableEq α] in
theorem Clean.line_ne_nil (clean : Clean sep brk fields) : line sep fields ≠ [] := by
  obtain ⟨c, t, rest, rfl⟩ := clean.started
  cases rest with
  | nil => simp [line]
  | cons => simp [line]

/-- Clean rows are read as they were written. -/
theorem rows_lines (distinct : sep ≠ brk) (clean : ∀ fields ∈ rs, Clean sep brk fields) :
    rows sep brk (lines brk (rs.map (line sep))) = rs := by
  have unbroken : ∀ l ∈ rs.map (line sep), brk ∉ l := by
    intro l hl
    obtain ⟨fields, hf, rfl⟩ := List.mem_map.mp hl
    exact (clean fields hf).not_mem_line distinct
  have kept : (rs.map (line sep)).filter (fun l => l ≠ []) = rs.map (line sep) := by
    refine List.filter_eq_self.mpr ?_
    intro l hl
    obtain ⟨fields, hf, rfl⟩ := List.mem_map.mp hl
    exact decide_eq_true (clean fields hf).line_ne_nil
  rw [rows, splitOn_lines unbroken, List.filter_append, kept, List.map_append, List.map_map]
  have same : rs.map ((fun l => l.splitOn sep) ∘ line sep) = rs := by
    conv_rhs => rw [← List.map_id rs]
    exact List.map_congr_left fun fields hf => (clean fields hf).splitOn_line
  rw [same]
  simp

/-- A column is read by its name. -/
theorem column?_lines {header name : List α} {names : List (List α)} {records : List β}
    {record : β → List (List α)} {cell : β → List α} {i : ℕ} (distinct : sep ≠ brk)
    (top : Clean sep brk names) (clean : ∀ r ∈ records, Clean sep brk (record r))
    (found : names.idxOf? name = some i) (cells : ∀ r ∈ records, (record r)[i]? = some (cell r))
    (headed : header = line sep names) :
    column? sep brk name (lines brk (header :: records.map fun r => line sep (record r))) =
      some (records.map cell) := by
  have all : ∀ fields ∈ names :: records.map record, Clean sep brk fields := by
    intro fields hf
    obtain rfl | hf := List.mem_cons.mp hf
    · exact top
    · obtain ⟨r, hr, rfl⟩ := List.mem_map.mp hf
      exact clean r hr
  have read : rows sep brk (lines brk (header :: records.map fun r => line sep (record r))) =
      names :: records.map record := by
    rw [headed, ← rows_lines distinct all, List.map_cons, List.map_map]
    rfl
  rw [column?, read]
  simp only [found, Option.bind_some]
  rw [mapM_of_forall (g := fun fields => (fields[i]?).getD []), List.map_map]
  · congr 1
    exact List.map_congr_left fun r hr => by simp [cells r hr]
  · intro fields hf
    obtain ⟨r, hr, rfl⟩ := List.mem_map.mp hf
    rw [cells r hr]
    rfl

/-- So are its values. -/
theorem values?_lines {header name : List α} {names : List (List α)} {records : List β}
    {record : β → List (List α)} {cell : β → List α} {value : β → γ} {parse : List α → Option γ} {i : ℕ}
    (distinct : sep ≠ brk) (top : Clean sep brk names) (clean : ∀ r ∈ records, Clean sep brk (record r))
    (found : names.idxOf? name = some i) (cells : ∀ r ∈ records, (record r)[i]? = some (cell r))
    (headed : header = line sep names) (parsed : ∀ r ∈ records, parse (cell r) = some (value r)) :
    values? parse sep brk name (lines brk (header :: records.map fun r => line sep (record r))) =
      some (records.map value) := by
  rw [values?, column?_lines distinct top clean found cells headed, Option.bind_some, List.mapM_map]
  exact mapM_of_forall parsed

end Clean

end Delimited
