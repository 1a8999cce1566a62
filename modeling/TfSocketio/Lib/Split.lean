/-
# Splitting a list on a separator and gluing cut pieces back together.

`List.splitOn` returns the cells between separators.  The facts below say how the cells of a whole
list are put together from the cells of two consecutive pieces of it (`splitOn_append`), what a
leading separator does to the first cell, and that a cell never holds the separator.  They are
stated over an arbitrary alphabet; the wire formats of the development instantiate them at bytes.
-/
import Mathlib.Data.List.Basic
import Mathlib.Data.List.Infix

namespace Split

variable {α : Type*} [DecidableEq α] {sep : α}

/-- A list that holds no separator is its own only cell. -/
theorem splitOn_of_notMem {l : List α} (h : sep ∉ l) : l.splitOn sep = [l] :=
  List.splitOn_eq_singleton h

/-- A list with a separator in it falls into its first cell, which holds no separator, and a
nonempty rest. -/
theorem splitOn_of_mem {l : List α} (h : sep ∈ l) :
    ∃ cell rest, l = cell ++ sep :: rest ∧ sep ∉ cell ∧
      l.splitOn sep = cell :: rest.splitOn sep := by
  obtain ⟨cell, rest, rfl, hcell⟩ := List.eq_append_cons_of_mem h
  exact ⟨cell, rest, rfl, hcell, List.splitOn_append_cons_self_of_not_mem hcell rest⟩

/-- A leading separator opens with an empty cell. -/
theorem splitOn_sep_cons (l : List α) : (sep :: l).splitOn sep = [] :: l.splitOn sep := by
  simp [List.splitOn_cons_eq_if_modifyHead]

/-- An ordinary first element joins the first cell. -/
theorem splitOn_cons_of_ne {x : α} (hx : x ≠ sep) {l cell : List α} {cells : List (List α)}
    (h : l.splitOn sep = cell :: cells) : (x :: l).splitOn sep = (x :: cell) :: cells := by
  simp [List.splitOn_cons_eq_if_modifyHead, hx, h]

/-- A cell never holds the separator. -/
theorem notMem_of_mem_splitOn {l cell : List α} (h : cell ∈ l.splitOn sep) : sep ∉ cell := by
  induction l generalizing cell with
  | nil =>
      obtain rfl : cell = [] := by simpa using h
      exact List.not_mem_nil
  | cons x xs ih =>
      obtain ⟨first, cells, hxs⟩ := List.exists_cons_of_ne_nil (List.splitOn_ne_nil sep xs)
      by_cases hx : x = sep
      · subst hx
        rw [splitOn_sep_cons] at h
        cases h with
        | head => exact List.not_mem_nil
        | tail _ h => exact ih h
      · rw [splitOn_cons_of_ne hx hxs] at h
        cases h with
        | head =>
            have hfirst : sep ∉ first := ih (by rw [hxs]; exact List.mem_cons_self)
            simpa [Ne.symm hx] using hfirst
        | tail _ h => exact ih (by rw [hxs]; exact List.mem_cons_of_mem _ h)

/-- The first cell is empty exactly when the list is empty or opens with the separator. -/
theorem head_cell_nil {l : List α} {cells : List (List α)} (h : l.splitOn sep = [] :: cells) :
    l = [] ∨ ∃ rest, l = sep :: rest ∧ cells = rest.splitOn sep := by
  cases l with
  | nil => exact Or.inl rfl
  | cons x xs =>
      by_cases hx : x = sep
      · subst hx
        rw [splitOn_sep_cons, List.cons.injEq] at h
        exact Or.inr ⟨xs, rfl, h.2.symm⟩
      · obtain ⟨y, ys, hxs⟩ := List.exists_cons_of_ne_nil (List.splitOn_ne_nil sep xs)
        rw [splitOn_cons_of_ne hx hxs] at h
        simp at h

/-- Cells of two consecutive pieces: the last cell of the first piece and the first cell of the
second piece are one cell of the whole, every other cell is a cell of its piece. -/
theorem splitOn_append {l r last head : List α} {inits rests : List (List α)}
    (hl : l.splitOn sep = inits ++ [last]) (hr : r.splitOn sep = head :: rests) :
    (l ++ r).splitOn sep = inits ++ (last ++ head) :: rests := by
  induction l generalizing inits last with
  | nil =>
      have : inits = [] ∧ last = [] := by
        cases inits <;> simp_all
      obtain ⟨rfl, rfl⟩ := this
      simpa using hr
  | cons x xs ih =>
      obtain ⟨y, ys, hxs⟩ := List.exists_cons_of_ne_nil (List.splitOn_ne_nil sep xs)
      by_cases hx : x = sep
      · subst hx
        rw [splitOn_sep_cons] at hl
        rw [List.cons_append, splitOn_sep_cons]
        cases inits with
        | nil => simp [hxs] at hl
        | cons i is =>
            simp only [List.cons_append, List.cons.injEq] at hl
            obtain ⟨rfl, hl⟩ := hl
            rw [ih hl, List.cons_append]
      · rw [splitOn_cons_of_ne hx hxs] at hl
        rw [List.cons_append]
        cases inits with
        | nil =>
            simp only [List.nil_append, List.cons.injEq] at hl
            obtain ⟨rfl, rfl⟩ := hl
            have hrest : (xs ++ r).splitOn sep = [] ++ (y ++ head) :: rests :=
              ih (by simpa using hxs)
            exact splitOn_cons_of_ne hx hrest
        | cons i is =>
            simp only [List.cons_append, List.cons.injEq] at hl
            obtain ⟨rfl, hl⟩ := hl
            have hrest : (xs ++ r).splitOn sep = (y :: is) ++ (last ++ head) :: rests :=
              ih (by rw [hxs, hl]; rfl)
            exact splitOn_cons_of_ne hx hrest

end Split
