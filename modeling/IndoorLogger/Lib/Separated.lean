import Mathlib.Data.List.Basic

/-
  Tables as text: rows that end in two symbols, of which a reader looks for the second, with
  cells between separators, and nothing quoted. Such a text is read back exactly if no cell
  holds a separator or the end of a row (`read_print_iff`).
-/

namespace Separated

variable {α : Type} [DecidableEq α] {sep ret eol : α}

/-! ## Pieces -/

/-- A piece of a split holds no separator, and only what the whole holds. -/
theorem of_mem_splitOn {l xs : List α} (h : l ∈ xs.splitOn sep) : sep ∉ l ∧ ∀ a ∈ l, a ∈ xs := by
  induction xs generalizing l with
  | nil =>
    rw [List.splitOn_nil, List.mem_singleton] at h
    rw [h]
    exact ⟨List.not_mem_nil, fun a ha => absurd ha List.not_mem_nil⟩
  | cons x xs ih =>
    rw [List.splitOn_cons_eq_if_modifyHead] at h
    by_cases hx : x = sep
    · rw [if_pos (beq_iff_eq.mpr hx)] at h
      rcases List.mem_cons.mp h with rfl | h
      · exact ⟨List.not_mem_nil, fun a ha => absurd ha List.not_mem_nil⟩
      · exact ⟨(ih h).1, fun a ha => List.mem_cons_of_mem x ((ih h).2 a ha)⟩
    · rw [if_neg (fun hc => hx (beq_iff_eq.mp hc))] at h
      obtain ⟨r, rs, hr⟩ := List.exists_cons_of_ne_nil (List.splitOn_ne_nil sep xs)
      rw [hr, List.modifyHead_cons] at h
      rcases List.mem_cons.mp h with rfl | h
      · obtain ⟨hsep, hsub⟩ := ih (hr ▸ List.mem_cons_self)
        refine ⟨fun hc => ?_, fun a ha => ?_⟩
        · rcases List.mem_cons.mp hc with heq | hc
          · exact hx heq.symm
          · exact hsep hc
        · rcases List.mem_cons.mp ha with rfl | ha
          · exact List.mem_cons_self
          · exact List.mem_cons_of_mem x (hsub a ha)
      · obtain ⟨hsep, hsub⟩ := ih (hr ▸ List.mem_cons_of_mem r h)
        exact ⟨hsep, fun a ha => List.mem_cons_of_mem x (hsub a ha)⟩

omit [DecidableEq α] in
/-- What a joined text holds. -/
theorem mem_intercalate {a : α} {cells : List (List α)} (h : a ∈ [sep].intercalate cells) :
    a = sep ∨ ∃ cell ∈ cells, a ∈ cell := by
  induction cells with
  | nil => cases h
  | cons cell cells ih =>
    cases cells with
    | nil =>
      rw [List.intercalate_singleton] at h
      exact .inr ⟨cell, List.mem_cons_self, h⟩
    | cons cell' cells =>
      rw [List.intercalate_cons_cons, List.append_assoc] at h
      rcases List.mem_append.mp h with h | h
      · exact .inr ⟨cell, List.mem_cons_self, h⟩
      · rcases List.mem_append.mp h with h | h
        · exact .inl (List.mem_singleton.mp h)
        · rcases ih h with h | ⟨c, hc, ha⟩
          · exact .inl h
          · exact .inr ⟨c, List.mem_cons_of_mem cell hc, ha⟩

/-- Lines that end in `eol` are split there, and an empty piece is left. -/
theorem splitOn_lines {lines : List (List α)} (h : ∀ line ∈ lines, eol ∉ line) :
    (lines.map (· ++ [eol])).flatten.splitOn eol = lines ++ [[]] := by
  induction lines with
  | nil => exact List.splitOn_nil eol
  | cons line lines ih =>
    have htail := ih fun l hl => h l (List.mem_cons_of_mem line hl)
    have hsplit := List.splitOn_append_cons_self_of_not_mem (h line List.mem_cons_self)
      (lines.map (· ++ [eol])).flatten
    rw [List.map_cons, List.flatten_cons, List.append_assoc, List.singleton_append, hsplit, htail]
    rfl

/-! ## Tables -/

/-- The text of a table. -/
def print (sep ret eol : α) (rows : List (List (List α))) : List α :=
  (rows.map fun cells => [sep].intercalate cells ++ [ret, eol]).flatten

/-- The table of a text. -/
def read (sep eol : α) (text : List α) : List (List (List α)) :=
  (text.splitOn eol).dropLast.map fun line => line.dropLast.splitOn sep

/-- A table is read back from its text exactly if its cells hold neither a separator nor the end
    of a row. -/
theorem read_print_iff (hsep : sep ≠ eol) (hret : ret ≠ eol) {rows : List (List (List α))}
    (hrows : ∀ cells ∈ rows, cells ≠ []) :
    read sep eol (print sep ret eol rows) = rows ↔
      ∀ cells ∈ rows, ∀ cell ∈ cells, sep ∉ cell ∧ eol ∉ cell := by
  constructor
  · intro hread cells hcells cell hcell
    rw [← hread] at hcells
    obtain ⟨line, hline, rfl⟩ := List.mem_map.mp hcells
    obtain ⟨hnosep, hsub⟩ := of_mem_splitOn hcell
    have heol := (of_mem_splitOn (List.dropLast_subset _ hline)).1
    exact ⟨hnosep, fun hc => heol (List.dropLast_subset _ (hsub eol hc))⟩
  · intro hclean
    let lines : List (List α) := rows.map fun cells => [sep].intercalate cells ++ [ret]
    have hprint : print sep ret eol rows = (lines.map (· ++ [eol])).flatten := by
      unfold print lines
      rw [List.map_map]
      refine congrArg List.flatten (List.map_congr_left fun cells _ => ?_)
      exact (List.append_assoc _ [ret] [eol]).symm
    have hlines : ∀ line ∈ lines, eol ∉ line := by
      intro line hline hc
      obtain ⟨cells, hcells, rfl⟩ := List.mem_map.mp hline
      rcases List.mem_append.mp hc with hc | hc
      · rcases mem_intercalate hc with heq | ⟨cell, hcell, hc⟩
        · exact hsep heq.symm
        · exact (hclean cells hcells cell hcell).2 hc
      · exact hret (List.mem_singleton.mp hc).symm
    unfold read
    rw [hprint, splitOn_lines hlines, List.dropLast_concat, List.map_map]
    refine (List.map_congr_left fun cells hcells => ?_).trans (List.map_id rows)
    have hline : ([sep].intercalate cells ++ [ret]).dropLast = [sep].intercalate cells :=
      List.dropLast_concat
    exact (congrArg (List.splitOn sep) hline).trans
      (List.splitOn_intercalate sep (fun cell hcell => (hclean cells hcells cell hcell).1)
        (hrows cells hcells))

end Separated
