import Taskboard.Proofs.Report.Table

/-! The table stands in columns. In every line each cell begins where the widths of the columns before it end, it is
    whole, and at least two blanks come behind it, because the columns were measured over all tasks
    (`Snapshot.table_aligned`). -/

namespace Taskboard
namespace Table

/-- A text in which a list of cells stands in columns of the given widths: each cell at the end of the columns before
    it, with two blanks or more behind it that fill its column, and nothing behind the last column. -/
structure Aligned (widths : List Nat) (cells : List String) (text : String) : Prop where
  length_eq : cells.length = widths.length
  width_eq : Text.width text = widths.sum
  cell : ∀ i cell, cells[i]? = some cell → ∃ width blanks front back, widths[i]? = some width ∧
    text = front ++ cell ++ String.ofList (List.replicate blanks ' ') ++ back ∧
    Text.width front = (widths.take i).sum ∧ Text.width cell + blanks = width ∧ 2 ≤ blanks

section Aligned
variable {w : Nat} {ws : List Nat} {c text : String} {cs : List String}

theorem Aligned.nil : Aligned [] [] "" where
  length_eq := rfl
  width_eq := rfl
  cell _ _ h := nomatch h

theorem Aligned.cons (hroom : Text.width c + 2 ≤ w) (h : Aligned ws cs text) :
    Aligned (w :: ws) (c :: cs) (pad w c ++ text) where
  length_eq := by rw [List.length_cons, List.length_cons, h.length_eq]
  width_eq := by
    have hpad : Text.width (pad w c) = w := widthOf_pad (Nat.le_of_add_right_le hroom)
    rw [Text.width_append, hpad, h.width_eq, List.sum_cons]
  cell i cell hcell := by
    cases i with
    | zero =>
      obtain rfl := Option.some.inj hcell
      refine ⟨w, w - Text.width c, "", text, rfl, ?_, rfl, by omega, by omega⟩
      rw [pad, Int.toNat_sub, String.empty_append]
    | succ i =>
      -- All cells behind the first one are as far from its column as they were from the beginning.
      obtain ⟨width, blanks, front, back, hwidth, rfl, hfront, hfill, hblanks⟩ := h.cell i cell hcell
      have hpad : Text.width (pad w c) = w := widthOf_pad (Nat.le_of_add_right_le hroom)
      refine ⟨width, blanks, pad w c ++ front, back, hwidth, ?_, ?_, hfill, hblanks⟩
      · simp only [String.append_assoc]
      · rw [Text.width_append, hpad, hfront, List.take_succ_cons, List.sum_cons]

/-- Cells that leave room for two blanks are filled into their columns. -/
theorem fill_aligned (h : List.Forall₂ (fun w c => Text.width c + 2 ≤ w) ws cs) :
    ∃ text, fill cs (ws.map Int.ofNat) = .ok text ∧ Aligned ws cs text := by
  induction h with
  | nil => exact ⟨"", rfl, .nil⟩
  | @cons w c ws cs hroom _ ih =>
    obtain ⟨text, hfill, haligned⟩ := ih
    refine ⟨pad w c ++ text, ?_, haligned.cons hroom⟩
    rw [List.map_cons, fill, hfill]
    rfl

end Aligned

/-- What a line of the table has behind its line feed. -/
structure IsLine (w : Columns Nat) (cells : Columns String) (text : String) : Prop where
  line : line? cells.toList (w.map Int.ofNat).toList = .ok ("\n" ++ text)
  aligned : Aligned w.toList cells.toList text

section Lines
variable {w : Columns Nat} {cells : Columns String} {rows : List (Columns String)}

theorem exists_isLine (h : ∀ col, Text.width (cells.get col) + 2 ≤ w.get col) :
    ∃ text, line w cells = "\n" ++ text ∧ IsLine w cells text := by
  obtain ⟨text, hfill, haligned⟩ := fill_aligned (Columns.forall₂_toList_iff.mpr h)
  have hline : line? cells.toList (w.map Int.ofNat).toList = .ok ("\n" ++ text) := by
    rw [line?, show (w.map Int.ofNat).toList = w.toList.map Int.ofNat from rfl, hfill]
    rfl
  refine ⟨text, ?_, hline, haligned⟩
  rw [line?_toList] at hline
  exact Except.ok.inj hline

theorem exists_isLine_map (h : ∀ cells ∈ rows, ∀ col, Text.width (cells.get col) + 2 ≤ w.get col) :
    ∃ lines : List String, rows.map (line w) = lines.map ("\n" ++ ·) ∧ List.Forall₂ (IsLine w) rows lines := by
  induction rows with
  | nil => exact ⟨[], rfl, .nil⟩
  | cons cells rows ih =>
    obtain ⟨hcells, hrows⟩ := List.forall_mem_cons.mp h
    obtain ⟨text, hline, htext⟩ := exists_isLine hcells
    obtain ⟨lines, hlines, htexts⟩ := ih hrows
    exact ⟨text :: lines, by rw [List.map_cons, List.map_cons, hline, hlines], .cons htext htexts⟩

end Lines

end Table

/-- Every line of a table, the header and one for each chosen task, is a line feed and five cells in columns. Each
    cell begins where the columns before it end, in UTF-16 code units, it is whole, and the blanks behind it are two
    or more; so there are never fewer than no blanks to be put behind a cell, and never a cell without a width. -/
theorem Snapshot.table_aligned (s : Snapshot) (ids : IdSet) :
    ∃ lines : List String, s.table ids = String.join (lines.map ("\n" ++ ·)) ∧
      List.Forall₂ (Table.IsLine s.widths) (Table.header :: s.shown ids) lines := by
  -- The columns are measured over all tasks, so that they have room for those that a filter chooses.
  have hroom : ∀ cells ∈ Table.header :: s.shown ids, ∀ col, Text.width (cells.get col) + 2 ≤ s.widths.get col := by
    intro cells hcells col
    rcases List.mem_cons.mp hcells with rfl | hcells
    · exact (Nat.add_le_add_right (Table.width_header_le col) 2).trans (s.leastWidths_add_two_le col)
    · obtain ⟨row, hrow, rfl⟩ := List.mem_map.mp hcells
      exact s.cellWidth_add_two_le (List.mem_of_mem_filter hrow) col
  obtain ⟨lines, hlines, haligned⟩ := Table.exists_isLine_map hroom
  exact ⟨lines, congrArg String.join hlines, haligned⟩

end Taskboard
