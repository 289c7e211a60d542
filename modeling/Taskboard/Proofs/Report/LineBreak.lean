import Taskboard.Proofs.Number.Padded
import Taskboard.Proofs.Report.Table
import Taskboard.Proofs.Text.Split

/-! The table as lines of text. Nothing in a cell is escaped, so that a line feed in the texts of a task breaks its
    line: where the table is cut at its line feeds there is nothing, then the header, and then for each chosen task
    one piece, and one more for each line feed in its texts (`Snapshot.pieces_table`). -/

namespace Taskboard

/-- How often a text breaks a line. -/
def Text.lineFeeds (s : String) : Nat := s.toList.count '\n'

namespace Table
open Text (lineFeeds)

theorem lineFeeds_eq_zero_iff {s : String} : lineFeeds s = 0 ↔ '\n' ∉ s.toList := List.count_eq_zero

/-- Blanks break no line. -/
theorem count_pad (w : Nat) (c : String) : (pad (w : Int) c).toList.count '\n' = lineFeeds c := by
  rw [toList_pad, List.count_append, List.count_replicate]
  rfl

theorem count_filled (w : Columns Nat) (c : Columns String) : (filled w.toList c.toList).count '\n' =
    lineFeeds c.id + lineFeeds c.client + lineFeeds c.start + lineFeeds c.status + lineFeeds c.url := by
  simp only [Columns.toList, filled_cons, List.count_append, count_pad, ← Nat.add_assoc]
  rfl

theorem lineFeeds_id (u : Uuid) : lineFeeds u.text = 0 :=
  lineFeeds_eq_zero_iff.mpr fun h => Uuid.ne_of_mem_text u h (by decide) (by decide) rfl

theorem lineFeeds_label (status : Status) : lineFeeds status.label = 0 := by
  cases status <;> decide

/-- A date is written in digits and a few marks. -/
theorem lineFeeds_startTime (ms : Int) : lineFeeds (startTime ms) = 0 := by
  have hnumber (width : Nat) (n : Int) : '\n' ∉ Numeral.padded width n := by
    intro h
    rcases (Numeral.spells_padded width n).isDigit_or h with h | h <;> exact absurd h (by decide)
  rw [lineFeeds_eq_zero_iff, startTime, Moment.text, String.toList_ofList]
  simp [Moment.chars, Moment.chars.two, hnumber]

/-- Only the texts that a task comes with can break its line. -/
theorem count_filled_cells (w : Columns Nat) (status : Status) (r : Record) :
    (filled w.toList (cells status r).toList).count '\n' = lineFeeds r.clientIdentity + lineFeeds r.requestUrl := by
  rw [count_filled]
  simp only [cells, lineFeeds_id, lineFeeds_startTime, lineFeeds_label]
  omega

theorem notMem_header (w : Columns Nat) : '\n' ∉ filled w.toList header.toList := by
  rw [← List.count_eq_zero, count_filled]
  decide

end Table

/-- The tasks that a filter chooses, running ones first. -/
def Snapshot.chosen (s : Snapshot) (ids : IdSet) : List (Status × Record) :=
  (s.active.filter ids.chooses).map (Status.active, ·) ++ (s.completed.filter ids.chooses).map (Status.completed, ·)

theorem Snapshot.shown_eq (s : Snapshot) (ids : IdSet) :
    s.shown ids = (s.chosen ids).map fun row => Table.cells row.1 row.2 := by
  rw [shown, rows_eq, List.filter_append, List.filter_map, List.filter_map]
  rfl

theorem Table.toList_table_eq (s : Snapshot) (ids : IdSet) : (s.table ids).toList =
    ((header :: s.shown ids).map fun cells => filled s.widths.toList cells.toList).flatMap ('\n' :: ·) := by
  rw [Snapshot.table, String.toList_join, List.flatMap_map, List.flatMap_map]
  exact List.flatMap_congr fun cells _ => toList_line s.widths cells

theorem Snapshot.mem_chosen {s : Snapshot} {ids : IdSet} {r : Record} :
    (∃ status, (status, r) ∈ s.chosen ids) ↔ r ∈ s.active ++ s.completed ∧ ids.chooses r := by
  simp only [chosen, List.mem_append, List.mem_map, List.mem_filter, Prod.mk.injEq]
  constructor
  · rintro ⟨_, ⟨_, ⟨hr, hchosen⟩, rfl, rfl⟩ | ⟨_, ⟨hr, hchosen⟩, rfl, rfl⟩⟩
    · exact ⟨.inl hr, hchosen⟩
    · exact ⟨.inr hr, hchosen⟩
  · rintro ⟨hr | hr, hchosen⟩
    · exact ⟨_, .inl ⟨r, ⟨hr, hchosen⟩, rfl, rfl⟩⟩
    · exact ⟨_, .inr ⟨r, ⟨hr, hchosen⟩, rfl, rfl⟩⟩

/-- A table is cut behind each of its lines, and wherever a line is broken. -/
theorem Snapshot.splitOn_table (s : Snapshot) (ids : IdSet) : (s.table ids).toList.splitOn '\n' =
    [] :: Table.filled s.widths.toList Table.header.toList ::
      ((s.chosen ids).map fun row => Table.filled s.widths.toList (Table.cells row.1 row.2).toList).flatMap
        (·.splitOn '\n') := by
  have hcut := Text.splitOn_append_flatMap '\n' []
    ((Table.header :: s.shown ids).map fun cells => Table.filled s.widths.toList cells.toList)
  rw [List.nil_append, ← Table.toList_table_eq, List.map_cons, List.flatMap_cons,
    List.splitOn_eq_singleton (Table.notMem_header s.widths), List.splitOn_nil, List.singleton_append,
    List.singleton_append, shown_eq, List.map_map, Function.comp_def] at hcut
  exact hcut

/-- What stands behind the last line feed of a URL is a line of its own. -/
theorem Snapshot.exists_piece {s : Snapshot} {ids : IdSet} {row : Status × Record} (hrow : row ∈ s.chosen ids)
    {front back : String} (hurl : row.2.requestUrl = front ++ "\n" ++ back) (hback : '\n' ∉ back.toList) :
    ∃ piece ∈ (s.table ids).toList.splitOn '\n',
      Text.trimEnd (· == ' ') piece = Text.trimEnd (· == ' ') back.toList := by
  obtain ⟨status, r⟩ := row
  -- The URL is the last cell of its line, so that nothing but blanks comes behind it.
  obtain ⟨before, hline⟩ : ∃ before, Table.filled s.widths.toList (Table.cells status r).toList =
      before ++ (Table.pad (s.widths.url : Int) r.requestUrl).toList := by
    simp only [Columns.toList, Table.cells, Table.filled_cons]
    rw [show Table.filled [] [] = [] from rfl, List.append_nil]
    simp only [← List.append_assoc]
    exact ⟨_, rfl⟩
  obtain ⟨n, hpad⟩ : ∃ n, (Table.pad (s.widths.url : Int) r.requestUrl).toList =
      front.toList ++ '\n' :: (back.toList ++ List.replicate n ' ') := by
    refine ⟨s.widths.url - Text.width r.requestUrl, ?_⟩
    rw [Table.toList_pad, show r.requestUrl = _ from hurl, String.toList_append, String.toList_append,
      List.append_assoc, List.append_assoc]
    rfl
  have hfree : '\n' ∉ back.toList ++ List.replicate n ' ' := fun h =>
    (List.mem_append.mp h).elim hback fun h => absurd (List.eq_of_mem_replicate h) (by decide)
  refine ⟨back.toList ++ List.replicate n ' ', ?_, Text.trimEnd_append_replicate (by decide) _ _⟩
  rw [splitOn_table]
  refine List.mem_cons_of_mem _ (List.mem_cons_of_mem _ (List.mem_flatMap.mpr ⟨_, List.mem_map_of_mem hrow, ?_⟩))
  rw [hline, hpad, ← List.append_assoc, List.splitOn_append_cons_self, List.splitOn_eq_singleton hfree]
  exact List.mem_append_right _ List.mem_cons_self

/-- The pieces of a table between its line feeds: nothing, the header, and for each chosen task as many as its texts
    break its line into. So there is one for each task exactly if no text of a chosen task has a line feed; and
    whatever stands behind the last line feed of a URL looks like a line of the table. -/
theorem Snapshot.pieces_table (s : Snapshot) (ids : IdSet) :
    let pieces := (s.table ids).toList.splitOn '\n'
    let line (cells : Columns String) := Table.filled s.widths.toList cells.toList
    pieces = [] :: line Table.header ::
      (s.chosen ids).flatMap (fun (status, r) => (line (Table.cells status r)).splitOn '\n') ∧
    (∀ status r, ((line (Table.cells status r)).splitOn '\n').length =
      1 + Text.lineFeeds r.clientIdentity + Text.lineFeeds r.requestUrl) ∧
    (pieces = [] :: line Table.header :: (s.chosen ids).map (fun (status, r) => line (Table.cells status r)) ↔
      ∀ r ∈ s.active ++ s.completed, ids.chooses r → '\n' ∉ r.clientIdentity.toList ∧ '\n' ∉ r.requestUrl.toList) ∧
    ∀ row ∈ s.chosen ids, ∀ front back, row.2.requestUrl = front ++ "\n" ++ back → '\n' ∉ back.toList →
      ∃ piece ∈ pieces, Text.trimEnd (· == ' ') piece = Text.trimEnd (· == ' ') back.toList := by
  intro pieces line
  have hpieces : pieces = [] :: line Table.header ::
      ((s.chosen ids).map fun (status, r) => line (Table.cells status r)).flatMap (·.splitOn '\n') :=
    s.splitOn_table ids
  have hfree (row : Status × Record) : '\n' ∉ line (Table.cells row.1 row.2) ↔
      '\n' ∉ row.2.clientIdentity.toList ∧ '\n' ∉ row.2.requestUrl.toList := by
    rw [← List.count_eq_zero, Table.count_filled_cells, Nat.add_eq_zero_iff, Table.lineFeeds_eq_zero_iff,
      Table.lineFeeds_eq_zero_iff]
  refine ⟨?_, fun status r => ?_, ?_, fun row hrow front back => exists_piece hrow⟩
  · rw [hpieces, List.flatMap_map]
  · rw [Text.length_splitOn, Table.count_filled_cells]
    omega
  · rw [hpieces, List.cons_inj_right, List.cons_inj_right, Text.flatMap_splitOn_eq_self_iff, List.forall_mem_map]
    constructor
    · intro h r hr hchosen
      obtain ⟨status, hmem⟩ := mem_chosen.mpr ⟨hr, hchosen⟩
      exact (hfree (status, r)).mp (h _ hmem)
    · rintro h ⟨status, r⟩ hmem
      obtain ⟨hr, hchosen⟩ := mem_chosen.mp ⟨status, hmem⟩
      exact (hfree (status, r)).mpr (h r hr hchosen)

/-- A single task has two lines, and the second one says what its URL says behind the line feed. -/
theorem Snapshot.pieces_table_broken :
    let s : Snapshot := ⟨[⟨default, "/a\nb", "c", 0⟩], []⟩
    let pieces := (s.table ∅).toList.splitOn '\n'
    (s.chosen ∅).length = 1 ∧ pieces.length = 4 ∧ ∃ piece ∈ pieces, Text.trimEnd (· == ' ') piece = ['b'] := by
  intro s pieces
  have hchosen : s.chosen ∅ = [(.active, ⟨default, "/a\nb", "c", 0⟩)] := rfl
  have hpieces : pieces = _ := s.splitOn_table ∅
  have hurl : "/a\nb" = "/a" ++ "\n" ++ "b" := by decide
  refine ⟨rfl, ?_, exists_piece (hchosen ▸ List.mem_cons_self) hurl (by decide)⟩
  rw [hpieces, hchosen, List.map_singleton, List.flatMap_singleton, List.length_cons, List.length_cons,
    Text.length_splitOn, Table.count_filled_cells]
  decide

end Taskboard
