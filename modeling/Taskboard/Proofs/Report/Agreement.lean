import Taskboard.Proofs.Report.Document
import Taskboard.Proofs.Report.Table

/-! The two reports agree. Each entry of the document gives a line, with its start time written as a date, and the
    table of a snapshot is its header and the lines of its document (`Snapshot.table_of_document`). -/

namespace Taskboard

/-- The cells that show an entry. Its start time has to be a number. -/
def Entry.cells (e : Entry) : Checked (Columns String) :=
  (Json.intOfText e.startMs).map fun ms => ⟨e.userTaskId, e.clientIdentity, startTime ms, e.status, e.requestUrl⟩

/-- The header and a line for each entry, in columns of the given widths. -/
def Document.table (d : Document) (widths : Columns Nat) : Checked String :=
  (Checked.list Entry.cells d.userTasks).map fun cells => String.join ((Table.header :: cells).map (Table.line widths))

theorem Entry.cells_ofRecord {r : Record} (h : r.startMs.natAbs < 10 ^ Numeral.maxDigits) (status : Status) :
    (Entry.ofRecord status r).cells = .ok (Table.cells status r) := by
  have hstart : Json.intOfText (Entry.ofRecord status r).startMs = .ok r.startMs := by
    rw [Entry.ofRecord, Json.intOfText, String.toList_ofList, Lenient.read_ofInt h]
  rw [Entry.cells, hstart]
  rfl

/-- What is made of each chosen row, first of the running tasks and then of the finished ones. -/
theorem Snapshot.map_filter_rows {α : Type} (s : Snapshot) (ids : IdSet) (f : Status → Record → α) :
    ((s.rows.filter fun (_, r) => ids.chooses r).map fun (status, r) => f status r) =
      (s.active.filter ids.chooses).map (f .active) ++ (s.completed.filter ids.chooses).map (f .completed) := by
  rw [rows_eq, List.filter_append, List.map_append, List.filter_map, List.filter_map, List.map_map, List.map_map]
  rfl

theorem Document.userTasks_ofSnapshot (s : Snapshot) (version : Nat) (ids : IdSet) :
    (ofSnapshot s version ids).userTasks =
      (s.rows.filter fun (_, r) => ids.chooses r).map fun (status, r) => Entry.ofRecord status r :=
  (s.map_filter_rows ids Entry.ofRecord).symm

/-- The identifiers and statuses of the tasks that a filter chooses. -/
def Snapshot.statuses (s : Snapshot) (ids : IdSet) : List (String × String) :=
  (s.rows.filter fun (_, r) => ids.chooses r).map fun (status, r) => (r.id.text, status.label)

theorem Snapshot.map_lines (s : Snapshot) (ids : IdSet) :
    (s.lines ids).map (fun row => (row.id.text, row.status)) = s.statuses ids := by
  rw [lines, List.map_map]
  rfl

theorem Document.map_userTasks_ofSnapshot (s : Snapshot) (version : Nat) (ids : IdSet) :
    (ofSnapshot s version ids).userTasks.map (fun e => (e.userTaskId, e.status)) = s.statuses ids := by
  rw [userTasks_ofSnapshot, List.map_map]
  rfl

theorem Snapshot.statuses_eq (s : Snapshot) (ids : IdSet) :
    s.statuses ids = ((s.active.filter ids.chooses).map fun q => (q.id.text, "Active")) ++
      (s.completed.filter ids.chooses).map fun q => (q.id.text, "Completed") :=
  s.map_filter_rows ids fun status r => (r.id.text, status.label)

/-- A document begins with a brace, and a table with a line feed. -/
theorem Document.text_ne_table (d : Document) (s : Snapshot) (ids : IdSet) : d.text ≠ s.table ids := by
  intro h
  rw [← String.toList_inj, toList_text, Table.toList_table] at h
  exact absurd (List.cons.inj h).1 (by decide)

/-- The table of a snapshot consists of the header and of a line for each entry of the document, which shows what
    the entry says. So both show the same tasks with the same statuses in the same order. -/
theorem Snapshot.table_of_document (s : Snapshot) (version : Nat) (ids : IdSet)
    (hstart : ∀ r ∈ s.active ++ s.completed, r.startMs.natAbs < 10 ^ Numeral.maxDigits) :
    (Document.ofSnapshot s version ids).table s.widths = .ok (s.table ids) ∧
      (Document.ofSnapshot s version ids).userTasks.map (fun e => (e.userTaskId, e.status)) =
        (s.lines ids).map fun row => (row.id.text, row.status) := by
  have hcells : Checked.list Entry.cells (Document.ofSnapshot s version ids).userTasks = .ok (s.shown ids) := by
    rw [Document.userTasks_ofSnapshot]
    refine Checked.list_map_ok fun row hrow => Entry.cells_ofRecord (hstart row.2 ?_) row.1
    exact mem_of_mem_rows (List.mem_of_mem_filter hrow)
  constructor
  · rw [Document.table, hcells]
    rfl
  · rw [Document.map_userTasks_ofSnapshot, map_lines]

/-- A task that started before 1970, and one that the filter leaves out but whose column is wide enough for it. -/
theorem Snapshot.table_of_document_filtered :
    let s : Snapshot := ⟨[⟨default, "/a", "c", -1⟩], [⟨⟨1, by decide⟩, "/long/enough/to/widen", "c", 0⟩]⟩
    let ids := IdSet.ofList [default]
    (∀ r ∈ s.active ++ s.completed, r.startMs.natAbs < 10 ^ Numeral.maxDigits) ∧
    s.widths = ⟨38, 22, 25, 12, 23⟩ ∧
    (Document.ofSnapshot s 1 ids).userTasks.map (·.startMs) = ["-1"] ∧
    (Document.ofSnapshot s 1 ids).table ⟨38, 22, 25, 12, 23⟩ = .ok (s.table ids) := by
  intro s ids
  have hsmall : ∀ n, n < 10 ^ 1 → n < 10 ^ Numeral.maxDigits := fun n hn =>
    Nat.lt_of_lt_of_le hn (Nat.pow_le_pow_right (by decide) (by decide))
  have hstart : ∀ r ∈ s.active ++ s.completed, r.startMs.natAbs < 10 ^ Numeral.maxDigits := by
    intro r hr
    rcases List.mem_cons.mp hr with rfl | hr
    · exact hsmall 1 (by decide)
    · rw [List.mem_singleton.mp hr]
      exact hsmall 0 (by decide)
  have hwidths : s.widths = ⟨38, 22, 25, 12, 23⟩ := by
    rw [Table.widths_eq, rows_eq]
    rfl
  exact ⟨hstart, hwidths, rfl, hwidths ▸ (table_of_document s 1 ids hstart).1⟩

end Taskboard
