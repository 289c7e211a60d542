import Taskboard.Calendar.StartTime
import Taskboard.Fault
import Taskboard.Task.Filter
import Taskboard.Task.Snapshot
import Taskboard.Text.Width

/-! The board as a table of five columns. Every line begins with a line feed, and every cell is filled up
    with blanks to the width of its column.

    A column is as wide as its widest cell among all tasks, those a filter leaves out included, but not
    narrower than its least width, and two more. Widths are counted in UTF-16 code units.

    `Snapshot.table` is the table of any snapshot; the program has it where the years of all tasks are
    not too long to be printed (`Snapshot.table?`), those a filter leaves out included. -/

namespace Taskboard

/-- Something for each column of the table. -/
structure Columns (α : Type) where
  id : α
  client : α
  start : α
  status : α
  url : α
deriving DecidableEq

namespace Columns

variable {α β γ : Type}

def map (f : α → β) (c : Columns α) : Columns β := ⟨f c.id, f c.client, f c.start, f c.status, f c.url⟩

def zipWith (f : α → β → γ) (c : Columns α) (d : Columns β) : Columns γ :=
  ⟨f c.id d.id, f c.client d.client, f c.start d.start, f c.status d.status, f c.url d.url⟩

def toList (c : Columns α) : List α := [c.id, c.client, c.start, c.status, c.url]

end Columns

namespace Table

/-- The blanks between two columns. -/
def gap : Nat := 2

/-- The titles of the columns. -/
def header : Columns String :=
  ⟨"USER TASK ID", "CLIENT ADDRESS", "START TIME", "STATUS", "REQUEST URL"⟩

/-- The least widths of the columns. -/
def leastWidths : Columns Nat := ⟨20, 20, 20, 10, 20⟩

/-- The cells of a task. -/
def cells (status : Status) (r : Record) : Columns String :=
  ⟨r.id.text, r.clientIdentity, startTime r.startMs, status.label, r.requestUrl⟩

/-- The cell with blanks behind it, as many as it is narrower than the given width. -/
def pad (width : Int) (cell : String) : String :=
  cell ++ String.ofList (List.replicate (width - Text.width cell).toNat ' ')

/-- Why cells and widths make no line: there are not as many of the one as of the other. -/
inductive Mismatch where
  | fewerWidths
  | moreWidths
deriving DecidableEq

def Mismatch.message : Mismatch → String
  | .fewerWidths => "zip() argument 2 is shorter than argument 1"
  | .moreWidths => "zip() argument 2 is longer than argument 1"

/-- The cells one after the other, each at its width. -/
def fill : List String → List Int → Except Mismatch String
  | [], [] => .ok ""
  | cell :: cells, width :: widths => (fill cells widths).map (pad width cell ++ ·)
  | _ :: _, [] => .error .fewerWidths
  | [], _ :: _ => .error .moreWidths

/-- A line of any number of cells. -/
def line? (cells : List String) (widths : List Int) : Except Mismatch String :=
  (fill cells widths).map ("\n" ++ ·)

/-- A line of the table. -/
def line (widths : Columns Nat) (cells : Columns String) : String :=
  "\n" ++ String.join (Columns.zipWith (fun (w : Nat) cell => pad w cell) widths cells).toList

/-- A line of the table has a width for each cell. -/
theorem line?_toList (widths : Columns Nat) (cells : Columns String) :
    line? cells.toList (widths.map Int.ofNat).toList = .ok (line widths cells) := by
  simp [line?, line, fill, Columns.toList, Columns.map, Columns.zipWith, Except.map]

end Table

namespace Snapshot

/-- The widths of the columns, over all tasks of a snapshot. -/
def widths (s : Snapshot) : Columns Nat :=
  (s.rows.foldl
    (fun widths (status, r) => widths.zipWith max ((Table.cells status r).map Text.width))
    Table.leastWidths).map (· + Table.gap)

/-- The table of the tasks that a filter chooses. -/
def table (s : Snapshot) (ids : IdSet) : String :=
  let shown := s.rows.filter fun (_, r) => ids.chooses r
  String.join <|
    (Table.header :: shown.map fun (status, r) => Table.cells status r).map
      (Table.line s.widths)

/-- Whether the start times of the tasks have a text. -/
def printsYears (s : Snapshot) : Bool :=
  (s.active ++ s.completed).all fun r => (startTime? r.startMs).isOk

/-- The widths of the columns, where the program has the cells. -/
def widths? (s : Snapshot) : Except Fault (Columns Nat) := Fault.printing s.printsYears s.widths

/-- The table, where the program has the widths. -/
def table? (s : Snapshot) (ids : IdSet) : Except Fault String := s.widths?.map fun _ => s.table ids

end Snapshot

end Taskboard
