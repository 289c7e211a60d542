import Taskboard.Json.Reader
import Taskboard.Task.Record
import Taskboard.Uuid.Set

/-! The tasks at one moment: those that run, in the order they were started in, and those that have
    finished, in the order they finished in. -/

namespace Taskboard

inductive Status where
  | active
  | completed
deriving DecidableEq

/-- The word that a status is shown by. -/
def Status.label : Status → String
  | .active => "Active"
  | .completed => "Completed"

structure Snapshot where
  active : List Record
  completed : List Record
deriving DecidableEq

namespace Snapshot

def size (s : Snapshot) : Nat := s.active.length + s.completed.length

/-- The records by status, in the order of the labels. -/
def byStatus (s : Snapshot) : List (Status × List Record) :=
  [(.active, s.active), (.completed, s.completed)].mergeSort fun a b => a.1.label ≤ b.1.label

@[simp] theorem byStatus_eq (s : Snapshot) :
    s.byStatus = [(.active, s.active), (.completed, s.completed)] := by
  simp [byStatus, List.mergeSort, List.MergeSort.Internal.splitInTwo, Status.label]

/-- All records, each with its status, in the order of the labels. -/
def rows (s : Snapshot) : List (Status × Record) :=
  s.byStatus.flatMap fun (status, records) => records.map (status, ·)

theorem rows_eq (s : Snapshot) :
    s.rows = s.active.map (Status.active, ·) ++ s.completed.map (Status.completed, ·) := by
  simp [rows]

/-- Reads a snapshot. A list that is not there is empty. -/
def ofValue (v : Json.Value) : Checked Snapshot := do
  let members ← v.members
  let records (v : Json.Value) : Checked (List Record) := do Checked.list Record.ofValue (← v.items)
  ((Json.fieldOr [] members "active" records).both (Json.fieldOr [] members "completed" records)).map
    fun (active, completed) => ⟨active, completed⟩

/-- Reads the text of a snapshot file. -/
def ofText (s : List Char) : Checked Snapshot :=
  match Json.read Json.maxDepth s with
  | some v => ofValue v
  | none => .fail .jsonText

end Snapshot
end Taskboard
