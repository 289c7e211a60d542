import Taskboard.Task.Record
import Taskboard.Text.Quoted
import Taskboard.Uuid.Set

/-! Choosing tasks by their identifiers. The empty set chooses every task.

    A filter is written as texts in which commas stand between identifiers; blank items do not count,
    and the first item that is no identifier is an error (`Filter.parse`). -/

namespace Taskboard

/-- Whether a set of identifiers chooses a task. -/
def IdSet.chooses (ids : IdSet) (r : Record) : Bool := ids.isEmpty || r.id ∈ ids

namespace Filter

/-- An item that is no identifier. -/
structure BadItem where
  item : List Char
deriving DecidableEq

def BadItem.message (e : BadItem) : String :=
  "Invalid user task id: " ++ String.ofList (Text.quoted e.item)

/-- The items of the texts, without the blanks around them; items that are all blank are left out. -/
def items (values : List String) : List (List Char) :=
  (values.flatMap fun v => (v.toList.splitOn ',').map (Text.trim Text.isBlank)).filter (· ≠ [])

/-- Adds the identifier of an item to a set. -/
def add (ids : IdSet) (item : List Char) : Except BadItem IdSet :=
  match Uuid.readLoose? item with
  | some u => .ok (ids.insert u)
  | none => .error ⟨item⟩

/-- The set of the identifiers that the texts name. -/
def parse (values : List String) : Except BadItem IdSet := (items values).foldlM add ∅

end Filter
end Taskboard
