/-! What validation finds wrong with a value: issues, each with the way from the value to the place.

    `Checked.both` and `Checked.list` check parts that do not depend on each other and keep the issues
    of all of them, in order. -/

namespace Taskboard

/-- What can be wrong with a value. -/
inductive Flaw where
  | missing
  | notObject
  | notList
  | notString
  | notUuid
  | uuidText
  | notInt
  | intText
  | intSize
  | fractional
  | notFinite
  | tooSmall
  | tooLarge
  | notListed
  | boolText
  | jsonText
deriving DecidableEq

/-- The word that a flaw is reported under. -/
def Flaw.code : Flaw → String
  | .missing => "missing"
  | .notObject => "model_type"
  | .notList => "list_type"
  | .notString => "string_type"
  | .notUuid => "uuid_type"
  | .uuidText => "uuid_parsing"
  | .notInt => "int_type"
  | .intText => "int_parsing"
  | .intSize => "int_parsing_size"
  | .fractional => "int_from_float"
  | .notFinite => "finite_number"
  | .tooSmall => "greater_than_equal"
  | .tooLarge => "less_than_equal"
  | .notListed => "literal_error"
  | .boolText => "bool_parsing"
  | .jsonText => "json_invalid"

/-- One step from a value to a part of it. -/
inductive Step where
  | field (name : String)
  | item (index : Nat)
deriving DecidableEq

structure Issue where
  flaw : Flaw
  path : List Step
deriving DecidableEq

/-- A value, or what is wrong with the input it was to be made of. -/
abbrev Checked (α : Type) := Except (List Issue) α

namespace Checked

variable {α β : Type}

/-- A single issue, at the value itself. -/
def fail (flaw : Flaw) : Checked α := .error [⟨flaw, []⟩]

/-- The same check of a part, reported as seen from the whole. -/
def under (step : Step) : Checked α → Checked α
  | .ok a => .ok a
  | .error issues => .error (issues.map fun i => { i with path := step :: i.path })

/-- Two checks that do not depend on each other. -/
def both : Checked α → Checked β → Checked (α × β)
  | .ok a, .ok b => .ok (a, b)
  | .ok _, .error j => .error j
  | .error i, .ok _ => .error i
  | .error i, .error j => .error (i ++ j)

/-- The checks of the items of a list, the first of which has the given index. -/
def listFrom (check : α → Checked β) : (index : Nat) → List α → Checked (List β)
  | _, [] => .ok []
  | index, a :: as =>
    (both (under (.item index) (check a)) (listFrom check (index + 1) as)).map fun (b, bs) => b :: bs

def list (check : α → Checked β) (as : List α) : Checked (List β) := listFrom check 0 as

end Checked

/-- What is validated as a whole. -/
inductive Subject where
  | record
  | snapshot
  | document
  | settings
deriving DecidableEq

/-- The name a subject is reported under. -/
def Subject.title : Subject → String
  | .record => "TaskRecord"
  | .snapshot => "SnapshotFile"
  | .document => "UserTasksPayload"
  | .settings => "Settings"

/-- A subject that did not pass, and why. -/
structure Rejection where
  subject : Subject
  issues : List Issue
deriving DecidableEq

/-- The first line of a report on a rejection: how many issues there are, and of what. -/
def Rejection.headline (r : Rejection) : String :=
  toString r.issues.length ++ (if r.issues.length = 1 then " validation error for " else
    " validation errors for ") ++ r.subject.title

end Taskboard
