import Taskboard.Fault
import Taskboard.Json.Writer
import Taskboard.Task.Filter
import Taskboard.Task.Snapshot

/-! The board as a JSON document: a list of entries, all of them texts, and a version number.

    An entry has a public key for each field; in input the field's other name is taken where the public
    one is missing (`Document.ofValue`).

    `Snapshot.json` is the text of any snapshot; the program has it where the start times of the chosen
    tasks are not too long to be printed (`Snapshot.document?`). -/

namespace Taskboard

structure Entry where
  userTaskId : String
  requestUrl : String
  clientIdentity : String
  startMs : String
  status : String
deriving DecidableEq

structure Document where
  userTasks : List Entry
  version : Nat
deriving DecidableEq

namespace Entry

/-- The entry of a task with the given status. -/
def ofRecord (status : Status) (r : Record) : Entry :=
  ⟨r.id.text, r.requestUrl, r.clientIdentity, String.ofList (Numeral.ofInt r.startMs), status.label⟩

def toValue (e : Entry) : Json.Value :=
  .object [("UserTaskId", .string e.userTaskId), ("RequestURL", .string e.requestUrl),
    ("ClientIdentity", .string e.clientIdentity), ("StartMs", .string e.startMs),
    ("Status", .string e.status)]

/-- Reads an entry. -/
def ofValue (v : Json.Value) : Checked Entry := do
  let members ← v.members
  let text (name other : String) : Checked String :=
    Json.field members (Json.keyOf members name other) (·.asString)
  ((text "UserTaskId" "user_task_id").both <|
    (text "RequestURL" "request_url").both <|
    (text "ClientIdentity" "client_identity").both <|
    (text "StartMs" "start_ms").both (text "Status" "status")).map
      fun (i, u, c, t, s) => ⟨i, u, c, t, s⟩

end Entry

namespace Document

/-- The entries of those records of one status that a filter chooses. -/
def entries (ids : IdSet) (status : Status) (records : List Record) : List Entry :=
  (records.filter ids.chooses).map (Entry.ofRecord status)

/-- The document of a snapshot: running tasks first. -/
def ofSnapshot (s : Snapshot) (version : Nat) (ids : IdSet) : Document :=
  ⟨entries ids .active s.active ++ entries ids .completed s.completed, version⟩

def toValue (d : Document) : Json.Value :=
  .object [("userTasks", .array (d.userTasks.map Entry.toValue)), ("version", .int d.version)]

def text (d : Document) : String := d.toValue.text

/-- Reads a document. A list that is not there is empty. -/
def ofValue (v : Json.Value) : Checked Document := do
  let members ← v.members
  let key := Json.keyOf members "userTasks" "user_tasks"
  let entries (v : Json.Value) : Checked (List Entry) := do Checked.list Entry.ofValue (← v.items)
  ((Json.fieldOr [] members key entries).both (Json.field members "version" (·.asNat))).map
    fun (userTasks, version) => ⟨userTasks, version⟩

end Document

namespace Snapshot

/-- The document of a snapshot under a filter, as text. -/
def json (s : Snapshot) (version : Nat) (ids : IdSet) : String :=
  (Document.ofSnapshot s version ids).text

/-- Whether the start times of the chosen tasks are printed. -/
def printsStarts (s : Snapshot) (ids : IdSet) : Bool :=
  (s.active.filter ids.chooses ++ s.completed.filter ids.chooses).all fun r => Numeral.prints r.startMs

/-- The document, where the program prints it. -/
def document? (s : Snapshot) (version : Nat) (ids : IdSet) : Except Fault String :=
  Fault.printing (s.printsStarts ids) (s.json version ids)

/-- The same for a version that is still to be checked, which it is when the entries are there. -/
def json? (s : Snapshot) (version : Json.Value) (ids : IdSet) : Except Failure String :=
  if s.printsStarts ids then
    match Checked.under (.field "version") version.asNat with
    | .ok version => .ok (s.json version ids)
    | .error issues => .error (.rejected ⟨.document, issues⟩)
  else .error (.fault .tooManyDigits)

end Snapshot

end Taskboard
