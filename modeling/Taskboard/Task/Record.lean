import Taskboard.Json.Field
import Taskboard.Uuid.Reader

/-! A task: who asked for what, and when it started. -/

namespace Taskboard

structure Record where
  id : Uuid
  requestUrl : String
  clientIdentity : String
  /-- Milliseconds since the beginning of 1970. -/
  startMs : Int
deriving DecidableEq

namespace Record

/-- The identifier in a field. -/
def idOf : Json.Value → Checked Uuid
  | .string s => match Uuid.read? s.toList with
    | some u => .ok u
    | none => .fail .uuidText
  | _ => .fail .notUuid

/-- The record of four checked fields. -/
def ofFields (id : Checked Uuid) (requestUrl clientIdentity : Checked String) (startMs : Checked Int) :
    Checked Record :=
  (id.both (requestUrl.both (clientIdentity.both startMs))).map fun (i, u, c, t) => ⟨i, u, c, t⟩

/-- Reads a record. Members with other keys do not matter. -/
def ofValue (v : Json.Value) : Checked Record := do
  let members ← v.members
  ofFields (Json.field members "id" idOf) (Json.field members "request_url" (·.asString))
    (Json.field members "client_identity" (·.asString)) (Json.field members "start_ms" (·.asInt))

end Record
end Taskboard
