import Taskboard.Fault
import Taskboard.Json.Field
import Taskboard.Settings.Sources

/-! The settings of the program: six variables, each with a value from the environment, else from the
    env files, else a default. Only the value that wins is looked at (`Sources.winner`). -/

namespace Taskboard

/-- How grave an event is, in ascending order. -/
inductive Level where
  | debug
  | info
  | warning
  | error
  | critical
deriving DecidableEq

namespace Level

def all : List Level := [.debug, .info, .warning, .error, .critical]

def name : Level → String
  | .debug => "DEBUG"
  | .info => "INFO"
  | .warning => "WARNING"
  | .error => "ERROR"
  | .critical => "CRITICAL"

def number : Level → Nat
  | .debug => 10
  | .info => 20
  | .warning => 30
  | .error => 40
  | .critical => 50

/-- The name in small letters. -/
def lowerName (l : Level) : String := String.ofList (l.name.toList.map Char.toLower)

end Level

structure Settings where
  stage : Stage := .dev
  logLevel : Level := .info
  jsonVersion : Nat := 1
  maxCompleted : Nat := 100
  host : String := "127.0.0.1"
  port : Nat := 8000
deriving DecidableEq

namespace Settings

/-- One of a list of things, by its exact name. -/
def oneOf {α : Type} (all : List α) (name : α → String) (raw : String) : Checked α :=
  match all.find? fun a => name a = raw with
  | some a => .ok a
  | none => .fail .notListed

/-- A number that is not negative. -/
def count (raw : String) : Checked Nat := (Json.intOfText raw).bind Json.natOfInt

/-- A number from 1 to 65535. -/
def portNumber (raw : String) : Checked Nat :=
  (Json.intOfText raw).bind fun n =>
    if n < 1 then Checked.fail .tooSmall
    else if 65535 < n then Checked.fail .tooLarge
    else .ok n.toNat

/-- The checked value of a variable, or its default. -/
def resolve {α : Type} (s : Sources) (v : Variable) (absent : α) (check : String → Checked α) :
    Checked α :=
  match s.winner v with
  | some raw => (check raw).under (.field v.name)
  | none => .ok absent

/-- The values of the six variables, or the issues of all that are wrong. -/
def checked (s : Sources) : Checked Settings :=
  let d : Settings := {}
  ((resolve s .stage d.stage (oneOf Stage.all Stage.name)).both <|
    (resolve s .logLevel d.logLevel (oneOf Level.all Level.name)).both <|
    (resolve s .jsonVersion d.jsonVersion count).both <|
    (resolve s .maxCompleted d.maxCompleted count).both <|
    (resolve s .host d.host .ok).both (resolve s .port d.port portNumber)).map
      fun (e, l, j, m, h, p) => ⟨e, l, j, m, h, p⟩

/-- The settings of a world. -/
def ofWorld (w : World) : Except Failure Settings :=
  match w.sources with
  | .error f => .error (.fault (.undecodable f))
  | .ok s =>
    match checked s with
    | .ok settings => .ok settings
    | .error issues => .error (.rejected ⟨.settings, issues⟩)

end Settings
end Taskboard
