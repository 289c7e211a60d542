import Taskboard.Settings.EnvFile
import Taskboard.Settings.World
import Taskboard.Text.Digit

/-! Where the values of settings come from: the environment, and five env files of the directory.

    All files are read before a value is looked for, so that one that is no text fails all settings. Only
    the value that wins (`Sources.winner`) is of any interest then. -/

namespace Taskboard

/-- What the program runs for. -/
inductive Stage where
  | dev
  | test
  | prod
deriving DecidableEq

namespace Stage

def all : List Stage := [.dev, .test, .prod]

def name : Stage → String
  | .dev => "dev"
  | .test => "test"
  | .prod => "prod"

end Stage

/-- The variables that settings come from. -/
inductive Variable where
  | stage
  | logLevel
  | jsonVersion
  | maxCompleted
  | host
  | port
deriving DecidableEq

def Variable.name : Variable → String
  | .stage => "TASKSTATE_ENV"
  | .logLevel => "LOG_LEVEL"
  | .jsonVersion => "TASKSTATE_JSON_VERSION"
  | .maxCompleted => "TASKSTATE_MAX_COMPLETED_TASKS"
  | .host => "TASKSTATE_HOST"
  | .port => "TASKSTATE_PORT"

/-- What is read from a world for settings. -/
structure Sources where
  /-- The environment variables, in which the stage is always given. -/
  environment : List (String × String)
  /-- What the env files define; what a later one says counts more. -/
  files : List EnvFile.Table

namespace World

/-- The names of the env files. -/
def envFiles : List String := [".env", ".env.local", ".env.dev", ".env.test", ".env.prod"]

/-- The environment variables while settings are read: stage `dev` is added where none is given. -/
def given (w : World) : List (String × String) :=
  if (w.value? Variable.stage.name).isSome then w.environment
  else w.environment ++ [(Variable.stage.name, Stage.dev.name)]

/-- What the env files find outside of themselves under a name. -/
def outside (w : World) (name : String) : Option String := (w.given.find? (·.1 = name)).map (·.2)

/-- Reads the sources of settings. -/
def sources (w : World) : Except Utf8.Fault Sources :=
  (envFiles.mapM w.text).map fun texts =>
    { environment := w.given
      files := texts.map (EnvFile.table w.outside) }

end World

namespace Sources

/-- A name without regard to case. -/
def fold (name : String) : List Char := name.toList.map Text.small

/-- The value of a name in a table, case disregarded; of several the last. -/
def valueIn {α : Type} (table : List (String × α)) (name : String) : Option α :=
  (table.reverse.find? fun entry => fold entry.1 = fold name).map (·.2)

/-- What the files say of a name: what the last one says that knows it. It may leave the name without a
    value. -/
def valueInFiles (s : Sources) (name : String) : Option String :=
  (s.files.reverse.findSome? fun table => valueIn table name).join

/-- The value that counts for a variable, if any is given. -/
def winner (s : Sources) (v : Variable) : Option String := (valueIn s.environment v.name).or (s.valueInFiles v.name)

end Sources
end Taskboard
