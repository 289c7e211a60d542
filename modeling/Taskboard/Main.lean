import Taskboard.Cli.Run

/-! The program. It gathers what a command looks at, runs the command and writes what came of it; the
    service is not started here, only the way to start it is shown. -/

namespace Taskboard
namespace Cli

/-- The bytes of a file that can be read. -/
def readFile? (path : String) : IO (Option (List UInt8)) := do
  try
    let bytes ← IO.FS.readBinFile path
    return some bytes.data.toList
  catch _ => return none

/-- The path without steps that do not count. -/
def shortest (path : String) : String :=
  (if World.isAbsolute path then "/" else "") ++
    "/".intercalate ((World.steps path).map String.ofList)

/-- The env files as they are, the variables that settings come from and those that the files refer to. -/
def gather : IO World := do
  let mut files := []
  let mut names := [Variable.logLevel, .jsonVersion, .maxCompleted, .host, .port, .stage].map (·.name)
  for file in World.envFiles do
    if let some bytes ← readFile? file then
      files := (file, Node.file bytes) :: files
      if let .ok text := Utf8.decode bytes then
        names := names ++ EnvFile.references text
  let mut environment := []
  for name in names.eraseDups do
    if let some value ← IO.getEnv name then
      environment := environment ++ [(name, value)]
  return ⟨environment, files⟩

/-- The name under which the file of `show` is put into the world, wherever it lies. -/
def shownName : String := "snapshot"

/-- Performs `show` on a file anywhere. -/
def showFile (what : Show) : IO Outcome := do
  let world ← gather
  match ← readFile? (shortest what.file) with
  | some bytes =>
    let world := { world with files := (shownName, .file bytes) :: world.files }
    return .of (Command.perform world (.show { what with file := shownName }))
  | none => return .of (throw .usage)

def outcome (arguments : List String) : IO Outcome := do
  match parse arguments with
  | some (.show what) => showFile what
  | some (.serve how) => return .of (Command.perform (← gather) (.serve how))
  | none => return .of (throw .usage)

def usageText : String :=
  "Usage: show FILE [--json] [--id IDS] [--version N] | serve [--host HOST] [--port N] [--reload]"

def launchText (l : Launch) : String :=
  l.app ++ " " ++ l.host ++ ":" ++ String.ofList (Numeral.ofInt l.port) ++ " " ++ l.logLevel ++
    if l.reload then " reload" else ""

end Cli
end Taskboard

def main (arguments : List String) : IO UInt32 := do
  let o ← Taskboard.Cli.outcome arguments
  IO.print o.stdout
  if let some l := o.launch then IO.println (Taskboard.Cli.launchText l)
  if let some line := o.report then IO.eprintln line
  if let some f := o.raised then IO.eprintln f.report
  if o.exitCode = 2 then IO.eprintln Taskboard.Cli.usageText
  return UInt32.ofNat o.exitCode
