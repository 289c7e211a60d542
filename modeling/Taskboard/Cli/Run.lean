import Taskboard.Cli.Command
import Taskboard.Cli.Console
import Taskboard.Report.Delivery
import Taskboard.Report.Document

/-! Running a command: what it does one after the other, and what comes of it. -/

namespace Taskboard
namespace Cli

/-- How the service is to be started. -/
structure Launch where
  app : String := "taskstate.api.server:app"
  host : String
  port : Int
  reload : Bool
  logLevel : String
deriving DecidableEq

/-- What is asked for counts more than the settings, unless it is nothing. -/
def Launch.ofSettings (settings : Settings) (how : Serve) : Launch :=
  { host := (how.host.filter (· ≠ "")).getD settings.host
    port := (how.port.filter (· ≠ 0)).getD settings.port
    reload := how.reload
    logLevel := settings.logLevel.lowerName }

/-- Reads the snapshot in a file; the error is the reason that is reported. -/
def readSnapshot (bytes : List UInt8) : Except String Snapshot :=
  match Utf8.decode bytes with
  | .error f => .error f.message
  | .ok text =>
    match Snapshot.ofText text with
    | .ok s => .ok s
    | .error issues => .error (Rejection.headline ⟨.snapshot, issues⟩)

namespace Show

/-- The logger that is set up for the table. -/
def logger : String := "taskstate.cli"

/-- Settings are looked at only for a version that is not given. -/
def documentVersion (w : World) : Option Nat → Console Nat
  | some version => return version
  | none => do
    let settings ← Console.take .failure (Settings.ofWorld w)
    return settings.jsonVersion

def document (w : World) (version : Option Nat) (s : Snapshot) (ids : IdSet) : Console Unit := do
  let version ← documentVersion w version
  let text ← Console.take (fun f : Fault => .failure (.fault f)) (s.document? version ids)
  Console.echo text

/-- The table goes to standard output as bytes, and the end of its last line after it. -/
def table (w : World) (s : Snapshot) (ids : IdSet) : Console Unit := do
  let settings := Settings.ofWorld w
  let obtained := Registry.fresh.obtain logger settings
  let configured ← Console.take .failure obtained.2
  let delivery := s.deliver ids .willing (some (logger, configured)) obtained.1 settings
  Console.write delivery.writes.flatten
  if let some f := delivery.raised then throw (.failure f)
  Console.write (Utf8.encode "\n")

/-- Shows a snapshot file. The filter is read before the file. -/
def perform (w : World) (what : Show) : Console Unit := do
  match w.file? what.file with
  | none => throw .usage
  | some bytes =>
    let ids ← Console.take (fun e : Filter.BadItem => .refused e.message) (Filter.parse what.ids)
    let s ← Console.take .refused (readSnapshot bytes)
    if what.asJson then document w what.version s ids else table w s ids

end Show

/-- Performs a command; it comes to how the service is to be started, if it is. -/
def Command.perform (w : World) : Command → Console (Option Launch)
  | .show what => do
    what.perform w
    return none
  | .serve how => do
    let settings ← Console.take .failure (Settings.ofWorld w)
    return some (.ofSettings settings how)

/-- What came of a command. -/
structure Outcome where
  exitCode : Nat
  /-- What has been written to standard output. -/
  written : List UInt8
  /-- The first line on standard error, where the command itself reports an error. -/
  report : Option String := none
  raised : Option Failure := none
  launch : Option Launch := none

namespace Outcome

/-- What comes of a command that has written nothing yet. -/
def of (command : Console (Option Launch)) : Outcome :=
  match command [] with
  | .ok launch written => { exitCode := 0, written, launch }
  | .error stop written => { exitCode := stop.exitCode, written, report := stop.report, raised := stop.raised }

/-- What has been written, as text. -/
def stdout (o : Outcome) : String := String.ofList (Utf8.decodeLossy o.written)

end Outcome

def run (w : World) (arguments : List String) : Outcome :=
  .of <| match parse arguments with
    | some command => command.perform w
    | none => throw .usage

end Cli
end Taskboard
