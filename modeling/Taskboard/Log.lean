import Taskboard.Fault
import Taskboard.Settings.Basic

/-! Loggers, which live as long as the program and are known by their names, and what is logged.

    A logger is set up when it is asked for (`Registry.obtain`): it gets a handler if it has none, then
    the level of the settings, and keeps its events to itself. Where there are no settings, this ends after
    the first step. -/

namespace Taskboard

structure Logger where
  level : Nat := 0
  propagate : Bool := true
  /-- The format of each handler. -/
  formats : List String := []
deriving DecidableEq

namespace Logger

/-- The format of the handler that a logger gets. -/
def format : String := "%(asctime)s | %(levelname)s | %(name)s | %(message)s"

/-- The logger with a handler. -/
def withHandler (l : Logger) : Logger :=
  match l.formats with
  | [] => { l with formats := [format] }
  | _ :: _ => l

/-- The logger as the settings want it. -/
def configure (l : Logger) (settings : Settings) : Logger :=
  { l.withHandler with level := settings.logLevel.number, propagate := false }

/-- Whether events of a level pass. -/
def admits (l : Logger) (level : Level) : Bool := l.level ≤ level.number

end Logger

/-- An event that is logged, with the fault that it is about. -/
structure Event where
  level : Level
  logger : String
  message : String
  cause : Option Fault := none
deriving DecidableEq

/-- The loggers by their names. -/
def Registry : Type := String → Logger

namespace Registry

/-- No logger has been asked for yet. -/
def fresh : Registry := fun _ => {}

/-- The name that a logger is known by; without a name the root of all loggers is meant. -/
def nameOf (name : String) : String := if name = "" then "root" else name

/-- The logger that is asked for when no name is given. -/
def defaultName : String := "taskstate"

def set (r : Registry) (name : String) (l : Logger) : Registry :=
  fun n => if n = name then l else r n

/-- Sets up a logger. -/
def obtain (r : Registry) (name : String) (settings : Except Failure Settings) :
    Registry × Except Failure Logger :=
  let l := r (nameOf name)
  match settings with
  | .ok settings => (r.set (nameOf name) (l.configure settings), .ok (l.configure settings))
  | .error failure => (r.set (nameOf name) l.withHandler, .error failure)

end Registry

/-- The events that pass a logger. -/
def Logger.emit (l : Logger) (events : List Event) : List Event := events.filter fun e => l.admits e.level

end Taskboard
