import Taskboard.Log
import Taskboard.Report.Table
import Taskboard.Text.Utf8

/-! Writing the table to a sink. A sink that fails to take it because of input and output, or because it
    is closed, costs the table and nothing else: the fault is logged. Any other fault comes out, and so
    does that of a table that cannot be printed, which is not written. -/

namespace Taskboard

/-- What a sink answers to bytes that are written to it: a fault, or nothing. -/
abbrev Sink := List UInt8 → Option Fault

namespace Sink

/-- Takes everything. -/
def willing : Sink := fun _ => none

/-- Fails every write. -/
def failing (f : Fault) : Sink := fun _ => some f

/-- A stream that has been closed. -/
def closed : Sink := failing (Fault.value "I/O operation on closed file.")

end Sink

/-- What came of writing a table. -/
structure Delivery where
  /-- The bytes of each write. -/
  writes : List (List UInt8)
  logged : List Event
  raised : Option Failure

namespace Delivery

/-- The logger that is set up for a failure when none is given. -/
def defaultLogger : String := "taskstate.state"

/-- The event of a write that failed. -/
def event (logger : String) (f : Fault) : Event :=
  ⟨.error, logger, "Failed to write output stream.", some f⟩

/-- Whether a fault is logged and forgotten. -/
def forgives (f : Fault) : Bool := f.family = .io || f.family = .value

end Delivery

/-- Writes the table of a snapshot to a sink. The failure is logged by the given logger, or else by
    `defaultLogger`, which is only then asked for. -/
def Snapshot.deliver (s : Snapshot) (ids : IdSet) (sink : Sink) (given : Option (String × Logger))
    (loggers : Registry) (settings : Except Failure Settings) : Delivery :=
  match s.table? ids with
  | .error f => ⟨[], [], some (.fault f)⟩
  | .ok table =>
    let bytes := Utf8.encode table
    match sink bytes with
    | none => ⟨[bytes], [], none⟩
    | some f =>
      if Delivery.forgives f then
        match given with
        | some (name, logger) => ⟨[bytes], logger.emit [Delivery.event name f], none⟩
        | none =>
          match (loggers.obtain Delivery.defaultLogger settings).2 with
          | .ok logger => ⟨[bytes], logger.emit [Delivery.event Delivery.defaultLogger f], none⟩
          | .error failure => ⟨[bytes], [], some failure⟩
      else ⟨[bytes], [], some (.fault f)⟩

end Taskboard
