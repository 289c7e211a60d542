import Taskboard.Issue
import Taskboard.Text.Quoted
import Taskboard.Text.Utf8

/-! Faults: what goes wrong while the program runs. What is done about one depends on its family only. -/

namespace Taskboard

/-- The families of faults: a value that cannot be used, input and output that fail, and all others. -/
inductive Family where
  | value
  | io
  | other
deriving DecidableEq

namespace Family

def valueNames : List String := ["ValueError", "UnicodeError"]

def ioNames : List String :=
  ["OSError", "BlockingIOError", "BrokenPipeError", "ChildProcessError", "ConnectionAbortedError",
   "ConnectionError", "ConnectionRefusedError", "ConnectionResetError", "FileExistsError",
   "FileNotFoundError", "InterruptedError", "IsADirectoryError", "NotADirectoryError",
   "PermissionError", "ProcessLookupError", "TimeoutError"]

/-- The family that a name belongs to. -/
def ofName (name : String) : Family :=
  if name ∈ valueNames then .value else if name ∈ ioNames then .io else .other

end Family

structure Fault where
  family : Family
  name : String
  message : String
deriving DecidableEq

namespace Fault

/-- The fault of a name. -/
def named (name message : String) : Fault := ⟨Family.ofName name, name, message⟩

/-- A value that cannot be used. -/
def value (message : String) : Fault := ⟨.value, "ValueError", message⟩

/-- A number that has more digits than are printed. -/
def tooManyDigits : Fault :=
  value <| "Exceeds the limit (4300 digits) for integer string conversion; " ++
    "use sys.set_int_max_str_digits() to increase the limit"

/-- What is made of numbers, if all of them are printed. -/
def printing {α : Type} (all : Bool) (made : α) : Except Fault α :=
  if all then .ok made else .error tooManyDigits

theorem printing_eq_ok_iff {α : Type} {all : Bool} {made a : α} :
    printing all made = .ok a ↔ all = true ∧ made = a := by
  cases all <;> simp [printing]

@[simp] theorem isOk_printing {α : Type} (all : Bool) (made : α) : (printing all made).isOk = all := by
  cases all <;> rfl

/-- Bytes that are no text. -/
def undecodable (f : Utf8.Fault) : Fault := ⟨.value, "UnicodeDecodeError", f.message⟩

/-- What is reported of a fault. The message of a missing key is the key, and is quoted. -/
def text (f : Fault) : String :=
  if f.name = "KeyError" then String.ofList (Text.quoted f.message.toList) else f.message

end Fault

/-- Why the program gives up: a fault that nothing handles, or settings that do not pass. -/
inductive Failure where
  | fault (f : Fault)
  | rejected (r : Rejection)
deriving DecidableEq

/-- A failure in one line. -/
def Failure.report : Failure → String
  | .fault f => f.name ++ ": " ++ f.text
  | .rejected r => r.headline

end Taskboard
