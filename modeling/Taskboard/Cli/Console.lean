import Taskboard.Fault
import Taskboard.Text.Markup

/-! A command at work. It writes to standard output as it goes, and may stop before it is through; what it has
    written until then stays written. -/

namespace Taskboard
namespace Cli

/-- Why a command stops. -/
inductive Stop where
  /-- The arguments are not understood. -/
  | usage
  /-- The snapshot cannot be shown. -/
  | refused (reason : String)
  | failure (f : Failure)

namespace Stop

def exitCode : Stop → Nat
  | .usage => 2
  | .refused _ => 1
  | .failure _ => 1

/-- The first line on standard error, where the command itself reports an error. -/
def report : Stop → Option String
  | .refused reason => some ("❌ Snapshot Error: " ++ String.ofList (Text.Markup.display reason.toList))
  | _ => none

/-- What nothing has handled. -/
def raised : Stop → Option Failure
  | .failure f => some f
  | _ => none

end Stop

/-- A command at work, in the state of what it has written so far. -/
abbrev Console := EStateM Stop (List UInt8)

namespace Console

def write (bytes : List UInt8) : Console Unit := modify (· ++ bytes)

/-- Takes a result, or stops where there is none. -/
def take {ε α : Type} (stop : ε → Stop) : Except ε α → Console α
  | .ok a => pure a
  | .error e => throw (stop e)

/-- Writes a text in a line of its own. -/
def echo (text : String) : Console Unit := write (Utf8.encode (text ++ "\n"))

end Console
end Cli
end Taskboard
