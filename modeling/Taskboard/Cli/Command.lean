import Taskboard.Cli.Arguments
import Taskboard.Number.Lenient

/-! The commands: `show` a snapshot file, or `serve` the board. -/

namespace Taskboard
namespace Cli

/-- What `show` is asked for. -/
structure Show where
  file : String
  asJson : Bool := false
  ids : List String := []
  version : Option Nat := none
deriving DecidableEq

/-- What `serve` is asked for. -/
structure Serve where
  host : Option String := none
  port : Option Int := none
  reload : Bool := false
deriving DecidableEq

inductive Command where
  | show (what : Show)
  | serve (how : Serve)
deriving DecidableEq

inductive ShowOption where
  | json
  | id
  | version
deriving DecidableEq

def showGrammar : Grammar ShowOption where
  long?
    | "--json" => some .json
    | "--id" => some .id
    | "--version" => some .version
    | _ => none
  short?
    | 'j' => some .json
    | 'i' => some .id
    | 'V' => some .version
    | _ => none
  needsValue o := o ≠ .json

inductive ServeOption where
  | host
  | port
  | reload
deriving DecidableEq

def serveGrammar : Grammar ServeOption where
  long?
    | "--host" => some .host
    | "--port" => some .port
    | "--reload" => some .reload
    | _ => none
  short?
    | 'p' => some .port
    | _ => none
  needsValue o := o ≠ .reload

/-- The value of an option that is a whole number, `none` where it is none. It is read like a field. -/
def intOption (value : Option String) : Option (Option Int) :=
  match value with
  | none => some none
  | some text =>
    match Lenient.read text.toList with
    | .ok n => some (some n)
    | .error _ => none

/-- The value of an option that is a number not below nought. -/
def natOption (value : Option String) : Option (Option Nat) :=
  match intOption value with
  | some none => some none
  | some (some (.ofNat n)) => some (some n)
  | _ => none

def parseShow (arguments : List String) : Option Show := do
  let a ← showGrammar.parse arguments
  let version ← natOption (a.last? .version)
  match a.operands with
  | [file] => return ⟨file, a.has .json, a.values .id, version⟩
  | _ => none

def parseServe (arguments : List String) : Option Serve := do
  let a ← serveGrammar.parse arguments
  let port ← intOption (a.last? .port)
  match a.operands with
  | [] => return ⟨a.last? .host, port, a.has .reload⟩
  | _ => none

/-- The command that arguments ask for. An argument `--` in front of it does not matter. -/
def parse (arguments : List String) : Option Command :=
  match if arguments.head? = some "--" then arguments.drop 1 else arguments with
  | "show" :: rest => (parseShow rest).map .show
  | "serve" :: rest => (parseServe rest).map .serve
  | _ => none

end Cli
end Taskboard
