/-! Taking a list of arguments apart into options and operands.

    A long option is a whole argument, with its value behind `=` or in the next argument. Short options
    may be put together behind one hyphen; the first of them that needs a value takes the rest of the
    argument, or the next one. Options and operands may be mixed, up to an argument `--`. -/

namespace Taskboard
namespace Cli

/-- The options of a command. -/
structure Grammar (α : Type) where
  long? : String → Option α
  short? : Char → Option α
  needsValue : α → Bool

/-- An option that is given, with the value of one that needs a value. -/
structure Given (α : Type) where
  option : α
  value : String := ""
deriving DecidableEq

/-- What a command is given. -/
structure Arguments (α : Type) where
  options : List (Given α) := []
  operands : List String := []
deriving DecidableEq

/-- What a single argument is. -/
inductive Kind (α : Type) where
  /-- The end of the options. -/
  | terminator
  | operand
  | options (given : List (Given α))
  /-- Options, the last of which needs the next argument for its value. -/
  | awaiting (given : List (Given α)) (option : α)
  /-- No option of the command. -/
  | unknown

namespace Grammar

variable {α : Type} (g : Grammar α)

/-- Short options behind one hyphen. -/
def cluster : List Char → Kind α
  | [] => .options []
  | c :: rest =>
    match g.short? c with
    | none => .unknown
    | some option =>
      if g.needsValue option then
        if rest = [] then .awaiting [] option else .options [⟨option, String.ofList rest⟩]
      else match cluster rest with
        | .options given => .options (⟨option, ""⟩ :: given)
        | .awaiting given last => .awaiting (⟨option, ""⟩ :: given) last
        | kind => kind

/-- A long option with the value behind its `=`, if it has one. -/
def longOption (option : α) (value : Option (List Char)) : Kind α :=
  match value with
  | some value => if g.needsValue option then .options [⟨option, String.ofList value⟩] else .unknown
  | none => if g.needsValue option then .awaiting [] option else .options [⟨option, ""⟩]

def classify (argument : String) : Kind α :=
  match argument.toList with
  | ['-', '-'] => .terminator
  | '-' :: c :: rest =>
    let (name, value) := (c :: rest).span (· ≠ '=')
    match c, g.long? (String.ofList ('-' :: name)) with
    | _, some option => g.longOption option (if value = [] then none else some (value.drop 1))
    | '-', none => .unknown
    | _, none => g.cluster (c :: rest)
  | _ => .operand

/-- Takes the arguments apart; `none` if one of them is not understood. -/
def parse : List String → Option (Arguments α)
  | [] => some {}
  | argument :: rest =>
    match g.classify argument with
    | .terminator => some { operands := rest }
    | .operand => (parse rest).map fun a => { a with operands := argument :: a.operands }
    | .options given => (parse rest).map fun a => { a with options := given ++ a.options }
    | .awaiting given option =>
      match rest with
      | [] => none
      | value :: rest =>
        (parse rest).map fun a => { a with options := given ++ ⟨option, value⟩ :: a.options }
    | .unknown => none

end Grammar

namespace Arguments

variable {α : Type} [DecidableEq α]

/-- Whether an option is given. -/
def has (a : Arguments α) (option : α) : Bool := a.options.any (·.option = option)

/-- The values of an option, in order. -/
def values (a : Arguments α) (option : α) : List String :=
  (a.options.filter (·.option = option)).map (·.value)

/-- The value of an option that is given several times is the last one. -/
def last? (a : Arguments α) (option : α) : Option String := (a.values option).getLast?

end Arguments
end Cli
end Taskboard
