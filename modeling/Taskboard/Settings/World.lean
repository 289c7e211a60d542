import Taskboard.Text.Utf8

/-! What the program finds around it: environment variables and the files of its directory. -/

namespace Taskboard

inductive Node where
  | directory
  | file (bytes : List UInt8)
deriving DecidableEq

structure World where
  environment : List (String × String)
  files : List (String × Node)

namespace World

/-- What has a name in the directory. -/
def node? (w : World) (name : String) : Option Node := (w.files.find? (·.1 = name)).map (·.2)

/-- The steps of a path. Slashes at its end, doubled ones and steps to where one is already do not
    count. -/
def steps (path : String) : List (List Char) :=
  (path.toList.splitOn '/').filter fun step => step ≠ [] && step ≠ ['.']

/-- The name in the directory that the steps of a path lead to. The way may go into a directory only to
    come back from it. -/
def follow (w : World) : List (List Char) → Option (List Char)
  | [name] => some name
  | name :: ['.', '.'] :: rest =>
    if w.node? (String.ofList name) = some .directory then follow w rest else none
  | _ => none

/-- Whether a path begins at the root and not in the directory. -/
def isAbsolute (path : String) : Bool := path.toList.head? = some '/'

/-- The bytes of the file that a path leads to from the directory. -/
def file? (w : World) (path : String) : Option (List UInt8) :=
  if isAbsolute path then none
  else match w.follow (steps path) with
    | some name =>
      match w.node? (String.ofList name) with
      | some (.file bytes) => some bytes
      | _ => none
    | none => none

/-- The value of an environment variable, by its exact name. -/
def value? (w : World) (name : String) : Option String :=
  (w.environment.find? (·.1 = name)).map (·.2)

/-- The text of a file; a directory and a file that is not there have none. -/
def text (w : World) (file : String) : Except Utf8.Fault (List Char) :=
  match w.node? file with
  | some (.file bytes) => Utf8.decode bytes
  | _ => .ok []

end World
end Taskboard
