/-! Texts with references to variables: `${name}` stands for the value of a variable, and
    `${name:-text}` for that text where the variable has no value. What is not written like this stays
    as it is. -/

namespace Taskboard
namespace Template

inductive Piece where
  | char (c : Char)
  /-- A reference, with the text that is taken where the variable has no value. -/
  | reference (name : String) (fallback : List Char)
deriving DecidableEq

/-- The reference that a text begins with, and what is left behind it. -/
def reference? : List Char → Option (Piece × List Char)
  | '$' :: '{' :: s =>
    let (name, s) := s.span fun c => c ≠ '}' && c ≠ ':'
    match s with
    | '}' :: s => some (.reference (String.ofList name) [], s)
    | ':' :: '-' :: s =>
      match s.span (· ≠ '}') with
      | (fallback, _ :: s) => some (.reference (String.ofList name) fallback, s)
      | (_, []) => none
    | _ => none
  | _ => none

/-- The pieces of a text, of which the first `covered` characters belong to a piece before it. -/
def piecesFrom : (covered : Nat) → List Char → List Piece
  | _, [] => []
  | covered + 1, _ :: s => piecesFrom covered s
  | 0, c :: s =>
    match reference? (c :: s) with
    | some (piece, rest) => piece :: piecesFrom (s.length - rest.length) s
    | none => .char c :: piecesFrom 0 s

def pieces (s : List Char) : List Piece := piecesFrom 0 s

/-- The names that a text refers to. -/
def references (s : List Char) : List String :=
  (pieces s).filterMap fun
    | .reference name _ => some name
    | .char _ => none

/-- What a piece stands for. -/
def Piece.fill (value : String → Option String) : Piece → List Char
  | .char c => [c]
  | .reference name fallback =>
    match value name with
    | some v => v.toList
    | none => fallback

/-- A text with the values of variables in place of the references. -/
def fill (value : String → Option String) (s : List Char) : List Char :=
  (pieces s).flatMap (Piece.fill value)

end Template
end Taskboard
