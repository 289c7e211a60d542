import Taskboard.Settings.Template
import Taskboard.Text.Blank

/-! Env files: lines `NAME=value`, which `export` may stand before, and lines of comment.

    A name may be written between single quotes. A value is written as it is, up to the end of the line
    or a `#` behind a blank, or between single or double quotes, where a backslash gives a quote, a
    backslash and, between double quotes, the usual control characters. It may refer to variables, be
    they defined further up or outside of the file. A name alone is left without a value. What is written
    in no such way defines nothing, and reading goes on with the next line. -/

namespace Taskboard
namespace EnvFile

/-- A blank inside a line. -/
def isInline (c : Char) : Bool := Text.isBlank c && c ≠ '\n'

/-- The text with each of the three ends of line written as a line feed. -/
def unifyLines : List Char → List Char
  | '\r' :: '\n' :: s => '\n' :: unifyLines s
  | '\r' :: s => '\n' :: unifyLines s
  | c :: s => c :: unifyLines s
  | [] => []

/-- The text behind the line that it begins with. -/
def dropLine (s : List Char) : List Char := (s.dropWhile (· ≠ '\n')).drop 1

/-- The text behind the end of a line, if nothing but blanks and a comment stand before that. -/
def lineEnd? (s : List Char) : Option (List Char) :=
  match s.dropWhile isInline with
  | [] => some []
  | '\n' :: s => some s
  | '#' :: s => some (dropLine s)
  | _ => none

/-! ### Values -/

/-- What a backslash gives with a character, between single quotes. -/
def single? : Char → Option Char
  | '\\' => some '\\'
  | '\'' => some '\''
  | _ => none

/-- What a backslash gives with a character, between double quotes. -/
def double? : Char → Option Char
  | '\\' => some '\\'
  | '\'' => some '\''
  | '"' => some '"'
  | 'a' => some '\x07'
  | 'b' => some '\x08'
  | 'f' => some '\x0c'
  | 'n' => some '\n'
  | 'r' => some '\r'
  | 't' => some '\t'
  | 'v' => some '\x0b'
  | _ => none

def unescape (given : Char → Option Char) : List Char → List Char
  | '\\' :: c :: s => match given c with
    | some x => x :: unescape given s
    | none => '\\' :: unescape given (c :: s)
  | c :: s => c :: unescape given s
  | [] => []

/-- Divides a text at the quote that ends it. A character behind a backslash does not. -/
def untilQuote (quote : Char) : List Char → Option (List Char × List Char)
  | [] => none
  | '\\' :: c :: s => (untilQuote quote s).map fun (value, rest) => ('\\' :: c :: value, rest)
  | c :: s =>
    if c = quote then some ([], s)
    else (untilQuote quote s).map fun (value, rest) => (c :: value, rest)

/-- A value without quotes, up to a `#` behind a blank. -/
def cutComment : List Char → List Char
  | c :: '#' :: s => if Text.isBlank c then [] else c :: cutComment ('#' :: s)
  | c :: s => c :: cutComment s
  | [] => []

/-- The value behind a `=`, and the text behind it; a quote that is not closed is none. -/
def value? (s : List Char) : Option (List Char × List Char) :=
  match s.dropWhile isInline with
  | '\'' :: s => (untilQuote '\'' s).map fun (v, r) => (unescape single? v, r)
  | '"' :: s => (untilQuote '"' s).map fun (v, r) => (unescape double? v, r)
  | _ =>
    let (line, rest) := s.span (· ≠ '\n')
    some (Text.trim Text.isBlank (cutComment line), rest)

/-! ### Statements -/

/-- What a line says: the name that it defines, and its value, if it is given one. -/
structure Statement where
  name : String
  value : Option (List Char)
deriving DecidableEq

/-- The text behind the word `export` and the blanks that follow it. -/
def dropExport (s : List Char) : List Char :=
  let word := "export".toList
  let rest := s.drop word.length
  if word.isPrefixOf s ∧ (rest.head?.any isInline) then rest.dropWhile isInline else s

def isNameChar (c : Char) : Bool := c ≠ '=' && c ≠ '#' && !Text.isBlank c

/-- A name, and the text behind it. -/
def name? : List Char → Option (String × List Char)
  | '\'' :: s =>
    match s.span (· ≠ '\'') with
    | ([], _) | (_, []) => none
    | (name, _ :: s) => some (String.ofList name, s)
  | s =>
    match s.span isNameChar with
    | ([], _) => none
    | (name, s) => some (String.ofList name, s)

/-- A statement, if its line ends here, and the text behind the line. -/
def close (statement : Statement) (s : List Char) : Option Statement × List Char :=
  match lineEnd? s with
  | some rest => (some statement, rest)
  | none => (none, dropLine s)

/-- The statement at the beginning of a text, if there is one, and the text behind its line. -/
def statement (s : List Char) : Option Statement × List Char :=
  let s := dropExport s
  match name? s with
  | none => (none, dropLine s)
  | some (name, s) =>
    match s.dropWhile isInline with
    | '=' :: s =>
      match value? s with
      | none => (none, dropLine s)
      | some (value, s) => close ⟨name, some value⟩ s
    | s => close ⟨name, none⟩ s

/-- The statements of a text, one after another. Each takes at least one character, so that as many steps
    as there are characters are enough. -/
def statementsFrom : (steps : Nat) → List Char → List Statement
  | 0, _ => []
  | steps + 1, s =>
    match s.dropWhile Text.isBlank with
    | [] => []
    | s =>
      match statement s with
      | (some d, rest) => d :: statementsFrom steps rest
      | (none, rest) => statementsFrom steps rest

/-- The text of a file without the mark that it may begin with. -/
def dropMark : List Char → List Char
  | '\uFEFF' :: s => s
  | s => s

/-- The statements of a file. -/
def statements (s : List Char) : List Statement := statementsFrom s.length (unifyLines (dropMark s))

/-! ### Tables -/

/-- Names with their values, in the order in which the names first occur. -/
abbrev Table := List (String × Option String)

/-- Puts a value under a name; a name that is there already keeps its place. -/
def put (name : String) (value : Option String) : Table → Table
  | [] => [(name, value)]
  | (n, v) :: table => if n = name then (n, value) :: table else (n, v) :: put name value table

/-- The value that a reference finds: that of the table, where a name without a value counts as empty, or
    else the one outside of the file. -/
def valueOf (outside : String → Option String) (table : Table) (name : String) : Option String :=
  match table.find? (·.1 = name) with
  | some (_, value) => some (value.getD "")
  | none => outside name

/-- The table with what a statement says. -/
def define (outside : String → Option String) (table : Table) (d : Statement) : Table :=
  put d.name (d.value.map fun v => String.ofList (Template.fill (valueOf outside table) v)) table

/-- What statements define, one after another, for given values of the variables outside of the file. -/
def defineAll (outside : String → Option String) (ds : List Statement) : Table := ds.foldl (define outside) []

/-- What a file defines. -/
def table (outside : String → Option String) (s : List Char) : Table := defineAll outside (statements s)

/-- The names that the value of a statement refers to. -/
def Statement.references (d : Statement) : List String := (d.value.map Template.references).getD []

/-- The names that the values of a file refer to. -/
def references (s : List Char) : List String := (statements s).flatMap Statement.references

end EnvFile
end Taskboard
