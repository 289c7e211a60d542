import Taskboard.Text.Percent

/-! The parameters in a query. Its bytes are taken for characters one by one; `&` stands between
    parameters, the first `=` between name and value, `+` for a blank. -/

namespace Taskboard
namespace Http

/-- The parameters of a query, in order. -/
abbrev Parameters := List (String × String)

namespace Parameters

/-- A text whose characters are the bytes of the given one. -/
def ofBytes (s : String) : List Char := (Utf8.encode s).map fun b => Char.ofNat b.toNat

/-- A name or value as it is meant. -/
def decode (s : List Char) : String :=
  String.ofList (Percent.decode (s.map fun c => if c = '+' then ' ' else c))

/-- One parameter. Without `=` its value is empty. -/
def parameter (s : List Char) : String × String :=
  let (name, value) := s.span (· ≠ '=')
  (decode name, decode (value.drop 1))

/-- Takes a query apart; nothing between two `&` is no parameter. -/
def ofQuery (query : String) : Parameters :=
  (((ofBytes query).splitOn '&').filter (· ≠ [])).map parameter

/-- All values of a parameter. -/
def all (ps : Parameters) (name : String) : List String :=
  (ps.filter (·.1 = name)).map (·.2)

/-- The last value of a parameter. -/
def last? (ps : Parameters) (name : String) : Option String := (ps.all name).getLast?

end Parameters

/-- The words for yes. -/
def yesWords : List String := ["true", "t", "yes", "y", "on", "1"]

/-- The words for no. -/
def noWords : List String := ["false", "f", "no", "n", "off", "0"]

/-- A truth value in words, without regard to case. -/
def truth? (s : String) : Option Bool :=
  let word := String.ofList (s.toList.map Char.toLower)
  if word ∈ yesWords then some true else if word ∈ noWords then some false else none

end Http
end Taskboard
