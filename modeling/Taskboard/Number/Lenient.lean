import Taskboard.Number.Numeral

/-! Whole numbers in the text of a field. The reading is lenient where it costs nothing: white space
    around the number, a sign, leading zeros (underscores may stand among them), single underscores
    between digits, and a fraction of zeros are let pass. All of this is taken away (`strip`), and what
    is left must be a number in plain digits (`plain?`). Digits are ASCII digits.

    A minus sign may also stand behind the leading zeros. -/

namespace Taskboard
namespace Lenient

/-- Why a text is not read as a number. -/
inductive Fault where
  /-- It is not written as one. -/
  | shape
  /-- It begins with one that has too many digits. -/
  | size
deriving DecidableEq

/-! ### What is let pass -/

/-- What is left of a number behind a zero and the zeros and underscores that follow it. At the end of
    the text or before a point the last of these, `last`, stays. -/
def behindZeros (last : Char) : List Char → Option (List Char)
  | [] => some [last]
  | '.' :: rest => some (last :: '.' :: rest)
  | c :: rest =>
    if c = '0' ∨ c = '_' then behindZeros c rest
    else if c.isDigit ∨ c = '-' then some (c :: rest)
    else none

/-- A number without the zeros it begins with; what begins with no digit is none. -/
def dropZeros : List Char → Option (List Char)
  | [] => none
  | c :: rest =>
    if c = '0' then behindZeros c rest
    else if c.isDigit then some (c :: rest)
    else none

/-- A number without a fraction of zeros. Any other text behind a point makes it none. -/
def dropFraction (s : List Char) : Option (List Char) :=
  match s.span (· ≠ '.') with
  | (whole, []) => some whole
  | (whole, _ :: fraction) => if fraction ≠ [] ∧ fraction.all (· = '0') then some whole else none

/-- A number without its underscores, of which none may stand at an end or beside another one. -/
def dropUnderscores (s : List Char) : Option (List Char) :=
  let parts := s.splitOn '_'
  if [] ∈ parts then none else some parts.flatten

/-- A number without all that is let pass. -/
def strip (s : List Char) : Option (List Char) :=
  ((dropZeros s).bind dropFraction).bind dropUnderscores

/-! ### Plain digits -/

/-- A number in digits, of which there are not too many, and the first of several is no zero. -/
def natural? (s : List Char) : Option Nat :=
  if s ≠ [] ∧ s.all Char.isDigit ∧ (s.head? = some '0' → s.length = 1) ∧
      s.length ≤ Numeral.maxDigits then
    some (Numeral.ofDigits 10 (s.map (·.toNat - 48)))
  else none

/-- A number in digits, which a minus sign may stand before. -/
def plain? : List Char → Option Int
  | '-' :: s => (natural? s).map fun n => -(n : Int)
  | s => (natural? s).map fun n => (n : Int)

/-- Whether a text, taken as it is, begins with more digits than a number may have. -/
def isOversized (s : List Char) : Bool :=
  let digits := (match s with | '-' :: s => s | s => s).takeWhile Char.isDigit
  digits.head? ≠ some '0' && Numeral.maxDigits < digits.length

/-! ### Reading -/

/-- The number that a text denotes. -/
def number? (s : List Char) : Option Int :=
  match Text.trim Text.isWhiteSpace s with
  | '-' :: rest => (strip rest).bind fun s => plain? ('-' :: s)
  | '+' :: rest => (strip rest).bind plain?
  | rest => (strip rest).bind plain?

/-- Reads the text of a field as a whole number. -/
def read (s : List Char) : Except Fault Int :=
  if isOversized s then .error .size
  else match number? s with
    | some n => .ok n
    | none => .error .shape

end Lenient
end Taskboard
