import Taskboard.Text.Blank
import Taskboard.Text.Digit

/-! Whole numbers as a person may write them: white space around, a sign, digits of any script, and
    single underscores between digits. In base sixteen `0x` may stand before the digits, with one
    underscore behind it. -/

namespace Taskboard
namespace Numeral

/-- What a character is worth as a digit of the base: a decimal digit of any script or, above ten, an
    ASCII letter. -/
def digit? (base : Nat) (c : Char) : Option Nat :=
  match Text.decimalDigit? c with
  | some d => if d < base then some d else none
  | none => (Text.hexDigit? c).filter (· < base)

/-- The digits of a text in which single underscores may stand between digits and nothing else may. -/
def digits? (value : Char → Option Nat) : List Char → Option (List Nat)
  | [] => none
  | [c] => (value c).map ([·])
  | c :: '_' :: rest => do
    let d ← value c
    let ds ← digits? value rest
    return d :: ds
  | c :: c' :: rest => do
    let d ← value c
    let ds ← digits? value (c' :: rest)
    return d :: ds

/-- The number that the digits stand for. -/
def ofDigits (base : Nat) (ds : List Nat) : Nat := ds.foldl (fun n d => n * base + d) 0

/-- The text behind a base mark, where the base has one and the text begins with it. -/
def dropMark (base : Nat) : List Char → List Char
  | z :: x :: rest =>
    if base = 16 ∧ digit? base z = some 0 ∧ (x = 'x' ∨ x = 'X') then
      match rest with
      | '_' :: rest => rest
      | rest => rest
    else z :: x :: rest
  | s => s

/-- A number without sign. -/
def magnitude? (base : Nat) (s : List Char) : Option Nat :=
  (digits? (digit? base) (dropMark base s)).map (ofDigits base)

/-- The most digits that a decimal number is read with, and that a report prints one with. -/
def maxDigits : Nat := 4300

/-- Whether a report prints a number. Its sign is no digit. -/
def prints (n : Int) : Bool := n.natAbs < Nat.pow 10 maxDigits

/-- Reads a number. -/
def read? (base : Nat) (s : List Char) : Option Int :=
  match Text.trim Text.isWhiteSpace s with
  | '-' :: rest => (magnitude? base rest).map fun n => -(n : Int)
  | '+' :: rest => (magnitude? base rest).map fun n => (n : Int)
  | rest => (magnitude? base rest).map fun n => (n : Int)

/-- The decimal digits of a number, however many it has. -/
def decimal (n : Nat) : List Char := Nat.toDigits 10 n

/-- A whole number in decimal digits, with a minus sign if it is negative. -/
def ofInt : Int → List Char
  | .ofNat n => decimal n
  | .negSucc n => '-' :: decimal (n + 1)

/-- Zeros before the digits until the text, sign included, has `width` characters. -/
def padded (width : Nat) : Int → List Char
  | .ofNat n => fill width (decimal n)
  | .negSucc n => '-' :: fill (width - 1) (decimal (n + 1))
where
  fill (width : Nat) (ds : List Char) : List Char := List.replicate (width - ds.length) '0' ++ ds

end Numeral
end Taskboard
