import Taskboard.Text.Digit
import Taskboard.Text.Printable

/-! A text as it is named in a message: between quotes, on one line, with every character visible.

    Single quotes are used unless the text has a single quote and no double one. The quote in use and
    the backslash are escaped; line feed, carriage return and tab have letters; what else is not
    printable is given by its number in two, four or eight hexadecimal digits. -/

namespace Taskboard
namespace Text

/-- The quote that a text is shown between. -/
def quoteFor (s : List Char) : Char := if '\'' ∈ s ∧ '"' ∉ s then '"' else '\''

/-- A character by its number, in the shortest of the three forms that has room for it. -/
def byNumber (n : Nat) : List Char :=
  if n < 0x100 then '\\' :: 'x' :: hexDigits 2 n
  else if n < 0x10000 then '\\' :: 'u' :: hexDigits 4 n
  else '\\' :: 'U' :: hexDigits 8 n

/-- How a character is shown between the quotes `q`. -/
def shown (q c : Char) : List Char :=
  if c = q ∨ c = '\\' then ['\\', c]
  else if c = '\n' then ['\\', 'n']
  else if c = '\r' then ['\\', 'r']
  else if c = '\t' then ['\\', 't']
  else if isPrintable c then [c]
  else byNumber c.toNat

/-- The text between quotes. -/
def quoted (s : List Char) : List Char :=
  quoteFor s :: s.flatMap (shown (quoteFor s)) ++ [quoteFor s]

end Text
end Taskboard
