import Taskboard.Number.Numeral
import Taskboard.Text.Blank
import Taskboard.Uuid.Basic

/-! Reading identifiers.

    `read?` knows four shapes: the digits alone, the digits in their groups, and the groups in braces or
    behind `urn:uuid:`. `readLoose?` takes away every `urn:`, every `uuid:`, the braces around the text
    and every hyphen, and reads what is left, if it has thirty-two characters, as a number of base
    sixteen. -/

namespace Taskboard
namespace Uuid

/-- The identifier that thirty-two hexadecimal digits denote. -/
def ofDigits? (s : List Char) : Option Uuid :=
  if s.length = 32 then
    (s.mapM Text.hexDigit?).bind fun ds => ofNat? (Numeral.ofDigits 16 ds)
  else none

/-- Takes the hyphens from between groups of the given sizes. -/
def dropHyphens? : List Nat → List Char → Option (List Char)
  | [], _ => none
  | [n], s => if s.length = n then some s else none
  | n :: n' :: ns, s =>
    match s.drop n with
    | '-' :: rest => (dropHyphens? (n' :: ns) rest).map (s.take n ++ ·)
    | _ => none

/-- The identifier that digits in their groups denote. -/
def ofGroups? (s : List Char) : Option Uuid := (dropHyphens? groups s).bind ofDigits?

/-- What stands between braces. -/
def unbrace? : List Char → Option (List Char)
  | '{' :: s => if s.getLast? = some '}' then some s.dropLast else none
  | _ => none

/-- The mark of the one long form. -/
def urn : List Char := "urn:uuid:".toList

/-- Reads an identifier in one of the four shapes. -/
def read? (s : List Char) : Option Uuid :=
  match unbrace? s with
  | some inner => ofGroups? inner
  | none =>
    if urn.isPrefixOf s then ofGroups? (s.drop urn.length)
    else if s.length = 32 then ofDigits? s
    else ofGroups? s

/-- The text without the occurrences of a word, looked for from the left; `behind` characters of an
    occurrence are still to be passed over. -/
def without (word : List Char) : (behind : Nat) → List Char → List Char
  | _, [] => []
  | behind + 1, _ :: s => without word behind s
  | 0, c :: s =>
    if word.isPrefixOf (c :: s) then without word (word.length - 1) s
    else c :: without word 0 s

def isBrace (c : Char) : Bool := c = '{' || c = '}'

/-- What is left of a text when all that may stand around the digits is taken away. -/
def bare (s : List Char) : List Char :=
  (Text.trim isBrace (without "uuid:".toList 0 (without "urn:".toList 0 s))).filter (· ≠ '-')

/-- Reads an identifier in any spelling. -/
def readLoose? (s : List Char) : Option Uuid :=
  if (bare s).length = 32 then
    match Numeral.read? 16 (bare s) with
    | some (.ofNat n) => ofNat? n
    | _ => none
  else none

end Uuid
end Taskboard
