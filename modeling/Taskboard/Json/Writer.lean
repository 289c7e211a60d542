import Taskboard.Json.Value
import Taskboard.Text.Digit

/-! Writing JSON without a blank: members in order, a text with only those characters escaped that must
    be. Every other character, and `/` and U+007F among them, is written as it is. -/

namespace Taskboard
namespace Json

/-- A character inside a text. A control character without a letter of its own is given by four
    lower-case hexadecimal digits. -/
def escape (c : Char) : List Char :=
  if c = '"' then ['\\', '"']
  else if c = '\\' then ['\\', '\\']
  else if c = '\n' then ['\\', 'n']
  else if c = '\r' then ['\\', 'r']
  else if c = '\t' then ['\\', 't']
  else if c = '\x08' then ['\\', 'b']
  else if c = '\x0c' then ['\\', 'f']
  else if c.toNat < 0x20 then '\\' :: 'u' :: Text.hexDigits 4 c.toNat
  else [c]

/-- A text between its quotes. -/
def quote (s : List Char) : List Char := '"' :: (s.flatMap escape ++ ['"'])

mutual

def Value.write : Value → List Char
  | .null => "null".toList
  | .bool true => "true".toList
  | .bool false => "false".toList
  | .int n => Numeral.ofInt n
  | .float x => x.toText
  | .string s => quote s.toList
  | .array [] => ['[', ']']
  | .array (v :: vs) => '[' :: (v.write ++ writeItems vs)
  | .object [] => ['{', '}']
  | .object ((k, v) :: ms) => '{' :: (quote k.toList ++ ':' :: (v.write ++ writeMembers ms))

/-- The items that follow one, and the end of their array. -/
def writeItems : List Value → List Char
  | [] => [']']
  | v :: vs => ',' :: (v.write ++ writeItems vs)

/-- The members that follow one, and the end of their object. -/
def writeMembers : List (String × Value) → List Char
  | [] => ['}']
  | (k, v) :: ms => ',' :: (quote k.toList ++ ':' :: (v.write ++ writeMembers ms))

end

/-- The text of a value. -/
def Value.text (v : Value) : String := String.ofList v.write

end Json
end Taskboard
