import Taskboard.Text.Utf8

/-! Percent coding: a byte as `%` and two hexadecimal digits.

    Decoding takes each longest run of ASCII characters by itself as UTF-8, and leaves all other
    characters, and every `%` without two digits behind it, as they are. Encoding keeps the characters
    that may stand in a URL and writes the bytes of all others. -/

namespace Taskboard
namespace Percent

def isAscii (c : Char) : Bool := c.toNat < 0x80

/-- The bytes that a run of ASCII characters stands for. -/
def bytes : List Char → List UInt8
  | '%' :: a :: b :: rest =>
    match Text.hexDigit? a, Text.hexDigit? b with
    | some high, some low => UInt8.ofNat (16 * high + low) :: bytes rest
    | _, _ => 0x25 :: bytes (a :: b :: rest)
  | c :: rest => UInt8.ofNat c.toNat :: bytes rest
  | [] => []

/-- A run of characters that are all ASCII or all not. -/
def decodeRun (run : List Char) : List Char :=
  if run.all isAscii then Utf8.decodeLossy (bytes run) else run

/-- The text that a percent-coded text stands for. -/
def decode (s : List Char) : List Char :=
  (s.splitBy fun a b => isAscii a == isAscii b).flatMap decodeRun

/-- Letters, digits and marks that stand for themselves in a URL, among them `%`, so that what is
    coded already stays so. -/
def isSafe (c : Char) : Bool :=
  c.isAlphanum || "_.-~:/%#?=@[]!$&'()*+,;".toList.contains c

/-- A byte as `%` and its two digits, or as the character that it is. -/
def encodeByte (b : UInt8) : List Char :=
  let c := Char.ofNat b.toNat
  if b.toNat < 0x80 && isSafe c then [c] else '%' :: (Text.hexDigits 2 b.toNat).map Char.toUpper

/-- The text with all that may not stand in a URL coded. -/
def encode (s : String) : List Char := (Utf8.encode s).flatMap encodeByte

end Percent
end Taskboard
