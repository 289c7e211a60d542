import Taskboard.Json.Value
import Taskboard.Text.Digit

/-! Reading JSON strictly. Blanks are U+0020, tab, line feed and carriage return; a text holds no raw
    control character and no half of a surrogate pair; numbers have no leading zero. `NaN`, `Infinity`
    and `-Infinity` are numbers besides. Arrays and objects that hold something may lie in each other up
    to a given depth; an empty one may lie in the innermost of them.

    Each reader takes the text that is left and gives what it read and what is left then. -/

namespace Taskboard
namespace Json

def isBlank (c : Char) : Bool := c = ' ' || c = '\t' || c = '\n' || c = '\r'

/-- The text behind the blanks it begins with. -/
def skip (s : List Char) : List Char := s.dropWhile isBlank

/-- The text behind a word that it begins with. -/
def after? : (word : List Char) → List Char → Option (List Char)
  | [], s => some s
  | c :: word, d :: s => if c = d then after? word s else none
  | _ :: _, [] => none

/-! ### Texts -/

/-- The character that a letter behind a backslash stands for. -/
def letter? : Char → Option Char
  | '"' => some '"'
  | '\\' => some '\\'
  | '/' => some '/'
  | 'b' => some '\x08'
  | 'f' => some '\x0c'
  | 'n' => some '\n'
  | 'r' => some '\r'
  | 't' => some '\t'
  | _ => none

/-- The number that four hexadecimal digits stand for. -/
def unit? (a b c d : Char) : Option Nat := do
  let a ← Text.hexDigit? a
  let b ← Text.hexDigit? b
  let c ← Text.hexDigit? c
  let d ← Text.hexDigit? d
  return ((a * 16 + b) * 16 + c) * 16 + d

def isHighSurrogate (n : Nat) : Bool := 0xD800 ≤ n && n < 0xDC00

def isLowSurrogate (n : Nat) : Bool := 0xDC00 ≤ n && n < 0xE000

/-- The characters of a text up to the quote that ends it. -/
def readChars : List Char → Option (List Char × List Char)
  | '"' :: rest => some ([], rest)
  | '\\' :: 'u' :: a :: b :: c :: d :: rest =>
    match unit? a b c d with
    | none => none
    | some high =>
      if isHighSurrogate high then
        match rest with
        | '\\' :: 'u' :: a :: b :: c :: d :: rest =>
          match unit? a b c d with
          | none => none
          | some low =>
            if isLowSurrogate low then
              (readChars rest).map fun (s, r) =>
                (Char.ofNat (0x10000 + (high - 0xD800) * 0x400 + (low - 0xDC00)) :: s, r)
            else none
        | _ => none
      else if isLowSurrogate high then none
      else (readChars rest).map fun (s, r) => (Char.ofNat high :: s, r)
  | '\\' :: c :: rest =>
    match letter? c with
    | none => none
    | some x => (readChars rest).map fun (s, r) => (x :: s, r)
  | c :: rest =>
    if c = '\\' ∨ c.toNat < 0x20 then none
    else (readChars rest).map fun (s, r) => (c :: s, r)
  | [] => none

/-! ### Numbers -/

/-- A run of digits, which may be empty. -/
def readDigits (s : List Char) : List Char × List Char := s.span Char.isDigit

/-- The number that ASCII digits stand for. -/
def natOf (ds : List Char) : Nat := Numeral.ofDigits 10 (ds.map (·.toNat - 48))

/-- The digits behind a point, none if there is no point. -/
def readFraction : List Char → Option (List Char × List Char)
  | '.' :: s => match readDigits s with
    | ([], _) => none
    | (ds, rest) => some (ds, rest)
  | s => some ([], s)

/-- The exponent, if one follows. -/
def readExponent : List Char → Option (Option Int × List Char)
  | c :: s =>
    if c = 'e' ∨ c = 'E' then
      let (negative, s) := match s with
        | '-' :: s => (true, s)
        | '+' :: s => (false, s)
        | s => (false, s)
      match readDigits s with
      | ([], _) => none
      | (ds, rest) => some (some (if negative then -(natOf ds : Int) else natOf ds), rest)
    else some (none, c :: s)
  | [] => some (none, [])

/-- A number without its sign. It has at most `Numeral.maxDigits` digits before the point. -/
def readMagnitude (negative : Bool) (s : List Char) : Option (Value × List Char) := do
  let (whole, s) := readDigits s
  guard (whole ≠ [] ∧ (whole.head? ≠ some '0' ∨ whole.length = 1) ∧
    whole.length ≤ Numeral.maxDigits)
  let (fraction, s) ← readFraction s
  let (exponent, s) ← readExponent s
  if fraction = [] ∧ exponent = none then
    return (.int (if negative then -(natOf whole : Int) else natOf whole), s)
  else
    let scale := exponent.getD 0 - fraction.length
    return (.float (Binary64.ofDecimal negative (natOf (whole ++ fraction)) scale), s)

def readNumber (s : List Char) : Option (Value × List Char) :=
  let (negative, s) := match s with
    | '-' :: s => (true, s)
    | s => (false, s)
  match after? "Infinity".toList s with
  | some rest => some (.float (.infinite negative), rest)
  | none => readMagnitude negative s

/-! ### Values -/

/-- A value that is no array, object or text. -/
def readPlain (s : List Char) : Option (Value × List Char) :=
  match after? "null".toList s, after? "true".toList s, after? "false".toList s,
      after? "NaN".toList s with
  | some rest, _, _, _ => some (.null, rest)
  | _, some rest, _, _ => some (.bool true, rest)
  | _, _, some rest, _ => some (.bool false, rest)
  | _, _, _, some rest => some (.float .nan, rest)
  | _, _, _, _ => readNumber s

/-- A key with its quotes, and the colon behind it. -/
def readKey (s : List Char) : Option (String × List Char) :=
  match s with
  | '"' :: s => do
    let (key, s) ← readChars s
    match skip s with
    | ':' :: s => some (String.ofList key, skip s)
    | _ => none
  | _ => none

mutual

/-- Reads a value at the beginning of the text. Every call that another one makes has a shorter text
    before it, so that one more unit of `fuel` than there are characters is enough. -/
def readValue : (fuel depth : Nat) → List Char → Option (Value × List Char)
  | 0, _, _ => none
  | fuel + 1, depth, s =>
    match s with
    | '"' :: s => (readChars s).map fun (cs, r) => (.string (String.ofList cs), r)
    | '[' :: s =>
      match skip s, depth with
      | ']' :: s, _ => some (.array [], s)
      | _, 0 => none
      | s, depth + 1 => do
        let (v, s) ← readValue fuel depth s
        let (vs, s) ← readItems fuel depth s
        return (.array (v :: vs), s)
    | '{' :: s =>
      match skip s, depth with
      | '}' :: s, _ => some (.object [], s)
      | _, 0 => none
      | s, depth + 1 => do
        let (k, s) ← readKey s
        let (v, s) ← readValue fuel depth s
        let (ms, s) ← readMembers fuel depth s
        return (.object ((k, v) :: ms), s)
    | s => readPlain s

/-- The items that follow one, and the end of their array. -/
def readItems : (fuel depth : Nat) → List Char → Option (List Value × List Char)
  | 0, _, _ => none
  | fuel + 1, depth, s =>
    match skip s with
    | ']' :: s => some ([], s)
    | ',' :: s => do
      let (v, s) ← readValue fuel depth (skip s)
      let (vs, s) ← readItems fuel depth s
      return (v :: vs, s)
    | _ => none

/-- The members that follow one, and the end of their object. -/
def readMembers : (fuel depth : Nat) → List Char → Option (List (String × Value) × List Char)
  | 0, _, _ => none
  | fuel + 1, depth, s =>
    match skip s with
    | '}' :: s => some ([], s)
    | ',' :: s => do
      let (k, s) ← readKey (skip s)
      let (v, s) ← readValue fuel depth s
      let (ms, s) ← readMembers fuel depth s
      return ((k, v) :: ms, s)
    | _ => none

end

/-- The value of a whole text, with arrays and objects that hold something at most `depth` deep. -/
def read (depth : Nat) (s : List Char) : Option Value :=
  match readValue (s.length + 1) depth (skip s) with
  | some (v, rest) => if skip rest = [] then some v else none
  | none => none

/-- The depth to which snapshot files and documents are read. -/
def maxDepth : Nat := 200

end Json
end Taskboard
