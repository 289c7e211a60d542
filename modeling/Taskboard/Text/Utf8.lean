import Taskboard.Text.Digit

/-! Reading UTF-8, one byte at a time.

    Between characters a byte is a character, begins one, or can do neither (`start`); inside a
    character it continues it, completes it, or breaks it off (`Begun.next`). `decode` refuses the
    first fault and says where it is, how many bytes it covers and what is wrong; `decodeLossy` writes
    U+FFFD for the bytes of each fault and goes on behind them. -/

namespace Taskboard
namespace Utf8

/-- What can be wrong with a byte sequence. -/
inductive Flaw where
  /-- A byte that begins no character stands between characters. -/
  | startByte
  /-- A character that was begun does not go on. -/
  | continuationByte
  /-- The sequence ends inside a character. -/
  | unexpectedEnd
deriving DecidableEq

def Flaw.message : Flaw → String
  | .startByte => "invalid start byte"
  | .continuationByte => "invalid continuation byte"
  | .unexpectedEnd => "unexpected end of data"

/-- The bytes from `position` on, `bytes`, are no character. -/
structure Fault where
  position : Nat
  bytes : List UInt8
  flaw : Flaw
deriving DecidableEq

/-- A single byte is shown; of several only the places are named. -/
def Fault.message (f : Fault) : String :=
  let subject := match f.bytes with
    | [b] => "byte 0x" ++ String.ofList (Text.hexDigits 2 b.toNat) ++ " in position " ++ toString f.position
    | bytes => "bytes in position " ++ toString f.position ++ "-" ++
        toString (f.position + bytes.length - 1)
  "'utf-8' codec can't decode " ++ subject ++ ": " ++ f.flaw.message

/-- A character that has begun: how many bytes it still needs, the bounds of the next one, the bits
    collected, and the bytes it has. -/
structure Begun where
  owed : Nat
  low : Nat
  high : Nat
  bits : Nat
  bytes : List UInt8
deriving DecidableEq

/-- What a byte does. -/
inductive Effect where
  | completes (c : Char)
  | continues (b : Begun)
  | breaks
deriving DecidableEq

/-- A byte between characters. The bounds of the second byte keep out overlong forms, surrogates and
    numbers above U+10FFFF. -/
def start (b : UInt8) : Effect :=
  let n := b.toNat
  if n < 0x80 then .completes (Char.ofNat n)
  else if n < 0xC2 then .breaks
  else if n < 0xE0 then .continues ⟨1, 0x80, 0xBF, n - 0xC0, [b]⟩
  else if n = 0xE0 then .continues ⟨2, 0xA0, 0xBF, 0, [b]⟩
  else if n = 0xED then .continues ⟨2, 0x80, 0x9F, 0xD, [b]⟩
  else if n < 0xF0 then .continues ⟨2, 0x80, 0xBF, n - 0xE0, [b]⟩
  else if n = 0xF0 then .continues ⟨3, 0x90, 0xBF, 0, [b]⟩
  else if n < 0xF4 then .continues ⟨3, 0x80, 0xBF, n - 0xF0, [b]⟩
  else if n = 0xF4 then .continues ⟨3, 0x80, 0x8F, 4, [b]⟩
  else .breaks

/-- A byte inside a character. -/
def Begun.next (s : Begun) (b : UInt8) : Effect :=
  let n := b.toNat
  if n < s.low ∨ s.high < n then .breaks
  else
    let bits := s.bits * 64 + (n - 0x80)
    if s.owed ≤ 1 then .completes (Char.ofNat bits)
    else .continues ⟨s.owed - 1, 0x80, 0xBF, bits, s.bytes ++ [b]⟩

/-- Reads the bytes from `position` on, inside a character if one is `begun`. -/
def decodeFrom : (begun : Option Begun) → (position : Nat) → List UInt8 → Except Fault (List Char)
  | none, _, [] => .ok []
  | some s, position, [] => .error ⟨position - s.bytes.length, s.bytes, .unexpectedEnd⟩
  | none, position, b :: rest =>
    match start b with
    | .completes c => (decodeFrom none (position + 1) rest).map (c :: ·)
    | .continues s => decodeFrom (some s) (position + 1) rest
    | .breaks => .error ⟨position, [b], .startByte⟩
  | some s, position, b :: rest =>
    match s.next b with
    | .completes c => (decodeFrom none (position + 1) rest).map (c :: ·)
    | .continues s => decodeFrom (some s) (position + 1) rest
    | .breaks => .error ⟨position - s.bytes.length, s.bytes, .continuationByte⟩

/-- The characters of a byte sequence, or its first fault. -/
def decode (bytes : List UInt8) : Except Fault (List Char) := decodeFrom none 0 bytes

/-- The character written in place of bytes that are none. -/
def replacement : Char := '\uFFFD'

/-- Reads the bytes, replacing faults; a byte that breaks a character off is read anew. -/
def decodeLossyFrom : (begun : Option Begun) → List UInt8 → List Char
  | none, [] => []
  | some _, [] => [replacement]
  | none, b :: rest =>
    match start b with
    | .completes c => c :: decodeLossyFrom none rest
    | .continues s => decodeLossyFrom (some s) rest
    | .breaks => replacement :: decodeLossyFrom none rest
  | some s, b :: rest =>
    match s.next b with
    | .completes c => c :: decodeLossyFrom none rest
    | .continues s => decodeLossyFrom (some s) rest
    | .breaks =>
      replacement :: match start b with
        | .completes c => c :: decodeLossyFrom none rest
        | .continues s => decodeLossyFrom (some s) rest
        | .breaks => replacement :: decodeLossyFrom none rest

/-- The characters of a byte sequence, U+FFFD standing for the bytes of each fault. -/
def decodeLossy (bytes : List UInt8) : List Char := decodeLossyFrom none bytes

/-- The bytes of a text. -/
def encode (s : String) : List UInt8 := s.toUTF8.data.toList

end Utf8
end Taskboard
