import Taskboard.Number.Numeral

/-! Numbers with a fraction, as binary64 keeps them: a sign and 53 bits at an exponent of two, or an
    infinity, or no number at all.

    `ofDecimal` rounds a decimal to the nearest of them, a tie to the even one. -/

namespace Taskboard

/-- A binary64 value; a finite one is `mantissa · 2 ^ exponent`, negated if `negative`. -/
inductive Binary64 where
  | nan
  | infinite (negative : Bool)
  | finite (negative : Bool) (mantissa : Nat) (exponent : Int)
deriving DecidableEq

namespace Binary64

/-- A power of two; one where the exponent is negative. -/
def pow2 (exponent : Int) : Nat := Nat.pow 2 exponent.toNat

/-- A power of ten; one where the exponent is negative. -/
def pow10 (exponent : Int) : Nat := Nat.pow 10 exponent.toNat

/-- The quotient rounded to the nearest whole number, a tie to the even one. -/
def roundDiv (num den : Nat) : Nat :=
  let q := num / den
  let r := 2 * (num % den)
  if den < r ∨ (r = den ∧ q % 2 = 1) then q + 1 else q

/-- The greatest `e` with `2 ^ e ≤ num / den`, for positive numbers. -/
def log2Ratio (num den : Nat) : Int :=
  let e : Int := (Nat.log2 num : Int) - Nat.log2 den
  if num * pow2 (-e) < den * pow2 e then e - 1 else e

/-- The positive number `num / den`, rounded: the last of the 53 bits is at `2 ^ exponent`, but never
    below `2 ^ -1074`. -/
def ofRatio (negative : Bool) (num den : Nat) : Binary64 :=
  let exponent := max (-1074) (log2Ratio num den - 52)
  let mantissa := roundDiv (num * pow2 (-exponent)) (den * pow2 exponent)
  if 971 < exponent ∨ (exponent = 971 ∧ pow2 53 ≤ mantissa) then .infinite negative
  else .finite negative mantissa exponent

/-- The number `digits · 10 ^ scale`, rounded. What is beyond 10 ^ 310 or below 10 ^ -330 is settled by
    its size alone. -/
def ofDecimal (negative : Bool) (digits : Nat) (scale : Int) : Binary64 :=
  let count : Int := (Numeral.decimal digits).length
  if digits = 0 ∨ count + scale < -330 then .finite negative 0 0
  else if 310 < count + scale then .infinite negative
  else ofRatio negative (digits * pow10 scale) (pow10 (-scale))

/-- Why a value is not read as a whole number. -/
inductive Fault where
  | notFinite
  | fraction
  | size
deriving DecidableEq

/-- The whole number that a value is, if it lies strictly between -2^63 and 2^63. -/
def toInt : Binary64 → Except Fault Int
  | .nan | .infinite _ => .error .notFinite
  | .finite negative mantissa exponent =>
    let den := pow2 (-exponent)
    let whole := mantissa * pow2 exponent / den
    if mantissa % den ≠ 0 then .error .fraction
    else if pow2 63 ≤ whole then .error .size
    else .ok (if negative then -(whole : Int) else whole)

/-- All decimals of a value, with at least one behind the point. -/
def toText : Binary64 → List Char
  | .nan => "NaN".toList
  | .infinite negative => sign negative ++ "Infinity".toList
  | .finite negative mantissa exponent =>
    let places := max 1 (-exponent).toNat
    let scaled := mantissa * pow2 exponent * pow10 places / pow2 (-exponent)
    sign negative ++ Numeral.decimal (scaled / pow10 places) ++
      '.' :: Numeral.padded.fill places (Numeral.decimal (scaled % pow10 places))
where
  sign (negative : Bool) : List Char := if negative then ['-'] else []

end Binary64
end Taskboard
