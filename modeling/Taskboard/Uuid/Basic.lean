import Taskboard.Text.Digit

/-! Universally unique identifiers, and the one text in which they are shown: thirty-two lower-case
    hexadecimal digits in groups of eight, four, four, four and twelve. -/

namespace Taskboard

/-- A number of 128 bits. -/
structure Uuid where
  toNat : Nat
  isLt : toNat < Nat.pow 2 128
deriving DecidableEq

namespace Uuid

theorem ext {u v : Uuid} (h : u.toNat = v.toNat) : u = v := by
  cases u; cases v; simp_all

/-- The identifier of a number that has at most 128 bits. -/
def ofNat? (n : Nat) : Option Uuid := if h : n < Nat.pow 2 128 then some ⟨n, h⟩ else none

instance : Inhabited Uuid := ⟨⟨0, by decide⟩⟩

/-- The digits of an identifier. -/
def digits (u : Uuid) : List Char := Text.hexDigits 32 u.toNat

/-- How many digits each group has. -/
def groups : List Nat := [8, 4, 4, 4, 12]

/-- Digits with hyphens between groups of the given sizes. -/
def hyphenate : List Nat → List Char → List Char
  | [], ds => ds
  | [_], ds => ds
  | n :: n' :: ns, ds => ds.take n ++ '-' :: hyphenate (n' :: ns) (ds.drop n)

/-- The text of an identifier. -/
def text (u : Uuid) : String := String.ofList (hyphenate groups u.digits)

end Uuid
end Taskboard
