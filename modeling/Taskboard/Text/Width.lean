/-! The width of a text on the board: the number of its UTF-16 code units, so that a character outside
    the Basic Multilingual Plane counts twice. -/

namespace Taskboard
namespace Text

/-- The number of UTF-16 code units of a character. -/
def units (c : Char) : Nat := if c.toNat < 0x10000 then 1 else 2

/-- The number of UTF-16 code units of a text. -/
def width (s : String) : Nat := widthOf s.toList
where
  widthOf : List Char → Nat
    | [] => 0
    | c :: cs => units c + widthOf cs

theorem widthOf_append (s t : List Char) :
    width.widthOf (s ++ t) = width.widthOf s + width.widthOf t := by
  induction s with
  | nil => simp [width.widthOf]
  | cons c cs ih => simp [width.widthOf, ih, Nat.add_assoc]

@[simp] theorem width_append (s t : String) : width (s ++ t) = width s + width t := by
  simp [width, widthOf_append]

end Text
end Taskboard
