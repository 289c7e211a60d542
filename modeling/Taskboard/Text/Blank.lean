/-! Sets of code points given by ranges, and one of them: the blank characters, with cutting them from
    the ends of a text.

    There are two sets of blanks. `isWhiteSpace` is the Unicode property White_Space; `isBlank` has the
    four information separators U+001C to U+001F besides. -/

namespace Taskboard
namespace Text

/-- Whether `n` lies in one of the ranges, the ends included. -/
def inRanges (ranges : List (Nat × Nat)) (n : Nat) : Bool :=
  ranges.any fun r => r.1 ≤ n && n ≤ r.2

theorem inRanges_iff {ranges : List (Nat × Nat)} {n : Nat} :
    inRanges ranges n = true ↔ ∃ r ∈ ranges, r.1 ≤ n ∧ n ≤ r.2 := by
  simp [inRanges]

/-- The ranges of code points, ends included, that have the property White_Space. -/
def whiteSpaceRanges : List (Nat × Nat) :=
  [(0x09, 0x0D), (0x20, 0x20), (0x85, 0x85), (0xA0, 0xA0), (0x1680, 0x1680), (0x2000, 0x200A),
   (0x2028, 0x2029), (0x202F, 0x202F), (0x205F, 0x205F), (0x3000, 0x3000)]

/-- White space in the sense of Unicode. -/
def isWhiteSpace (c : Char) : Bool := inRanges whiteSpaceRanges c.toNat

/-- White space and the information separators. -/
def isBlank (c : Char) : Bool := isWhiteSpace c || inRanges [(0x1C, 0x1F)] c.toNat

/-- The text without the characters of `p` at its end. -/
def trimEnd (p : Char → Bool) (s : List Char) : List Char := (s.reverse.dropWhile p).reverse

/-- The text without the characters of `p` at its two ends. -/
def trim (p : Char → Bool) (s : List Char) : List Char := trimEnd p (s.dropWhile p)

@[simp] theorem trim_nil (p : Char → Bool) : trim p [] = [] := rfl

end Text
end Taskboard
