import Taskboard.Text.Pictogram.Basic

/-! What a terminal that knows markup shows of a message.

    A message is a text of its own and has no markup, so that what looks like a tag is shown. Names of
    pictograms are replaced nevertheless, within a tag or between tags, and a backslash before a bracket
    that opens no tag is taken for its protection and vanishes. -/

namespace Taskboard
namespace Text
namespace Markup

/-- The characters that the inside of a tag begins with. -/
def opensTag (c : Char) : Bool := ('a' ≤ c && c ≤ 'z') || c = '#' || c = '/' || c = '@'

/-- Whether a text begins with a tag: brackets around a text that begins as one and has no other bracket
    of the opening kind. -/
def beginsWithTag : List Char → Bool
  | '[' :: c :: s => opensTag c && (s.find? fun d => d = '[' || d = ']') = some ']'
  | _ => false

/-- Puts a character before the first of some texts. -/
def cons (c : Char) : List (List Char) → List (List Char)
  | [] => [[c]]
  | s :: ss => (c :: s) :: ss

/-- Cuts a text before each tag and behind it; `inTag` says whether it begins inside of one. -/
def cut : (inTag : Bool) → List Char → List (List Char)
  | _, [] => [[]]
  | true, c :: s => if c = ']' then [c] :: cut false s else cons c (cut true s)
  | false, c :: s =>
    if beginsWithTag (c :: s) then [] :: cons c (cut true s) else cons c (cut false s)

/-- A text without the backslashes right before a bracket. -/
def dropProtection : List Char → List Char
  | '\\' :: '[' :: s => '[' :: dropProtection s
  | c :: s => c :: dropProtection s
  | [] => []

/-- What is shown of a message. -/
def display (s : List Char) : List Char :=
  (cut false s).flatMap fun piece => Pictogram.replace (dropProtection piece)

end Markup
end Text
end Taskboard
