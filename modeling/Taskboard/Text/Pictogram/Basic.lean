import Taskboard.Text.Blank
import Taskboard.Text.Digit
import Taskboard.Text.Pictogram.Names

/-! Pictograms that are written by name, between colons.

    A name is in the table `names`, or belongs to the flag of a region, to a regional indicator or to a
    pictogram with a skin tone. Capitals do not matter. Behind the name `-text` or `-emoji` may ask for
    one of the two styles. A name that stands for nothing stays as it is written. -/

namespace Taskboard
namespace Text
namespace Pictogram

/-! ### Names -/

/-- The words of each line of a table. -/
def lines (table : String) : List (List (List Char)) :=
  (table.toList.splitOn '\n').map fun line => (line.splitOn ' ').filter (· ≠ [])

/-- The word that the line of a name begins with. -/
def headOf? (table : String) (name : List Char) : Option (List Char) :=
  (lines table).findSome? fun
    | head :: names => if names.contains name then some head else none
    | [] => none

/-- The characters whose code points a word gives. -/
def characters (word : List Char) : List Char :=
  (word.splitOn '-').map fun digits =>
    Char.ofNat (digits.foldl (fun n d => n * 16 + (hexDigit? d).getD 0) 0)

/-- What a text has behind its beginning `start`. -/
def behind? (start s : List Char) : Option (List Char) :=
  if start.isPrefixOf s then some (s.drop start.length) else none

/-- What a text has before its end `last`. -/
def before? (last s : List Char) : Option (List Char) :=
  if last.isSuffixOf s then some (s.take (s.length - last.length)) else none

/-- The regional indicator of a capital letter. -/
def indicator (c : Char) : Char := Char.ofNat (c.toNat - 'A'.toNat + 0x1F1E6)

/-- The flag of a region: the indicators of its two letters. -/
def flag? (name : List Char) : Option (List Char) :=
  (headOf? regions ((behind? "flag_for_".toList name).getD name)).map (·.map indicator)

/-- A regional indicator by its letter. -/
def letter? (name : List Char) : Option (List Char) :=
  match behind? "regional_indicator_".toList name with
  | some [c] => if 'a' ≤ c ∧ c ≤ 'z' then some [indicator c.toUpper] else none
  | _ => none

/-- The skin tones. -/
def tones : List (String × Char) :=
  [("_light_skin_tone", Char.ofNat 0x1F3FB), ("_medium-light_skin_tone", Char.ofNat 0x1F3FC),
   ("_medium_skin_tone", Char.ofNat 0x1F3FD), ("_medium-dark_skin_tone", Char.ofNat 0x1F3FE),
   ("_dark_skin_tone", Char.ofNat 0x1F3FF)]

/-- The mark of a pictogram in colour. -/
def colourStyle : Char := '\uFE0F'

/-- The mark of a pictogram in the style of a letter. -/
def textStyle : Char := '\uFE0E'

/-- A pictogram of the table `names`. -/
def listed? (name : List Char) : Option (List Char) := (headOf? names name).map characters

/-- A pictogram with a skin tone, which stands behind its first character in place of a style. -/
def withTone? (name : List Char) : Option (List Char) :=
  tones.findSome? fun (tone, mark) =>
    match before? tone.toList name with
    | some base =>
      if (lines toned).flatten.contains base then
        match listed? base with
        | some (c :: rest) => some (c :: mark :: rest.dropWhile (· = colourStyle))
        | _ => none
      else none
    | none => none

/-- The pictogram of a name in small letters. -/
def ofName? (name : List Char) : Option (List Char) :=
  (listed? name).or ((flag? name).or ((letter? name).or (withTone? name)))

/-! ### In a text -/

/-- A name without the style that it asks for, and the mark of that style. -/
def styled (name : List Char) : List Char × List Char :=
  match before? "-text".toList name, before? "-emoji".toList name with
  | some base, _ => (base, [textStyle])
  | none, some base => (base, [colourStyle])
  | none, none => (name, [])

/-- What stands for a name between its colons. -/
def shown (name : List Char) : List Char :=
  let (base, style) := styled name
  match ofName? (base.map small) with
  | some pictogram => pictogram ++ style
  | none => ':' :: (name ++ [':'])

/-- Puts the stretches of a text between its colons together again, those that are names replaced. A name
    has no blank in it and takes both colons. -/
def join : List (List Char) → List Char
  | [] => []
  | [s] => s
  | [s, t] => s ++ ':' :: t
  | s :: name :: t :: rest =>
    if name.any isBlank then s ++ ':' :: join (name :: t :: rest)
    else s ++ (shown name ++ join (t :: rest))

/-- A text with the pictograms in place of their names. -/
def replace (s : List Char) : List Char := join (s.splitOn ':')

end Pictogram
end Text
end Taskboard
