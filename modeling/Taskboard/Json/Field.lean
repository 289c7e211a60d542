import Taskboard.Issue
import Taskboard.Json.Value
import Taskboard.Number.Lenient

/-! Checking JSON values against what a field is to hold. -/

namespace Taskboard
namespace Json

/-- The members of an object. -/
def Value.members : Value → Checked (List (String × Value))
  | .object members => .ok members
  | _ => .fail .notObject

/-- The items of an array. -/
def Value.items : Value → Checked (List Value)
  | .array items => .ok items
  | _ => .fail .notList

/-- A text, as it is. -/
def Value.asString : Value → Checked String
  | .string s => .ok s
  | _ => .fail .notString

/-- The whole number that a text denotes. -/
def intOfText (s : String) : Checked Int :=
  match Lenient.read s.toList with
  | .ok n => .ok n
  | .error .shape => .fail .intText
  | .error .size => .fail .intSize

/-- A number that is not negative. -/
def natOfInt : Int → Checked Nat
  | .ofNat n => .ok n
  | .negSucc _ => .fail .tooSmall

/-- A whole number, or what stands for one: a truth value for one or nought, a number whose fraction is
    nought, or a text. -/
def Value.asInt : Value → Checked Int
  | .int n => .ok n
  | .bool b => .ok (if b then 1 else 0)
  | .float x => match x.toInt with
    | .ok n => .ok n
    | .error .notFinite => .fail .notFinite
    | .error .fraction => .fail .fractional
    | .error .size => .fail .intSize
  | .string s => intOfText s
  | .null | .array _ | .object _ => .fail .notInt

/-- A whole number that is not negative. -/
def Value.asNat (v : Value) : Checked Nat := v.asInt.bind natOfInt

/-- The check of the value under a key that has to be there. -/
def field {α : Type} (members : List (String × Value)) (key : String) (check : Value → Checked α) :
    Checked α :=
  match lookup key members with
  | some v => (check v).under (.field key)
  | none => Checked.under (.field key) (.fail .missing)

/-- The check of the value under a key, or a value to take where the key is missing. -/
def fieldOr {α : Type} (absent : α) (members : List (String × Value)) (key : String)
    (check : Value → Checked α) : Checked α :=
  match lookup key members with
  | some v => (check v).under (.field key)
  | none => .ok absent

/-- The key that a field is looked up under: its public name, unless only the other one is there. -/
def keyOf (members : List (String × Value)) (name other : String) : String :=
  if (lookup name members).isNone && (lookup other members).isSome then other else name

end Json
end Taskboard
