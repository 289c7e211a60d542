import Taskboard.Number.Binary64

/-! JSON values. A number written without fraction and exponent is a whole number of any size; any
    other is a binary64 value. An object keeps its members in the order they are written. -/

namespace Taskboard
namespace Json

inductive Value where
  | null
  | bool (b : Bool)
  | int (n : Int)
  | float (x : Binary64)
  | string (s : String)
  | array (items : List Value)
  | object (members : List (String × Value))

/-- The value under a key: of several members with that key the last one counts. -/
def lookup (key : String) (members : List (String × Value)) : Option Value :=
  (members.reverse.find? (·.1 = key)).map (·.2)

end Json
end Taskboard
