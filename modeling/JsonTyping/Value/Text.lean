import JsonTyping.Text.Quoted
import JsonTyping.Value.Basic

/-!
# The compact text of a value

Values are written without spaces and with object entries in their order.
-/

namespace JsonTyping

namespace Value

mutual

/-- The compact text of a value. -/
def text : Value → String
  | null => "null"
  | bool b => if b then "true" else "false"
  | number n => n.text
  | string s => quoted s
  | array xs => "[" ++ ",".intercalate (itemTexts xs) ++ "]"
  | object es => "\x7b" ++ ",".intercalate (entryTexts es) ++ "\x7d"

/-- The compact texts of values. -/
def itemTexts : List Value → List String
  | [] => []
  | x :: xs => text x :: itemTexts xs

/-- The compact texts of object entries. -/
def entryTexts : List (String × Value) → List String
  | [] => []
  | (key, value) :: es => (quoted key ++ ":" ++ text value) :: entryTexts es

end

end Value

end JsonTyping
