import ApiClient.Json.Basic
import ApiClient.Text.Quoted

/-!
# JSON values in messages

How a value is shown inside a message: texts quoted, constants as `None`, `True` and `False`, items
and fields separated by a comma and a space.
-/

namespace ApiClient.Json

mutual

/-- The literal of a value. -/
def literal : Json → String
  | null => "None"
  | bool b => if b then "True" else "False"
  | int n => toString n
  | float x => x.text
  | str s => Text.quoted s
  | arr items => "[" ++ ", ".intercalate (literalItems items) ++ "]"
  | obj fields => "\x7b" ++ ", ".intercalate (literalFields fields) ++ "\x7d"

/-- The literals of the items of an array. -/
def literalItems : List Json → List String
  | [] => []
  | v :: rest => literal v :: literalItems rest

/-- The literals of the fields of an object. -/
def literalFields : List (String × Json) → List String
  | [] => []
  | (name, v) :: rest => (Text.quoted name ++ ": " ++ literal v) :: literalFields rest

end

/-- The text of a value on its own: its literal, but a text as it is. -/
def display : Json → String
  | str s => s
  | v => v.literal

end ApiClient.Json
