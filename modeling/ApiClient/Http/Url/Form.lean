import ApiClient.Http.Percent
import ApiClient.Json.Literal

/-!
# Query parameters

Parameters of a request as the query of its address: `name=value` pairs joined by `&`, a blank
written as `+` and all but the unreserved characters escaped. A list gives one pair per item.
-/

namespace ApiClient.Form

/-- A character in a form: a blank as `+`, the unreserved ones as they are, all others escaped. -/
def encodeChar (c : Char) : List Char :=
  if c = ' ' then ['+'] else Percent.escapeChar (fun _ => false) c

/-- A text in a form. -/
def encodeText (s : String) : List Char :=
  s.toList.flatMap encodeChar

/-- The text of a single value: truth values in lower case, and nothing for null. -/
def valueText : Json → String
  | .bool true => "true"
  | .bool false => "false"
  | .null => ""
  | v => v.display

/-- The pairs that a parameter gives. -/
def pairs : String × Json → List (String × String)
  | (name, .arr items) => items.map fun v => (name, valueText v)
  | (name, v) => [(name, valueText v)]

/-- Pairs as a form. -/
def encodePairs : List (String × String) → List Char
  | [] => []
  | [(name, value)] => encodeText name ++ '=' :: encodeText value
  | (name, value) :: p :: rest =>
    encodeText name ++ '=' :: encodeText value ++ '&' :: encodePairs (p :: rest)

/-- The query of parameters; none if there are no parameters at all. -/
def query (params : List (String × Json)) : Option (List Char) :=
  if params.isEmpty then none else some (encodePairs (params.flatMap pairs))

end ApiClient.Form
