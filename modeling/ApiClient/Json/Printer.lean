import ApiClient.Json.Basic
import ApiClient.Text.Character

/-!
# Writing JSON

The compact text of a value: no blanks, and no escapes but those that JSON demands. Numbers that
are infinite or none at all have no JSON text.
-/

namespace ApiClient.Json

/-- How `c` is written in a string. -/
def escapeChar (c : Char) : List Char :=
  if c = '"' then ['\\', '"']
  else if c = '\\' then ['\\', '\\']
  else if c = '\n' then ['\\', 'n']
  else if c = '\r' then ['\\', 'r']
  else if c = '\t' then ['\\', 't']
  else if c = '\x0c' then ['\\', 'f']
  else if c = '\x08' then ['\\', 'b']
  else if c.toNat < 0x20 then '\\' :: 'u' :: Text.hexPadded 4 c.toNat
  else [c]

/-- The JSON text of a string. -/
def printString (s : String) : List Char :=
  '"' :: s.toList.flatMap escapeChar ++ ['"']

mutual

/-- The JSON text of a value, if it has one. -/
def print? : Json → Option (List Char)
  | null => some "null".toList
  | bool b => some (if b then "true".toList else "false".toList)
  | int n => some (toString n).toList
  | float x => match x with
    | .finite .. => some x.text.toList
    | _ => none
  | str s => some (printString s)
  | arr items => do return '[' :: (← printItems? items) ++ [']']
  | obj fields => do return '\x7b' :: (← printFields? fields) ++ ['\x7d']

/-- The texts of the items of an array, separated by commas. -/
def printItems? : List Json → Option (List Char)
  | [] => some []
  | [v] => v.print?
  | v :: w :: rest => do return (← v.print?) ++ ',' :: (← printItems? (w :: rest))

/-- The texts of the fields of an object, separated by commas. -/
def printFields? : List (String × Json) → Option (List Char)
  | [] => some []
  | [(name, v)] => do return printString name ++ ':' :: (← v.print?)
  | (name, v) :: f :: rest => do
    return printString name ++ ':' :: (← v.print?) ++ ',' :: (← printFields? (f :: rest))

end

end ApiClient.Json
