import ApiClient.Number.Binary64

/-!
# JSON values

The values that bodies carry. An object keeps the order of its fields, and its names are distinct
when it comes from a text.
-/

namespace ApiClient

/-- A JSON value. Numbers with a fraction or an exponent are floating point numbers. -/
inductive Json
  | null
  | bool (b : Bool)
  | int (n : Int)
  | float (x : Binary64)
  | str (s : String)
  | arr (items : List Json)
  | obj (fields : List (String × Json))
  deriving Inhabited, Repr

namespace Json

/-- The value of the field `name`. -/
def field? (fields : List (String × Json)) (name : String) : Option Json :=
  fields.lookup name

/-- `fields` with the value of `name` replaced in its place, or put at the end. -/
def setField (fields : List (String × Json)) (name : String) (value : Json) :
    List (String × Json) :=
  match fields with
  | [] => [(name, value)]
  | (key, old) :: rest =>
    if key = name then (name, value) :: rest else (key, old) :: setField rest name value

/-- Whether the value says something: null, false, zeros and empty texts, arrays and objects do
not. -/
def isTruthy : Json → Bool
  | null => false
  | bool b => b
  | int n => n ≠ 0
  | float x => !x.isZero
  | str s => s ≠ ""
  | arr items => !items.isEmpty
  | obj fields => !fields.isEmpty

/-- The word for the kind of a value. -/
def kindName : Json → String
  | null => "NoneType"
  | bool _ => "bool"
  | int _ => "int"
  | float _ => "float"
  | str _ => "str"
  | arr _ => "list"
  | obj _ => "dict"

/-- The integer that a truth value or integer counts as. -/
def toInt? : Json → Option Int
  | bool b => some (if b then 1 else 0)
  | int n => some n
  | _ => none

mutual

/-- How deep the arrays and objects of a value are nested. -/
def depth : Json → Nat
  | arr items => itemsDepth items + 1
  | obj fields => fieldsDepth fields + 1
  | _ => 0

/-- How deep the items of an array are nested. -/
def itemsDepth : List Json → Nat
  | [] => 0
  | v :: rest => max (depth v) (itemsDepth rest)

/-- How deep the fields of an object are nested. -/
def fieldsDepth : List (String × Json) → Nat
  | [] => 0
  | (_, v) :: rest => max (depth v) (fieldsDepth rest)

end

mutual

/-- Whether two values are equal: numbers and truth values by their numeric value, objects whatever
the order of their fields. -/
def equal : Json → Json → Bool
  | null, null => true
  | str s, str t => s = t
  | arr xs, arr ys => equalItems xs ys
  | obj fs, obj gs => fs.length = gs.length && equalFields fs gs
  | float x, float y => x.equal y
  | float x, v => (v.toInt?.map x.equalsInt).getD false
  | v, float x => (v.toInt?.map x.equalsInt).getD false
  | v, w => match v.toInt?, w.toInt? with
    | some m, some n => m = n
    | _, _ => false

/-- Whether two arrays are equal item by item. -/
def equalItems : List Json → List Json → Bool
  | [], [] => true
  | x :: xs, y :: ys => equal x y && equalItems xs ys
  | _, _ => false

/-- Whether every field has an equal one of the same name in `others`. -/
def equalFields : List (String × Json) → List (String × Json) → Bool
  | [], _ => true
  | (name, x) :: rest, others =>
    (match others.lookup name with
      | some y => equal x y
      | none => false) && equalFields rest others

end

end Json

end ApiClient
