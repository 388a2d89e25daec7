import ApiClient.Http.Url.Parse

/-!
# Fields that set cookies

A field of the plain form sets one cookie: it lists `name=value` and the attributes behind it,
separated by semicolons. A field of the later form is read word by word: it may set any number of
cookies, separated by commas, and a value may be quoted.
-/

namespace ApiClient.Cookie

open Text

/-- The name and the value of an attribute, which may have none. -/
abbrev Attribute := List Char × Option (List Char)

/-- A text without a quotation mark at either end. -/
def unquoted (s : List Char) : List Char :=
  let s := if s.head? = some '"' then s.drop 1 else s
  if s.getLast? = some '"' then s.dropLast else s

/-! ## The plain form -/

/-- The attribute in one part of a field. -/
def readAttribute (part : List Char) : Attribute :=
  let (name, value) := Url.cutAt '=' (trim part)
  (trim name, value.map trim)

/-- An attribute with its value taken out of quotation marks if it is a version. -/
def plainVersion (a : Attribute) : Attribute :=
  if Text.lower (String.ofList a.1) = "version" then (a.1, a.2.map unquoted) else a

/-- The attributes that a field lists, name and value of the cookie first. -/
def attributes (field : List Char) : List Attribute :=
  match (Host.splitOn ';' field).map readAttribute with
  | first :: rest =>
    if first.1.isEmpty then []
    else first :: (rest.filter fun a => !a.1.isEmpty).map plainVersion
  | [] => []

/-! ## The later form -/

/-- Whether `c` may stand in a value that is not quoted. -/
def isValueChar (c : Char) : Bool :=
  !isBlank c && c ≠ ';' && c ≠ ','

/-- The value up to its closing mark, with escapes resolved, and what follows the mark. A line end
is not escaped. -/
def cutQuoted? : List Char → Option (List Char × List Char)
  | [] => none
  | '\\' :: c :: rest =>
    if c = '\n' then none
    else (cutQuoted? rest).map fun (value, rest) => (c :: value, rest)
  | c :: rest =>
    if c = '"' then some ([], rest)
    else if c = '\\' then none
    else (cutQuoted? rest).map fun (value, rest) => (c :: value, rest)

/-- The value behind the equals sign that a text begins with, if it does, and what follows it. -/
def cutValue (s : List Char) : Option (List Char) × List Char :=
  match s.dropWhile isBlank with
  | '=' :: rest =>
    let rest := rest.dropWhile isBlank
    match if rest.head? = some '"' then cutQuoted? (rest.drop 1) else none with
    | some (value, rest) => (some value, rest)
    | none => (some (rest.takeWhile isValueChar), rest.dropWhile isValueChar)
  | _ => (none, s)

/-- A list of attributes, unless it is empty. -/
def nonempty (list : List Attribute) : List (List Attribute) :=
  if list.isEmpty then [] else [list]

/-- The lists of attributes in a text of at most `fuel` words and marks; the first of them begins
with `list`. -/
def readLists : Nat → List Attribute → List Char → List (List Attribute)
  | 0, list, _ => nonempty list
  | fuel + 1, list, s =>
    match s.dropWhile isBlank with
    | [] => nonempty list
    | c :: rest =>
      if c = ',' then nonempty list ++ readLists fuel [] rest
      else if c = '=' ∨ c = ';' then readLists fuel list rest
      else
        let inName := fun c => isValueChar c && c ≠ '='
        let (value, after) := cutValue (rest.dropWhile inName)
        readLists fuel (list ++ [(c :: rest.takeWhile inName, value)]) after

/-- The lists of attributes that a field has, name and value of a cookie first in each. -/
def wordLists (field : List Char) : List (List Attribute) :=
  readLists (field.length + 1) [] field

end ApiClient.Cookie
