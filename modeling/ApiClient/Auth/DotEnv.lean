import ApiClient.Auth.Environment
import ApiClient.Text.Character
import ApiClient.Text.Utf8

/-!
# Files of variables

A `.env` file sets variables: one `NAME=value` per line, values plain, in single or in double
quotes, with comments behind `#`. A part of a statement that is not understood makes the rest of
its line void, and the statement with it. Values may refer to variables of the environment and to
earlier ones of the file.
-/

namespace ApiClient.DotEnv

open Text

/-! ## Statements -/

/-- A text with every line end as a newline character. -/
def normalLines : List Char → List Char
  | '\r' :: '\n' :: rest => '\n' :: normalLines rest
  | '\r' :: rest => '\n' :: normalLines rest
  | c :: rest => c :: normalLines rest
  | [] => []

/-- The blanks within a line. -/
def isLineBlank (c : Char) : Bool :=
  isBlank c && c ≠ '\n'

/-- A text without the blanks at the front of its line. -/
def skipLineBlanks (s : List Char) : List Char :=
  s.dropWhile isLineBlank

/-- What follows the line that a text begins in. -/
def dropLine (s : List Char) : List Char :=
  (s.dropWhile (· ≠ '\n')).drop 1

/-- The outcome of reading a part: the part and what follows it, or the point where it fails. -/
abbrev Read (α : Type) := Except (List Char) (α × List Char)

/-- What follows an `export` at the front of a text. -/
def skipExport (s : List Char) : List Char :=
  let word := "export".toList
  let rest := s.drop word.length
  if word.isPrefixOf s && rest.head?.any isLineBlank then skipLineBlanks rest else s

/-- The name at the front of a statement; none in a comment. -/
def readKey (s : List Char) : Read (Option (List Char)) :=
  match s with
  | '#' :: _ => .ok (none, s)
  | '\'' :: inner =>
    let name := inner.takeWhile (· ≠ '\'')
    match inner.dropWhile (· ≠ '\'') with
    | _ :: rest => if name.isEmpty then .error s else .ok (some name, rest)
    | [] => .error s
  | _ =>
    let inName := fun c => c ≠ '=' && c ≠ '#' && !isBlank c
    if (s.takeWhile inName).isEmpty then .error s
    else .ok (some (s.takeWhile inName), s.dropWhile inName)

/-- The text before the first `mark` that is not escaped, and what follows the mark. A backslash
escapes the character behind it, which may be another backslash. -/
def cutAtMark? (mark : Char) : List Char → Option (List Char × List Char)
  | [] => none
  | '\\' :: c :: rest => (cutAtMark? mark rest).map fun (value, rest) => ('\\' :: c :: value, rest)
  | c :: rest =>
    if c = mark then some ([], rest)
    else (cutAtMark? mark rest).map fun (value, rest) => (c :: value, rest)

/-- A text with its escapes resolved: a backslash and a character that `meaning` knows. -/
def unescape (meaning : Char → Option Char) : List Char → List Char
  | '\\' :: c :: rest =>
    match meaning c with
    | some d => d :: unescape meaning rest
    | none => '\\' :: unescape meaning (c :: rest)
  | c :: rest => c :: unescape meaning rest
  | [] => []

/-- The escapes in single quotes. -/
def singleEscape (c : Char) : Option Char :=
  if c = '\\' ∨ c = '\'' then some c else none

/-- The escapes in double quotes. -/
def doubleEscape (c : Char) : Option Char :=
  [('\\', '\\'), ('\'', '\''), ('"', '"'), ('a', '\x07'), ('b', '\x08'), ('f', '\x0c'),
    ('n', '\n'), ('r', '\r'), ('t', '\t'), ('v', '\x0b')].lookup c

/-- The value in quotes whose opening mark is the first character of `s` and is followed by
`inner`. It ends at the first mark that is not escaped. -/
def readQuoted (mark : Char) (meaning : Char → Option Char) (s inner : List Char) :
    Read (List Char) :=
  match cutAtMark? mark inner with
  | some (value, rest) => .ok (unescape meaning value, rest)
  | none => .error s

/-- A plain value without its comment: what stands before the first blanks that a `#` follows. -/
def dropComment : List Char → List Char
  | [] => []
  | c :: rest =>
    if isBlank c && (rest.dropWhile isBlank).head? = some '#' then [] else c :: dropComment rest

/-- The value behind the equals sign that `s` follows. -/
def readValue (s : List Char) : Read (List Char) :=
  let value := skipLineBlanks s
  match value with
  | [] | '\n' :: _ => .ok ([], value)
  | '\'' :: inner => readQuoted '\'' singleEscape value inner
  | '"' :: inner => readQuoted '"' doubleEscape value inner
  | '#' :: _ =>
    if value.length < s.length then .ok ([], value)
    else .ok (trimEnd (dropComment (value.takeWhile (· ≠ '\n'))), value.dropWhile (· ≠ '\n'))
  | _ => .ok (trimEnd (dropComment (value.takeWhile (· ≠ '\n'))), value.dropWhile (· ≠ '\n'))

/-- The end of a statement: an optional comment and the end of the line. -/
def readEnd (s : List Char) : Read Unit :=
  let rest := match skipLineBlanks s with
    | '#' :: comment => comment.dropWhile (· ≠ '\n')
    | rest => rest
  match rest with
  | [] => .ok ((), [])
  | '\n' :: rest => .ok ((), rest)
  | _ => .error s

/-- A variable that a file names, and its value if it gives one. -/
abbrev Binding := List Char × Option (List Char)

/-- The statement that `s` begins with, blanks skipped. -/
def readStatement (s : List Char) : Except (List Char) (Option Binding × List Char) := do
  let (key, rest) ← readKey (skipExport s)
  let rest := skipLineBlanks rest
  let (value, rest) ← match rest with
    | '=' :: rest => (readValue rest).map fun (value, rest) => (some value, rest)
    | _ => .ok (none, rest)
  let (_, rest) ← readEnd rest
  return (key.map fun key => (key, value), rest)

/-- The bindings of at most `fuel` statements. -/
def readStatements : Nat → List Char → List Binding
  | 0, _ => []
  | fuel + 1, s =>
    match s.dropWhile isBlank with
    | [] => []
    | s =>
      match readStatement s with
      | .ok (some binding, rest) => binding :: readStatements fuel rest
      | .ok (none, rest) => readStatements fuel rest
      | .error rest => readStatements fuel (dropLine rest)

/-- The bindings of a text, in order. -/
def bindings (s : List Char) : List Binding :=
  readStatements (s.length + 1) s

/-! ## References -/

/-- A reference to a variable at the front of what follows a `$`: its name, the value it has by
default, and what follows it. -/
def reference? : List Char → Option (List Char × List Char × List Char)
  | '\x7b' :: inner =>
    let name := inner.takeWhile fun c => c ≠ '\x7d' && c ≠ ':'
    match inner.dropWhile fun c => c ≠ '\x7d' && c ≠ ':' with
    | '\x7d' :: rest => some (name, [], rest)
    | ':' :: '-' :: rest =>
      match rest.dropWhile (· ≠ '\x7d') with
      | _ :: after => some (name, rest.takeWhile (· ≠ '\x7d'), after)
      | [] => none
    | _ => none
  | _ => none

/-- A value with its references replaced by what `lookup` gives for name and default; at most
`fuel` characters and references of it. -/
def interpolate (lookup : List Char → List Char → List Char) : Nat → List Char → List Char
  | 0, _ => []
  | _, [] => []
  | fuel + 1, c :: rest =>
    match if c = '$' then reference? rest else none with
    | some (name, default, rest) => lookup name default ++ interpolate lookup fuel rest
    | none => c :: interpolate lookup fuel rest

/-- The variables of a file so far: a name without a value has none. -/
abbrev Values := List (String × Option String)

/-- Gives a name a value, in its place if it has one, else at the end. -/
def Values.set (name : String) (value : Option String) : Values → Values
  | [] => [(name, value)]
  | (n, v) :: rest => if n = name then (n, value) :: rest else (n, v) :: Values.set name value rest

/-- What a reference stands for: the variable of the environment, else that of the file, else the
default. -/
def resolve (env : Environment) (values : Values) (name default : List Char) : List Char :=
  match env.get? (String.ofList name) with
  | some value => value.toList
  | none =>
    match List.lookup (String.ofList name) values with
    | some value => (value.getD "").toList
    | none => default

/-- The variables of bindings, references resolved in order. -/
def evaluate (env : Environment) (bindings : List Binding) : Values :=
  bindings.foldl (fun values (key, value) =>
    values.set (String.ofList key)
      (value.map fun value =>
        String.ofList (interpolate (resolve env values) value.length value))) []

/-! ## Loading -/

/-- Sets variables that are not set, in order, up to the first that is refused. -/
def fill (env : Environment) : Values → Environment × Option Fault
  | [] => (env, none)
  | (_, none) :: rest => fill env rest
  | (name, some value) :: rest =>
    if (env.get? name).isSome then fill env rest
    else
      match env.set name value with
      | .ok env => fill env rest
      | .error f => (env, some f)

/-- The text of a file, without a byte order mark. -/
def text (content : List UInt8) : Except Fault (List Char) :=
  match Utf8.decode content with
  | .ok ('\uFEFF' :: rest) => .ok (normalLines rest)
  | .ok chars => .ok (normalLines chars)
  | .error e => .error (.decode e)

/-- The environment after loading a file with the given content, and the failure if there is
one. -/
def load (env : Environment) (content : List UInt8) : Environment × Option Fault :=
  match text content with
  | .ok chars => fill env (evaluate env (bindings chars))
  | .error f => (env, some f)

/-- The variable that turns the loading of files off. -/
def switchName : String := "PYTHON_DOTENV_DISABLED"

/-- The form of a character that letters of either case, and the long s, have in common. -/
def foldCase (c : Char) : Char :=
  if c = 'ſ' then 's' else c.toLower

/-- Whether the loading of files is turned off. -/
def isDisabled (env : Environment) : Bool :=
  match env.get? switchName with
  | some value =>
    ["1", "true", "t", "yes", "y"].contains (String.ofList (value.toList.map foldCase))
  | none => false

end ApiClient.DotEnv
