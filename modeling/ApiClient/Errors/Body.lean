import ApiClient.Fault
import ApiClient.Json.Literal

/-!
# Error bodies

The body of a failure response: an object with a member `error` that has a code, a message and
messages for single fields, and a member `debug` that names a place in the server. Members that are
absent or say nothing have default values.
-/

namespace ApiClient

/-- What an error body says. -/
structure ErrorBody where
  /-- The code. -/
  code : Int := 0
  /-- The message. -/
  message : String := ""
  /-- The messages for single fields. -/
  validation : List (String × String) := []
  /-- The place in the server. -/
  debugSource : String := ""
  deriving DecidableEq, Repr

namespace ErrorBody

/-- The value of a member, unless it is absent or says nothing. -/
def member? (fields : List (String × Json)) (name : String) : Option Json :=
  (Json.field? fields name).filter Json.isTruthy

/-- The fields of a value that has to be an object; none for a member that says nothing. -/
def object? : Option Json → Option (List (String × Json))
  | none => some []
  | some (.obj fields) => some fields
  | some _ => none

/-- The messages of fields that have to be texts. -/
def texts? : List (String × Json) → Option (List (String × String))
  | [] => some []
  | (name, .str text) :: rest => (texts? rest).map ((name, text) :: ·)
  | _ :: _ => none

/-- The integer that a code counts as: numbers lose their fraction, texts are read. -/
def integer : Json → Except Fault Int
  | .bool b => .ok (if b then 1 else 0)
  | .int n => .ok n
  | .float (.finite negative mantissa exponent) =>
    let n : Int := Binary64.wholePart mantissa exponent
    .ok (if negative then -n else n)
  | .float (.infinite _) => .error (.number .infinite)
  | .float .nan => .error (.number .nan)
  | .str s => (Integer.read s).mapError .integer
  | v => .error (.number (.kind v.kindName))

/-- The error body that a value is. -/
def ofJson (v : Json) : Except Fault ErrorBody := do
  let fields ← match v with
    | .null => pure []
    | .obj fields => pure fields
    | v => throw (.shape (.notAnObject v.kindName))
  let (some error, some debug) :=
      (object? (member? fields "error"), object? (member? fields "debug"))
    | throw (.shape .members)
  let some validation := (object? (member? error "validation")).bind texts?
    | throw (.shape .validation)
  let code ← match member? error "code" with
    | some code => integer code
    | none => pure 0
  return {
    code
    message := ((member? error "message").map Json.display).getD ""
    validation
    debugSource := ((member? debug "source").map Json.display).getD "" }

variable [Platform]

/-- The error body in bytes. -/
def ofBytes (body : List UInt8) : Except Fault ErrorBody :=
  match Json.readBytes body with
  | .ok v => ofJson v
  | .error e => .error (.ofJsonBytes e)

/-- The error body in a text. -/
def ofText (body : String) : Except Fault ErrorBody :=
  match Json.readText body with
  | .ok v => ofJson v
  | .error e => .error (.ofJsonText e)

end ErrorBody

end ApiClient
