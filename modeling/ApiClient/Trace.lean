import ApiClient.Http.Response
import ApiClient.Log

/-!
# Tracing

Requests and responses are written in full to the logger `trace` below the logger of a client, at
a level of their own. Values that are secret are not shown. A body that cannot be read is left out,
with a warning on the logger of the client.
-/

namespace ApiClient

/-! ## Header fields -/

/-- The rows of one name, in any spelling. -/
structure HeaderGroup where
  /-- The name in lower case. -/
  key : String
  /-- The name as first spelled. -/
  name : String
  /-- The values, in order. -/
  values : List String
  deriving DecidableEq, Repr

namespace HeaderGroup

/-- Adds a value to the group of its name, or a new group at the end. -/
def add (name value : String) : List HeaderGroup → List HeaderGroup
  | [] => [{ key := Text.lower name, name, values := [value] }]
  | g :: rest =>
    if g.key = Text.lower name then { g with values := g.values ++ [value] } :: rest
    else g :: add name value rest

/-- The entry of a group: a single value in quotes, or several in order and in brackets. -/
def entry (g : HeaderGroup) : String :=
  let sorted := g.values.mergeSort fun v w => v ≤ w
  let values := ", ".intercalate (sorted.map fun v => "'" ++ v ++ "'")
  g.name ++ ": " ++ if 1 < g.values.length then "[" ++ values ++ "]" else values

end HeaderGroup

namespace Headers

/-- What is shown for a secret value. -/
def redactedValue : String := "REDACTED"

/-- The fields with the value of `name`, if there is one, not shown. -/
def redact (h : Headers) (name : String) : Except Text.EncodeError Headers := do
  if h.hasKey (← h.lookupKey name) then h.settle.set name redactedValue else return h.settle

/-- The fields by their names, in the order of first appearance. -/
def groups (h : Headers) : List HeaderGroup :=
  h.rows.foldl (fun groups r =>
    HeaderGroup.add (String.ofList (h.charset.decode r.name))
      (String.ofList (h.charset.decode r.value)) groups) []

/-- The text of the fields: the entries of all names, in order. -/
def render (h : Headers) : String :=
  ", ".intercalate ((h.groups.map HeaderGroup.entry).mergeSort fun v w => v ≤ w)

end Headers

/-! ## Messages -/

/-- The name of the logger below that of a client. -/
def traceName : String := "trace"

/-- What is told of a fault of a body that is merely unreadable, or the fault that goes through: any
other one, or that of asking for its wording. -/
def Fault.unreadable (f : Fault) : Except Fault String :=
  if f.meansUnreadable then f.wording else .error f

/-- A body as it is logged: nothing for an empty one, and nothing but a warning for one that cannot
be read. -/
def loggedBody (levels : Levels) (logger : String) :
    Except Fault (List UInt8) → List LogRecord × Except Fault (Option String)
  | .ok [] => ([], .ok none)
  | .ok bytes => ([], .ok (some (String.ofList (Text.Utf8.decodeLenient bytes))))
  | .error f =>
    match f.unreadable with
    | .ok text =>
      (levels.record logger warningLevel
        ("Error while preparing to log body, not logging it: " ++ text), .ok none)
    | .error f => ([], .error f)

/-- What logging a message does. -/
structure Traced (μ : Type) where
  /-- The message afterwards. -/
  message : μ
  /-- The records written, in order. -/
  records : List LogRecord
  /-- Why the message is not logged, if it is not. -/
  failure : Option Fault
  deriving DecidableEq, Repr

/-- Logs a message that `content` was read from, unless it fails, in the record that `record` makes
of its header fields without the values of `secret` and of its body. -/
def traceMessage {μ : Type} (levels : Levels) (logger secret : String) (headers : Headers)
    (message : μ) (content : Except Fault (List UInt8))
    (record : String → Option String → LogRecord) : Traced μ :=
  match headers.redact secret with
  | .error e => { message, records := [], failure := some (.encode e) }
  | .ok shown =>
    match loggedBody levels logger content with
    | (warnings, .error f) => { message, records := warnings, failure := some f }
    | (warnings, .ok body) =>
      { message, records := warnings ++ [record shown.render body], failure := none }

/-- The end of a message about a body. -/
def bodyCaption : Option String → String
  | some body => " body=" ++ body
  | none => ""

/-- The part of a message about a request that names it. -/
def Request.caption (r : Request) : String :=
  " url=" ++ r.url.text ++ " method=" ++ r.method

/-- The record of a request. -/
def Request.record (logger : String) (r : Request) (headers : String) (body : Option String) :
    LogRecord where
  logger
  level := traceLevel
  message :=
    "Sending request to Engine" ++ r.caption ++ " headers=" ++ headers ++ bodyCaption body
  fields := some {
    url := some r.url.text
    method := some r.method
    status := none
    headers
    body }

/-- The record of a response, to a request if it is known. -/
def Response.record (logger : String) (request : Option Request) (r : Response)
    (headers : String) (body : Option String) : LogRecord where
  logger
  level := traceLevel
  message :=
    "Received response from Engine statusCode=" ++ toString r.status ++ " headers=" ++ headers
      ++ ((request.map Request.caption).getD "") ++ bodyCaption body
  fields := some {
    url := request.map fun q => q.url.text
    method := request.map fun q => q.method
    status := some r.status
    headers
    body }

/-- Logs a request. -/
def Request.trace (levels : Levels) (logger : String) (r : Request) : Traced Request :=
  let child := Levels.child logger traceName
  if levels.childKeeps logger traceName traceLevel then
    let (content, read) := { r with headers := r.headers.settle }.read .async
    traceMessage levels logger "Authorization" r.headers read content (r.record child)
  else { message := r, records := [], failure := none }

/-- Logs a response, to a request if it is known. -/
def Response.trace (levels : Levels) (logger : String) (request : Option Request)
    (r : Response) : Traced Response :=
  let child := Levels.child logger traceName
  if levels.childKeeps logger traceName traceLevel then
    let (content, read) := { r with headers := r.headers.settle }.read
    traceMessage levels logger "Set-Cookie" r.headers read content
      (Response.record child request r)
  else { message := r, records := [], failure := none }

end ApiClient
