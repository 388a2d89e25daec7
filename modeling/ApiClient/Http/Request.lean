import ApiClient.Fault
import ApiClient.Http.Headers
import ApiClient.Http.Url.Form
import ApiClient.Http.Url.Parse

/-!
# Requests

A request is a method, an address, header fields and a body. Making one adds the fields that its
body and address call for, unless they are given: length, kind of content or transfer, and host.
-/

namespace ApiClient

/-- What a message is given as its body. -/
inductive Content
  /-- No body. -/
  | none
  /-- Bytes. -/
  | bytes (content : List UInt8)
  /-- A JSON value, of which null is no body. -/
  | json (value : Json)
  /-- A stream of chunks, and the failure behind them if there is one. -/
  | chunks (mode : StreamMode) (parts : List (List UInt8)) (failure : Option Outside)

/-- The body of a content, and the header fields that describe it. -/
def Content.encode : Content → Except Fault (Body × List HeaderRow)
  | none | json .null => .ok (.held [], [])
  | bytes content =>
    .ok (.held content,
      if content.isEmpty then [] else [Headers.row "Content-Length" (toString content.length)])
  | json value =>
    match value.bytes? with
    | some content =>
      .ok (.held content, [Headers.row "Content-Length" (toString content.length),
        Headers.row "Content-Type" "application/json"])
    | Option.none => .error .notJson
  | chunks mode parts failure =>
    .ok (.stream mode parts failure, [Headers.row "Transfer-Encoding" "chunked"])

/-- `rows` with the fields that describe a body, as far as they are not given; a given length
stands for the kind of transfer too. -/
def describeBody (rows described : List HeaderRow) : List HeaderRow :=
  described.foldl (fun rows field =>
    if field.key = (Headers.row "transfer-encoding" "").key
        && (Headers.ofRows rows).has "content-length" then rows
    else Headers.addDefault field rows) rows

/-- A request. -/
structure Request where
  /-- The method, in upper case. -/
  method : String
  /-- The address. -/
  url : Url
  /-- The header fields. -/
  headers : Headers
  /-- The body. -/
  body : Body
  deriving DecidableEq, Repr

/-- The host of an address as it is shown: the name that an ASCII form stands for. -/
def Url.shownHost [Platform] (u : Url) : Except Fault (List Char) :=
  (Host.shown u.host.toList).mapError .hostForm

namespace Request

/-- The methods whose requests say that they have no body. -/
def announcesEmptyBody (method : String) : Bool :=
  method = "POST" || method = "PUT" || method = "PATCH"

variable [Platform]

/-- The field for the host of an address, if there is one. -/
def hostRows (url : Url) : Except Fault (List HeaderRow) := do
  if (← url.shownHost) = [] then return []
  return [Headers.row "Host" (← url.hostText.mapError .encode)]

/-- The header fields of a new request: the ones for host and empty body in front, then the given
ones, then those that describe the body. -/
def headersFor (method : String) (url : Url) (given described : List HeaderRow) :
    Except Fault Headers := do
  let rows := describeBody given described
  let has := fun name => (Headers.ofRows rows).has name
  let host ← if has "host" then .ok [] else hostRows url
  let length :=
    if !has "content-length" && !has "transfer-encoding" && announcesEmptyBody method then
      [Headers.row "Content-Length" "0"]
    else []
  return .ofRows (host ++ length ++ rows)

/-- A request to the address `url`, with its query replaced by `params` if there are any given. -/
def make (method url : String) (params : Option (List (String × Json))) (given : List HeaderRow)
    (content : Content) : Except Fault Request := do
  let method := Text.upper method
  let url ← match params with
    | none => (Url.parse url).mapError .url
    | some params => (Url.parseWithQuery url (Form.query params)).mapError .url
  let (body, described) ← content.encode
  let headers ← headersFor method url given described
  return { method, url, headers, body }

/-- Reads the body of a request. -/
def read (mode : StreamMode) (r : Request) : Except Fault (List UInt8) × Request :=
  let (result, body) := r.body.read mode
  (result.mapError .ofRequestBody, { r with body })

/-- The bytes of a body that has been read. -/
def content (r : Request) : Except Fault (List UInt8) :=
  match r.body with
  | .held bytes => .ok bytes
  | _ => .error .unreadRequest

/-- Sets a header field of a request. -/
def setHeader (r : Request) (name value : String) : Except Fault Request :=
  match r.headers.set name value with
  | .ok headers => .ok { r with headers }
  | .error e => .error (.encode e)

end Request

end ApiClient
