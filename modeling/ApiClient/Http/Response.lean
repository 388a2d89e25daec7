import ApiClient.Http.Request

/-!
# Responses

A response is a status, header fields and a body. Like a request, it gets the header fields that
describe its body, unless they are given. A content may be coded, as the header fields say; the body
is what is left when the codings are undone.
-/

namespace ApiClient

/-- A response. -/
structure Response where
  /-- The status. -/
  status : Int
  /-- The header fields. -/
  headers : Headers
  /-- The body, its codings undone: one that does not fit them fails as a stream does. -/
  body : Body
  deriving DecidableEq, Repr

/-- The names of the codings of a content, in lower case, in the order in which they were used. -/
def Headers.codings (h : Headers) : List String :=
  (h.valuesOf ((asciiBytes "Content-Encoding").map asciiLower)).flatMap fun value =>
    (Host.splitOn ',' value.toList).map fun name => Text.lower (String.ofList (Text.trim name))

/-- A body with codings undone. What is held is decoded at once, and a stream when it is read. -/
def Body.decoded [Platform] (names : List String) : Body → Except Outside Body
  | held bytes =>
    match Platform.codings.undo names [bytes] none with
    | (chunks, none) => .ok (held chunks.flatten)
    | (_, some e) => .error e
  | stream mode chunks failure =>
    let (chunks, failure) := Platform.codings.undo names chunks failure
    .ok (stream mode chunks failure)
  | spent mode => .ok (spent mode)

namespace Response

/-- A response with the header fields `given`. -/
def make [Platform] (status : Int) (given : List HeaderRow) (content : Content) :
    Except Fault Response := do
  let (body, described) ← content.encode
  let headers := Headers.ofRows (describeBody given described)
  return { status, headers, body := ← (body.decoded headers.codings).mapError .outside }

/-- Reads the body of a response. -/
def read (r : Response) : Except Fault (List UInt8) × Response :=
  let (result, body) := r.body.read .async
  (result.mapError .ofResponseBody, { r with body })

/-- The bytes of a body that has been read. -/
def content (r : Response) : Except Fault (List UInt8) :=
  match r.body with
  | .held bytes => .ok bytes
  | _ => .error .unreadResponse

end Response

end ApiClient
