import ApiClient.Echo

/-!
# A stand-in for the server

What tests need instead of a server: options for a client that reaches no network, and a transport
that answers the echo.
-/

namespace ApiClient

/-- The value of a member of a value. -/
def Json.member (name : String) : Json → Except MemberError Json
  | .obj fields =>
    match Json.field? fields name with
    | some v => .ok v
    | none => .error (.missing name)
  | .arr _ => .error (.numbered false)
  | .str _ => .error (.numbered true)
  | v => .error (.noMembers v.kindName)

namespace StandIn

/-- The address of the stand-in. -/
def baseUrl : String := "https://engine.test"

/-- The name of the transport that leads to the stand-in. -/
def transportName : String := "stand-in"

/-- The options that every client of the stand-in begins with. -/
def options : List ClientOption :=
  [.baseUrl baseUrl, .credentialOptional, .transport transportName]

/-- The body of the answer for a path that nothing is at. -/
def notFoundBody (path : String) : Json :=
  .obj [("error", .obj [("code", .int 404), ("message", .str ("not found: " ++ path))])]

/-- Answers a request as the echo does: with the member `value` of its body. -/
def echo [Platform] (r : Request) : Except Fault Response := do
  if r.url.resource ≠ Echo.path then
    Response.make 404 [] (.json (notFoundBody r.url.resource))
  else
    let payload ← (Json.readBytes (← r.content)).mapError .ofJsonBytes
    Response.make 200 [] (.json (← (payload.member "value").mapError .member))

end StandIn

end ApiClient
