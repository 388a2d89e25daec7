import ApiClient.Client

/-!
# Echo

The check that a server is reachable: it is sent a number and has to answer with the same text.
-/

namespace ApiClient.Echo

/-- The path of the echo. -/
def path : String := "/api/v1/test/echo.json"

/-- The least and the greatest of the numbers that are sent. -/
def bounds : Int × Int := (0, Nat.pow 2 63 - 1)

/-- The value that is sent. -/
def payload (text : String) : Json :=
  .obj [("value", .str text)]

variable [Platform]

/-- Checks the answer to `text`. -/
def check (text : String) (response : Response) : Except Error Unit := do
  if 500 ≤ response.status ∧ response.status < 600 then
    throw (.echoUnavailable response.status)
  let content ← response.content.mapError Error.fault
  match Json.readBytes content with
  | .ok (.str s) => if s = text then return () else throw (.echo (.mismatch text (.str s)))
  | .ok v => throw (.echo (.mismatch text v))
  | .error (.text (.malformed e)) => throw (.echo (.undecodable e))
  | .error e => throw (.fault (.ofJsonBytes e))

/-- Sends a number and checks the answer. -/
def run (c : Client) (transport : Transport) (value : Int) : Exchange Unit := do
  let text := toString value
  let request ← Exchange.ofExcept (c.request "PUT" path none (.json (payload text)))
  let response ← c.perform transport request
  match check text response with
  | .ok _ => pure ()
  | .error e => throw e

end ApiClient.Echo
