import ApiClient.Auth.Signature
import ApiClient.Config
import ApiClient.Errors.Classify
import ApiClient.Http.Redirect
import ApiClient.Metrics
import ApiClient.Trace

/-!
# The client

A client gives each request its credential and its own name, logs it, passes it on to the transport
and logs the response. Responses other than successes are reported as errors if the configuration
says so. Redirections are not followed, and nothing is kept from one request to the next.
-/

namespace ApiClient

/-- A client and what it works with. -/
structure Client where
  /-- The configuration. -/
  config : Config
  /-- The levels of the loggers. -/
  levels : Levels
  /-- The second that signatures are dated with. -/
  now : Int
  /-- The receiver of metrics, used if the configuration says so. -/
  receiver : MetricReceiver := MetricReceiver.steady

/-- What changes while a client is used. -/
structure Traffic where
  /-- Whether the client is closed. -/
  closed : Bool := false
  /-- The requests passed on to the transport, in order. -/
  sent : List Request := []
  /-- The metrics delivered, in order. -/
  events : List MetricEvent := []
  /-- The records written, in order. -/
  log : List LogRecord := []
  /-- The clock of the metrics. -/
  clock : Clock := []

/-- An operation of a client, which keeps what it has done when it fails. -/
abbrev Exchange := EStateM Error Traffic

namespace Exchange

/-- Goes on with a value, or fails with a fault. -/
def ofExcept {α : Type} : Except Fault α → Exchange α
  | .ok a => pure a
  | .error f => throw (.fault f)

/-- Edits a request. -/
def edit (r : Request) (change : Edit Unit) : Exchange Request :=
  match change.run r with
  | .ok _ r => pure r
  | .error f _ => throw (.fault f)

/-- Writes what tracing a message gives to the log. -/
def write {μ : Type} (t : Traced μ) : Exchange μ := do
  modify fun s => { s with log := s.log ++ t.records }
  match t.failure with
  | none => return t.message
  | some f => throw (.fault f)

end Exchange

namespace Client

variable [Platform]

/-! ## Requests -/

/-- A request for a path on the server of the configuration. -/
def request (c : Client) (method path : String) (params : Option (List (String × Json)))
    (content : Content) : Except Fault Request :=
  Request.make method (c.config.baseUrl ++ path) params [] content

/-- The credential of the configuration. -/
def authorization (c : Client) : Authorization :=
  match c.config.credential with
  | some credential => .credential credential
  | none => .none

/-- Gives a request, whose body is read, the credential and the name of the client. -/
def sign (c : Client) : Edit Unit := do
  let (content, r) := (← get).read .async
  set r
  match content with
  | .error f => throw f
  | .ok _ =>
    c.authorization.attach c.now
    Edit.setHeader "User-Agent" c.config.userAgent

/-- The authorization field for a user name and a password. -/
def basicAuthorization (name password : List Char) : String :=
  "Basic " ++ Text.Base64.encode (Text.Utf8.encode (name ++ ':' :: password))

/-- Gives a request the user name and the password that stand in its address, if any. -/
def useAddressCredentials : Edit Unit := do
  let (name, password) := (← get).url.credentials
  if name = [] ∧ password = [] then pure ()
  else Edit.setHeader "Authorization" (basicAuthorization name password)

/-- Passes a request on to the transport. -/
def pass (c : Client) (transport : Transport) (r : Request) : Exchange Response := do
  let s ← get
  let receiver := if c.config.measures then some c.receiver else none
  let dispatch := Dispatch.ofAnswer receiver s.clock r (transport.answer s.sent r)
  set { s with
    sent := if dispatch.passed then s.sent ++ [r] else s.sent
    events := s.events ++ dispatch.events
    clock := dispatch.clock }
  Exchange.ofExcept dispatch.outcome

/-- Checks the response to a request and reads its body. The request that would follow a redirection
is prepared and not sent, and the cookies of the response are not kept. -/
def accept (request : Request) (response : Response) : Except Fault Response := do
  if response.body.mode? = some StreamMode.blocking then throw .streamMode
  let _ ← response.nextRequest? request
  let (content, response) := response.read
  let _ ← content
  return response

/-- Sends a request: the response, or the error that it is reported as. -/
def perform (c : Client) (transport : Transport) (r : Request) : Exchange Response := do
  let r ← Exchange.edit r c.sign
  let r ← Exchange.write (r.trace c.levels c.config.logger)
  if (← get).closed then throw (.fault .closed)
  let r ← Exchange.edit r useAddressCredentials
  let response ← Exchange.ofExcept (accept r (← c.pass transport r))
  let response ← Exchange.write (response.trace c.levels c.config.logger (some r))
  if c.config.reportsFailures then
    match response.check (some r) with
    | .ok _ => pure ()
    | .error e => throw e
  return response

/-- Closes a client. -/
def close : Exchange Unit :=
  modify fun s => { s with closed := true }

end Client

end ApiClient
