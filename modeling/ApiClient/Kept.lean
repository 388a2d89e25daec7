import ApiClient.Calls

/-!
# What a client keeps

A client owns a jar. The cookies of a response get into it as soon as the response has come, and
they go into the request that would follow a redirection. When sending ends, whichever way it ends,
the jar is emptied, and so there is nothing of it in `Client.perform`.
-/

namespace ApiClient

/-- What a client keeps between its calls. -/
structure Kept where
  /-- What its calls have done. -/
  traffic : Traffic := {}
  /-- The cookies in its jar. -/
  jar : Jar := []

/-- A way to collect cookies: the jar that there is when a request has got a response, made from the
jar that there was before. -/
abbrev Collecting := Jar → Request → Response → Except Fault Jar

/-- An operation of a client that has a jar. -/
abbrev JarExchange := EStateM Error Kept

/-- An operation that leaves the jar alone. -/
def Exchange.besideJar {α : Type} (x : Exchange α) : JarExchange α := fun k =>
  match x.run k.traffic with
  | .ok a s => .ok a { k with traffic := s }
  | .error e s => .error e { k with traffic := s }

/-- Empties the jar. -/
def JarExchange.emptyJar : JarExchange Unit :=
  modify fun k => { k with jar := [] }

variable [Platform]

/-- The request that follows the response to `request` if it redirects, with the cookies of a jar.
-/
def Response.followed? (jar : Jar) (request : Request) (r : Response) :
    Except Fault (Option Request) := do
  match r.location? with
  | none => return none
  | some location =>
    let next ← request.redirected r.status (← request.url.redirect location)
    return some (← next.addCookies jar)

namespace Client

/-- What a request that is sent comes to. -/
structure Reply where
  /-- The request, as it is passed on. -/
  request : Request
  /-- The response, its body read. -/
  response : Response
  /-- The request that would follow it if it redirects. -/
  next : Option Request

/-- Takes the response to a request: its cookies get into the jar, and the request that would follow
gets the cookies of the jar. -/
def takeUp (collect : Collecting) (request : Request) (response : Response) :
    JarExchange Reply := do
  if response.body.mode? = some StreamMode.blocking then throw (.fault .streamMode)
  let jar ← (Exchange.ofExcept (collect (← get).jar request response)).besideJar
  modify fun k => { k with jar }
  let next ← (Exchange.ofExcept (response.followed? jar request)).besideJar
  let (content, response) := response.read
  let _ ← (Exchange.ofExcept content).besideJar
  return { request, response, next }

/-- Sends a request that is signed and logged. -/
def send (c : Client) (collect : Collecting) (transport : Transport) (r : Request) :
    JarExchange Reply := do
  if (← get).traffic.closed then throw (.fault .closed)
  let r ← (Exchange.edit r useAddressCredentials).besideJar
  takeUp collect r (← (c.pass transport r).besideJar)

/-- Logs the response to a request and reports it if it is a failure. -/
def report (c : Client) (request : Request) (response : Response) : Exchange Response := do
  let response ← Exchange.write (response.trace c.levels c.config.logger (some request))
  if c.config.reportsFailures then
    match response.check (some request) with
    | .ok _ => pure ()
    | .error e => throw e
  return response

/-- Sends a request that is signed and logged, and takes its response. However sending ends, the jar
is empty then. -/
def proceedWithJar (c : Client) (collect : Collecting) (transport : Transport) (r : Request) :
    JarExchange (Response × Option Request) := do
  let reply ←
    try c.send collect transport r
    finally JarExchange.emptyJar
  let response ← (c.report reply.request reply.response).besideJar
  return (response, reply.next)

/-- Sends a request as `perform` does, by way of the jar: the response, and the request that would
follow it. -/
def performWithJar (c : Client) (collect : Collecting) (transport : Transport) (r : Request) :
    JarExchange (Response × Option Request) := do
  c.proceedWithJar collect transport (← (c.prepare r).besideJar)

end Client

end ApiClient
