import ApiClient.Client

/-!
# Calls that go on together

A client may have several calls under way. Each one prepares its request, passes it on, gets an
answer and concludes with it; between any two of these steps other calls may go on, and the client
may be closed. The answers come from outside, in any order. While a call is not with the transport,
it may also fail for reasons of its surroundings: it is cancelled, or the cookies of another
response stop it.
-/

namespace ApiClient

namespace Exchange

/-- Delivers an event of a request to a receiver, after the events `earlier` of that request. -/
def deliver (receiver : MetricReceiver) (earlier : List MetricEvent) (event : MetricEvent) :
    Exchange Unit := do
  modify fun s => { s with events := s.events ++ [event] }
  match receiver (earlier ++ [event]) with
  | some e => throw (.fault (.outside e))
  | none => pure ()

/-- Reads the clock. -/
def reading : Exchange Int := do
  let (time, clock) := (← get).clock.tick
  modify fun s => { s with clock }
  return time

end Exchange

namespace Client

variable [Platform]

/-! ## The steps of a call -/

/-- The receiver of metrics, if the configuration says that there is one. -/
def receiver? (c : Client) : Option MetricReceiver :=
  if c.config.measures then some c.receiver else none

/-- Gives a request its credential and logs it. -/
def prepare (c : Client) (r : Request) : Exchange Request := do
  let r ← Exchange.edit r c.sign
  Exchange.write (r.trace c.levels c.config.logger)

/-- Passes a prepared request on to the transport: the request as it is sent, and when. Without a
receiver the time is not taken. -/
def depart (c : Client) (r : Request) : Exchange (Request × Int) := do
  if (← get).closed then throw (.fault .closed)
  let r ← Exchange.edit r useAddressCredentials
  let start ← match c.receiver? with
    | some receiver => do
      Exchange.deliver receiver [] (.started r)
      Exchange.reading
    | none => pure 0
  modify fun s => { s with sent := s.sent ++ [r] }
  return (r, start)

/-- Takes the answer to a request that was passed on at `start`. -/
def arrive (c : Client) (r : Request) (start : Int) (answer : Except Fault Response) :
    Exchange Response := do
  match c.receiver? with
  | some receiver =>
    let time := (← Exchange.reading) - start
    let status := answer.toOption.map fun response => response.status
    Exchange.deliver receiver [.started r] (.finished r time status)
  | none => pure ()
  Exchange.ofExcept answer

/-- Accepts the response to a request, logs it and reports it if it is a failure. -/
def conclude (c : Client) (r : Request) (response : Response) : Exchange Response := do
  let response ← Exchange.ofExcept (accept r response)
  let response ← Exchange.write (response.trace c.levels c.config.logger (some r))
  if c.config.reportsFailures then
    match response.check (some r) with
    | .ok _ => pure ()
    | .error e => throw e
  return response

/-! ## Calls -/

/-- How far a call is. -/
inductive Call
  /-- It has not begun. -/
  | waiting (r : Request)
  /-- Its request is prepared. -/
  | prepared (r : Request)
  /-- It has ended, and its request was not passed on. -/
  | unsent (e : Error)
  /-- Its request was passed on at `start` and is not answered. -/
  | underway (r : Request) (start : Int)
  /-- Its request has got a response. -/
  | answered (r : Request) (response : Response)
  /-- It has ended, after its request got an answer. -/
  | ended (r : Request) (answer : Except Fault Response) (result : Except Error Response)

/-- What happens to a call. -/
inductive Move
  /-- It prepares its request. -/
  | prepare
  /-- It passes its request on. -/
  | depart
  /-- The transport answers, or fails, also because the call is cancelled. -/
  | arrive (answer : Except Fault Response)
  /-- It concludes with the response. -/
  | conclude
  /-- It fails while it is not with the transport. -/
  | fail (f : Fault)

/-- What a move makes of a call. A move that does not fit the call does nothing. -/
def move (c : Client) (s : Traffic) : Move → Call → Call × Traffic
  | .prepare, .waiting r =>
    match (c.prepare r).run s with
    | .ok r s => (.prepared r, s)
    | .error e s => (.unsent e, s)
  | .depart, .prepared r =>
    match (c.depart r).run s with
    | .ok (r, start) s => (.underway r start, s)
    | .error e s => (.unsent e, s)
  | .arrive answer, .underway r start =>
    match (c.arrive r start answer).run s with
    | .ok response s => (.answered r response, s)
    | .error e s => (.ended r answer (.error e), s)
  | .conclude, .answered r response =>
    match (c.conclude r response).run s with
    | .ok concluded s => (.ended r (.ok response) (.ok concluded), s)
    | .error e s => (.ended r (.ok response) (.error e), s)
  | .fail f, .waiting _ | .fail f, .prepared _ => (.unsent (.fault f), s)
  | .fail f, .answered r response => (.ended r (.ok response) (.error (.fault f)), s)
  | _, call => (call, s)

/-- A client with its calls. -/
structure Session where
  /-- The calls. -/
  calls : List Call
  /-- What the calls have changed. -/
  traffic : Traffic
  /-- The metrics that the calls have delivered, each with the number of its call, in order. -/
  deliveries : List (Nat × MetricEvent)

/-- What happens in a session. -/
inductive SessionEvent
  /-- A call moves. -/
  | call (i : Nat) (move : Move)
  /-- The client is closed. -/
  | close

namespace Session

/-- A session of calls that have not begun. -/
def begin (s : Traffic) (requests : List Request) : Session where
  calls := requests.map Call.waiting
  traffic := s
  deliveries := []

/-- What an event makes of a session. -/
def step (c : Client) (session : Session) : SessionEvent → Session
  | .call i move =>
    match session.calls[i]? with
    | none => session
    | some call =>
      let (call, traffic) := c.move session.traffic move call
      let delivered := traffic.events.drop session.traffic.events.length
      { calls := session.calls.set i call
        traffic
        deliveries := session.deliveries ++ delivered.map fun event => (i, event) }
  | .close => { session with traffic := { session.traffic with closed := true } }

/-- What a run of events makes of a session. -/
def run (c : Client) (session : Session) (events : List SessionEvent) : Session :=
  events.foldl (step c) session

end Session

end Client

end ApiClient
