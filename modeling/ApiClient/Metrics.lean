import ApiClient.Transport

/-!
# Metrics

A receiver of metrics is called twice for every request: before the request is passed on to the
transport, and when it has been answered or has failed. The sums of what it gets are the number of
requests under way, the number of requests and their total duration.
-/

namespace ApiClient

/-- A metric. -/
inductive Metric
  /-- The time from passing a request on to the answer. -/
  | duration
  /-- The number of requests. -/
  | count
  /-- The number of requests under way. -/
  | inFlight
  deriving DecidableEq, Repr

/-- The name of a metric. -/
def Metric.name : Metric → String
  | duration => "http_request_duration_seconds"
  | count => "http_request_total"
  | inFlight => "http_requests_in_flight"

/-- What metrics are told apart by. -/
inductive MetricLabel
  /-- The path of the request. -/
  | resource
  /-- The method of the request. -/
  | method
  /-- The status of the response. -/
  | status
  deriving DecidableEq, Repr

/-- The name of a label. -/
def MetricLabel.name : MetricLabel → String
  | resource => "resource"
  | method => "method"
  | status => "status"

/-- What a receiver gets in one call. -/
structure MetricEvent where
  /-- The changes of metrics. -/
  values : List (Metric × Int)
  /-- The labels. -/
  labels : List (MetricLabel × String)
  deriving DecidableEq, Repr

namespace MetricEvent

/-- The labels of a request. -/
def labelsOf (r : Request) : List (MetricLabel × String) :=
  [(.resource, r.url.resource), (.method, r.method)]

/-- The label text for the status of an answer, or for none. -/
def statusText : Option Int → String
  | some status => toString status
  | none => "-1"

/-- The event before a request is passed on. -/
def started (r : Request) : MetricEvent where
  values := [(.inFlight, 1)]
  labels := labelsOf r

/-- The event after a request, with the time it took and the status of the response if there is
one. -/
def finished (r : Request) (time : Int) (status : Option Int) : MetricEvent where
  values := [(.duration, time), (.inFlight, -1), (.count, 1)]
  labels := labelsOf r ++ [(.status, statusText status)]

end MetricEvent

/-- The readings of a clock to come. The last one stays. -/
abbrev Clock := List Int

/-- A reading, and the clock after it. -/
def Clock.tick : Clock → Int × Clock
  | [] => (0, [])
  | [t] => (t, [t])
  | t :: rest => (t, rest)

/-- A receiver of metrics: whether it fails at an event depends on the events of the request so
far, the event itself included. -/
abbrev MetricReceiver := List MetricEvent → Option Outside

/-- The receiver that never fails. -/
def MetricReceiver.steady : MetricReceiver := fun _ => none

/-- What becomes of a request that is passed on to a transport. -/
structure Dispatch where
  /-- The response, or why there is none. -/
  outcome : Except Fault Response
  /-- Whether the request was passed on. -/
  passed : Bool
  /-- The events that the receiver got, in order. -/
  events : List MetricEvent
  /-- The clock afterwards. -/
  clock : Clock

/-- A request that is passed on without metrics and gets `answer`. -/
def Dispatch.plain (clock : Clock) (answer : Except Fault Response) : Dispatch where
  outcome := answer
  passed := true
  events := []
  clock

/-- A request that is passed on with metrics and gets `answer`. A receiver that fails before the
request stops it, and one that fails after it replaces its outcome. -/
def Dispatch.measured (receiver : MetricReceiver) (clock : Clock) (r : Request)
    (answer : Except Fault Response) : Dispatch :=
  let first := [MetricEvent.started r]
  match receiver first with
  | some e => { outcome := .error (.outside e), passed := false, events := first, clock }
  | none =>
    let (start, clock) := clock.tick
    let (finish, clock) := clock.tick
    let status := answer.toOption.map fun response => response.status
    let events := first ++ [.finished r (finish - start) status]
    let outcome := match receiver events with
      | some e => .error (.outside e)
      | none => answer
    { outcome, passed := true, events, clock }

/-- A request that is passed on, with metrics if there is a receiver. -/
def Dispatch.ofAnswer (receiver : Option MetricReceiver) (clock : Clock) (r : Request)
    (answer : Except Fault Response) : Dispatch :=
  match receiver with
  | some receiver => .measured receiver clock r answer
  | none => .plain clock answer

end ApiClient
