import ApiClient.Http.Response

/-!
# Transports

A transport answers requests. What is supplied as one is a function of the requests it has had; it
is called with requests whose bodies are read.
-/

namespace ApiClient

/-- A transport: its answer to a request depends on the request and on those before it. -/
abbrev Transport := List Request → Request → Except Fault Response

/-- The answer to a request after the requests `earlier`. A request whose body cannot be read does
not reach the transport. -/
def Transport.answer (t : Transport) (earlier : List Request) (r : Request) :
    Except Fault Response :=
  match r.read .async with
  | (.ok _, r) => t earlier r
  | (.error f, _) => .error f

/-- What a transport is told besides requests. -/
inductive TransportEvent
  /-- Its use begins. -/
  | entered
  /-- Its use ends, by a failure if there is one. -/
  | left (failure : Option OutsideKind)
  /-- It is closed. -/
  | closed
  deriving DecidableEq, Repr

end ApiClient
