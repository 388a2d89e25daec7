import ApiClient.Errors.Basic
import ApiClient.Errors.Body

/-!
# Classifying responses

A status from 200 to 299 is a success. The class of any other response goes by its status alone;
what the error says comes from its body.
-/

namespace ApiClient

/-- Whether a status is a success. -/
def isSuccess (status : Int) : Bool :=
  200 ≤ status && status < 300

/-- The statuses with a class of their own. -/
def ResponseClass.ofExactStatus? (status : Int) : Option ResponseClass :=
  [(400, badRequest), (401, unauthorized), (403, forbidden), (404, notFound), (409, conflict),
    (422, validation), (429, rateLimit)].lookup status

/-- The class of a failure status. -/
def ResponseClass.ofStatus (status : Int) : ResponseClass :=
  match ofExactStatus? status with
  | some kind => kind
  | none =>
    if 400 ≤ status ∧ status < 500 then client
    else if 500 ≤ status ∧ status < 600 then server
    else unclassified

/-- Whether a fault of a body is reported as an undecodable response. An infinite code, a value that
is nested too deep and a body that has not been read are not. -/
def Fault.isUndecodable : Fault → Bool
  | .number .infinite | .tooDeep _ | .unreadResponse => false
  | _ => true

/-- The seconds to wait that a response gives. -/
def Response.retryAfter (r : Response) : Option Int :=
  (r.headers.get? "retry-after").bind fun text => (Integer.read text).toOption

/-- The error of a response with the error body `body`. -/
def ResponseError.ofBody (body : ErrorBody) (request : Option Request) (response : Response) :
    ResponseError :=
  let kind := ResponseClass.ofStatus response.status
  { kind
    code := body.code
    text := body.message
    validation := body.validation.map fun (name, text) => (name, .str text)
    debugSource := body.debugSource
    status := some response.status
    request
    response := some response
    retryAfter := if kind = .rateLimit then response.retryAfter else none }

variable [Platform]

/-- The error of a failure response that has been read. -/
def Response.failure (request : Option Request) (response : Response) : Error :=
  match response.content >>= ErrorBody.ofBytes with
  | .ok body => .response (.ofBody body request response)
  | .error f =>
    if f.isUndecodable then .undecodable (.ofFault f request response) else .fault f

/-- Accepts a success and reports any other response, which has been read, as an error. -/
def Response.check (request : Option Request) (response : Response) : Except Error Unit :=
  if isSuccess response.status then .ok () else .error (response.failure request)

end ApiClient
