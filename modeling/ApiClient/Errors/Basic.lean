import ApiClient.Auth.Credential
import ApiClient.Http.Response
import ApiClient.Json.Literal

/-!
# Errors

The errors of the library. Each has one wording, and most may also be raised by a caller with a text
of its own. A failure response is one of a family of errors that refine each other: every client
error is a response error, and every refusal for a particular reason is a client error.
-/

namespace ApiClient

/-- The classes of failure responses. -/
inductive ResponseClass
  | unclassified
  | client
  | badRequest
  | unauthorized
  | forbidden
  | notFound
  | conflict
  | validation
  | rateLimit
  | server
  deriving DecidableEq, Repr

/-- The class that a class refines. -/
def ResponseClass.parent? : ResponseClass → Option ResponseClass
  | unclassified => none
  | client | server => some unclassified
  | _ => some client

/-- A failure response whose body was understood. -/
structure ResponseError where
  /-- The class. -/
  kind : ResponseClass
  /-- The code that the body gives. -/
  code : Int := 0
  /-- The message that the body gives. -/
  text : String := ""
  /-- The messages that the body gives for single fields. -/
  validation : List (String × Json) := []
  /-- The place in the server that the body names. -/
  debugSource : String := ""
  /-- The status of the response. -/
  status : Option Int := none
  /-- The request. -/
  request : Option Request := none
  /-- The response. -/
  response : Option Response := none
  /-- The seconds to wait, which only a rate limit has. -/
  retryAfter : Option Int := none

/-- The wording of a failure response. -/
def ResponseError.message (e : ResponseError) : String :=
  "received error from api: \x7bcode: " ++ toString e.code ++ ", message: " ++ e.text
    ++ ", validation: " ++ (Json.obj e.validation).literal ++ "\x7d"

/-- A failure response whose body was not understood. -/
structure UndecodableResponse where
  /-- The wording. -/
  text : String
  /-- What is wrong with the body. -/
  cause : Option Fault := none
  /-- The status of the response. -/
  status : Option Int := none
  /-- The request. -/
  request : Option Request := none
  /-- The response. -/
  response : Option Response := none

/-- The error of a failure response whose body has the fault `cause`. -/
def UndecodableResponse.ofFault (cause : Fault) (request : Option Request) (response : Response) :
    UndecodableResponse where
  text := "could not decode error response: " ++ cause.message
  cause := some cause
  status := some response.status
  request
  response := some response

/-- What is wrong with a configuration. -/
inductive ConfigurationError
  /-- No credential is given. -/
  | noCredential
  /-- A credential is given besides one of the other kind. -/
  | mixedCredentials (given before : String)
  /-- A reason that a caller gives in its own words. -/
  | other (text : String)
  deriving DecidableEq, Repr

/-- The wording of a failure. -/
def ConfigurationError.message : ConfigurationError → String
  | noCredential => "could not configure client: token not set"
  | mixedCredentials given before => "cannot use " ++ given ++ " together with " ++ before
  | other text => text

/-- A credential that nothing provides. -/
structure MissingCredential where
  /-- The wording. -/
  text : String
  /-- The variable looked for. -/
  variableName : Option String
  deriving DecidableEq, Repr

/-- The error of a variable that is not set, or of none named at all. -/
def MissingCredential.ofVariable (name : Option String) : MissingCredential where
  text :=
    match name with
    | none | some "" => "credential missing"
    | some name => "environment variable missing: " ++ name
  variableName := name

/-- What is wrong with the answer of an echo. -/
inductive EchoError
  /-- The answer is no JSON text. -/
  | undecodable (cause : Json.FaultAt)
  /-- The answer is another value. -/
  | mismatch (sent : String) (received : Json)
  /-- A reason that a caller gives in its own words. -/
  | other (text : String)
  deriving Repr

/-- The wording of a failure. -/
def EchoError.message : EchoError → String
  | undecodable cause => "could not decode echo response: " ++ cause.message
  | mismatch sent received =>
    "invalid echo value received: expected " ++ sent ++ ", was " ++ received.display
  | other text => text

/-- An error. -/
inductive Error
  /-- A fault below the API. -/
  | fault (f : Fault)
  /-- An error of no particular kind. -/
  | general (text : String)
  /-- The server did not answer an echo. -/
  | echoUnavailable (status : Int)
  /-- The answer of an echo is wrong. -/
  | echo (e : EchoError)
  /-- The configuration is wrong. -/
  | configuration (e : ConfigurationError)
  /-- A credential cannot be used. -/
  | credential (e : CredentialError)
  /-- A credential is missing. -/
  | credentialMissing (e : MissingCredential)
  /-- A failure response. -/
  | response (e : ResponseError)
  /-- A failure response whose body was not understood. -/
  | undecodable (e : UndecodableResponse)
  /-- A scan saw every item and met its condition at none. -/
  | conditionNeverMet (text : String)

/-- The wording for a scan that met its condition nowhere. -/
def neverMetText : String := "looped all items and the condition was never met"

/-- The wording of an error. -/
def Error.message : Error → String
  | fault f => f.message
  | general text => text
  | echoUnavailable status =>
    "could not execute echo request, got response " ++ toString status
  | echo e => e.message
  | configuration e => e.message
  | credential e => e.message
  | credentialMissing e => e.text
  | response e => e.message
  | undecodable e => e.text
  | conditionNeverMet text => text

/-- The wording of an error, or the error of asking a failed part for it. -/
def Error.wording : Error → Except Error String
  | fault f => f.wording.mapError fault
  | e => .ok e.message

/-- The wording of an error that is raised with the given arguments: one stands for itself, several
are listed in parentheses. -/
def Error.textOfArguments : List Json → String
  | [] => ""
  | [v] => v.display
  | vs => "(" ++ ", ".intercalate (vs.map Json.literal) ++ ")"

end ApiClient
