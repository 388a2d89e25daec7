import ApiClient.Http.Body
import ApiClient.Http.Url.Reference
import ApiClient.Json.Bytes
import ApiClient.Time.HttpDate

/-!
# Faults

Everything that may go wrong below the API itself: reading and writing texts, numbers and JSON,
addresses, bodies, dates and the environment, and the failures of supplied parts.
-/

namespace ApiClient

/-- What is wrong with a value that an integer is made of. -/
inductive NumberError
  /-- An infinite number. -/
  | infinite
  /-- A floating point number that is none. -/
  | nan
  /-- A value of a kind that has no number. -/
  | kind (name : String)
  deriving DecidableEq, Repr

/-- The wording of a failure. -/
def NumberError.message : NumberError → String
  | infinite => "cannot convert float infinity to integer"
  | nan => "cannot convert float NaN to integer"
  | kind name =>
    "int() argument must be a string, a bytes-like object or a real number, not '" ++ name ++ "'"

/-- What is wrong with the shape of an error body. -/
inductive ShapeError
  /-- The body is a value of another kind than an object. -/
  | notAnObject (kind : String)
  /-- The members that have to be objects are not. -/
  | members
  /-- The validation member is no map of texts. -/
  | validation
  deriving DecidableEq, Repr

/-- The wording of a failure. -/
def ShapeError.message : ShapeError → String
  | notAnObject kind => "expected a JSON object, got " ++ kind
  | members => "'error' and 'debug' members must be JSON objects"
  | validation => "'error.validation' must map field names to messages"

/-- Why a value has no member of a given name. -/
inductive MemberError
  /-- The value has no members. -/
  | noMembers (kind : String)
  /-- The members of a list or a text are numbered. -/
  | numbered (text : Bool)
  /-- The object lacks the member. -/
  | missing (name : String)
  deriving DecidableEq, Repr

/-- The wording of a failure. -/
def MemberError.message : MemberError → String
  | noMembers kind => "'" ++ kind ++ "' object is not subscriptable"
  | numbered true => "string indices must be integers, not 'str'"
  | numbered false => "list indices must be integers or slices, not str"
  | missing name => Text.quoted name

/-- What goes wrong below the API. -/
inductive Fault
  /-- A supplied part failed. -/
  | outside (e : Outside)
  /-- Bytes are no text. -/
  | decode (e : Text.DecodeError)
  /-- A text does not fit its character set. -/
  | encode (e : Text.EncodeError)
  /-- A text is no JSON. -/
  | json (e : Json.FaultAt)
  /-- A JSON value is nested too deep. -/
  | tooDeep (object : Bool)
  /-- A text is no integer. -/
  | integer (e : Integer.ReadError)
  /-- A value is no number. -/
  | number (e : NumberError)
  /-- A body has another shape than an error body. -/
  | shape (e : ShapeError)
  /-- A value lacks a member. -/
  | member (e : MemberError)
  /-- A number has no JSON text. -/
  | notJson
  /-- A text is no address. -/
  | url (e : Url.Error)
  /-- The address that a response redirects to is none. -/
  | location (e : Url.Error)
  /-- The host of an address has the mark of an ASCII form and is none. -/
  | hostForm (text : String)
  /-- The text of an address does not say of which kind the address is. -/
  | kindless (text : String)
  /-- The text of an address is no reference. -/
  | reference (e : Reference.Error)
  /-- The port of an address without a host is needed. -/
  | placeless
  /-- A header field is not found by the name that it is listed under. -/
  | fieldName (name : String)
  /-- The stream of a message cannot be read in the mode needed. -/
  | streamMode
  /-- The stream of a response cannot be read in the mode needed. -/
  | responseMode
  /-- A stream has failed before. -/
  | spentStream
  /-- The body of a request is needed and has not been read. -/
  | unreadRequest
  /-- The body of a response is needed and has not been read. -/
  | unreadResponse
  /-- The client has been closed. -/
  | closed
  /-- A time has no date. -/
  | date (e : HttpDate.Error)
  /-- A credential of another kind than the supported ones. -/
  | credentialKind (name : String)
  /-- A variable of the environment cannot have this name. -/
  | variableName
  /-- A variable of the environment has no name. -/
  | variableUnnamed
  /-- A variable of the environment cannot have this name or value. -/
  | variableValue
  deriving DecidableEq, Repr

namespace Fault

/-- The wording for a stream that is read again after it failed. -/
def spentStreamMessage : String :=
  "Attempted to read or stream some content, but the content has already been streamed. For "
    ++ "requests, this could be due to passing a generator as request content, and then receiving "
    ++ "a redirect response or a secondary request as part of an authentication flow.For "
    ++ "responses, this could be due to attempting to stream the response content more than once."

/-- The wording for a body of a `kind` of message that has not been read. -/
def unreadMessage (kind : String) : String :=
  "Attempted to access streaming " ++ kind ++ " content, without having called `read()`."

/-- The wording of a fault. -/
def message : Fault → String
  | outside e => e.message
  | decode e => e.message
  | encode e => e.message
  | json e => e.message
  | tooDeep object =>
    "maximum recursion depth exceeded while decoding a JSON "
      ++ (if object then "object" else "array") ++ " from a unicode string"
  | integer e => e.message
  | number e => e.message
  | shape e => e.message
  | member e => e.message
  | notJson => "Out of range float values are not JSON compliant"
  | url e => e.message
  | location e => "Invalid URL in location header: " ++ e.message ++ "."
  | hostForm text => text
  | kindless text => "unknown url type: " ++ Text.quoted text
  | reference e => e.message
  | placeless => "'NoneType' object has no attribute 'find'"
  | fieldName name => Text.quoted name
  | streamMode => ""
  | responseMode => "Attempted to call an async iterator on an sync stream."
  | spentStream => spentStreamMessage
  | unreadRequest => unreadMessage "request"
  | unreadResponse => unreadMessage "response"
  | closed => "Cannot send a request, as the client has been closed."
  | date e => e.message
  | credentialKind name => "unsupported credential type " ++ name
  | variableName => "illegal environment variable name"
  | variableUnnamed => "[Errno 22] Invalid argument"
  | variableValue => "embedded null byte"

/-- The wording of a fault, or the fault of asking a failed part for it. -/
def wording : Fault → Except Fault String
  | outside e => e.wording.mapError outside
  | f => .ok f.message

/-- The fault of a text that is no JSON value. -/
def ofJsonText : Json.TextError → Fault
  | .malformed e => json e
  | .tooManyDigits count => integer (.tooManyDigits count)
  | .tooDeep object => tooDeep object

/-- The fault of bytes that are no JSON value. -/
def ofJsonBytes : Json.ReadError → Fault
  | .undecodable e => decode e
  | .text e => ofJsonText e

/-- The fault of a request body that is not read. -/
def ofRequestBody : BodyError → Fault
  | .otherMode => streamMode
  | .failed e => outside e
  | .spent => spentStream

/-- The fault of a response body that is not read. -/
def ofResponseBody : BodyError → Fault
  | .otherMode => responseMode
  | .failed e => outside e
  | .spent => spentStream

/-- Whether a body that fails in this way is merely unreadable. -/
def meansUnreadable : Fault → Bool
  | outside e => e.kind.meansUnreadable
  | responseMode | spentStream => true
  | _ => false

end Fault

end ApiClient
