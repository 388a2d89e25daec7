import ApiClient.Auth.Credential
import ApiClient.Digest.Sha512
import ApiClient.Http.Request
import ApiClient.Text.Base64

/-!
# Signed requests

A signature covers the request line, the host and the date of a request, and for a request with a
body also the kind, the length and the digest of the body. The signed text has one line
`name: value` for each of them, and the signature is its keyed digest under the secret.
-/

namespace ApiClient

/-- A change of a request in steps. A step that fails leaves the changes made before it. -/
abbrev Edit := EStateM Fault Request

namespace Edit

/-- Sets a header field. -/
def setHeader (name value : String) : Edit Unit := do
  match (← get).setHeader name value with
  | .ok r => set r
  | .error e => throw e

/-- The value of a header field, empty without one. Reading it settles the character set. -/
def header (name : String) : Edit String := do
  let r ← get
  set { r with headers := r.headers.settle }
  return (r.headers.get? name).getD ""

/-- Goes on with a value, or fails with a fault. -/
def ofExcept {α : Type} : Except Fault α → Edit α
  | .ok a => pure a
  | .error e => throw e

/-- The bytes of the body, read in step. -/
def body : Edit (List UInt8) := do
  let (result, r) := (← get).read .blocking
  set r
  Edit.ofExcept result

end Edit

namespace Signature

/-- The name of the line for method and target. -/
def targetName : String := "(request-target)"

/-- The names of the signed lines of a request without a body. -/
def bodylessNames : List String := [targetName, "host", "date"]

/-- The names of the signed lines that describe a body. -/
def describingNames : List String := ["content-type", "content-length", "digest"]

/-- The names of the signed lines of a request with a body. -/
def bodyNames : List String := bodylessNames ++ describingNames

/-- Names as the signature lists them. -/
def listed (names : List String) : String :=
  " ".intercalate names

/-- A signed line. -/
def line (name value : String) : String :=
  name ++ ": " ++ value

/-- The value of the digest field of a body. -/
def bodyDigest (body : List UInt8) : String :=
  "SHA-512=" ++ Text.Base64.encode (Sha512.digest body)

/-- The date of a request: the one given, or that of the second `now`. -/
def dateText (now : Int) : Option String → Except Fault String
  | some date => .ok date
  | none => (HttpDate.ofSeconds now).mapError .date

/-- Sets the fields that describe the body, and gives their lines. -/
def describe (body : List UInt8) : Edit (List String) := do
  Edit.setHeader "content-type" "application/json"
  Edit.setHeader "content-length" (toString body.length)
  Edit.setHeader "digest" (bodyDigest body)
  describingNames.mapM fun name => return line name (← Edit.header name)

/-- Sets the fields to be signed, and gives the lines to be signed and their names. -/
def prepare (now : Int) (date : Option String) : Edit (List String × List String) := do
  let r ← get
  let host ← Edit.ofExcept (r.url.hostText.mapError .encode)
  let date ← Edit.ofExcept (dateText now date)
  Edit.setHeader "host" host
  Edit.setHeader "date" date
  let lines := [line targetName (Text.lower r.method ++ " " ++ r.url.target), line "host" host,
    line "date" date]
  let body ← Edit.body
  if body.isEmpty then return (lines, bodylessNames)
  else return (lines ++ (← describe body), bodyNames)

/-- The signature of lines under a secret. -/
def compute (secret : String) (lines : List String) : String :=
  Text.Base64.encode
    (Hmac.digest (Text.Utf8.encode secret.toList)
      (Text.Utf8.encode ("\n".intercalate lines).toList))

/-- The value of the authorization field of a signed request. -/
def fieldValue (keyId signature : String) (names : List String) : String :=
  "Signature keyId=\"" ++ keyId ++ "\",algorithm=\"hmac-sha512\",signature=\"" ++ signature
    ++ "\",headers=\"" ++ listed names ++ "\""

/-- Signs a request. -/
def sign (now : Int) (keyId secret : String) (date : Option String) : Edit Unit := do
  let (lines, names) ← prepare now date
  Edit.setHeader "Authorization" (fieldValue keyId (compute secret lines) names)

end Signature

/-- Sets the authorization field of a request. -/
def Authorization.attach (now : Int) : Authorization → Edit Unit
  | none => pure ()
  | credential (.bearer token) => Edit.setHeader "Authorization" ("Token " ++ token)
  | credential (.signature keyId secret) => Signature.sign now keyId secret Option.none
  | foreign value => throw (.credentialKind value.kindName)

end ApiClient
