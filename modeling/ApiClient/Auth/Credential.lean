import ApiClient.Json.Basic
import ApiClient.Text.Quoted

/-!
# Credentials

A client shows one of two credentials: a token, sent as it is, or a key whose secret signs the
header fields of each request. Neither may be empty, and a shown credential hides its secrets.
-/

namespace ApiClient

/-- A credential. -/
inductive Credential
  /-- A token. -/
  | bearer (token : String)
  /-- A key: its name and its secret. -/
  | signature (keyId secret : String)
  deriving DecidableEq, Repr

/-- Why a credential cannot be used. -/
inductive CredentialError
  /-- The token is empty. -/
  | emptyToken
  /-- The name or the secret of the key is empty. -/
  | emptyKey
  /-- A reason that a caller gives in its own words. -/
  | other (text : String)
  deriving DecidableEq, Repr

/-- The wording of a failure. -/
def CredentialError.message : CredentialError → String
  | emptyToken => "token must not be empty"
  | emptyKey => "key id and secret must not be empty"
  | other text => text

namespace Credential

/-- The credential of a token. -/
def ofToken (token : String) : Except CredentialError Credential :=
  if token = "" then .error .emptyToken else .ok (bearer token)

/-- The credential of a key. -/
def ofKey (keyId secret : String) : Except CredentialError Credential :=
  if keyId = "" ∨ secret = "" then .error .emptyKey else .ok (signature keyId secret)

/-- The name of the kind of a credential. -/
def kindName : Credential → String
  | bearer _ => "BearerCredential"
  | signature .. => "SignatureCredential"

/-- Whether two credentials are of one kind. -/
def sameKind : Credential → Credential → Bool
  | bearer _, bearer _ => true
  | signature .., signature .. => true
  | _, _ => false

/-- A credential without its secrets. -/
def shown : Credential → String
  | bearer _ => "BearerCredential()"
  | signature keyId _ => "SignatureCredential(key_id=" ++ Text.quoted keyId ++ ")"

end Credential

/-- What a request is to be authorized with. -/
inductive Authorization
  /-- Nothing. -/
  | none
  /-- A credential. -/
  | credential (c : Credential)
  /-- A value that is no credential. -/
  | foreign (value : Json)
  deriving Repr

end ApiClient
