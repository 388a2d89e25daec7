import ApiClient.Http.Charset
import ApiClient.Http.Url.Host
import ApiClient.Number.Integer

/-!
# Addresses

The address of a request, taken apart and in normal form: percent-encoded, scheme and host in lower
case, the port left out if it is the scheme's own.
-/

namespace ApiClient

/-- An address. -/
structure Url where
  /-- The scheme, empty in a relative address. -/
  scheme : String
  /-- What stands in front of the `@` of the authority. -/
  userinfo : String
  /-- The host, an IPv6 address without its brackets. -/
  host : String
  /-- The port, unless it is absent or the scheme's own. -/
  port : Option Int
  /-- The path. -/
  path : String
  /-- The query, which may be present and empty. -/
  query : Option String
  /-- The fragment, which may be present and empty. -/
  fragment : Option String
  deriving DecidableEq, Repr

namespace Url

/-- The host as it stands in an address, an IPv6 address in brackets. -/
def hostInBrackets (u : Url) : String :=
  if u.host.toList.contains ':' then "[" ++ u.host ++ "]" else u.host

/-- Host and port as they stand in an address. -/
def netloc (u : Url) : String :=
  u.hostInBrackets ++
    match u.port with
    | some port => ":" ++ toString port
    | none => ""

/-- Host and port as a header field names them, which is in ASCII. The zone of an IPv6 address may
have other characters. -/
def hostText (u : Url) : Except Text.EncodeError String :=
  (Charset.ascii.encode u.netloc.toList).map fun _ => u.netloc

/-- User information, host and port as they stand in an address. -/
def authority (u : Url) : String :=
  (if u.userinfo = "" then "" else u.userinfo ++ "@") ++ u.netloc

/-- The text of an address. -/
def text (u : Url) : String :=
  (if u.scheme = "" then "" else u.scheme ++ ":")
    ++ (if u.authority = "" then "" else "//" ++ u.authority)
    ++ u.path
    ++ (match u.query with | some query => "?" ++ query | none => "")
    ++ (match u.fragment with | some fragment => "#" ++ fragment | none => "")

/-- The path, a slash if it is empty. -/
def pathOrRoot (u : Url) : String :=
  if u.path = "" then "/" else u.path

/-- What a request line asks for: the path and the query. -/
def target (u : Url) : String :=
  u.pathOrRoot ++ match u.query with | some query => "?" ++ query | none => ""

/-- The path with its escapes resolved. -/
def resource (u : Url) : String :=
  String.ofList (Percent.unescape u.pathOrRoot.toList)

/-- User name and password: what stands before and behind the first colon of the user information,
with escapes resolved. -/
def credentials (u : Url) : List Char × List Char :=
  let info := u.userinfo.toList
  let name := info.takeWhile (· ≠ ':')
  let password := (info.drop name.length).drop 1
  (Percent.unescape name, Percent.unescape password)

/-- Why a text is no address. -/
inductive Error
  /-- The text is too long. -/
  | tooLong
  /-- A part that is set on its own is too long. -/
  | partTooLong (part : String)
  /-- An ASCII control character stands at `position`. -/
  | control (c : Char) (position : Nat)
  /-- An ASCII control character stands at `position` of a part that is set on its own. -/
  | partControl (part : String) (c : Char) (position : Nat)
  /-- The host is none. -/
  | host (e : Host.Error)
  /-- The port is no integer. -/
  | port (text : String)
  /-- The path behind an authority does not begin with a slash. -/
  | pathWithoutSlash
  /-- A relative path begins with two slashes. -/
  | pathWithTwoSlashes
  /-- A relative path begins with a colon. -/
  | pathWithColon
  deriving DecidableEq, Repr

/-- The wording of a failure. -/
def Error.message : Error → String
  | tooLong => "URL too long"
  | partTooLong part => "URL component '" ++ part ++ "' too long"
  | control c position =>
    "Invalid non-printable ASCII character in URL, " ++ Text.quoted (String.ofList [c])
      ++ s!" at position {position}."
  | partControl part c position =>
    "Invalid non-printable ASCII character in URL " ++ part ++ " component, "
      ++ Text.quoted (String.ofList [c]) ++ s!" at position {position}."
  | host (.ipv4 text) => "Invalid IPv4 address: " ++ Text.quoted text
  | host (.ipv6 text) => "Invalid IPv6 address: " ++ Text.quoted text
  | host (.international text) => "Invalid IDNA hostname: " ++ Text.quoted text
  | port text => "Invalid port: " ++ Text.quoted text
  | pathWithoutSlash => "For absolute URLs, path must be empty or begin with '/'"
  | pathWithTwoSlashes => "Relative URLs cannot have a path starting with '//'"
  | pathWithColon => "Relative URLs cannot have a path starting with ':'"

/-- The most characters of an address or of one part of it. -/
def maxLength : Nat := 65536

end Url

end ApiClient
