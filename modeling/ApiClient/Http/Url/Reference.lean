import ApiClient.Http.Url.Parse
import ApiClient.Text.Quoted

/-!
# References

A reference names an address relative to another one: it may leave out the scheme, the authority and
more, and takes them from the address that it is resolved against. It is read without being put into
normal form, and nothing but its authority is checked: the brackets in it have to hold an IPv6
address, and no character may stand for a delimiter.
-/

namespace ApiClient

/-- The parts of a reference as they stand in its text; a part that is left out is empty. -/
structure Reference where
  /-- The scheme, in lower case. -/
  scheme : List Char
  /-- The text behind `//`. -/
  authority : List Char
  /-- The text behind these up to `?` or `#`. -/
  path : List Char
  /-- The text behind `?`. -/
  query : List Char
  /-- The text behind `#`. -/
  fragment : List Char
  deriving DecidableEq, Repr

namespace Reference

/-- Why a text is no reference. -/
inductive Error
  /-- The authority has a bracket of one kind and none of the other. -/
  | bracket
  /-- The text in brackets is no address of a later version. -/
  | laterVersion
  /-- The text in brackets is an IPv4 address. -/
  | ipv4
  /-- The text in brackets is no address. -/
  | address (text : String)
  /-- The authority has a character that stands for a delimiter. -/
  | delimiter (authority : String)
  deriving DecidableEq, Repr

/-- The wording of a failure. -/
def Error.message : Error → String
  | bracket => "Invalid IPv6 URL"
  | laterVersion => "IPvFuture address is invalid"
  | ipv4 => "An IPv4 address cannot be in brackets"
  | address text => Text.quoted text ++ " does not appear to be an IPv4 or IPv6 address"
  | delimiter authority =>
    "netloc '" ++ authority ++ "' contains invalid characters under NFKC normalization"

/-! ## Reading -/

/-- The schemes whose references may be relative. -/
def relativeSchemes : List String := [
  "", "ftp", "http", "gopher", "nntp", "imap", "wais", "file", "https", "shttp", "mms", "prospero",
  "rtsp", "rtsps", "rtspu", "sftp", "svn", "svn+ssh", "ws", "wss"]

/-- The schemes whose addresses have an authority. -/
def authoritySchemes : List String :=
  relativeSchemes.drop 1 ++ ["telnet", "snews", "rsync", "nfs", "git", "git+ssh"]

/-- The schemes whose paths have parameters. -/
def parameterSchemes : List String := [
  "", "ftp", "hdl", "prospero", "http", "imap", "https", "shttp", "rtsp", "rtsps", "rtspu", "sip",
  "sips", "mms", "sftp", "tel"]

/-- Whether a scheme is one of a list. -/
def isOneOf (schemes : List String) (scheme : List Char) : Bool :=
  schemes.contains (String.ofList scheme)

/-- Whether a text is an address of a version later than 6: `v`, a hexadecimal number, a dot and
something behind it. -/
def isLaterVersion (s : List Char) : Bool :=
  let isHex := fun c => (Text.hexValue? c).isSome
  let number := (s.drop 1).takeWhile isHex
  match (s.drop 1).dropWhile isHex with
  | '.' :: _ :: _ => s.head? = some 'v' && !number.isEmpty
  | _ => false

/-- Checks a text in brackets. -/
def checkBracketed (s : List Char) : Except Error Unit :=
  if s.head? = some 'v' then
    if isLaterVersion s then .ok () else .error .laterVersion
  else if Host.isIPv4 s then .error .ipv4
  else if Host.isIPv6 s then .ok ()
  else .error (.address (String.ofList s))

/-- The characters whose compatibility form has one of the delimiters `/`, `?`, `#`, `@`, `:` in
it. -/
def delimiterForms : List Nat := [
  0x2047, 0x2048, 0x2049, 0x2100, 0x2101, 0x2105, 0x2106, 0x2a74, 0xfe13, 0xfe16, 0xfe55, 0xfe56,
  0xfe5f, 0xfe6b, 0xff03, 0xff0f, 0xff1a, 0xff1f, 0xff20]

/-- Checks an authority. Of several brackets, what stands between the first opening one and the
closing one behind it has to be an address. -/
def checkAuthority (s : List Char) : Except Error Unit := do
  if s.contains '[' != s.contains ']' then throw .bracket
  if s.contains '[' then
    checkBracketed (((s.dropWhile (· ≠ '[')).drop 1).takeWhile (· ≠ ']'))
  if s.any fun c => delimiterForms.contains c.toNat then throw (.delimiter (String.ofList s))

/-- The scheme in front of a text, `default` without one, and the text behind it. -/
def cutScheme (default s : List Char) : List Char × List Char :=
  match Url.cutScheme s with
  | ([], _) => (default, s)
  | (scheme, rest) => (scheme.map Char.toLower, rest)

/-- The reference that a text denotes, with the scheme `default` unless it has one. -/
def ofText (default s : List Char) : Except Error Reference := do
  let (scheme, rest) := cutScheme default s
  let (authority, rest) := Url.cutAuthority rest
  checkAuthority authority
  let (rest, fragment) := Url.cutAt '#' rest
  let (path, query) := Url.cutAt '?' rest
  return { scheme, authority, path, query := query.getD [], fragment := fragment.getD [] }

/-! ## Writing -/

/-- `mark` and a part behind it, or nothing for an empty part. -/
def behind (mark : Char) (part : List Char) : List Char :=
  if part.isEmpty then [] else mark :: part

/-- The text of a reference. Behind an authority, and behind a scheme that calls for one, the path
begins with a slash. -/
def text (r : Reference) : List Char :=
  let hasPlace := !r.authority.isEmpty || isOneOf authoritySchemes r.scheme
  let place :=
    if !hasPlace && r.path.take 2 ≠ ['/', '/'] then r.path
    else
      '/' :: '/' :: r.authority
        ++ if r.path.isEmpty || r.path.head? = some '/' then r.path else '/' :: r.path
  (if r.scheme.isEmpty then [] else r.scheme ++ [':'])
    ++ place ++ behind '?' r.query ++ behind '#' r.fragment

/-! ## Resolving -/

/-- The segments that remain when the ones for "here" are dropped and each for "up" takes the one
before it away; `kept` holds those that remain so far, last first. -/
def climb (kept : List (List Char)) : List (List Char) → List (List Char)
  | [] => kept.reverse
  | segment :: rest =>
    if segment = ['.', '.'] then climb (kept.drop 1) rest
    else if segment = ['.'] then climb kept rest
    else climb (segment :: kept) rest

/-- Segments without the empty ones between the first and the last. -/
def withoutEmptyInside : List (List Char) → List (List Char)
  | first :: second :: rest =>
    first :: ((second :: rest).dropLast.filter fun s => !s.isEmpty) ++ [rest.getLastD second]
  | segments => segments

/-- The path that `path` denotes in the place of the last segment of `base`. -/
def resolvePath (base path : List Char) : List Char :=
  let segments := Host.splitOn '/' path
  let segments :=
    if path.head? = some '/' then segments
    else
      let folder := Host.splitOn '/' base
      let folder := if folder.getLast? = some [] then folder else folder.dropLast
      withoutEmptyInside (folder ++ segments)
  let last := segments.getLastD []
  let resolved := climb [] segments ++ if last = ['.'] ∨ last = ['.', '.'] then [[]] else []
  let path := Url.joinSegments resolved
  if path.isEmpty then ['/'] else path

/-- The path of a reference up to its parameters, and the parameters: what stands behind the first
semicolon of the last segment. -/
def pathAndParameters (r : Reference) : List Char × List Char :=
  let last := (r.path.reverse.takeWhile (· ≠ '/')).reverse
  let folder := r.path.take (r.path.length - last.length)
  if isOneOf parameterSchemes r.scheme then
    (folder ++ last.takeWhile (· ≠ ';'), (last.dropWhile (· ≠ ';')).drop 1)
  else (r.path, [])

/-- What a reference of the same scheme denotes relative to `base`. Empty parameters are dropped. -/
def relativeTo (base r : Reference) : Reference :=
  let (path, parameters) := r.pathAndParameters
  if !r.authority.isEmpty then { r with path := path ++ behind ';' parameters }
  else if path.isEmpty && parameters.isEmpty then
    let (path, parameters) := base.pathAndParameters
    { r with
      authority := base.authority
      path := path ++ behind ';' parameters
      query := if r.query.isEmpty then base.query else r.query }
  else
    { r with
      authority := base.authority
      path := resolvePath base.pathAndParameters.1 path ++ behind ';' parameters }

/-- The text of the address that `s` denotes relative to the address `base`. A reference of another
scheme stands for itself, and so does one of a scheme without relative references. -/
def resolve (base s : List Char) : Except Error (List Char) := do
  if s.isEmpty then return base
  let base ← ofText [] base
  let r ← ofText base.scheme s
  if r.scheme = base.scheme && isOneOf relativeSchemes r.scheme then return (relativeTo base r).text
  else return s

end Reference

end ApiClient
