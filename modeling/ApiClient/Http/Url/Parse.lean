import ApiClient.Http.Url.Basic

/-!
# Reading addresses

An address is cut at its punctuation (`scheme:`, `//authority`, path, `?query`, `#fragment`), the
authority is cut into `user@`, host and `:port`, and then each part is checked and put into normal
form.
-/

namespace ApiClient.Url

/-! ## Cutting -/

/-- The parts of an address as they stand in its text. -/
structure Parts where
  /-- The text before the first colon, if it is a scheme. -/
  scheme : List Char := []
  /-- The text behind `//`. -/
  authority : List Char := []
  /-- The text behind these up to `?` or `#`. -/
  path : List Char := []
  /-- The text behind `?` up to `#`. -/
  query : Option (List Char) := none
  /-- The text behind `#`. -/
  fragment : Option (List Char) := none
  deriving DecidableEq, Repr

/-- Whether `c` may stand in a scheme behind its first letter. -/
def isSchemeChar (c : Char) : Bool :=
  c.isAlphanum || c = '+' || c = '.' || c = '-'

/-- The scheme in front of a colon, which may be empty, and the text behind the colon. -/
def cutScheme (s : List Char) : List Char × List Char :=
  let scheme := s.takeWhile isSchemeChar
  match s.dropWhile isSchemeChar with
  | ':' :: rest => if scheme.head?.all Char.isAlpha then (scheme, rest) else ([], s)
  | _ => ([], s)

/-- The authority behind two slashes, and the text behind it. -/
def cutAuthority (s : List Char) : List Char × List Char :=
  match s with
  | '/' :: '/' :: rest =>
    let inside := fun c => c ≠ '/' && c ≠ '?' && c ≠ '#'
    (rest.takeWhile inside, rest.dropWhile inside)
  | _ => ([], s)

/-- The text in front of `mark`, and the text behind it if it is there. -/
def cutAt (mark : Char) (s : List Char) : List Char × Option (List Char) :=
  match s.dropWhile (· ≠ mark) with
  | [] => (s, none)
  | _ :: rest => (s.takeWhile (· ≠ mark), some rest)

/-- The parts of an address. -/
def Parts.ofText (s : List Char) : Parts :=
  let (scheme, rest) := cutScheme s
  let (authority, rest) := cutAuthority rest
  let (rest, fragment) := cutAt '#' rest
  let (path, query) := cutAt '?' rest
  { scheme, authority, path, query, fragment }

/-- The text up to the last `mark`, and the text behind it; `none` without a mark. -/
def cutAtLast? (mark : Char) (s : List Char) : Option (List Char × List Char) :=
  let behind := (s.reverse.takeWhile (· ≠ mark)).reverse
  if behind.length = s.length then none
  else some (s.take (s.length - behind.length - 1), behind)

/-- The host at the front of an authority without user information, and what follows it. A host in
brackets reaches to the last closing bracket, any other to the first colon. -/
def cutHost (s : List Char) : List Char × List Char :=
  match s with
  | '[' :: inner =>
    match cutAtLast? ']' inner with
    | some (address, rest) => ('[' :: address ++ [']'], rest)
    | none => (s.takeWhile (· ≠ ':'), s.dropWhile (· ≠ ':'))
  | _ => (s.takeWhile (· ≠ ':'), s.dropWhile (· ≠ ':'))

/-- User information, host and port of an authority. The user information reaches to the last
`@`. -/
def cutUserHostPort (s : List Char) : List Char × List Char × List Char :=
  let (userinfo, rest) := (cutAtLast? '@' s).getD ([], s)
  let (host, rest) := cutHost rest
  (userinfo, host, match rest with | ':' :: port => port | rest => rest)

/-! ## Normal form of the parts -/

/-- The ASCII characters that stand as they are in a path. -/
def keepInPath (c : Char) : Bool :=
  0x20 < c.toNat && c.toNat < 0x7F && !"\"#<>?\x60\x7b\x7d".toList.contains c

/-- The ASCII characters that stand as they are in a query. -/
def keepInQuery (c : Char) : Bool :=
  0x20 < c.toNat && c.toNat < 0x7F && !"\"#<>".toList.contains c

/-- The ASCII characters that stand as they are in a fragment. -/
def keepInFragment (c : Char) : Bool :=
  0x20 < c.toNat && c.toNat < 0x7F && !"\"<>\x60".toList.contains c

/-- The ASCII characters that stand as they are in user information. -/
def keepInUserinfo (c : Char) : Bool :=
  keepInPath c && !"/;=@[\\]^|".toList.contains c

/-- The port that a scheme implies. -/
def defaultPort? (scheme : List Char) : Option Int :=
  if scheme = "http".toList ∨ scheme = "ws".toList then some 80
  else if scheme = "https".toList ∨ scheme = "wss".toList then some 443
  else if scheme = "ftp".toList then some 21
  else none

/-- The port of a text behind `scheme`, spelled as in the address; `none` if it is the scheme's
own. -/
def normalPort (scheme text : List Char) : Except Error (Option Int) :=
  if text.isEmpty then .ok none
  else
    match Integer.read (String.ofList text) with
    | .error _ => .error (.port (String.ofList text))
    | .ok port => .ok (if defaultPort? scheme = some port then none else some port)

/-- The segments that remain when the ones for "here" are dropped and each for "up" takes the one
before it away; `kept` holds those that remain so far, last first. The empty segment in front of
the first slash stays. -/
def resolveSegments (kept : List (List Char)) : List (List Char) → List (List Char)
  | [] => kept.reverse
  | segment :: rest =>
    if segment = ['.'] then resolveSegments kept rest
    else if segment = ['.', '.'] then
      resolveSegments (if kept = [[]] then kept else kept.drop 1) rest
    else resolveSegments (segment :: kept) rest

/-- Segments joined by slashes. -/
def joinSegments : List (List Char) → List Char
  | [] => []
  | [segment] => segment
  | segment :: rest => segment ++ '/' :: joinSegments rest

/-- A path without segments for "here" and "up". -/
def normalPath (path : List Char) : List Char :=
  joinSegments (resolveSegments [] (Host.splitOn '/' path))

/-- Checks the beginning of a path. -/
def checkPath (path : List Char) (hasScheme hasAuthority : Bool) : Except Error Unit :=
  if hasAuthority && !path.isEmpty && path.head? ≠ some '/' then .error .pathWithoutSlash
  else if !hasScheme && !hasAuthority && path.take 2 = ['/', '/'] then
    .error .pathWithTwoSlashes
  else if !hasScheme && !hasAuthority && path.head? = some ':' then .error .pathWithColon
  else .ok ()

/-! ## Addresses -/

variable [Platform]

/-- The address made of parts. -/
def ofParts (p : Parts) : Except Error Url := do
  let (userinfo, host, port) := cutUserHostPort p.authority
  let userinfo := Percent.escape keepInUserinfo userinfo
  let host ← (Host.ofText host).mapError .host
  let port ← normalPort p.scheme port
  let hasScheme := !p.scheme.isEmpty
  let hasAuthority := !userinfo.isEmpty || !host.isEmpty || port.isSome
  checkPath p.path hasScheme hasAuthority
  let path := if hasScheme || hasAuthority then normalPath p.path else p.path
  return {
    scheme := String.ofList (p.scheme.map Char.toLower)
    userinfo := String.ofList userinfo
    host := String.ofList host
    port
    path := String.ofList (Percent.escape keepInPath path)
    query := p.query.map fun q => String.ofList (Percent.escape keepInQuery q)
    fragment := p.fragment.map fun f => String.ofList (Percent.escape keepInFragment f) }

/-- Whether `c` is an ASCII control character. -/
def isControl (c : Char) : Bool :=
  c.toNat < 0x20 || c.toNat = 0x7F

/-- The first ASCII control character of a text, and where it stands. -/
def findControl? (s : List Char) : Option (Char × Nat) :=
  (s.dropWhile (!isControl ·)).head?.map fun c => (c, (s.takeWhile (!isControl ·)).length)

/-- Checks length and characters of the text of an address. -/
def checkText (s : List Char) : Except Error Unit :=
  if maxLength < s.length then .error .tooLong
  else
    match findControl? s with
    | none => .ok ()
    | some (c, position) => .error (.control c position)

/-- Checks length and characters of a part that is set on its own. -/
def checkPart (part : String) (s : List Char) : Except Error Unit :=
  if maxLength < s.length then .error (.partTooLong part)
  else
    match findControl? s with
    | none => .ok ()
    | some (c, position) => .error (.partControl part c position)

/-- The address that a text denotes. -/
def parse (text : String) : Except Error Url := do
  checkText text.toList
  ofParts (Parts.ofText text.toList)

/-- The address that a text denotes, with its query replaced by `query`. -/
def parseWithQuery (text : String) (query : Option (List Char)) : Except Error Url := do
  checkText text.toList
  checkPart "query" (query.getD [])
  ofParts { Parts.ofText text.toList with query }

/-! ## Changing a part -/

/-- Checks every part of an address as if it was set on its own. -/
def checkParts (u : Url) : Except Error Unit := do
  checkPart "scheme" u.scheme.toList
  checkPart "authority" u.authority.toList
  checkPart "path" u.path.toList
  checkPart "query" (u.query.getD "").toList
  checkPart "fragment" (u.fragment.getD "").toList

/-- An address with another host, of which the text is given without brackets. -/
def withHost (host : List Char) (u : Url) : Except Error Url := do
  checkParts u
  let host := if host.contains ':' then '[' :: host ++ [']'] else host
  checkPart "host" host
  let u := { u with host := String.ofList (← (Host.ofText host).mapError .host) }
  checkPath u.path.toList (u.scheme ≠ "") (u.authority ≠ "")
  return u

/-- An address with another fragment. -/
def withFragment (fragment : List Char) (u : Url) : Except Error Url := do
  checkParts { u with fragment := some (String.ofList fragment) }
  return { u with fragment := some (String.ofList (Percent.escape keepInFragment fragment)) }

end ApiClient.Url
