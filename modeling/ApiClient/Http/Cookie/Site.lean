import ApiClient.Http.Request
import ApiClient.Http.Url.Reference

/-!
# Sites

The site of a request is what the rules for cookies know of it: the kind of its address, host, port
and path. Header fields belong to it too, as a host that is missing in the address is looked up in
them, each by the name that it is listed under.
-/

namespace ApiClient

namespace Headers

/-- Looks a field up by the name that the row with the key `key` is listed under. Names that differ
in case beyond ASCII are different, so a name in upper case is not found. -/
def checkListed (h : Headers) (key : List UInt8) : Except Fault Unit := do
  let name := String.ofList (h.charset.decode key)
  let found ← (h.lookupKey name).mapError .encode
  if !h.hasKey found then throw (.fieldName name)

end Headers

/-- What the rules for cookies know of a request. -/
structure Site where
  /-- The kind of the address: what stands in front of its first colon, in lower case. -/
  kind : List Char
  /-- Host and port as they stand behind two slashes, with escapes resolved, if there are any. -/
  place? : Option (List Char)
  /-- The host, in lower case. -/
  host : List Char
  /-- The path, from its first slash on. -/
  path : List Char
  deriving DecidableEq, Repr

namespace Site

/-- The text of an address with `URL:` in front of it left out. -/
def bareText (u : Url) : List Char :=
  let mark := "URL:".toList
  let text := u.text.toList
  if mark.isPrefixOf text then text.drop mark.length else text

/-- A text without a colon and digits at its end. -/
def withoutPort (s : List Char) : List Char :=
  let digits := (s.reverse.takeWhile Host.isDigit).length
  match s.reverse.drop digits with
  | ':' :: before => if digits = 0 then s else before.reverse
  | _ => s

/-- The characters that stand as they are in the path of a site. -/
def keepInPath (c : Char) : Bool :=
  "%/;:@&=+$,!~*'()".toList.contains c

/-- A path with its escapes in upper case. -/
def upperEscapes : List Char → List Char
  | '%' :: a :: b :: rest =>
    if (Text.hexValue? a).isSome && (Text.hexValue? b).isSome then
      '%' :: a.toUpper :: b.toUpper :: upperEscapes rest
    else '%' :: upperEscapes (a :: b :: rest)
  | c :: rest => c :: upperEscapes rest
  | [] => []

/-- A path with every character escaped that may not stand in one. -/
def escapePath (path : List Char) : List Char :=
  upperEscapes (Percent.escape keepInPath path)

/-- The site of an address; `hostField` is the host by the header fields. What stands behind the
last `#` does not count, and up to a colon there has to be the kind of the address; the rest is read
as a reference. -/
def ofUrl (hostField : List Char) (u : Url) : Except Fault Site := do
  let text := bareText u
  let (place, fragment) := (Url.cutAtLast? '#' text).getD (text, [])
  let shown := place ++ Reference.behind '#' fragment
  match Url.cutAt ':' place with
  | (kind, some rest) =>
    if kind.isEmpty || kind.contains '/' then throw (.kindless (String.ofList shown))
    let reference ← (Reference.ofText [] shown).mapError .reference
    let host := if reference.authority.isEmpty then hostField else reference.authority
    let path := escapePath reference.path
    return {
      kind := kind.map Char.toLower
      place? := if rest.take 2 = ['/', '/'] then some (Percent.unescape (Url.cutAuthority rest).1)
        else none
      host := (Text.lower (String.ofList (withoutPort host))).toList
      path := if path.head? = some '/' then path else '/' :: path }
  | (_, none) => throw (.kindless (String.ofList shown))

/-- The domain of a site: its host, which is local if it has no dot. -/
def domain (s : Site) : List Char :=
  if s.host.contains '.' then s.host else s.host ++ ".local".toList

/-- The port of a site: what stands behind the colon if that is an integer, and 80 without one. -/
def port (s : Site) : Except Fault (Option (List Char)) :=
  match s.place? with
  | none => .error .placeless
  | some place =>
    match Url.cutAt ':' place with
    | (_, none) => .ok (some "80".toList)
    | (_, some port) =>
      .ok (if (Integer.read (String.ofList port)).toBool then some port else none)

end Site

/-- The site of a request. -/
def Request.site (r : Request) : Except Fault Site := do
  r.headers.rows.forM fun row => r.headers.checkListed row.key
  Site.ofUrl ((r.headers.get? "host").getD "").toList r.url

end ApiClient
