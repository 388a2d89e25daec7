import ApiClient.Http.Cookie.Fields
import ApiClient.Http.Cookie.Site
import ApiClient.Time.CookieDate

/-!
# Cookies

A response sets cookies by fields of two forms, which list the attributes of each cookie. The
attributes say where it goes, to which domain, path and port, and when it expires. A cookie with a
malformed attribute is void, and some flaws make all cookies void that a response sets in a form.
-/

namespace ApiClient

/-- A cookie. -/
structure Cookie where
  /-- The name. -/
  name : List Char
  /-- The value, unless there is just a name. -/
  value : Option (List Char)
  /-- The domain. -/
  domain : List Char
  /-- Whether the domain has been given as an attribute. -/
  hasDomain : Bool
  /-- Whether the domain has to fit the sites that set and get the cookie. -/
  boundToDomain : Bool
  /-- The path. -/
  path : List Char
  /-- The ports, separated by commas, unless the cookie goes to all. -/
  ports : Option (List Char)
  /-- Whether the ports have been given as an attribute with a value. -/
  hasPorts : Bool
  /-- Whether the cookie goes to secure sites only. -/
  secure : Bool
  deriving DecidableEq, Repr

namespace Cookie

open Text

/-! ## Attributes -/

/-- The forms of the fields that set cookies. -/
inductive Form
  /-- The plain form, `Set-Cookie`. -/
  | plain
  /-- The later form, `Set-Cookie2`, in which a cookie has to say which rules it follows. -/
  | words
  deriving DecidableEq, Repr

namespace Form

/-- The name of the field, in lower case. -/
def fieldName : Form → String
  | plain => "set-cookie"
  | words => "set-cookie2"

/-- The version of the rules that a cookie follows if it does not say so. -/
def version? : Form → Option (List Char)
  | plain => some ['0']
  | words => none

/-- The last version of the rules that a cookie may follow. -/
def lastVersion : Form → Int
  | plain => 1
  | words => 0

end Form

/-- What makes cookies void. -/
inductive Flaw
  /-- This one cookie is void. -/
  | cookie
  /-- All cookies that the response sets in the form are void. -/
  | response
  deriving DecidableEq, Repr

/-- When a cookie expires. -/
inductive Expiry
  /-- At a second. -/
  | second (n : Int)
  /-- At a date that has been left as it stands. -/
  | date
  deriving DecidableEq, Repr

/-- What the attributes of a cookie say. -/
structure Terms where
  /-- The version of the rules that the cookie follows. -/
  version : Option (List Char) := none
  /-- The domain, in lower case. -/
  domain : Option (List Char) := none
  /-- The path. -/
  path : Option (List Char) := none
  /-- The ports; without a value, the one of the site. -/
  ports : Option (Option (List Char)) := none
  /-- Whether the cookie is for secure sites only. -/
  secure : Option Bool := none
  /-- When the cookie expires. -/
  expiry : Option Expiry := none
  deriving DecidableEq, Repr

/-- The value of an attribute, which makes the cookie void if it is missing. -/
def required : Option (List Char) → Except Flaw (List Char)
  | some value => .ok value
  | none => .error .cookie

/-- The integer that a value stands for. -/
def integer (value : List Char) : Except Flaw Int :=
  (Integer.read (String.ofList value)).mapError fun _ => .cookie

variable [Platform]

/-- The second that the value of an attribute names as a date, if it is one. -/
def date (value : List Char) : Except Flaw (Option Int) :=
  (CookieDate.read Platform.year (unquoted value)).mapError fun _ => .response

/-- When a cookie expires by a date. Dates are read in the plain form only. -/
def Form.expiry (value : List Char) : Form → Except Flaw (Option Expiry)
  | plain => (date value).map fun second => second.map .second
  | words => .ok (some .date)

/-- What is said with one more attribute. Of several values for an attribute the first counts, but
the last that gives the lifetime in seconds, which goes before a date. -/
def Terms.add (form : Form) (t : Terms) (a : Attribute) : Except Flaw Terms :=
  match Text.lower (String.ofList a.1) with
  | "version" =>
    if t.version.isSome then .ok t
    else (required a.2).map fun value => { t with version := some value }
  | "domain" =>
    if t.domain.isSome then .ok t
    else (required a.2).map fun value =>
      { t with domain := some (Text.lower (String.ofList value)).toList }
  | "path" =>
    if t.path.isSome then .ok t
    else (required a.2).map fun value => { t with path := some value }
  | "port" => .ok { t with ports := t.ports.or (some a.2) }
  | "secure" =>
    .ok { t with secure := t.secure.or (some (a.2.all fun value => !value.isEmpty)) }
  | "max-age" =>
    match a.2 with
    | some value =>
      (integer value).map fun seconds => { t with expiry := some (.second (Platform.now + seconds)) }
    | none => .error .response
  | "expires" =>
    match t.expiry, a.2 with
    | none, some value => (form.expiry value).map fun expiry => { t with expiry }
    | _, _ => .ok t
  | _ => .ok t

/-! ## Cookies of a site -/

/-- The path that a cookie has by default: that of the site up to its last slash, which belongs to
it under later versions of the rules. -/
def defaultPath (site : Site) (version : Int) : List Char :=
  let last := (site.path.reverse.takeWhile (· ≠ '/')).length
  let folder := site.path.take (site.path.length - last)
  let path := if version = 0 then folder.dropLast else folder
  if path.isEmpty then ['/'] else path

/-- The first second that is beyond the binary64 numbers. -/
def expiryLimit : Int :=
  (Nat.pow 2 1024 - Nat.pow 2 970 : Nat)

/-- Checks that a cookie has not expired. One that expires too late, or at a date that has not been
read, makes all cookies void. -/
def checkExpiry : Option Expiry → Except Flaw Unit
  | none => .ok ()
  | some .date => .error .response
  | some (.second n) =>
    if n ≤ Platform.now then .error .cookie
    else if expiryLimit ≤ n then .error .response
    else .ok ()

/-- The cookie that a site sets by attributes. One that has expired is void, and so is one that does
not follow the rules of the form. -/
def ofAttributes (form : Form) (site : Site) : List Attribute → Except Flaw Cookie
  | [] => .error .cookie
  | (name, value) :: rest => do
    let terms ← rest.foldlM (Terms.add form) {}
    let version ← (terms.version.or form.version?).mapM integer
    let ports ←
      match terms.ports with
      | some none => site.port.mapError fun _ => .response
      | some (some ports) => .ok (some (ports.filter fun c => !isBlank c))
      | none => .ok none
    checkExpiry terms.expiry
    let some version := version.filter (· ≤ form.lastVersion) | throw .cookie
    return {
      name, value, ports
      domain :=
        match terms.domain with
        | none => site.domain
        | some domain => if domain.head? = some '.' then domain else '.' :: domain
      hasDomain := terms.domain.isSome
      boundToDomain := 0 ≤ version
      path :=
        match terms.path with
        | none | some [] => defaultPath site version
        | some path => Site.escapePath path
      hasPorts := terms.ports.any Option.isSome
      secure := terms.secure.getD false }

/-- The cookies that a site sets by lists of attributes. -/
def ofLists (form : Form) (site : Site) : List (List Attribute) → Except Flaw (List Cookie)
  | [] => .ok []
  | list :: rest =>
    match ofAttributes form site list with
    | .ok cookie => (ofLists form site rest).map (cookie :: ·)
    | .error .cookie => ofLists form site rest
    | .error .response => .error .response

/-- Reads the date in an attribute, whether it counts or not. -/
def checkDate (a : Attribute) : Except Flaw Unit :=
  match Text.lower (String.ofList a.1), a.2 with
  | "expires", some value => (date value).map fun _ => ()
  | _, _ => .ok ()

/-- The cookies that a site sets by fields of a form. In the plain form the dates of all of them are
read first. -/
def ofFields (site : Site) (fields : List (List Char)) : Form → Except Flaw (List Cookie)
  | .plain => do
    let lists := fields.map attributes
    lists.forM fun list => (list.drop 1).forM checkDate
    ofLists .plain site lists
  | .words => ofLists .words site (fields.flatMap wordLists)

/-! ## Sites of a cookie -/

/-- Whether a site may set a cookie for its domain. -/
def fitsDomain (c : Cookie) (site : Site) : Bool :=
  let bare := if c.domain.head? = some '.' then c.domain.drop 1 else c.domain
  let isLocal := ".local".toList
  !c.hasDomain
    || ((bare.contains '.' || isLocal.isSuffixOf site.domain)
      && (!c.boundToDomain || c.domain.isSuffixOf site.domain
        || (bare ++ isLocal).isSuffixOf site.domain || site.domain.head? = some '.'
        || c.domain.isSuffixOf ('.' :: site.domain)))

/-- Whether `port` is in a list of ports, which is read up to the first that is no integer. -/
def listsPort (port : List Char) : List (List Char) → Bool
  | [] => false
  | p :: rest => (Integer.read (String.ofList p)).toBool && (p = port || listsPort port rest)

/-- Whether a site may set a cookie. -/
def isAccepted (c : Cookie) (site : Site) : Except Fault Bool := do
  if !c.fitsDomain site then return false
  if !c.hasPorts then return true
  return listsPort ((← site.port).getD "80".toList) (Host.splitOn ',' (c.ports.getD []))

/-- A text with a dot in front of it. -/
def dotted (s : List Char) : List Char :=
  if s.head? = some '.' then s else '.' :: s

/-- Whether a site is in the domain of a cookie. -/
def coversDomain (c : Cookie) (site : Site) : Bool :=
  let domain := if c.domain.isEmpty then [] else dotted c.domain
  (domain.isSuffixOf (dotted site.host) || domain.isSuffixOf (dotted site.domain))
    && (!c.boundToDomain || domain.isSuffixOf ('.' :: site.domain))

/-- Whether a site is below the path of a cookie. -/
def coversPath (c : Cookie) (site : Site) : Bool :=
  c.path = site.path
    || (c.path.isPrefixOf site.path
      && (c.path.getLast? = some '/' || site.path[c.path.length]? = some '/'))

/-- Whether a cookie goes to a site. -/
def goesTo (c : Cookie) (site : Site) : Except Fault Bool := do
  let isSecure := site.kind = "https".toList || site.kind = "wss".toList
  if !(c.coversDomain site && c.coversPath site && (!c.secure || isSecure)) then return false
  match c.ports with
  | none | some [] => return true
  | some ports => return (Host.splitOn ',' ports).contains ((← site.port).getD "80".toList)

/-- The text of a cookie in the field that takes it to a site. -/
def text (c : Cookie) : List Char :=
  match c.value with
  | some value => c.name ++ '=' :: value
  | none => c.name

end Cookie

end ApiClient
