import ApiClient.Http.Cookie.Jar

/-!
# Redirections

A response may name the place that a request should have gone to. Redirections are not followed, but
the request that would follow one is prepared, with the cookies that the response has set, and that
fails if there is no such place or if the request does not fit it.
-/

namespace ApiClient

namespace Url

/-- The port that a scheme of the web implies. -/
def webPort? (scheme : String) : Option Int :=
  [("http", 80), ("https", 443)].lookup scheme

/-- The port that an address means. -/
def effectivePort? (u : Url) : Option Int :=
  u.port.or (webPort? u.scheme)

/-- Whether an address has a scheme and a host. -/
def isAbsolute (u : Url) : Bool :=
  u.scheme ≠ "" && u.host ≠ ""

variable [Platform]

/-- Whether two addresses have scheme, host and port in common. -/
def sameOrigin (u v : Url) : Except Fault Bool := do
  if u.scheme ≠ v.scheme then return false
  if (← u.shownHost) ≠ (← v.shownHost) then return false
  return u.effectivePort? = v.effectivePort?

/-- Whether `v` is the secure address of the host of `u`, which is not secure. -/
def isUpgrade (u v : Url) : Except Fault Bool := do
  if (← u.shownHost) ≠ (← v.shownHost) then return false
  return u.scheme = "http" && u.effectivePort? = some 80
    && v.scheme = "https" && v.effectivePort? = some 443

/-- The address that `place` denotes relative to `u`. -/
def join (u place : Url) : Except Fault Url := do
  let text ← (Reference.resolve u.text.toList place.text.toList).mapError .reference
  (Url.parse (String.ofList text)).mapError .url

/-- The address that a location denotes in the response to a request for `u`. A location with a
scheme and no host of its own is on the host of `u`, and one without a fragment takes that of `u`,
with its escapes resolved. -/
def redirect (u : Url) (location : String) : Except Fault Url := do
  let place ← (Url.parse location).mapError .location
  let place ←
    if place.scheme = "" then .ok place
    else if (← place.shownHost) = [] then (place.withHost (← u.shownHost)).mapError .url
    else .ok place
  let place ← if place.isAbsolute then .ok place else u.join place
  match u.fragment with
  | some fragment =>
    if fragment ≠ "" && (place.fragment.getD "") = "" then
      (place.withFragment (Percent.unescape fragment.toList)).mapError .url
    else return place
  | none => return place

end Url

namespace Request

variable [Platform]

/-- The method of the request that follows a redirection: a request that is redirected without a
promise to keep its method becomes a plain one. -/
def redirectMethod (method : String) (status : Int) : String :=
  if method ≠ "HEAD" && (status = 302 || status = 303) then "GET"
  else if method = "POST" && status = 301 then "GET"
  else method

/-- The request that follows a redirection of `r` to `place`. On another origin its host is named
anew, and a credential is taken along only to the secure address of the same host. Cookies are not
taken along, and a request that becomes a plain one has no body. -/
def redirected (r : Request) (status : Int) (place : Url) : Except Fault Request := do
  let method := redirectMethod r.method status
  let drop := fun (names : List String) (rows : List HeaderRow) =>
    rows.filter fun row => !names.any fun name => row.key = (Headers.row name "").key
  let rows ←
    if ← place.sameOrigin r.url then .ok r.headers.rows
    else do
      let rows :=
        if ← r.url.isUpgrade place then r.headers.rows else drop ["authorization"] r.headers.rows
      let text ← place.hostText.mapError .encode
      .ok (putRow (Headers.row "Host" text) rows)
  let becomesPlain := method ≠ r.method && method = "GET"
  let rows := if becomesPlain then drop ["content-length", "transfer-encoding"] rows else rows
  return {
    method
    url := place
    headers := .ofRows (drop ["cookie"] rows)
    body := if becomesPlain then .held [] else r.body }

/-- Gives a request the cookies of a jar that go to its site. -/
def addCookies (jar : Jar) (r : Request) : Except Fault Request := do
  if jar.isEmpty then return r
  match ← jar.field? (← r.site) with
  | none => return r
  | some field => Request.setHeader { r with headers := r.headers.settle } "Cookie" field

end Request

namespace Response

/-- The location that a response redirects to, if it does. -/
def location? (r : Response) : Option String :=
  if [301, 302, 303, 307, 308].contains r.status then r.headers.get? "Location" else none

variable [Platform]

/-- The request that follows the response to `request`, if it redirects. -/
def nextRequest? (request : Request) (r : Response) : Except Fault (Option Request) := do
  let jar ← r.cookies (← request.site)
  match r.location? with
  | none => return none
  | some location =>
    let next ← request.redirected r.status (← request.url.redirect location)
    return some (← next.addCookies jar)

end Response

end ApiClient
