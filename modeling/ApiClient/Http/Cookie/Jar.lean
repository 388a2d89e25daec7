import ApiClient.Http.Cookie.Basic
import ApiClient.Http.Response

/-!
# Jars

The cookies that a response has set, in order. A cookie takes the place of an earlier one with its
domain, path and name.
-/

namespace ApiClient

/-- A collection of cookies. -/
abbrev Jar := List Cookie

namespace Jar

/-- Whether one of two cookies takes the place of the other. -/
def same (c d : Cookie) : Bool :=
  c.domain = d.domain && c.path = d.path && c.name = d.name

/-- Puts a cookie into a jar. -/
def put (cookie : Cookie) : Jar → Jar
  | [] => [cookie]
  | c :: rest => if same c cookie then cookie :: rest else c :: put cookie rest

/-- The cookies of a jar with those that share a key next to the first of them. -/
def groupBy (key : Cookie → List Char) (jar : Jar) : Jar :=
  (jar.map key).eraseDups.flatMap fun k => jar.filter fun c => key c = k

/-- The cookies of a jar by domains and paths, each in the order in which they came. -/
def sorted (jar : Jar) : Jar :=
  (jar.map Cookie.domain).eraseDups.flatMap fun domain =>
    groupBy Cookie.path (jar.filter fun c => c.domain = domain)

/-- The field that takes the cookies of a jar to a site, the ones with the longest paths first;
`none` if none of them goes there. -/
def field? (jar : Jar) (site : Site) : Except Fault (Option String) := do
  let cookies ← jar.sorted.filterM fun c => c.goesTo site
  let cookies := cookies.mergeSort fun c d => d.path.length ≤ c.path.length
  if cookies.isEmpty then return none
  return some ("; ".intercalate (cookies.map fun c => String.ofList c.text))

end Jar

/-- The fields of a response by which cookies are set in a form. -/
def Response.cookieFields (r : Response) (form : Cookie.Form) : List (List Char) :=
  let set := r.headers.charset
  let isField := fun (row : HeaderRow) =>
    Text.lower (String.ofList (set.decode row.key)) = form.fieldName
  (r.headers.rows.filter isField).map fun row => set.decode row.value

/-- The cookies that a response sets for the site of its request. Those of the later form come
first, and only count next to a field of the plain form; what is void in one form is void there
only. -/
def Response.cookies [Platform] (site : Site) (r : Response) : Except Fault Jar := do
  let cookiesOf := fun (form : Cookie.Form) =>
    ((Cookie.ofFields site (r.cookieFields form) form).toOption).getD []
  if (r.cookieFields .plain).isEmpty then return []
  let cookies ← (cookiesOf .words ++ cookiesOf .plain).filterM fun c => c.isAccepted site
  return cookies.foldl (fun jar c => Jar.put c jar) []

end ApiClient
