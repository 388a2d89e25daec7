import ApiClient.Client
import ApiClient.Proofs.Auth.Signature
import ApiClient.Proofs.Trace.Message

/-!
# Requests under two credentials

A request that is given two credentials of one kind. The two requests that come out agree but for
the value of the authorization field, and the other fields are read the same, although the character
set in which they are read may be another one.
-/

namespace ApiClient

/-- Two requests agree but for the value of the authorization field. -/
structure Request.Alike (q u : Request) : Prop where
  /-- They have the same method. -/
  method : q.method = u.method
  /-- They have the same address. -/
  url : q.url = u.url
  /-- They have the same body, which is held. -/
  body : ∃ bytes, q.body = .held bytes ∧ u.body = .held bytes
  /-- Their header fields agree but for the authorization fields, which are in the same places. -/
  rows : RowsAlike (Headers.fieldKey "Authorization") q.headers.rows u.headers.rows
  /-- The first has an authorization field. -/
  left : q.headers.hasKey (Headers.fieldKey "Authorization") = true
  /-- The second has an authorization field. -/
  right : u.headers.hasKey (Headers.fieldKey "Authorization") = true
  /-- Their other header fields are read the same. -/
  reads : Headers.ReadAlike q.headers.charset u.headers.charset
    (otherRows (Headers.fieldKey "Authorization") q.headers.rows)

/-- A response sets cookies, by texts in UTF-8, and its header fields have not been read yet. -/
structure Response.SetsCookies (p : Response) : Prop where
  /-- There is a cookie. -/
  cookie : p.headers.hasKey (Headers.fieldKey "Set-Cookie") = true
  /-- Cookies are texts in UTF-8. -/
  utf8 : ∀ r ∈ p.headers.rows, r.key = Headers.fieldKey "Set-Cookie" →
    Charset.utf8.covers r.value = true
  /-- The character set of the header fields is not settled. -/
  unread : p.headers.settled = none

/-- Two responses agree but for the cookies that they set. -/
structure Response.Alike (p q : Response) : Prop where
  /-- They have the same status. -/
  status : p.status = q.status
  /-- They have the same body. -/
  body : p.body = q.body
  /-- They have the same other header fields. -/
  others : otherRows (Headers.fieldKey "Set-Cookie") p.headers.rows =
    otherRows (Headers.fieldKey "Set-Cookie") q.headers.rows
  /-- The first sets cookies. -/
  left : p.SetsCookies
  /-- The second sets cookies. -/
  right : q.SetsCookies

/-- Two answers of a transport agree but for cookies: they are responses that do, or failures. -/
def AnswersAlike : Except Fault Response → Except Fault Response → Prop
  | .ok p, .ok q => p.Alike q
  | .error _, .error _ => True
  | _, _ => False

namespace AnswersAlike

variable {p : Response} {answer : Except Fault Response}

theorem left (h : AnswersAlike (.ok p) answer) : p.SetsCookies := by
  cases answer with
  | ok q => exact Response.Alike.left h
  | error f => cases h

theorem right (h : AnswersAlike answer (.ok p)) : p.SetsCookies := by
  cases answer with
  | ok q => exact Response.Alike.right h
  | error f => cases h

end AnswersAlike

namespace Headers

/-- A field that is set and then another one: its single row, and how the rows are read. -/
theorem set_set {h first second : Headers} {name value other text : String} (hname : IsAscii name)
    (hother : IsAscii other) (hne : fieldKey other ≠ fieldKey name)
    (hfirst : h.set name value = .ok first) (hsecond : first.set other text = .ok second) :
    ∃ v w, h.writingCharset.encode value.toList = .ok v ∧
      h.writingCharset.encode text.toList = .ok w ∧ second.settled = h.settled ∧
      second.rows = putRow { name := asciiBytes other, value := w }
        (putRow { name := asciiBytes name, value := v } h.rows) ∧
      second.rows.filter (fun r => r.key = fieldKey name) =
        [{ name := asciiBytes name, value := v }] := by
  obtain ⟨v, hv, _, rfl⟩ := eq_of_set hname hfirst
  obtain ⟨w, hw, _, rfl⟩ := eq_of_set hother hsecond
  refine ⟨v, w, hv, hw, rfl, rfl, ?_⟩
  have hrow : HeaderRow.key { name := asciiBytes other, value := w } ≠ fieldKey name := hne
  exact (putRow_filter_of_ne hrow _).trans
    (putRow_filter_self { name := asciiBytes name, value := v } h.rows)

end Headers

theorem Response.Alike.reads {p q : Response} (h : p.Alike q) :
    Headers.ReadAlike p.headers.charset q.headers.charset
      (otherRows (Headers.fieldKey "Set-Cookie") p.headers.rows) :=
  Headers.readAlike_charset (by decide) (h.left.unread.trans h.right.unread.symm) h.others
    fun _ => ⟨h.left.utf8, h.right.utf8⟩

namespace Signature

end Signature

namespace Client

variable {now : Int} {k l : Credential} {r t u : Request}

/-- A client with another credential. -/
def withCredential (c : Client) (k : Credential) : Client :=
  { c with config := { c.config with credential := some k } }

/-- Signing a request reads its body, attaches the credential and names the client. -/
theorem sign_eq_ok {c : Client} (h : c.sign.run r = .ok () t) :
    ∃ bytes s, (c.authorization.attach c.now).run { r with body := .held bytes } = .ok () s ∧
      (Edit.setHeader "User-Agent" c.config.userAgent).run s = .ok () t ∧
        (r.read .async).1 = .ok bytes := by
  cases hread : (r.read .async).1 with
  | error f =>
    obtain ⟨u, hpair⟩ : ∃ u, r.read .async = (.error f, u) := ⟨_, Prod.ext hread rfl⟩
    rw [sign, Edit.get_bind] at h
    simp only [hpair] at h
    cases h
  | ok bytes =>
    have hpair : r.read .async = (.ok bytes, { r with body := .held bytes }) :=
      Prod.ext hread (Request.read_eq hread)
    rw [sign, Edit.get_bind] at h
    simp only [hpair] at h
    obtain ⟨⟨⟩, s, hs, h⟩ := Edit.bind_eq_ok.mp h
    cases hs
    obtain ⟨⟨⟩, s, hs, h⟩ := Edit.bind_eq_ok.mp h
    exact ⟨bytes, s, hs, h, rfl⟩

end Client

end ApiClient
