import ApiClient.Proofs.Auth.Frame
import ApiClient.Proofs.Auth.SignedText
import ApiClient.Proofs.Http.Rows

/-!
# Authorizing again

A request that is authorized a second time, be it sent again or with another credential, carries the
authorization of the second time only. The first one may leave fields behind, and a body that has
been read; what the second one signs and sends does not depend on them.
-/

namespace ApiClient

variable {r s t : Request} {now now₁ now₂ : Int} {given date₁ date₂ : Option String}
  {c c₁ c₂ : Credential} {lines names : List String} {date : String} {body : List UInt8}

/-- Two requests have the same method, address and readable body. -/
structure Request.SameContent (s r : Request) : Prop where
  /-- The method. -/
  method : s.method = r.method
  /-- The address. -/
  url : s.url = r.url
  /-- What reading the body in step gives. -/
  read : (s.read .blocking).1 = (r.read .blocking).1

/-! ## What is set -/

namespace Signature

/-- The names of the lines that are signed for a request with the body `body`. -/
def signedNames (body : List UInt8) : List String :=
  if body = [] then bodylessNames else bodyNames

/-- The rows that are put to prepare a signature. -/
def preparedRows (r : Request) (date : String) (body : List UInt8) : List HeaderRow :=
  [Headers.row "host" r.url.netloc, Headers.row "date" date] ++
    if body = [] then []
    else [Headers.row "content-type" "application/json",
      Headers.row "content-length" (toString body.length), Headers.row "digest" (bodyDigest body)]

/-- The row that a signature of a request is put in. -/
def signatureRow (keyId secret : String) (r : Request) (date : String) (body : List UInt8) :
    HeaderRow :=
  Headers.row "Authorization"
    (fieldValue keyId (compute secret (signedLines r date body)) (signedNames body))

theorem key_signatureRow (keyId secret : String) (r : Request) (date : String) (body : List UInt8) :
    (signatureRow keyId secret r date body).key = Headers.fieldKey "Authorization" := rfl

theorem isAscii_of_dateText (hgiven : ∀ date ∈ given, IsAscii date)
    (h : dateText now given = .ok date) : IsAscii date := by
  cases given with
  | some stated =>
    obtain rfl := Except.ok.inj h
    exact hgiven _ rfl
  | none => exact HttpDate.isAscii_of_ofSeconds (mapError_eq_ok.mp h)

theorem describe_rows (h : (describe body).run r = .ok lines t) :
    t.headers.rows = putRows [Headers.row "content-type" "application/json",
      Headers.row "content-length" (toString body.length),
      Headers.row "digest" (bodyDigest body)] r.headers.rows := by
  obtain ⟨kind, hkind, h⟩ := Edit.setHeader_bind_eq_ok.mp h
  obtain ⟨length, hlength, h⟩ := Edit.setHeader_bind_eq_ok.mp h
  obtain ⟨digest, hdigest, h⟩ := Edit.setHeader_bind_eq_ok.mp h
  obtain ⟨rfl, -⟩ := mapM_header (List.cons_ne_nil _ _) h
  obtain rfl := Headers.eq_of_set_ascii (by decide) (by decide) hkind
  obtain rfl := Headers.eq_of_set_ascii (by decide) (isAscii_toString _) hlength
  obtain rfl := Headers.eq_of_set_ascii (by decide) (isAscii_bodyDigest body) hdigest
  rfl

/-- Preparing a request puts its rows, and leaves method, address and body. -/
theorem prepare_rows (hgiven : ∀ date ∈ given, IsAscii date)
    (h : (prepare now given).run r = .ok (lines, names) t) :
    ∃ date body, dateText now given = .ok date ∧ IsAscii r.url.netloc ∧
      (r.read .blocking).1 = .ok body ∧ lines = signedLines r date body ∧
      names = signedNames body ∧
      t.headers.rows = putRows (preparedRows r date body) r.headers.rows ∧ t.SameContent r := by
  obtain ⟨date, body, hdate, hread, hlines⟩ := prepare_lines h
  obtain ⟨date', first, second, body', hdate', hnetloc, hread', hfirst, hsecond, more, -, hends⟩ :=
    prepare_eq_ok h
  rw [hdate] at hdate'
  rw [hread] at hread'
  cases hdate'
  cases hread'
  have hascii := isAscii_of_dateText hgiven hdate
  obtain rfl := Headers.eq_of_set_ascii (by decide) hnetloc hfirst
  obtain rfl := Headers.eq_of_set_ascii (by decide) hascii hsecond
  refine ⟨date, body, hdate, hnetloc, hread, hlines, ?_⟩
  rcases hends with ⟨rfl, rfl, -, rfl⟩ | ⟨hbody, rfl, hdescribe⟩
  · exact ⟨rfl, rfl, rfl, rfl, hread.symm⟩
  · have hrows := describe_rows hdescribe
    obtain ⟨⟨headers, rfl⟩, -⟩ := describe_eq_ok hdescribe
    refine ⟨(if_neg hbody).symm, ?_, rfl, rfl, hread.symm⟩
    rw [preparedRows, if_neg hbody, putRows_append]
    exact hrows

theorem prepare_signed (hnetloc : IsAscii r.url.netloc) (hgiven : ∀ date ∈ given, IsAscii date)
    (hdate : dateText now given = .ok date) (hread : (r.read .blocking).1 = .ok body) :
    ∃ t, (prepare now given).run r = .ok (signedLines r date body, signedNames body) t := by
  have hascii := isAscii_of_dateText hgiven hdate
  obtain ⟨names, t, h⟩ := prepare_ok hnetloc hdate hascii hread
  obtain ⟨_, body', -, -, hread', -, rfl, -⟩ := prepare_rows hgiven h
  rw [hread] at hread'
  cases hread'
  exact ⟨t, h⟩

theorem signedLines_congr (h : s.SameContent r) (date : String) (body : List UInt8) :
    signedLines s date body = signedLines r date body := by
  rw [signedLines, signedLines, h.method, h.url]

theorem isAscii_signedNames (body : List UInt8) : IsAscii (listed (signedNames body)) := by
  unfold signedNames
  split
  · decide
  · decide

theorem isAscii_signature {keyId : String} (hkey : IsAscii keyId) (secret : String)
    (lines : List String) (body : List UInt8) :
    IsAscii (fieldValue keyId (compute secret lines) (signedNames body)) :=
  isAscii_fieldValue hkey (Text.Base64.isAscii_encode _) (isAscii_signedNames body)

/-- Which fields are set depends on whether there is a body. -/
theorem keys_preparedRows (r : Request) (date : String) (body : List UInt8) :
    (preparedRows r date body).map HeaderRow.key =
      (preparedNames body).map Headers.fieldKey := by
  unfold preparedRows preparedNames
  split
  · rfl
  · rfl

end Signature

namespace Credential

/-- Whether a token or the name of a key is in ASCII. -/
def IsAscii : Credential → Prop
  | bearer token => ApiClient.IsAscii token
  | signature keyId _ => ApiClient.IsAscii keyId

/-- Authorizes a request with a credential, at the date given or at the second `now`. -/
def authorize (now : Int) (given : Option String) : Credential → Edit Unit
  | bearer token => Edit.setHeader "Authorization" ("Token " ++ token)
  | signature keyId secret => Signature.sign now keyId secret given

/-- A client authorizes its requests at the present second. -/
theorem attach_eq_authorize (now : Int) (c : Credential) :
    (Authorization.credential c).attach now = c.authorize now none := by
  cases c with
  | bearer token => rfl
  | signature keyId secret => rfl

/-- The rows that are put to authorize a request with a credential. -/
inductive Puts (now : Int) (given : Option String) (r : Request) :
    Credential → List HeaderRow → Prop
  /-- A token is put as it is. -/
  | bearer (token : String) :
      Puts now given r (bearer token) [Headers.row "Authorization" ("Token " ++ token)]
  /-- A signature is put behind what it covers, if that is at hand. -/
  | signature (keyId secret : String) {date : String} {body : List UInt8}
      (hnetloc : ApiClient.IsAscii r.url.netloc)
      (hdate : Signature.dateText now given = .ok date)
      (hread : (r.read .blocking).1 = .ok body) :
      Puts now given r (signature keyId secret)
        (Signature.preparedRows r date body ++
          [Signature.signatureRow keyId secret r date body])

theorem puts_of_authorize (hc : c.IsAscii) (hgiven : ∀ date ∈ given, ApiClient.IsAscii date)
    (h : (c.authorize now given).run r = .ok () t) :
    ∃ news, c.Puts now given r news ∧ t.headers.rows = putRows news r.headers.rows ∧
      t.SameContent r := by
  cases c with
  | bearer token =>
    have hvalue : ApiClient.IsAscii ("Token " ++ token) := IsAscii.append (by decide) hc
    obtain ⟨headers, hset, rfl⟩ := Edit.setHeader_eq_ok.mp h
    obtain rfl := Headers.eq_of_set_ascii (by decide) hvalue hset
    exact ⟨_, .bearer token, rfl, rfl, rfl, rfl⟩
  | signature keyId secret =>
    obtain ⟨⟨lines, names⟩, u, hu, h⟩ := Edit.bind_eq_ok.mp h
    obtain ⟨date, body, hdate, hnetloc, hread, rfl, rfl, hrows, hcontent⟩ :=
      Signature.prepare_rows hgiven hu
    have hvalue := Signature.isAscii_signature hc secret (Signature.signedLines r date body) body
    obtain ⟨headers, hset, rfl⟩ := Edit.setHeader_eq_ok.mp h
    obtain rfl := Headers.eq_of_set_ascii (by decide) hvalue hset
    refine ⟨_, .signature keyId secret hnetloc hdate hread, ?_,
      hcontent.method, hcontent.url, hcontent.read⟩
    rw [putRows_append, ← hrows]
    rfl

namespace Puts

variable {news olds : List HeaderRow}

theorem unique (h : c.Puts now given r news) (h' : c.Puts now given r olds) : news = olds := by
  cases h with
  | bearer token =>
    cases h'
    rfl
  | signature keyId secret hnetloc hdate hread =>
    cases h' with
    | signature _ _ _ hdate' hread' =>
      rw [hdate] at hdate'
      rw [hread] at hread'
      cases hdate'
      cases hread'
      rfl

/-- What is put depends on nothing of the header fields. -/
theorem congr (hcontent : s.SameContent r) (h : c.Puts now given s news) :
    c.Puts now given r news := by
  cases h with
  | bearer token => exact .bearer token
  | @signature keyId secret date body hnetloc hdate hread =>
    have hprepared : Signature.preparedRows s date body = Signature.preparedRows r date body := by
      rw [Signature.preparedRows, Signature.preparedRows, hcontent.url]
    rw [hcontent.url] at hnetloc
    rw [hcontent.read] at hread
    rw [hprepared, Signature.signatureRow, Signature.signedLines_congr hcontent]
    exact .signature keyId secret hnetloc hdate hread

/-- The authorization is put last. -/
theorem authorization_last (h : c.Puts now given r news) :
    ∃ before row, news = before ++ [row] ∧ row.key = Headers.fieldKey "Authorization" := by
  cases h with
  | bearer token => exact ⟨[], _, rfl, rfl⟩
  | signature keyId secret hnetloc hdate hread =>
    exact ⟨_, _, rfl, Signature.key_signatureRow keyId secret r _ _⟩

theorem nodup (h : c.Puts now given r news) : (news.map HeaderRow.key).Nodup := by
  cases h with
  | bearer token => exact List.pairwise_singleton _ _
  | @signature keyId secret date body hnetloc hdate hread =>
    rw [List.map_append, Signature.keys_preparedRows, List.map_singleton,
      Signature.key_signatureRow, Signature.preparedNames]
    split
    · show (["host", "date", "Authorization"].map Headers.fieldKey).Nodup
      decide
    · show ((["host", "date"] ++ Signature.describingNames ++ ["Authorization"]).map
        Headers.fieldKey).Nodup
      decide

/-- Credentials of one kind put rows of the same names. -/
theorem keys_eq (h : c₁.Puts now₁ date₁ r olds) (h' : c₂.Puts now₂ date₂ r news)
    (hkind : c₁.sameKind c₂ = true) : olds.map HeaderRow.key = news.map HeaderRow.key := by
  cases h with
  | bearer token =>
    cases h' with
    | bearer other => rfl
    | signature keyId secret => cases hkind
  | @signature keyId secret date body hnetloc hdate hread =>
    cases h' with
    | bearer token => cases hkind
    | @signature keyId' secret' date' body' hnetloc' hdate' hread' =>
      rw [hread] at hread'
      cases hread'
      rw [List.map_append, List.map_append, Signature.keys_preparedRows,
        Signature.keys_preparedRows, List.map_singleton, List.map_singleton,
        Signature.key_signatureRow, Signature.key_signatureRow]

/-- Authorizing succeeds where there is something to put. -/
theorem authorize (hc : c.IsAscii) (hgiven : ∀ date ∈ given, ApiClient.IsAscii date)
    (h : c.Puts now given r news) :
    ∃ t, (c.authorize now given).run r = .ok () t ∧
      t.headers.rows = putRows news r.headers.rows := by
  obtain ⟨t, hrun⟩ : ∃ t, (c.authorize now given).run r = .ok () t := by
    cases h with
    | bearer token =>
      have hvalue : ApiClient.IsAscii ("Token " ++ token) := IsAscii.append (by decide) hc
      exact ⟨_, Edit.setHeader_of_ok (Headers.set_of_isAscii _ (by decide) hvalue)⟩
    | @signature keyId secret date body hnetloc hdate hread =>
      obtain ⟨u, hu⟩ := Signature.prepare_signed hnetloc hgiven hdate hread
      have hvalue := Signature.isAscii_signature hc secret (Signature.signedLines r date body) body
      have hname : ApiClient.IsAscii "Authorization" := by decide
      have hset := Headers.set_of_isAscii u.headers hname hvalue
      exact ⟨_, Edit.bind_eq_ok.mpr ⟨_, u, hu, Edit.setHeader_of_ok hset⟩⟩
  obtain ⟨others, hputs, hrows, -⟩ := puts_of_authorize hc hgiven hrun
  rw [hputs.unique h] at hrows
  exact ⟨t, hrun, hrows⟩

end Puts

/-! ## Twice -/

/-- Signing a request that has been authorized before covers the lines of signing it afresh. -/
theorem prepare_again {keyId secret : String} (hdate : ∀ date ∈ given, ApiClient.IsAscii date)
    (hcontent : s.SameContent r)
    (h : ((signature keyId secret).authorize now given).run s = .ok () t) :
    ∃ signed s' r', (Signature.prepare now given).run s = .ok signed s' ∧
      (Signature.prepare now given).run r = .ok signed r' := by
  obtain ⟨⟨lines, names⟩, s', hs, -⟩ := Edit.bind_eq_ok.mp h
  obtain ⟨date, body, htext, hnetloc, hread, rfl, rfl, -⟩ := Signature.prepare_rows hdate hs
  rw [hcontent.url] at hnetloc
  rw [hcontent.read] at hread
  obtain ⟨r', hr⟩ := Signature.prepare_signed hnetloc hdate htext hread
  rw [← Signature.signedLines_congr hcontent] at hr
  exact ⟨_, s', r', hs, hr⟩

/-- A request that is authorized again carries the second authorization only. Authorizing it afresh
succeeds as well, and the one authorization field is the same; a signature covers the same lines;
and where the credentials are of one kind, all rows are the same, in the same order. -/
theorem authorize_twice (hc₁ : c₁.IsAscii) (hc₂ : c₂.IsAscii)
    (hdate₁ : ∀ date ∈ date₁, ApiClient.IsAscii date)
    (hdate₂ : ∀ date ∈ date₂, ApiClient.IsAscii date)
    (h₁ : (c₁.authorize now₁ date₁).run r = .ok () s)
    (h₂ : (c₂.authorize now₂ date₂).run s = .ok () t) :
    ∃ fresh, (c₂.authorize now₂ date₂).run r = .ok () fresh ∧
      (∃ row,
        t.headers.rows.filter (fun r => r.key = Headers.fieldKey "Authorization") = [row] ∧
        fresh.headers.rows.filter (fun r => r.key = Headers.fieldKey "Authorization") = [row]) ∧
      (∀ keyId secret, c₂ = signature keyId secret →
        ∃ signed s' r', (Signature.prepare now₂ date₂).run s = .ok signed s' ∧
          (Signature.prepare now₂ date₂).run r = .ok signed r') ∧
      (c₁.sameKind c₂ = true → t.headers.rows = fresh.headers.rows) := by
  obtain ⟨olds, hputs₁, hrows₁, hcontent⟩ := puts_of_authorize hc₁ hdate₁ h₁
  obtain ⟨news, hputs₂, hrows₂, -⟩ := puts_of_authorize hc₂ hdate₂ h₂
  have hputs₂ := hputs₂.congr hcontent
  obtain ⟨fresh, hfresh, hrows⟩ := hputs₂.authorize hc₂ hdate₂
  rw [hrows₁] at hrows₂
  refine ⟨fresh, hfresh, ?_, ?_, fun hkind => ?_⟩
  · obtain ⟨before, row, rfl, hkey⟩ := hputs₂.authorization_last
    rw [putRows_append] at hrows hrows₂
    rw [← hkey, hrows, hrows₂]
    exact ⟨row, putRow_filter_self row _, putRow_filter_self row _⟩
  · rintro keyId secret rfl
    exact prepare_again hdate₂ hcontent h₂
  · rw [hrows, hrows₂]
    exact putRows_putRows (hputs₁.keys_eq hputs₂ hkind) hputs₂.nodup r.headers.rows

/-- A request with a body in pieces and with two authorization fields is signed twice. -/
theorem authorize_twice_of_pieces :
    let url : Url := {
      scheme := "https", userinfo := "", host := "engine.example", port := some 8443
      path := "/api/vlan", query := some "page=1", fragment := none }
    let r : Request := {
      method := "POST", url, body := .stream .blocking [[123], [], [125]] none
      headers := { rows := [Headers.row "Authorization" "Token old",
        Headers.row "authorization" "Token older", Headers.row "Digest" "none"] } }
    let c : Credential := signature "key" "secret"
    ∃ s t fresh, (c.authorize 0 none).run r = .ok () s ∧
      (c.authorize 0 (some "Fri, 02 Jan 1970 00:00:00 GMT")).run s = .ok () t ∧
      (c.authorize 0 (some "Fri, 02 Jan 1970 00:00:00 GMT")).run r = .ok () fresh ∧
      t.headers.rows = fresh.headers.rows ∧
      ∃ row, t.headers.rows.filter (fun r => r.key = Headers.fieldKey "Authorization") = [row] := by
  intro url r c
  have hc : c.IsAscii := by
    show ApiClient.IsAscii "key"
    decide
  have hnone : ∀ date ∈ (none : Option String), ApiClient.IsAscii date := by decide
  have hsome : ∀ date ∈ some "Fri, 02 Jan 1970 00:00:00 GMT", ApiClient.IsAscii date := by decide
  have hdate : Signature.dateText 0 none = .ok "Thu, 01 Jan 1970 00:00:00 GMT" := by decide
  obtain ⟨s, hs, -⟩ := Puts.authorize (r := r) hc hnone
    (.signature "key" "secret" (by decide) hdate rfl)
  obtain ⟨-, -, -, hcontent⟩ := puts_of_authorize hc hnone hs
  obtain ⟨t, ht, -⟩ := Puts.authorize (r := s) hc hsome
    (.signature "key" "secret" (by rw [hcontent.url]; decide) rfl (by rw [hcontent.read]; rfl))
  obtain ⟨fresh, hfresh, ⟨row, hrow, -⟩, -, hrows⟩ := authorize_twice hc hc hnone hsome hs ht
  exact ⟨s, t, fresh, hs, ht, hfresh, hrows rfl, row, hrow⟩

end Credential

end ApiClient
