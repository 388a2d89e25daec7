import ApiClient.Proofs.Auth.Renewal
import ApiClient.Proofs.Client.Received
import ApiClient.Proofs.Http.Charset

/-!
# Signed requests with a body

To sign a request for a body is to read header fields back, which settles their character set; the
signature and the name of the client are then written in that set, and no longer in UTF-8. So a
request that is sent without a body may fail with one: it does if the name of the key or of the
client has a character that the set lacks (`Client.sent_with_body_iff`).
-/

namespace ApiClient

variable {r u t : Request} {now : Int} {keyId secret date : String} {lines names : List String}
  {body : List UInt8}

/-- Setting a field with an ASCII name writes its value, or fails if the character set lacks one of
its characters. -/
theorem Edit.setHeader_cases {name : String} (hname : IsAscii name) (value : String) (r : Request) :
    (r.headers.writingCharset.HasAll value ∧ ∃ headers, headers.settled = r.headers.settled ∧
      (setHeader name value).run r = .ok () { r with headers }) ∨
    (¬ r.headers.writingCharset.HasAll value ∧
      ∃ e, (setHeader name value).run r = .error (.encode e) r) := by
  cases hset : r.headers.set name value with
  | ok headers =>
    obtain ⟨bytes, hvalue, -⟩ := Headers.eq_of_set hname hset
    exact .inl ⟨Charset.encode_eq_ok_iff.mp ⟨bytes, hvalue⟩, headers, Headers.settled_set hset,
      setHeader_of_ok hset⟩
  | error e =>
    refine .inr ⟨fun hall => ?_, e, setHeader_of_error hset⟩
    obtain ⟨bytes, hvalue⟩ := Charset.encode_eq_ok_iff.mpr hall
    have hkey := r.headers.writingCharset.encode_of_isAscii hname
    have hwritten := Headers.set_eq_ok.mpr
      ⟨_, bytes, hkey, hvalue, Headers.takes_of_encode hkey hvalue, rfl⟩
    exact absurd (hset.symm.trans hwritten) nofun

namespace Signature

/-- The character set in which a signature for a fresh request is written: UTF-8 without a body, and
with one that of the rows that signing leaves. -/
def charsetFor (r : Request) (body : List UInt8) : Charset :=
  if body = [] then .utf8 else Headers.deduce (r.headers.besides (preparedNames body))

theorem settled_of_fresh_describe (hfresh : r.headers.settled = none)
    (h : (describe body).run r = .ok lines t) :
    t.headers.settled = some (Headers.deduce t.headers.rows) := by
  obtain ⟨headers, hkept, hsettles⟩ := describe_settles h
  rw [hsettles]
  show some headers.charset = some (Headers.deduce headers.rows)
  rw [Headers.charset, hkept, hfresh, Option.getD_none]

/-- What is put to prepare a signature is in ASCII. -/
theorem ascii_preparedRows (body : List UInt8) (hnetloc : IsAscii r.url.netloc)
    (hdate : IsAscii date) :
    ∀ row ∈ preparedRows r date body, AsciiBytes row.name ∧ AsciiBytes row.value := by
  have hrow : ∀ name value, IsAscii name → IsAscii value →
      AsciiBytes (Headers.row name value).name ∧ AsciiBytes (Headers.row name value).value :=
    fun _ _ hname hvalue => ⟨asciiBytes_of_isAscii hname, asciiBytes_of_isAscii hvalue⟩
  have hhost := hrow "host" _ (by decide) hnetloc
  have hdate := hrow "date" _ (by decide) hdate
  have hkind := hrow "content-type" "application/json" (by decide) (by decide)
  have hlength := hrow "content-length" _ (by decide) (isAscii_toString body.length)
  have hdigest := hrow "digest" _ (by decide) (isAscii_bodyDigest body)
  unfold preparedRows
  split
  · simp only [List.append_nil, List.forall_mem_cons]
    exact ⟨hhost, hdate, nofun⟩
  · simp only [List.cons_append, List.nil_append, List.forall_mem_cons]
    exact ⟨hhost, hdate, hkind, hlength, hdigest, nofun⟩

/-- Preparing a fresh request leaves it to be written in the character set of its signature. -/
theorem charset_of_prepare (hfresh : r.headers.settled = none) (hbody : r.body = .held body)
    (h : (prepare now none).run r = .ok (lines, names) u) :
    u.headers.writingCharset = charsetFor r body := by
  have hgiven : ∀ date ∈ (none : Option String), IsAscii date := by simp
  obtain ⟨date, body', hdate, hnetloc, hread, -, -, hrows, -⟩ := prepare_rows hgiven h
  obtain ⟨_, first, second, content, -, -, hread', hfirst, hsecond, more, -, hends⟩ :=
    prepare_eq_ok h
  rw [Request.read_of_held hbody] at hread hread'
  cases hread
  cases hread'
  have hunread : second.settled = none :=
    (Headers.settled_set hsecond).trans ((Headers.settled_set hfirst).trans hfresh)
  rcases hends with ⟨rfl, -, -, rfl⟩ | ⟨hsome, -, hdescribe⟩
  · show second.writingCharset = _
    rw [Headers.writingCharset, hunread, charsetFor, if_pos rfl, Option.getD_none]
  · have hascii := ascii_preparedRows body hnetloc (isAscii_of_dateText hgiven hdate)
    have hsettled := settled_of_fresh_describe hunread hdescribe
    rw [Headers.writingCharset, hsettled, Option.getD_some, hrows, Headers.deduce_putRows hascii,
      keys_preparedRows, charsetFor, if_neg hsome]
    rfl

theorem hasAll_fieldValue {set : Charset} {signature : String} (hsignature : IsAscii signature)
    (hnames : IsAscii (listed names)) :
    set.HasAll (fieldValue keyId signature names) ↔ set.HasAll keyId := by
  have hascii : ∀ s, IsAscii s → set.HasAll s := fun _ => Charset.hasAll_of_isAscii
  have hopening : set.HasAll "Signature keyId=\"" := hascii _ (by decide)
  have hmiddle : set.HasAll "\",algorithm=\"hmac-sha512\",signature=\"" := hascii _ (by decide)
  have hlist : set.HasAll "\",headers=\"" := hascii _ (by decide)
  have hclosing : set.HasAll "\"" := hascii _ (by decide)
  unfold fieldValue
  simp only [Charset.hasAll_append, hascii _ hsignature, hascii _ hnames, hopening, hmiddle, hlist,
    hclosing, true_and, and_true]

/-- A fresh request is signed exactly if the character set of its signature has the name of the
key. -/
theorem sign_cases (hfresh : r.headers.settled = none) (hbody : r.body = .held body)
    (hnetloc : IsAscii r.url.netloc) (hdate : dateText now none = .ok date) (keyId secret : String) :
    ((charsetFor r body).HasAll keyId ∧ ∃ t, (sign now keyId secret none).run r = .ok () t ∧
      t.headers.writingCharset = charsetFor r body) ∨
    (¬ (charsetFor r body).HasAll keyId ∧
      ∃ e t, (sign now keyId secret none).run r = .error (.encode e) t) := by
  have hread : (r.read .blocking).1 = .ok body := by rw [Request.read_of_held hbody]
  obtain ⟨u, hu⟩ := prepare_signed hnetloc (by simp) hdate hread
  have hcharset := charset_of_prepare hfresh hbody hu
  have hvalue : ∀ set : Charset, set.HasAll (fieldValue keyId
      (compute secret (signedLines r date body)) (signedNames body)) ↔ set.HasAll keyId := fun set =>
    hasAll_fieldValue (Text.Base64.isAscii_encode _) (isAscii_signedNames body)
  have hrun : (sign now keyId secret none).run r = (Edit.setHeader "Authorization"
      (fieldValue keyId (compute secret (signedLines r date body)) (signedNames body))).run u := by
    rw [sign, EStateM.run_bind, hu]
  rw [hrun, ← hvalue, ← hcharset]
  have hname : IsAscii "Authorization" := by decide
  rcases Edit.setHeader_cases hname _ u with ⟨hall, headers, hkept, hset⟩ | ⟨hlacks, e, hset⟩
  · refine .inl ⟨hall, _, hset, ?_⟩
    show headers.writingCharset = _
    rw [Headers.writingCharset, Headers.writingCharset, hkept]
  · exact .inr ⟨hlacks, e, u, hset⟩

end Signature

/-- `r₀` is the request `r` without its body, and has not been read. -/
structure Request.WithoutBody (r₀ r : Request) : Prop where
  method : r₀.method = r.method
  url : r₀.url = r.url
  empty : r₀.body = .held []
  fresh : r₀.headers.settled = none

namespace Client

variable {c : Client} {transport : Transport} {q : Request} {s : Traffic}

/-- Signing a request whose body is held attaches the credential and names the client. -/
theorem sign_run (c : Client) (hbody : r.body = .held body) : c.sign.run r =
    (c.authorization.attach c.now >>= fun _ =>
      Edit.setHeader "User-Agent" c.config.userAgent).run r := by
  have hread : r.read .async = (.ok body, r) := Request.read_of_held hbody
  rw [sign, Edit.get_bind]
  simp only [hread]
  rfl

/-- A client with a key signs a fresh request exactly if the character set of the signature has the
names of the key and of the client. -/
theorem signed_cases (c : Client) (hfresh : r.headers.settled = none) (hbody : r.body = .held body)
    (hnetloc : IsAscii r.url.netloc) (hdate : Signature.dateText c.now none = .ok date)
    (keyId secret : String) :
    let set := Signature.charsetFor r body
    let signed := (c.withCredential (.signature keyId secret)).signed r
    ((set.HasAll keyId ∧ set.HasAll c.config.userAgent) ∧ ∃ t, signed = .ok t) ∨
    (¬ (set.HasAll keyId ∧ set.HasAll c.config.userAgent) ∧ ∃ e, signed = .error (.encode e)) := by
  intro set signed
  have hrun : (c.withCredential (.signature keyId secret)).sign.run r =
      (Signature.sign c.now keyId secret none >>= fun _ =>
        Edit.setHeader "User-Agent" c.config.userAgent).run r := sign_run _ hbody
  rw [EStateM.run_bind] at hrun
  rcases Signature.sign_cases hfresh hbody hnetloc hdate keyId secret with
    ⟨hkey, t, hsign, hcharset⟩ | ⟨hkey, e, t, hsign⟩
  · rw [hsign] at hrun
    have hname : IsAscii "User-Agent" := by decide
    rcases Edit.setHeader_cases hname c.config.userAgent t with
      ⟨hagent, headers, -, hset⟩ | ⟨hagent, e, hset⟩
    · rw [hcharset] at hagent
      exact .inl ⟨⟨hkey, hagent⟩, _, signed_eq_ok.mpr (hrun.trans hset)⟩
    · rw [hcharset] at hagent
      exact .inr ⟨fun h => hagent h.2, e, signed_eq_error.mpr ⟨_, hrun.trans hset⟩⟩
  · rw [hsign] at hrun
    exact .inr ⟨fun h => hkey h.1, e, signed_eq_error.mpr ⟨_, hrun⟩⟩

/-- Whether the receiver of metrics lets a request pass depends on its method and address only. -/
theorem passed_congr {q u : Request} (hmethod : q.method = u.method) (hurl : q.url = u.url) :
    (c.dispatch transport s q).passed = (c.dispatch transport s u).passed := by
  have hstarted : MetricEvent.started q = .started u := by
    rw [MetricEvent.started, MetricEvent.started, MetricEvent.labelsOf, MetricEvent.labelsOf,
      hmethod, hurl]
  have hdispatch : ∀ q : Request, c.dispatch transport s q =
      Dispatch.ofAnswer c.receiver? s.clock q (transport.answer s.sent q) := fun _ => rfl
  rw [hdispatch, hdispatch]
  unfold Dispatch.ofAnswer
  cases c.receiver? with
  | none => rfl
  | some receiver =>
    dsimp only
    cases hfirst : receiver [.started u] with
    | some e =>
      rw [Dispatch.measured_of_some hfirst, Dispatch.measured_of_some (hstarted ▸ hfirst)]
    | none =>
      rw [Dispatch.measured_of_none hfirst, Dispatch.measured_of_none (hstarted ▸ hfirst)]

/-- What is signed is for a host in ASCII, at a time that has a date. -/
theorem date_of_sign (h : (c.withCredential (.signature keyId secret)).sign.run r = .ok () t) :
    IsAscii r.url.netloc ∧ ∃ date, Signature.dateText c.now none = .ok date := by
  obtain ⟨content, u, hattach, -, -⟩ := sign_eq_ok h
  obtain ⟨⟨lines, names⟩, v, hprepare, -⟩ := Edit.bind_eq_ok.mp hattach
  obtain ⟨date, -, -, -, hdate, hnetloc, -⟩ := Signature.prepare_eq_ok hprepare
  exact ⟨hnetloc, date, hdate⟩

section

variable [Platform]

/-- A signed request that is sent without a body is sent with one exactly if the names of the key
and of the client can be written in the character set of the header rows that signing leaves as they
came. Otherwise the call fails as the signature or the name cannot be written. -/
theorem sent_with_body_iff {r₀ : Request} (hfresh : r.headers.settled = none)
    (hbody : r.body = .held body) (hsome : body ≠ []) (hbare : r₀.WithoutBody r)
    (hsent : ∃ q, (Exchange.after
      ((c.withCredential (.signature keyId secret)).perform transport r₀) s).sent =
        s.sent ++ [q]) :
    let call := (c.withCredential (.signature keyId secret)).perform transport r
    let set := Headers.deduce (r.headers.besides (Signature.preparedNames body))
    ((∃ q, (Exchange.after call s).sent = s.sent ++ [q]) ↔
      set.HasAll keyId ∧ set.HasAll c.config.userAgent) ∧
    (¬ (set.HasAll keyId ∧ set.HasAll c.config.userAgent) →
      (Exchange.after call s).sent = s.sent ∧
        ∃ e, Exchange.result call s = .error (.fault (.encode e))) := by
  intro call set
  obtain ⟨q₀, hsent⟩ := hsent
  obtain ⟨t₀, hsign₀, hopen, hpassed₀, -⟩ := sent_iff.mp hsent
  obtain ⟨hnetloc, date, hdate⟩ := date_of_sign hsign₀
  rw [hbare.url] at hnetloc
  have hset : Signature.charsetFor r body = set := if_neg hsome
  have hcases := signed_cases c hfresh hbody hnetloc hdate keyId secret
  rw [hset] at hcases
  rcases hcases with ⟨hall, t, hsigned⟩ | ⟨hlacks, e, hsigned⟩
  · have hsign := signed_eq_ok.mp hsigned
    -- the receiver of metrics sees the same labels for the two requests
    have hlabels := sentFor_of_sign hsign
    have hlabels₀ := sentFor_of_sign hsign₀
    have hpassed := (passed_congr (hlabels.method.trans (hbare.method.symm.trans
      hlabels₀.method.symm)) (hlabels.url.trans (hbare.url.symm.trans hlabels₀.url.symm))).trans
        hpassed₀
    exact ⟨iff_of_true ⟨_, sent_iff.mpr ⟨t, hsign, hopen, hpassed, rfl⟩⟩ hall,
      fun h => absurd hall h⟩
  · have hstays : (Exchange.after call s).sent = s.sent := by
      rw [sent_perform, hsigned]
    refine ⟨iff_of_false ?_ hlacks, fun _ => ⟨hstays, e, ?_⟩⟩
    · rintro ⟨q, hq⟩
      rw [hstays] at hq
      simp at hq
    · rw [result_perform, hsigned]

end

section Plain

attribute [local instance] Platform.plain

/-- The name of the key has a character beyond ASCII. A request is sent without a body; with one it
fails, but is sent again with a row of its own in UTF-8. -/
theorem sent_with_body_of_accent :
    let c : Client := {
      levels := [], now := 0
      config := {
        baseUrl := "https://engine.test", credential := none, transport := .network
        userAgent := "agent", logger := "app", reportsFailures := true, measures := false
        version := "" } }
    let bare : Request := {
      method := "PUT", body := .held [], headers := { rows := [] }
      url := {
        scheme := "https", userinfo := "", host := "engine.test", port := none, path := "/x"
        query := none, fragment := none } }
    let r : List HeaderRow → Request := fun rows =>
      { bare with headers := { rows }, body := .held [0x31] }
    let accent : HeaderRow := { name := Headers.asciiBytes "X-Name", value := [0xC3, 0xA9] }
    let call : Request → Exchange Response :=
      (c.withCredential (.signature "ké" "s")).perform fun _ _ => .error .closed
    (∃ q, (Exchange.after (call bare) {}).sent = [] ++ [q]) ∧
      ((Exchange.after (call (r [])) {}).sent = [] ∧
        ∃ e, Exchange.result (call (r [])) {} = .error (.fault (.encode e))) ∧
      ∃ q, (Exchange.after (call (r [accent])) {}).sent = [] ++ [q] := by
  intro c bare r accent call
  have hdate : Signature.dateText 0 none = .ok "Thu, 01 Jan 1970 00:00:00 GMT" := by decide
  have hsent : ∃ q, (Exchange.after (call bare) {}).sent = [] ++ [q] := by
    rcases signed_cases c (r := bare) rfl rfl (by decide) hdate "ké" "s" with
      ⟨-, t, hsigned⟩ | ⟨hlacks, -⟩
    · exact ⟨_, sent_iff.mpr ⟨t, signed_eq_ok.mp hsigned, by decide, rfl, rfl⟩⟩
    · exact absurd ⟨fun _ _ => trivial, fun _ _ => trivial⟩ hlacks
  have hbare : ∀ rows, bare.WithoutBody (r rows) := fun _ => ⟨rfl, rfl, rfl, rfl⟩
  obtain ⟨-, hfails⟩ := sent_with_body_iff (r := r []) rfl rfl (by decide) (hbare []) hsent
  obtain ⟨hsends, -⟩ :=
    sent_with_body_iff (r := r [accent]) rfl rfl (by decide) (hbare [accent]) hsent
  exact ⟨hsent, hfails (by decide +kernel), hsends.mpr (by decide +kernel)⟩

end Plain

end Client

end ApiClient
