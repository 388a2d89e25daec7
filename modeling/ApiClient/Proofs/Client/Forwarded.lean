import ApiClient.Proofs.Client.Received

/-!
# What is added to a request

A call changes its request in the documented places only. The transport gets the method, the address
and all bytes of the body as they came, a single row that names the client, and the other header
rows as they came and in their order, but for the authorization and, if the request is signed, the
fields that are signed.
-/

namespace ApiClient

/-- A body that can be read is held, or it is a stream without a failure, of which nothing has been
read. -/
theorem Body.read_eq_ok {mode : StreamMode} {body : Body} {bytes : List UInt8} :
    (body.read mode).1 = .ok bytes ↔
      body = .held bytes ∨ ∃ chunks, body = .stream mode chunks none ∧ bytes = chunks.flatten := by
  cases body with
  | held content => simp [read]
  | spent m => simp [read]
  | stream m chunks failure =>
    by_cases hmode : m = mode
    · subst hmode
      cases failure with
      | none => simp [read, eq_comm]
      | some e => simp [read]
    · simp [read, hmode]

namespace Client

variable {c : Client} {r t : Request}

/-- The names of the header fields that a client sets on a request with a body. -/
def ownNames (c : Client) (body : List UInt8) : List String :=
  "User-Agent" :: c.authorization.ownNames body

/-- The character set in which a client writes its name: the one that the signature for a body has
settled, or that of the request as it came. -/
def namingCharset (c : Client) (q r : Request) (body : List UInt8) : Charset :=
  if c.authorization.signs ∧ body ≠ [] then q.headers.charset else r.headers.writingCharset

/-- A request `q` is what a client makes of the request `r` with the bytes `body`. -/
structure Forwards (c : Client) (q r : Request) (body : List UInt8) : Prop where
  /-- The body came in memory, or as a stream that has been read to its end. -/
  came : r.body = .held body ∨ ∃ chunks, r.body = .stream .async chunks none ∧ body = chunks.flatten
  /-- All of the body is sent. -/
  held : q.body = .held body
  /-- There is a single row that names the client. -/
  named : ∃ value, (c.namingCharset q r body).encode c.config.userAgent.toList = .ok value ∧
    q.headers.rows.filter (fun row => row.key = Headers.fieldKey "User-Agent") =
      [{ name := Headers.asciiBytes "User-Agent", value }]
  /-- Method, address and the other header rows are kept. -/
  kept : Request.KeptBesides (c.ownNames body) q r

/-- Signing keeps a request but for the fields that are the client's own. -/
theorem kept_of_sign {body : List UInt8} (h : c.sign.run r = .ok () t)
    (hread : (r.read .async).1 = .ok body) : Request.KeptBesides (c.ownNames body) t r := by
  obtain ⟨content, u, hu, ht, hcontent⟩ := sign_eq_ok h
  obtain rfl : body = content := Except.ok.inj (hread.symm.trans hcontent)
  have hattach : Request.KeptBesides (c.ownNames body) u { r with body := .held body } := by
    rw [← Edit.after_of_ok hu]
    exact (Authorization.keeps_attach c.now c.authorization rfl).mono (List.subset_cons_self _ _)
  have hname : Request.KeptBesides (c.ownNames body) t u := by
    rw [← Edit.after_of_ok ht]
    exact Edit.keeps_setHeader (by decide) List.mem_cons_self _
  exact hname.trans (hattach.trans ⟨rfl, rfl, rfl⟩)

theorem keeps_useAddressCredentials : useAddressCredentials.Keeps ["Authorization"] r := by
  refine Edit.keeps_get_bind ?_
  obtain ⟨name, password⟩ := r.url.credentials
  show Edit.Keeps _ (if name = [] ∧ password = [] then pure () else _) r
  split
  · exact Edit.keeps_pure ()
  · exact Edit.keeps_setHeader (by decide) List.mem_cons_self _

/-- Logging a request and using its address keep all but the authorization. -/
theorem kept_outgoing (c : Client) (t : Request) :
    Request.KeptBesides ["Authorization"] (c.outgoing t) t := by
  obtain ⟨headers, hrows, htraced⟩ := t.traced_eq c.levels c.config.logger
  have hlogged : Request.KeptBesides ["Authorization"] (t.traced c.levels c.config.logger) t := by
    rw [htraced]
    exact ⟨rfl, rfl, by rw [Headers.besides, Headers.besides, hrows]⟩
  rw [← Edit.after_of_ok (outgoing_run c t)]
  exact keeps_useAddressCredentials.trans hlogged

theorem settled_outgoing {set : Charset} (c : Client) (h : t.headers.settled = some set) :
    (c.outgoing t).headers.charset = set := by
  have htraced : (t.traced c.levels c.config.logger).headers.settled = some set := by
    unfold Request.traced
    split
    · show some t.headers.charset = _
      rw [Headers.charset, h, Option.getD_some]
    · exact h
  unfold outgoing withAddressCredentials
  split
  · rw [Headers.charset, htraced, Option.getD_some]
  · show (t.traced c.levels c.config.logger).headers.settled.getD _ = set
    rw [htraced, Option.getD_some]

theorem named_of_sign {body : List UInt8} (h : c.sign.run r = .ok () t)
    (hread : (r.read .async).1 = .ok body) : ∃ value,
      (c.namingCharset (c.outgoing t) r body).encode c.config.userAgent.toList = .ok value ∧
        t.headers.rows.filter (fun row => row.key = Headers.fieldKey "User-Agent") =
          [{ name := Headers.asciiBytes "User-Agent", value }] := by
  obtain ⟨content, u, hu, ht, hcontent⟩ := sign_eq_ok h
  obtain rfl : body = content := Except.ok.inj (hread.symm.trans hcontent)
  obtain ⟨headers, hset, rfl⟩ := Edit.setHeader_eq_ok.mp ht
  obtain ⟨value, hvalue, _, hheaders⟩ := Headers.eq_of_set (by decide) hset
  refine ⟨value, ?_, ?_⟩
  · have hnamed : headers.settled = u.headers.settled := Headers.settled_set hset
    have hsettled := Authorization.settled_of_attach rfl hu
    unfold namingCharset
    split at hsettled
    · rename_i hsigned
      obtain ⟨set, hsome⟩ := hsettled
      rw [if_pos hsigned, settled_outgoing c (hnamed.trans hsome)]
      rwa [Headers.writingCharset, hsome, Option.getD_some] at hvalue
    · rename_i hunsigned
      rw [if_neg hunsigned]
      rwa [Headers.writingCharset, hsettled] at hvalue
  · rw [hheaders]
    exact putRow_filter_self { name := Headers.asciiBytes "User-Agent", value } u.headers.rows

/-- What is passed on for a request that is signed is what the client makes of it. -/
theorem forwards_of_sign (h : c.sign.run r = .ok () t) :
    ∃ body, c.Forwards (c.outgoing t) r body := by
  obtain ⟨-, -, body, hread, hheld⟩ := sentFor_of_sign h
  obtain ⟨value, hvalue, hrow⟩ := named_of_sign h hread
  have hkept := kept_outgoing c t
  have hname : (c.outgoing t).headers.rows.filter
      (fun row => row.key = Headers.fieldKey "User-Agent") =
        t.headers.rows.filter fun row => row.key = Headers.fieldKey "User-Agent" :=
    Headers.filter_eq_of_besides hkept.rows (by decide)
  have hsub : ["Authorization"] ⊆ c.ownNames body := by
    intro name hname
    obtain rfl := List.mem_singleton.mp hname
    exact List.mem_cons_of_mem _ List.mem_cons_self
  exact ⟨body, {
    came := Body.read_eq_ok.mp (mapError_eq_ok.mp hread)
    held := hheld
    named := ⟨value, hvalue, hname.trans hrow⟩
    kept := (hkept.mono hsub).trans (kept_of_sign h hread) }⟩

section

variable [Platform]

/-- A call that does not pass its request on fails. -/
theorem failed_or_sent (c : Client) (transport : Transport) (r : Request) (s : Traffic) :
    ((Exchange.after (c.perform transport r) s).sent = s.sent ∧
      ∃ f, Exchange.result (c.perform transport r) s = .error (.fault f)) ∨
    ∃ t, c.sign.run r = .ok () t ∧
      (Exchange.after (c.perform transport r) s).sent = s.sent ++ [c.outgoing t] := by
  have hsent := sent_perform c transport r s
  have hresult := result_perform c transport r s
  cases hsigned : c.signed r with
  | error f =>
    rw [hsigned] at hsent hresult
    exact .inl ⟨hsent, f, hresult⟩
  | ok t =>
    rw [hsigned] at hsent hresult
    simp only at hsent hresult
    split at hsent
    · exact .inr ⟨t, signed_eq_ok.mp hsigned, hsent⟩
    · rename_i hstays
      refine .inl ⟨hsent, ?_⟩
      by_cases hclosed : s.closed = true
      · rw [if_pos hclosed] at hresult
        exact ⟨.closed, hresult⟩
      · have hpassed : (c.dispatch transport s (c.outgoing t)).passed = false := by
          simpa [hclosed] using hstays
        obtain ⟨e, he⟩ := dispatch_of_not_passed hpassed
        rw [if_neg hclosed, he] at hresult
        exact ⟨.outside e, hresult⟩

/-- A call fails and sends nothing, or it sends one request, in which it has changed what is the
client's own and nothing else. -/
theorem forwarded_unchanged (c : Client) (transport : Transport) (r : Request) (s : Traffic) :
    ((Exchange.after (c.perform transport r) s).sent = s.sent ∧
      ∃ f, Exchange.result (c.perform transport r) s = .error (.fault f)) ∨
    ∃ q body, (Exchange.after (c.perform transport r) s).sent = s.sent ++ [q] ∧
      c.Forwards q r body := by
  rcases failed_or_sent c transport r s with hfailed | ⟨t, hsign, hsent⟩
  · exact .inl hfailed
  · obtain ⟨body, hforwards⟩ := forwards_of_sign hsign
    exact .inr ⟨c.outgoing t, body, hsent, hforwards⟩

end

section Plain

attribute [local instance] Platform.plain

/-- A stream is sent in full, and the rows of one name that came apart stay where they were. -/
example :
    let c : Client := {
      levels := [("app.trace", 5)], now := 0
      config := {
        baseUrl := "https://engine.test", credential := some (.bearer "T"), transport := .network
        userAgent := "agent", logger := "app", reportsFailures := false, measures := false
        version := "" } }
    let r : Request := {
      method := "PUT", body := .stream .async [[1, 2], [], [3]] none
      headers := {
        rows := [Headers.row "X-A" "1", Headers.row "user-agent" "x", Headers.row "x-a" "2"] }
      url := {
        scheme := "https", userinfo := "", host := "engine.test", port := none, path := "/x"
        query := none, fragment := none } }
    let answer : Response := { status := 200, headers := { rows := [] }, body := .held [] }
    ((Exchange.after (c.perform (fun _ _ => .ok answer) r) {}).sent.map fun q =>
      (q.body, q.headers.rows)) =
      [(.held [1, 2, 3], [Headers.row "X-A" "1", Headers.row "User-Agent" "agent",
        Headers.row "x-a" "2", Headers.row "Authorization" "Token T"])] := by
  decide +kernel

end Plain

end Client

end ApiClient
