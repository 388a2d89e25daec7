import ApiClient.Proofs.Client.Sent
import ApiClient.Proofs.Http.Unsettled

/-!
# Clients that are observed

A client may log what it does, and it may deliver metrics. Neither changes the requests that reach
the transport. It does not change what calls result in either, but for one thing: logging a request
settles the character set of its header fields, and if a user name or a password in the address
takes the place of authorization rows that are no text in UTF-8, the rows that are sent would be
read in another one.
-/

namespace ApiClient

/-- The authorization rows of a request are texts in UTF-8. -/
def Request.AuthorizationInUtf8 (r : Request) : Prop :=
  ∀ row ∈ r.headers.rows, row.key = Headers.fieldKey "Authorization" →
    Charset.utf8.covers row.value = true

/-- A transport answers by what it gets over the wire. -/
def Transport.OverWire (transport : Transport) : Prop :=
  ∀ earlier q, transport earlier q = transport (earlier.map Request.unsettled) q.unsettled

/-- Two states of a client are the same for those who use it. -/
structure Traffic.Alike (s t : Traffic) : Prop where
  /-- The client is closed in both or in none. -/
  closed : s.closed = t.closed
  /-- The same requests have gone over the wire. -/
  sent : s.sent.map Request.unsettled = t.sent.map Request.unsettled

namespace Client

variable {c : Client} {transport : Transport} {r t q u : Request} {s s' : Traffic}

/-- The receiver that a client uses does not fail. -/
def Steady (c : Client) : Prop :=
  ∀ receiver, c.receiver? = some receiver → ∀ events, receiver events = none

/-- A client with other levels of its loggers and with other metrics. -/
def observed (c : Client) (levels : Levels) (measures : Bool) (receiver : MetricReceiver) :
    Client :=
  { c with levels, receiver, config := { c.config with measures } }

/-- Performs calls in a row: what they result in, and what they leave. -/
def performAll [Platform] (c : Client) (transport : Transport) :
    List Request → Traffic → List (Except Error Response) × Traffic
  | [], s => ([], s)
  | r :: rest, s =>
    let (results, t) :=
      c.performAll transport rest (Exchange.after (c.perform transport r) s)
    (Exchange.result (c.perform transport r) s :: results, t)

/-! ## The request that is passed on -/

theorem unsettled_withAddressCredentials (h : q.unsettled = u.unsettled) :
    (withAddressCredentials q).unsettled = (withAddressCredentials u).unsettled := by
  obtain ⟨hmethod, hurl, hrows, hbody⟩ := Request.eq_of_unsettled h
  have hwire : ∀ r : Request, (withAddressCredentials r).unsettled =
      { r with
        headers := .ofRows (if r.url.credentials.1 = [] ∧ r.url.credentials.2 = [] then
            r.headers.rows
          else
            putRow (Headers.row "Authorization"
              (basicAuthorization r.url.credentials.1 r.url.credentials.2)) r.headers.rows) } := by
    intro r
    unfold withAddressCredentials
    split <;> rfl
  rw [hwire, hwire]
  simp only [hmethod, hurl, hrows, hbody]

theorem unsettled_outgoing (c : Client) (t : Request) :
    (c.outgoing t).unsettled = (withAddressCredentials t).unsettled := by
  obtain ⟨headers, hrows, htraced⟩ := t.traced_eq c.levels c.config.logger
  refine unsettled_withAddressCredentials ?_
  rw [htraced, Request.unsettled, Request.unsettled, Headers.unsettled, Headers.unsettled, hrows]

/-- The site of a request that is passed on does not depend on whether its header fields have been
read before the user name and the password in its address take the place of its authorization
rows, if these rows are texts in UTF-8. -/
theorem site_withAddressCredentials_settle
    (hutf8 : t.headers.settled = none →
      ¬ (t.url.credentials.1 = [] ∧ t.url.credentials.2 = []) → t.AuthorizationInUtf8) :
    (withAddressCredentials { t with headers := t.headers.settle }).site =
      (withAddressCredentials t).site := by
  unfold withAddressCredentials
  by_cases hnone : t.url.credentials.1 = [] ∧ t.url.credentials.2 = []
  · rw [if_pos hnone, if_pos hnone]
    exact @Request.site_eq _ _ (Headers.fieldKey "Authorization") rfl (by decide) (by decide)
      (RowsAlike.refl _ _) (Or.inl rfl)
  · rw [if_neg hnone, if_neg hnone]
    let row := Headers.row "Authorization"
      (basicAuthorization t.url.credentials.1 t.url.credentials.2)
    have htakes : t.headers.Takes row :=
      t.headers.takes_row isAscii_authorization (isAscii_basicAuthorization _ _)
    have hkey : row.key = Headers.fieldKey "Authorization" := rfl
    have hothers : otherRows row.key t.headers.rows =
        otherRows row.key (putRow row t.headers.rows) := (otherRows_putRow _ _).symm
    have hvalue : Charset.utf8.covers row.value = true :=
      Charset.covers_of_ascii _ (asciiBytes_of_isAscii (isAscii_basicAuthorization _ _))
    -- before and after, all rows but those that are replaced are the same
    have hreads : Headers.ReadAlike t.headers.charset (t.headers.put row htakes).charset
        (otherRows row.key t.headers.rows) := by
      refine Headers.readAlike_charset (by rw [hkey]; decide) rfl hothers fun hsettled => ⟨?_, ?_⟩
      · rw [hkey]
        exact hutf8 hsettled hnone
      · intro other hmem hother
        have hsame : other = row := (Headers.hasKey_of_filter (h := t.headers.put row htakes)
          (putRow_filter_self row t.headers.rows)).2 other hmem hother
        rw [hsame]
        exact hvalue
    rw [hothers] at hreads
    exact Request.site_eq rfl (by rw [hkey]; decide) (by rw [hkey]; decide) (RowsAlike.refl _ _)
      hreads

theorem site_outgoing_observed (levels : Levels) (measures : Bool) (receiver : MetricReceiver)
    (hutf8 : t.headers.settled = none →
      ¬ (t.url.credentials.1 = [] ∧ t.url.credentials.2 = []) → t.AuthorizationInUtf8) :
    (c.outgoing t).site = ((c.observed levels measures receiver).outgoing t).site := by
  have hsite : ∀ d : Client, (d.outgoing t).site = (withAddressCredentials t).site := by
    intro d
    unfold outgoing Request.traced
    split
    · exact site_withAddressCredentials_settle hutf8
    · rfl
  rw [hsite, hsite]

theorem held_outgoing (hbody : ∃ bytes, t.body = .held bytes) :
    ∃ bytes, (c.outgoing t).body = .held bytes := by
  obtain ⟨headers, -, htraced⟩ := t.traced_eq c.levels c.config.logger
  rw [outgoing, htraced, withAddressCredentials]
  split <;> exact hbody

/-! ## Signed requests -/

/-- The authorization rows that a client sends, or replaces by those of the address, are texts in
UTF-8 as soon as it has a credential. -/
def Undisturbed (c : Client) (r : Request) : Prop :=
  c.config.credential = none → ¬ (r.url.credentials.1 = [] ∧ r.url.credentials.2 = []) →
    r.AuthorizationInUtf8

theorem Undisturbed.of_sign (hr : c.Undisturbed r) (h : c.sign.run r = .ok () t)
    (hsettled : t.headers.settled = none)
    (hnone : ¬ (t.url.credentials.1 = [] ∧ t.url.credentials.2 = [])) : t.AuthorizationInUtf8 := by
  cases hk : c.config.credential with
  -- the only authorization row is the one of the credential, and it has been written in UTF-8
  | some k =>
    have hauthorization : c.authorization = .credential k := by rw [authorization, hk]
    obtain ⟨content, value, u, bytes, -, -, hbytes, hrow, hsame⟩ :=
      authorizedBy_of_sign hauthorization h
    have hwriting : u.headers.writingCharset = .utf8 := by
      rw [Headers.writingCharset, ← hsame, hsettled, Option.getD_none]
    rw [hwriting] at hbytes
    intro row hmem hkey
    rw [(Headers.hasKey_of_filter hrow).2 row hmem hkey]
    exact Charset.covers_of_encode hbytes
  -- signing leaves the authorization rows as they came
  | none =>
    have hauthorization : c.authorization = .none := by rw [authorization, hk]
    obtain ⟨bytes, v, hattach, hagent, -⟩ := sign_eq_ok h
    rw [hauthorization] at hattach
    cases hattach
    obtain ⟨headers, hset, rfl⟩ := Edit.setHeader_eq_ok.mp hagent
    obtain ⟨v, -, _, rfl⟩ := Headers.eq_of_set (by decide) hset
    intro row hmem hkey
    have hother : HeaderRow.key { name := Headers.asciiBytes "User-Agent", value := v } ≠
        Headers.fieldKey "Authorization" :=
      show Headers.fieldKey "User-Agent" ≠ Headers.fieldKey "Authorization" by decide
    have hrow : row ∈ r.headers.rows.filter fun r => r.key = Headers.fieldKey "Authorization" := by
      rw [← putRow_filter_of_ne hother]
      exact List.mem_filter.mpr ⟨hmem, decide_eq_true hkey⟩
    exact hr hk hnone row (List.mem_filter.mp hrow).1 hkey

/-! ## What becomes of it -/

theorem dispatch_of_steady (h : c.Steady) :
    (c.dispatch transport s q).outcome = transport.answer s.sent q ∧
      (c.dispatch transport s q).passed = true := by
  have hdispatch : c.dispatch transport s q =
      Dispatch.ofAnswer c.receiver? s.clock q (transport.answer s.sent q) := rfl
  rw [hdispatch]
  cases hreceiver : c.receiver? with
  | none => exact ⟨rfl, rfl⟩
  | some receiver =>
    have hsteady := h receiver hreceiver
    show (Dispatch.measured receiver s.clock q (transport.answer s.sent q)).outcome = _ ∧
      (Dispatch.measured receiver s.clock q (transport.answer s.sent q)).passed = _
    rw [Dispatch.measured_of_none (hsteady _)]
    simp only [hsteady, and_self]

theorem answer_of_overWire (hwire : transport.OverWire) (hsent : s.Alike s')
    (h : q.unsettled = u.unsettled) (hbody : ∃ bytes, q.body = .held bytes) :
    transport.answer s.sent q = transport.answer s'.sent u := by
  obtain ⟨bytes, hq⟩ := hbody
  have hu : u.body = .held bytes := (Request.eq_of_unsettled h).2.2.2.symm.trans hq
  rw [Transport.answer, Transport.answer, Request.read_of_held hq, Request.read_of_held hu]
  show transport s.sent q = transport s'.sent u
  rw [hwire, hwire s'.sent, hsent.sent, h]

section

variable [Platform]

theorem accept_observed {p : Response} (h : q.unsettled = u.unsettled) (hsite : q.site = u.site) :
    accept q p = accept u p := by
  rw [accept_eq, accept_eq, Response.nextRequest?_eq h hsite]

theorem reported_observed {p : Response} (h : q.unsettled = u.unsettled) (levels : Levels)
    (logger : String) : unsettledResult (c.reported q (p.traced levels logger)) =
      unsettledResult (c.reported u p) := by
  have hwire : (p.traced levels logger).unsettled = p.unsettled := by
    obtain ⟨headers, hrows, htraced⟩ := p.traced_eq levels logger
    rw [htraced, Response.unsettled, Response.unsettled, Headers.unsettled, Headers.unsettled,
      hrows]
  have hretry : (p.traced levels logger).retryAfter = p.retryAfter := by
    unfold Response.traced
    split
    · exact p.retryAfter_settle
    · rfl
  obtain ⟨hstatus, -⟩ := Response.eq_of_unsettled hwire
  unfold reported Response.check
  rw [hstatus]
  by_cases hreports : c.config.reportsFailures = true
  · simp only [hreports, if_true]
    by_cases hsuccess : isSuccess p.status = true
    · simp only [hsuccess, if_true]
      exact congrArg Except.ok hwire
    · simp only [hsuccess, Bool.false_eq_true, if_false]
      exact congrArg Except.error (Response.unsettled_failure h hwire hretry)
  · simp only [hreports, Bool.false_eq_true, if_false]
    exact congrArg Except.ok hwire

/-! ## Calls -/

variable {levels : Levels} {measures : Bool} {receiver : MetricReceiver}

theorem after_perform_observed (hsteady : c.Steady)
    (hsteady' : (c.observed levels measures receiver).Steady) (hsent : s.Alike s') :
    (Exchange.after (c.perform transport r) s).Alike
      (Exchange.after ((c.observed levels measures receiver).perform transport r) s') := by
  obtain ⟨d, hd⟩ : ∃ d, d = c.observed levels measures receiver := ⟨_, rfl⟩
  have hsigned : d.signed r = c.signed r := by rw [hd]; rfl
  rw [← hd] at hsteady' ⊢
  obtain ⟨log, hlog⟩ := after_perform c transport r s
  obtain ⟨log', hlog'⟩ := after_perform d transport r s'
  rw [hlog, hlog', hsigned]
  cases c.signed r with
  | error f => exact ⟨hsent.closed, hsent.sent⟩
  | ok t =>
    simp only
    by_cases hclosed : s.closed = true
    · rw [if_pos hclosed, if_pos (hsent.closed ▸ hclosed)]
      exact ⟨hsent.closed, hsent.sent⟩
    · rw [if_neg hclosed, if_neg (hsent.closed ▸ hclosed)]
      have hpassed : (c.dispatch transport s (c.outgoing t)).passed = true :=
        (dispatch_of_steady hsteady).2
      have hpassed' : (d.dispatch transport s' (d.outgoing t)).passed = true :=
        (dispatch_of_steady hsteady').2
      refine ⟨hsent.closed, ?_⟩
      unfold afterPass
      simp only [hpassed, hpassed', if_true, List.map_append, List.map_singleton, hsent.sent,
        unsettled_outgoing]

theorem result_perform_observed (hwire : transport.OverWire) (hsteady : c.Steady)
    (hsteady' : (c.observed levels measures receiver).Steady) (hsent : s.Alike s')
    (hr : c.Undisturbed r) :
    unsettledResult (Exchange.result (c.perform transport r) s) = unsettledResult
      (Exchange.result ((c.observed levels measures receiver).perform transport r) s') := by
  obtain ⟨d, hd⟩ : ∃ d, d = c.observed levels measures receiver := ⟨_, rfl⟩
  have hsigned : d.signed r = c.signed r := by rw [hd]; rfl
  have hreported : d.reported = c.reported := by rw [hd]; rfl
  rw [← hd] at hsteady' ⊢
  rw [result_perform, result_perform, hsigned]
  cases ht : c.signed r with
  | error f => rfl
  | ok t =>
    simp only
    by_cases hclosed : s.closed = true
    · rw [if_pos hclosed, if_pos (hsent.closed ▸ hclosed)]
    · rw [if_neg hclosed, if_neg (hsent.closed ▸ hclosed)]
      have hsign := signed_eq_ok.mp ht
      have hsame : (c.outgoing t).unsettled = (d.outgoing t).unsettled := by
        rw [unsettled_outgoing, unsettled_outgoing]
      have hsite : (c.outgoing t).site = (d.outgoing t).site := by
        rw [hd]
        exact site_outgoing_observed levels measures receiver fun hsettled hnone =>
          hr.of_sign hsign hsettled hnone
      have hanswer := answer_of_overWire hwire hsent hsame (held_outgoing (held_of_sign hsign))
      rw [(dispatch_of_steady hsteady).1, (dispatch_of_steady hsteady').1, hanswer, hreported]
      cases transport.answer s'.sent (d.outgoing t) with
      | error f => rfl
      | ok p =>
        show unsettledResult ((accept (c.outgoing t) p).mapError .fault >>= _) =
          unsettledResult ((accept (d.outgoing t) p).mapError .fault >>= _)
        rw [accept_observed hsame hsite]
        cases accept (d.outgoing t) p with
        | error f => rfl
        | ok p' =>
          exact (reported_observed hsame c.levels c.config.logger).trans
            (reported_observed rfl d.levels d.config.logger).symm

/-- Calls in a row send the same over the wire, in the same order, whatever the levels of the
loggers are and whatever metrics are delivered, as long as no receiver fails. Each of them results
in the same, if its authorization rows are texts in UTF-8 where a client without a credential
replaces them by those of the address. -/
theorem performAll_observed {requests : List Request} (hwire : transport.OverWire)
    (hsteady : c.Steady) (hsteady' : (c.observed levels measures receiver).Steady)
    (hsent : s.Alike s') :
    (c.performAll transport requests s).2.Alike
        ((c.observed levels measures receiver).performAll transport requests s').2 ∧
      ∀ (i : Nat) (r : Request), requests[i]? = some r → ∃ x y,
        (c.performAll transport requests s).1[i]? = some x ∧
        ((c.observed levels measures receiver).performAll transport requests s').1[i]? = some y ∧
        (c.Undisturbed r → unsettledResult x = unsettledResult y) := by
  induction requests generalizing s s' with
  | nil => exact ⟨hsent, fun i r hi => by cases hi⟩
  | cons r rest ih =>
    obtain ⟨halike, hrest⟩ := ih (after_perform_observed hsteady hsteady' hsent)
    refine ⟨halike, fun i r' hi => ?_⟩
    cases i with
    | zero =>
      cases hi
      exact ⟨_, _, rfl, rfl, result_perform_observed hwire hsteady hsteady' hsent⟩
    | succ i => exact hrest i r' hi

end

section Plain

attribute [local instance] Platform.plain

/-- Two requests with a user name and a password in the address and with an authorization row, a
text in UTF-8 in the first and none in the second. Both are sent with and without a log. The first
results in the same; the second fails where it is logged, as its other row is then looked up in
Latin-1. -/
theorem performAll_observed_of_authorization :
    let c : Client := {
      levels := [("app", 5)], now := 0
      config := {
        baseUrl := "https://engine.test", credential := none, transport := .network
        userAgent := "agent", logger := "app", reportsFailures := true, measures := false
        version := "" } }
    let r : List UInt8 → Request := fun value => {
      method := "GET", body := .held []
      headers := {
        rows := [{ name := Text.Utf8.encode ['é'], value := [] },
          { name := Headers.asciiBytes "Authorization", value }] }
      url := {
        scheme := "https", userinfo := "u:p", host := "engine.test", port := none, path := "/x"
        query := none, fragment := none } }
    let requests := [r (Text.Utf8.encode ['é']), r [0xFF]]
    let transport : Transport := fun _ _ =>
      .ok { status := 200, headers := { rows := [] }, body := .held [] }
    let logged := c.performAll transport requests {}
    let plain := (c.observed [] true .steady).performAll transport requests {}
    logged.2.Alike plain.2 ∧ logged.2.sent.length = 2 ∧
      (∃ x y, logged.1[0]? = some x ∧ plain.1[0]? = some y ∧
        unsettledResult x = unsettledResult y) ∧
      logged.1.map Except.toBool = [true, false] ∧ plain.1.map Except.toBool = [true, true] := by
  intro c r requests transport logged plain
  have hwire : transport.OverWire := fun _ _ => rfl
  have hsteady : c.Steady := by
    intro receiver hreceiver
    cases hreceiver
  have hsteady' : (c.observed [] true .steady).Steady := by
    intro receiver hreceiver
    cases hreceiver
    exact fun _ => rfl
  obtain ⟨halike, hresults⟩ := @performAll_observed c transport {} {} _ [] true .steady requests
    hwire hsteady hsteady' ⟨rfl, rfl⟩
  have hundisturbed : c.Undisturbed (r (Text.Utf8.encode ['é'])) := by
    intro _ _
    unfold Request.AuthorizationInUtf8 r
    decide +kernel
  obtain ⟨x, y, hx, hy, hxy⟩ := hresults 0 _ rfl
  refine ⟨halike, ?_, ⟨x, y, hx, hy, hxy hundisturbed⟩, ?_, ?_⟩
  · unfold logged requests transport r c
    decide +kernel
  · unfold logged requests transport r c
    decide +kernel
  · unfold plain requests transport r c
    decide +kernel

end Plain

end Client

end ApiClient
