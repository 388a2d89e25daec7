import ApiClient.Proofs.Client.Observed
import ApiClient.Proofs.Http.Site

/-!
# The response that is handed over

A call passes its request on at most once: it neither tries again nor follows a redirection. What
the transport answers is handed over with its status, its header rows and its bytes, or reported as
the failure that these make it. One thing stands between the transport and the caller: the request
that would follow a redirection is prepared before the response is handed over, and a location or a
cookie that does not fit it makes the call fail in place of the response
(`Client.result_of_answer`).
-/

namespace ApiClient

/-- A request is sent as it came, but for its header fields. -/
structure Request.SentFor (q r : Request) : Prop where
  /-- The method. -/
  method : q.method = r.method
  /-- The address. -/
  url : q.url = r.url
  /-- The body is what there was to read. -/
  body : ∃ bytes, (r.read .async).1 = .ok bytes ∧ q.body = .held bytes

/-- A response is handed over as it came, with the body that was read. -/
structure Response.CameAs (p' p : Response) (bytes : List UInt8) : Prop where
  /-- The status. -/
  status : p'.status = p.status
  /-- The header rows, in order. -/
  rows : p'.headers.rows = p.headers.rows
  /-- The header rows are read in the same character set. -/
  charset : p'.headers.charset = p.headers.charset
  /-- The body. -/
  body : p'.body = .held bytes

/-- A body that is read in one mode is no stream of the other. -/
theorem Body.mode?_ne_of_read {mode other : StreamMode} {body : Body} {bytes : List UInt8}
    (h : (body.read mode).1 = .ok bytes) (hne : other ≠ mode) : body.mode? ≠ some other := by
  intro hmode
  cases body with
  | held bytes => cases hmode
  | stream m chunks failure =>
    cases hmode
    simp only [read, ne_eq, hne, not_false_eq_true, if_true] at h
    cases h
  | spent m =>
    cases hmode
    cases h

/-- A response that does not redirect is followed by no request, whatever cookies it sets, if its
request has a site. -/
theorem Response.nextRequest?_of_site [Platform] {q : Request} {p : Response}
    (hstays : p.location? = none)
    (hsite : ∃ site, q.site = .ok site ∧ site.place? ≠ none) : p.nextRequest? q = .ok none := by
  obtain ⟨site, hsite, hplace⟩ := hsite
  have hplaces : ∀ other, q.site = .ok other → other.place? ≠ none := by
    intro other hother
    obtain rfl := Except.ok.inj (hsite.symm.trans hother)
    exact hplace
  rw [nextRequest?_of_stays hstays hplaces, hsite]
  rfl

namespace Client

variable {c : Client} {transport : Transport} {r t q : Request} {s : Traffic} {p : Response}
  {bytes : List UInt8}

theorem body_outgoing (c : Client) (t : Request) : (c.outgoing t).body = t.body := by
  obtain ⟨headers, -, htraced⟩ := t.traced_eq c.levels c.config.logger
  rw [outgoing, htraced, withAddressCredentials]
  split <;> rfl

/-- What is passed on for a request is the request as it came, but for its header fields. -/
theorem sentFor_of_sign (h : c.sign.run r = .ok () t) : (c.outgoing t).SentFor r := by
  obtain ⟨bytes, u, hu, ht, hread⟩ := sign_eq_ok h
  obtain ⟨_, rfl⟩ := Authorization.eq_of_attach rfl hu
  obtain ⟨_, -, rfl⟩ := Edit.setHeader_eq_ok.mp ht
  obtain ⟨hmethod, hurl⟩ := c.outgoing_eq _
  exact ⟨hmethod, hurl, bytes, hread, c.body_outgoing _⟩

/-! ## What becomes of an answer -/

/-- How the receiver of metrics fails when a request has been answered, if it does. -/
def finalFailure? (c : Client) (s : Traffic) (q : Request) (p : Response) : Option Outside :=
  c.receiver?.bind fun receiver =>
    receiver [.started q,
      .finished q (s.clock.tick.2.tick.1 - s.clock.tick.1) (some p.status)]

theorem dispatch_of_not_passed (h : (c.dispatch transport s q).passed = false) :
    ∃ e, (c.dispatch transport s q).outcome = .error (.outside e) := by
  have hdispatch : c.dispatch transport s q =
      Dispatch.ofAnswer c.receiver? s.clock q (transport.answer s.sent q) := rfl
  rw [hdispatch] at h ⊢
  cases hreceiver : c.receiver? with
  | none =>
    rw [hreceiver] at h
    cases h
  | some receiver =>
    rw [hreceiver] at h
    have h : (Dispatch.measured receiver s.clock q (transport.answer s.sent q)).passed = false := h
    cases hfirst : receiver [.started q] with
    | some e => exact ⟨e, congrArg Dispatch.outcome (Dispatch.measured_of_some hfirst)⟩
    | none =>
      rw [Dispatch.measured_of_none hfirst] at h
      cases h

/-- What becomes of a request that is answered: the answer, unless the receiver of metrics fails. -/
theorem dispatch_of_answer (h : (c.dispatch transport s q).passed = true)
    (hanswer : transport.answer s.sent q = .ok p) : (c.dispatch transport s q).outcome =
      match c.finalFailure? s q p with
      | some e => .error (.outside e)
      | none => .ok p := by
  have hdispatch : c.dispatch transport s q = Dispatch.ofAnswer c.receiver? s.clock q (.ok p) := by
    rw [← hanswer]
    rfl
  rw [hdispatch] at h ⊢
  unfold finalFailure?
  cases hreceiver : c.receiver? with
  | none => rfl
  | some receiver =>
    rw [hreceiver] at h
    have h : (Dispatch.measured receiver s.clock q (.ok p)).passed = true := h
    cases hfirst : receiver [.started q] with
    | some e =>
      rw [Dispatch.measured_of_some hfirst] at h
      cases h
    | none => exact congrArg Dispatch.outcome (Dispatch.measured_of_none hfirst)

/-- The response that a call hands over, as logging leaves it. -/
def received (c : Client) (p : Response) (bytes : List UInt8) : Response :=
  Response.traced c.levels c.config.logger { p with body := .held bytes }

theorem received_cameAs (c : Client) (p : Response) (bytes : List UInt8) :
    (c.received p bytes).CameAs p bytes := by
  unfold received Response.traced
  split
  · exact ⟨rfl, rfl, rfl, rfl⟩
  · exact ⟨rfl, rfl, rfl, rfl⟩

section

variable [Platform]

/-- An answer whose body can be read is accepted unless the request that would follow it cannot be
prepared. -/
theorem accept_of_read (hread : p.read.1 = .ok bytes) :
    accept q p = (p.nextRequest? q).map fun _ => { p with body := .held bytes } := by
  have hbody := mapError_eq_ok.mp hread
  rw [accept_eq, if_neg (Body.mode?_ne_of_read hbody (by decide)), hread, Response.read_eq hread]
  cases p.nextRequest? q with
  | error f => rfl
  | ok next => rfl

theorem reported_eq (c : Client) (q : Request) (p : Response) : c.reported q p =
    if c.config.reportsFailures ∧ ¬ isSuccess p.status then .error (p.failure (some q))
    else .ok p := by
  unfold reported Response.check
  by_cases hreports : c.config.reportsFailures = true
  · by_cases hsuccess : isSuccess p.status = true
    · simp [hreports, hsuccess]
      rfl
    · simp [hreports, hsuccess]
      rfl
  · simp [hreports]

/-- What a call results in when its request has got an answer whose body can be read. -/
theorem result_of_answer (hsign : c.sign.run r = .ok () t) (hopen : ¬ s.closed = true)
    (hpassed : (c.dispatch transport s (c.outgoing t)).passed = true)
    (hanswer : transport s.sent (c.outgoing t) = .ok p) (hread : p.read.1 = .ok bytes) :
    Exchange.result (c.perform transport r) s =
      match c.finalFailure? s (c.outgoing t) p, p.nextRequest? (c.outgoing t) with
      | some e, _ => .error (.fault (.outside e))
      | none, .error f => .error (.fault f)
      | none, .ok _ => c.reported (c.outgoing t) (c.received p bytes) := by
  obtain ⟨content, hheld⟩ := held_outgoing (c := c) (held_of_sign hsign)
  have hanswer' : transport.answer s.sent (c.outgoing t) = .ok p := by
    rw [Transport.answer, Request.read_of_held hheld]
    exact hanswer
  rw [result_perform, signed_eq_ok.mpr hsign]
  simp only [if_neg hopen]
  rw [dispatch_of_answer hpassed hanswer']
  cases c.finalFailure? s (c.outgoing t) p with
  | some e => rfl
  | none =>
    show ((accept (c.outgoing t) p).mapError Error.fault >>= _) = _
    rw [accept_of_read hread]
    cases p.nextRequest? (c.outgoing t) with
    | error f => rfl
    | ok next => rfl

/-- What a call passes on: nothing, or the request that was signed. -/
theorem sent_perform (c : Client) (transport : Transport) (r : Request) (s : Traffic) :
    (Exchange.after (c.perform transport r) s).sent =
      match c.signed r with
      | .error _ => s.sent
      | .ok t =>
        if ¬ s.closed ∧ (c.dispatch transport s (c.outgoing t)).passed then
          s.sent ++ [c.outgoing t]
        else s.sent := by
  obtain ⟨log, hafter⟩ := after_perform c transport r s
  rw [hafter]
  cases c.signed r with
  | error f => rfl
  | ok t =>
    by_cases hclosed : s.closed = true
    · simp [hclosed]
    · simp [hclosed, afterPass]

/-- A call reaches the transport exactly if its request can be signed, the client is open, and the
receiver of metrics does not fail at the beginning. -/
theorem sent_iff : (Exchange.after (c.perform transport r) s).sent = s.sent ++ [q] ↔
    ∃ t, c.sign.run r = .ok () t ∧ ¬ s.closed = true ∧
      (c.dispatch transport s (c.outgoing t)).passed = true ∧ c.outgoing t = q := by
  have hunsent : s.sent ≠ s.sent ++ [q] := by simp
  rw [sent_perform]
  constructor
  · intro h
    cases hsigned : c.signed r with
    | error f =>
      rw [hsigned] at h
      exact absurd h hunsent
    | ok t =>
      rw [hsigned] at h
      dsimp only at h
      split at h
      · rename_i hreached
        exact ⟨t, signed_eq_ok.mp hsigned, hreached.1, hreached.2,
          List.singleton_inj.mp (List.append_cancel_left h)⟩
      · exact absurd h hunsent
  · rintro ⟨t, hsign, hopen, hpassed, rfl⟩
    rw [signed_eq_ok.mpr hsign]
    exact if_pos ⟨hopen, hpassed⟩

end

section Plain

attribute [local instance] Platform.plain

end Plain

end Client

end ApiClient
