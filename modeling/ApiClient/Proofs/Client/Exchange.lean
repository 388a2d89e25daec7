import ApiClient.Client
import ApiClient.Proofs.Auth.Edit
import ApiClient.Proofs.Trace.Message

/-!
# What a client logs

A client writes to its log the record of a request, and that of the response if the response is
accepted. `logAfter_perform` says so of a request that can be signed; which request is passed on,
and which response is accepted, are functions of the signed request.
-/

namespace ApiClient

namespace Exchange

variable {α β : Type} {s : Traffic}

/-- The log after an operation. -/
def logAfter (x : Exchange α) (s : Traffic) : List LogRecord :=
  match x.run s with
  | .ok _ t => t.log
  | .error _ t => t.log

theorem logAfter_bind (x : Exchange α) (f : α → Exchange β) (s : Traffic) :
    logAfter (x >>= f) s =
      match x.run s with
      | .ok a t => logAfter (f a) t
      | .error _ t => t.log := by
  unfold logAfter
  rw [EStateM.run_bind]
  cases x.run s with
  | ok a t => rfl
  | error e t => rfl

theorem logAfter_bind_of_ok {x : Exchange α} {f : α → Exchange β} {a : α} {t : Traffic}
    (h : x.run s = .ok a t) : logAfter (x >>= f) s = logAfter (f a) t := by
  rw [logAfter_bind, h]

theorem edit_run {r q : Request} {change : Edit Unit} (h : change.run r = .ok () q) :
    (edit r change).run s = .ok q s := by
  rw [edit, h]
  rfl

theorem write_run {μ : Type} {t : Traced μ} (h : t.failure = none) :
    (write t).run s = .ok t.message { s with log := s.log ++ t.records } := by
  unfold write
  rw [h]
  rfl

/-- Writing to the log comes to the same whether it fails or not, if nothing is written after it. -/
theorem logAfter_write_bind {μ : Type} {t : Traced μ} {f : μ → Exchange β}
    (hf : ∀ a s, logAfter (f a) s = s.log) (s : Traffic) :
    logAfter (write t >>= f) s = s.log ++ t.records := by
  rw [logAfter_bind]
  cases hfailure : t.failure with
  | none =>
    rw [write_run hfailure]
    exact hf _ _
  | some e =>
    unfold write
    rw [hfailure]
    rfl

end Exchange

namespace Client

variable {r q : Request} {s : Traffic}

theorem isAscii_basicAuthorization (name password : List Char) :
    IsAscii (basicAuthorization name password) :=
  IsAscii.append (by decide) (Text.Base64.isAscii_encode _)

/-- A request with the user name and the password that stand in its address, if any. -/
def withAddressCredentials (r : Request) : Request :=
  if r.url.credentials.1 = [] ∧ r.url.credentials.2 = [] then r
  else
    { r with
      headers := r.headers.put
        (Headers.row "Authorization"
          (basicAuthorization r.url.credentials.1 r.url.credentials.2))
        (r.headers.takes_row isAscii_authorization (isAscii_basicAuthorization _ _)) }

theorem useAddressCredentials_run (r : Request) :
    useAddressCredentials.run r = .ok () (withAddressCredentials r) := by
  have hrun : useAddressCredentials.run r =
      (if r.url.credentials.1 = [] ∧ r.url.credentials.2 = [] then pure ()
        else Edit.setHeader "Authorization"
          (basicAuthorization r.url.credentials.1 r.url.credentials.2) : Edit Unit).run r := rfl
  rw [hrun, withAddressCredentials]
  split
  · rfl
  · have hset := r.headers.set_of_isAscii isAscii_authorization
      (isAscii_basicAuthorization r.url.credentials.1 r.url.credentials.2)
    exact Edit.setHeader_eq_ok.mpr ⟨_, hset, rfl⟩

/-- The request that is passed on to the transport for one that has been signed. -/
def outgoing (c : Client) (signed : Request) : Request :=
  withAddressCredentials (signed.traced c.levels c.config.logger)

theorem outgoing_run (c : Client) (r : Request) :
    useAddressCredentials.run (r.traced c.levels c.config.logger) = .ok () (c.outgoing r) :=
  useAddressCredentials_run _

theorem outgoing_eq (c : Client) (r : Request) :
    (c.outgoing r).method = r.method ∧ (c.outgoing r).url = r.url := by
  unfold outgoing withAddressCredentials Request.traced
  split
  · split <;> exact ⟨rfl, rfl⟩
  · split <;> exact ⟨rfl, rfl⟩

/-- What becomes of a request that is passed on. -/
def dispatch (c : Client) (transport : Transport) (s : Traffic) (q : Request) : Dispatch :=
  Dispatch.ofAnswer (if c.config.measures then some c.receiver else none) s.clock q
    (transport.answer s.sent q)

/-- What has changed when a request has been passed on. -/
def afterPass (c : Client) (transport : Transport) (s : Traffic) (q : Request) : Traffic :=
  { s with
    sent := if (c.dispatch transport s q).passed then s.sent ++ [q] else s.sent
    events := s.events ++ (c.dispatch transport s q).events
    clock := (c.dispatch transport s q).clock }

/-- Passing a request on does not write to the log. -/
theorem pass_run (c : Client) (transport : Transport) (q : Request) (s : Traffic) :
    (c.pass transport q).run s =
      match (c.dispatch transport s q).outcome with
      | .ok p => .ok p (c.afterPass transport s q)
      | .error f => .error (.fault f) (c.afterPass transport s q) := by
  have hrun : (c.pass transport q).run s =
      (Exchange.ofExcept (c.dispatch transport s q).outcome).run (c.afterPass transport s q) := rfl
  rw [hrun]
  cases (c.dispatch transport s q).outcome with
  | ok p => rfl
  | error f => rfl

/-- The records of a response, if it is there. -/
def responseRecords (c : Client) (q : Request) (answer? : Option Response) : List LogRecord :=
  match answer? with
  | some p => (p.trace c.levels c.config.logger (some q)).records
  | none => []

variable [Platform]

/-- Accepting a response prepares the request that would follow it, and reads its body. -/
theorem accept_eq (q : Request) (p : Response) : accept q p =
    if p.body.mode? = some StreamMode.blocking then .error .streamMode
    else p.nextRequest? q >>= fun _ => p.read.1 >>= fun _ => .ok p.read.2 := by
  unfold accept
  by_cases hmode : p.body.mode? = some StreamMode.blocking
  · simp only [hmode, if_true]
    rfl
  · simp only [hmode, if_false]
    rfl

/-- A response that is accepted has its body held, and is the same otherwise. -/
theorem accept_eq_ok {p p' : Response} (h : accept q p = .ok p') :
    ∃ bytes, p.read.1 = .ok bytes ∧ p' = { p with body := .held bytes } := by
  rw [accept_eq] at h
  split at h
  · cases h
  · obtain ⟨next, -, h⟩ := bind_eq_ok.mp h
    obtain ⟨bytes, hread, h⟩ := bind_eq_ok.mp h
    cases h
    exact ⟨bytes, hread, Response.read_eq hread⟩

/-- The response that is accepted for a request that is passed on, if there is one. -/
def accepted? (c : Client) (transport : Transport) (s : Traffic) (q : Request) : Option Response :=
  if s.closed then none
  else
    match (c.dispatch transport s q).outcome with
    | .ok p => (accept q p).toOption
    | .error _ => none

/-- The log after a request that could be signed: the record of the request, and that of the
response if it is accepted. -/
theorem logAfter_perform {c : Client} {transport : Transport} (hsign : c.sign.run r = .ok () q)
    (htrace : (q.trace c.levels c.config.logger).failure = none)
    (hmessage : (q.trace c.levels c.config.logger).message = q.traced c.levels c.config.logger) :
    Exchange.logAfter (c.perform transport r) s =
      s.log ++ (q.trace c.levels c.config.logger).records ++
        c.responseRecords (c.outgoing q) (c.accepted? transport s (c.outgoing q)) := by
  obtain ⟨u, hu⟩ : ∃ u : Traffic,
      u = { s with log := s.log ++ (q.trace c.levels c.config.logger).records } := ⟨_, rfl⟩
  have haccepted :
      c.accepted? transport s (c.outgoing q) = c.accepted? transport u (c.outgoing q) := by
    rw [hu]
    rfl
  have hlog : s.log ++ (q.trace c.levels c.config.logger).records = u.log := by rw [hu]
  unfold perform
  rw [Exchange.logAfter_bind_of_ok (Exchange.edit_run hsign),
    Exchange.logAfter_bind_of_ok (Exchange.write_run htrace), hmessage, ← hu,
    Exchange.logAfter_bind_of_ok (EStateM.run_get _), haccepted, hlog]
  by_cases hclosed : u.closed = true
  · simp only [hclosed, if_true]
    rw [accepted?, if_pos hclosed]
    exact (List.append_nil _).symm
  · simp only [hclosed, Bool.false_eq_true, if_false]
    rw [Exchange.logAfter_bind_of_ok (Exchange.edit_run (outgoing_run c q)),
      Exchange.logAfter_bind, pass_run, accepted?, if_neg hclosed]
    cases (c.dispatch transport u (c.outgoing q)).outcome with
    | error f => exact (List.append_nil _).symm
    | ok p =>
      simp only
      cases accept (c.outgoing q) p with
      | error f => exact (List.append_nil _).symm
      | ok p' =>
        refine Exchange.logAfter_write_bind (fun a t => ?_) _
        -- what is left checks the status, and does not write
        by_cases hreports : c.config.reportsFailures = true
        · simp only [hreports, if_true]
          cases a.check (some (c.outgoing q)) with
          | ok => rfl
          | error e => rfl
        · simp only [hreports, Bool.false_eq_true, if_false]
          rfl

end Client

end ApiClient
