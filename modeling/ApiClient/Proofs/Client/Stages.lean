import ApiClient.Calls
import ApiClient.Proofs.Auth.Frame
import ApiClient.Proofs.Client.Alike
import ApiClient.Proofs.Client.Exchange

/-!
# The steps of a call

What each step of a call results in and what it changes. A call that is not disturbed between its
steps is `Client.perform`; all that its first and its last step change is the log.
-/

namespace ApiClient

namespace Exchange

variable {α β : Type} {x : Exchange α} {f : α → Exchange β} {s : Traffic}

/-- What an operation results in. -/
def result (x : Exchange α) (s : Traffic) : Except Error α :=
  match x.run s with
  | .ok a _ => .ok a
  | .error e _ => .error e

/-- What an operation leaves. -/
def after (x : Exchange α) (s : Traffic) : Traffic :=
  match x.run s with
  | .ok _ t => t
  | .error _ t => t

theorem run_eq (x : Exchange α) (s : Traffic) : x.run s =
    match result x s with
    | .ok a => .ok a (after x s)
    | .error e => .error e (after x s) := by
  unfold result after
  cases x.run s with
  | ok a t => rfl
  | error e t => rfl

theorem result_bind (x : Exchange α) (f : α → Exchange β) (s : Traffic) :
    result (x >>= f) s = result x s >>= fun a => result (f a) (after x s) := by
  unfold result after
  rw [EStateM.run_bind]
  cases x.run s with
  | ok a t => rfl
  | error e t => rfl

theorem result_bind_of_ok {a : α} (h : result x s = .ok a) :
    result (x >>= f) s = result (f a) (after x s) := by
  rw [result_bind, h]
  rfl

theorem after_bind (x : Exchange α) (f : α → Exchange β) (s : Traffic) :
    after (x >>= f) s =
      match result x s with
      | .ok a => after (f a) (after x s)
      | .error _ => after x s := by
  unfold result after
  rw [EStateM.run_bind]
  cases x.run s with
  | ok a t => rfl
  | error e t => rfl

theorem result_ofExcept (x : Except Fault α) (s : Traffic) :
    result (ofExcept x) s = x.mapError Error.fault ∧ after (ofExcept x) s = s := by
  cases x with
  | ok a => exact ⟨rfl, rfl⟩
  | error f => exact ⟨rfl, rfl⟩

theorem result_write {μ : Type} {t : Traced μ} (h : t.failure = none) (s : Traffic) :
    result (write t) s = .ok t.message := by
  rw [result, write_run h]

theorem deliver_run (receiver : MetricReceiver) (earlier : List MetricEvent) (event : MetricEvent)
    (s : Traffic) : (deliver receiver earlier event).run s =
      match receiver (earlier ++ [event]) with
      | some e => .error (.fault (.outside e)) { s with events := s.events ++ [event] }
      | none => .ok () { s with events := s.events ++ [event] } := by
  unfold deliver
  rw [EStateM.run_bind]
  cases receiver (earlier ++ [event]) with
  | some e => rfl
  | none => rfl

/-! ## Operations that only write to the log -/

/-- An operation changes nothing but the log. -/
def OnlyLogs (x : Exchange α) : Prop :=
  ∀ s, ∃ log, after x s = { s with log }

theorem OnlyLogs.bind (hx : OnlyLogs x) (hf : ∀ a, OnlyLogs (f a)) : OnlyLogs (x >>= f) := by
  intro s
  rw [after_bind]
  obtain ⟨log, hlog⟩ := hx s
  cases result x s with
  | error e => exact ⟨log, hlog⟩
  | ok a =>
    obtain ⟨log', hlog'⟩ := hf a (after x s)
    refine ⟨log', ?_⟩
    show after (f a) (after x s) = _
    rw [hlog', hlog]

theorem onlyLogs_pure (a : α) : OnlyLogs (pure a) := fun s => ⟨s.log, rfl⟩

theorem onlyLogs_throw (e : Error) : OnlyLogs (throw e : Exchange α) := fun s => ⟨s.log, rfl⟩

theorem onlyLogs_ofExcept (x : Except Fault α) : OnlyLogs (ofExcept x) := by
  cases x with
  | ok a => exact onlyLogs_pure a
  | error f => exact onlyLogs_throw _

theorem onlyLogs_edit (r : Request) (change : Edit Unit) : OnlyLogs (edit r change) := by
  unfold edit
  split
  · exact onlyLogs_pure _
  · exact onlyLogs_throw _

theorem onlyLogs_write {μ : Type} (t : Traced μ) : OnlyLogs (write t) := by
  intro s
  refine ⟨s.log ++ t.records, ?_⟩
  unfold write
  cases t.failure with
  | none => rfl
  | some f => rfl

end Exchange

namespace Dispatch

variable {receiver : MetricReceiver} {clock : Clock} {q : Request} {answer : Except Fault Response}

theorem measured_of_some {e : Outside} (h : receiver [.started q] = some e) :
    measured receiver clock q answer =
      { outcome := .error (.outside e), passed := false, events := [.started q], clock } := by
  unfold measured
  simp only [h]

theorem measured_of_none (h : receiver [.started q] = none) :
    measured receiver clock q answer =
      let events : List MetricEvent := [.started q,
        .finished q (clock.tick.2.tick.1 - clock.tick.1) (answer.toOption.map fun p => p.status)]
      { outcome := match receiver events with
          | some e => .error (.outside e)
          | none => answer
        passed := true, events, clock := clock.tick.2.tick.2 } := by
  unfold measured
  simp only [h]
  rfl

end Dispatch

namespace Client

variable {c : Client} {transport : Transport} {r q t : Request} {s : Traffic}

/-! ## Preparing -/

theorem held_of_sign (h : c.sign.run r = .ok () t) : ∃ bytes, t.body = .held bytes := by
  obtain ⟨bytes, s, hs, ht, -⟩ := sign_eq_ok h
  obtain ⟨_, rfl⟩ := Authorization.eq_of_attach rfl hs
  obtain ⟨_, -, rfl⟩ := Edit.setHeader_eq_ok.mp ht
  exact ⟨bytes, rfl⟩

/-- The request that signing leaves, or why there is none. -/
def signed (c : Client) (r : Request) : Except Fault Request :=
  match c.sign.run r with
  | .ok _ t => .ok t
  | .error f _ => .error f

theorem signed_eq_ok : c.signed r = .ok t ↔ c.sign.run r = .ok () t := by
  unfold signed
  cases c.sign.run r with
  | ok a u => simp
  | error f u => simp

theorem signed_eq_error {f : Fault} :
    c.signed r = .error f ↔ ∃ u, c.sign.run r = .error f u := by
  unfold signed
  cases c.sign.run r with
  | ok a u => simp
  | error g u => simp

theorem result_prepare (c : Client) (r : Request) (s : Traffic) :
    Exchange.result (c.prepare r) s =
      ((c.signed r).map (Request.traced c.levels c.config.logger)).mapError .fault := by
  cases hsigned : c.signed r with
  | error f =>
    have hedit : Exchange.result (Exchange.edit r c.sign) s = .error (.fault f) := by
      obtain ⟨u, hsign⟩ := signed_eq_error.mp hsigned
      unfold Exchange.edit
      rw [hsign]
      rfl
    rw [prepare, Exchange.result_bind, hedit]
    rfl
  | ok t =>
    have hsign := signed_eq_ok.mp hsigned
    obtain ⟨bytes, hbody⟩ := held_of_sign hsign
    obtain ⟨hmessage, hfailure⟩ := @Request.trace_spec c.levels c.config.logger t bytes hbody
    have hrun : (c.prepare r).run s =
        (Exchange.write (t.trace c.levels c.config.logger)).run s := by
      unfold prepare
      rw [EStateM.run_bind, Exchange.edit_run hsign]
    rw [Exchange.result, hrun, Exchange.write_run hfailure, hmessage]
    rfl

theorem onlyLogs_prepare (c : Client) (r : Request) : Exchange.OnlyLogs (c.prepare r) :=
  (Exchange.onlyLogs_edit r c.sign).bind fun _ => Exchange.onlyLogs_write _

/-! ## Passing on -/

/-- The event at the end of a request that was passed on at `start`, when it has got an answer. -/
def lastEvent (s : Traffic) (q : Request) (start : Int) (answer : Except Fault Response) :
    MetricEvent :=
  .finished q (s.clock.tick.1 - start) (answer.toOption.map fun p => p.status)

theorem depart_run (c : Client) (t : Request) (s : Traffic) : (c.depart t).run s =
    if s.closed then .error (.fault .closed) s
    else
      let q := withAddressCredentials t
      match c.receiver? with
      | none => .ok (q, 0) { s with sent := s.sent ++ [q] }
      | some receiver =>
        let u := { s with events := s.events ++ [.started q] }
        match receiver [.started q] with
        | some e => .error (.fault (.outside e)) u
        | none => .ok (q, s.clock.tick.1)
            { u with sent := s.sent ++ [q], clock := s.clock.tick.2 } := by
  unfold depart
  rw [EStateM.run_bind, EStateM.run_get]
  by_cases hclosed : s.closed = true
  · simp only [if_pos hclosed]
    rfl
  · simp only [if_neg hclosed]
    rw [EStateM.run_bind, Exchange.edit_run (useAddressCredentials_run t)]
    cases c.receiver? with
    | none => rfl
    | some receiver =>
      simp only [EStateM.run_bind, Exchange.deliver_run, List.nil_append]
      cases receiver [.started (withAddressCredentials t)] with
      | some e => rfl
      | none => rfl

theorem arrive_run (c : Client) (q : Request) (start : Int) (answer : Except Fault Response)
    (s : Traffic) : (c.arrive q start answer).run s =
    match c.receiver? with
    | none => (Exchange.ofExcept answer).run s
    | some receiver =>
      let last := lastEvent s q start answer
      let u := { s with events := s.events ++ [last], clock := s.clock.tick.2 }
      match receiver [.started q, last] with
      | some e => .error (.fault (.outside e)) u
      | none => (Exchange.ofExcept answer).run u := by
  unfold arrive
  cases c.receiver? with
  | none => rfl
  | some receiver =>
    have hreading : Exchange.reading.run s =
        .ok s.clock.tick.1 { s with clock := s.clock.tick.2 } := rfl
    simp only [EStateM.run_bind, hreading, Exchange.deliver_run, List.singleton_append]
    unfold lastEvent
    cases receiver [.started q, .finished q (s.clock.tick.1 - start)
      (answer.toOption.map fun p => p.status)] with
    | some e => rfl
    | none => rfl

/-- If the client is open, passing a request on and taking its answer is one operation. -/
theorem depart_bind_arrive_run {α : Type} {c : Client} {transport : Transport} {t : Request}
    {s : Traffic} (hclosed : ¬ s.closed = true) (k : Request → Response → Exchange α) :
    (c.depart t >>= fun (q, start) =>
      c.arrive q start (transport.answer s.sent q) >>= k q).run s =
      (c.pass transport (withAddressCredentials t) >>= k (withAddressCredentials t)).run s := by
  obtain ⟨q, hq⟩ : ∃ q, q = withAddressCredentials t := ⟨_, rfl⟩
  obtain ⟨answer, hanswer⟩ : ∃ answer, answer = transport.answer s.sent q := ⟨_, rfl⟩
  have hdispatch : c.dispatch transport s q =
      Dispatch.ofAnswer c.receiver? s.clock q answer := by rw [hanswer]; rfl
  rw [EStateM.run_bind, EStateM.run_bind, depart_run, if_neg hclosed, pass_run]
  unfold afterPass
  simp only [← hq]
  cases hreceiver : c.receiver? with
  | none =>
    rw [hreceiver] at hdispatch
    simp only [EStateM.run_bind, arrive_run, hreceiver, hdispatch, Dispatch.ofAnswer,
      Dispatch.plain, if_true, List.append_nil, ← hanswer]
    cases answer with
    | ok p => rfl
    | error f => rfl
  | some receiver =>
    rw [hreceiver] at hdispatch
    have hdispatch : c.dispatch transport s q = .measured receiver s.clock q answer := hdispatch
    cases hfirst : receiver [.started q] with
    | some e =>
      rw [Dispatch.measured_of_some hfirst] at hdispatch
      simp only [hfirst, hdispatch]
      rfl
    | none =>
      rw [Dispatch.measured_of_none hfirst] at hdispatch
      simp only [EStateM.run_bind, arrive_run, hreceiver, hfirst, hdispatch, ← hanswer,
        List.append_assoc, List.singleton_append]
      unfold lastEvent
      cases receiver [.started q, .finished q (s.clock.tick.2.tick.1 - s.clock.tick.1)
          (answer.toOption.map fun p => p.status)] with
      | some e => rfl
      | none =>
        cases answer with
        | ok p => rfl
        | error f => rfl

theorem result_pass (c : Client) (transport : Transport) (q : Request) (s : Traffic) :
    Exchange.result (c.pass transport q) s =
      (c.dispatch transport s q).outcome.mapError .fault := by
  rw [Exchange.result, pass_run]
  cases (c.dispatch transport s q).outcome with
  | ok p => rfl
  | error f => rfl

theorem after_pass (c : Client) (transport : Transport) (q : Request) (s : Traffic) :
    Exchange.after (c.pass transport q) s = c.afterPass transport s q := by
  rw [Exchange.after, pass_run]
  cases (c.dispatch transport s q).outcome with
  | ok p => rfl
  | error f => rfl

/-! ## Concluding -/

variable [Platform]

theorem onlyLogs_conclude (c : Client) (q : Request) (p : Response) :
    Exchange.OnlyLogs (c.conclude q p) := by
  refine (Exchange.onlyLogs_ofExcept _).bind fun p => ?_
  refine (Exchange.onlyLogs_write _).bind fun p => ?_
  by_cases hreports : c.config.reportsFailures = true
  · simp only [hreports, if_true]
    cases p.check (some q) with
    | ok _ => exact Exchange.onlyLogs_pure p
    | error e => exact Exchange.onlyLogs_throw e
  · simp only [hreports, Bool.false_eq_true, if_false]
    exact Exchange.onlyLogs_pure p

/-- The response that was accepted, or the error that it is reported as. -/
def reported (c : Client) (q : Request) (p : Response) : Except Error Response :=
  if c.config.reportsFailures then (p.check (some q)).map fun _ => p else .ok p

theorem result_conclude (c : Client) (q : Request) (p : Response) (s : Traffic) :
    Exchange.result (c.conclude q p) s =
      (accept q p).mapError .fault >>= fun p =>
        c.reported q (p.traced c.levels c.config.logger) := by
  rw [conclude, Exchange.result_bind, (Exchange.result_ofExcept _ s).1]
  cases haccept : accept q p with
  | error f => rfl
  | ok p' =>
    obtain ⟨bytes, -, hp'⟩ := accept_eq_ok haccept
    have hbody : p'.body = .held bytes := by rw [hp']
    obtain ⟨hmessage, hfailure⟩ :=
      @Response.trace_spec c.levels c.config.logger (some q) p' bytes hbody
    show Exchange.result (Exchange.write _ >>= _) _ = c.reported q _
    rw [Exchange.result_bind_of_ok (Exchange.result_write hfailure _), hmessage]
    unfold reported
    by_cases hreports : c.config.reportsFailures = true
    · simp only [hreports, if_true]
      cases Response.check (some q) (p'.traced c.levels c.config.logger) with
      | ok _ => rfl
      | error e => rfl
    · simp only [hreports, Bool.false_eq_true, if_false]
      rfl

/-! ## Together -/

/-- What is left of a call when its request has been prepared. -/
def proceed (c : Client) (transport : Transport) (t : Request) : Exchange Response := do
  if (← get).closed then throw (.fault .closed)
  let q ← Exchange.edit t useAddressCredentials
  c.conclude q (← c.pass transport q)

theorem perform_eq_bind (c : Client) (transport : Transport) (r : Request) :
    c.perform transport r = c.prepare r >>= c.proceed transport := by
  unfold prepare
  rw [bind_assoc]
  rfl

theorem proceed_of_closed (c : Client) (transport : Transport) (t : Request)
    (hclosed : s.closed = true) : (c.proceed transport t).run s = .error (.fault .closed) s := by
  unfold proceed
  rw [EStateM.run_bind, EStateM.run_get]
  simp only [if_pos hclosed]
  rfl

theorem proceed_of_open (c : Client) (transport : Transport) (t : Request)
    (hclosed : ¬ s.closed = true) : (c.proceed transport t).run s =
      (c.pass transport (withAddressCredentials t) >>=
        c.conclude (withAddressCredentials t)).run s := by
  unfold proceed
  rw [EStateM.run_bind, EStateM.run_get]
  simp only [if_neg hclosed]
  rw [EStateM.run_bind, Exchange.edit_run (useAddressCredentials_run t)]

/-- A call whose steps are not disturbed. -/
theorem perform_eq (c : Client) (transport : Transport) (r : Request) :
    c.perform transport r = (do
      let t ← c.prepare r
      let earlier := (← get).sent
      let (q, start) ← c.depart t
      let p ← c.arrive q start (transport.answer earlier q)
      c.conclude q p) := by
  rw [perform_eq_bind]
  refine congrArg _ (funext fun t => funext fun s => ?_)
  show (c.proceed transport t).run s = EStateM.run (get >>= _) s
  rw [EStateM.run_bind, EStateM.run_get]
  by_cases hclosed : s.closed = true
  · have hdepart : (c.depart t).run s = .error (.fault .closed) s := by
      rw [depart_run, if_pos hclosed]
    rw [proceed_of_closed c transport t hclosed]
    simp only
    rw [EStateM.run_bind, hdepart]
  · rw [proceed_of_open c transport t hclosed]
    exact (depart_bind_arrive_run hclosed c.conclude).symm

theorem result_proceed (c : Client) (transport : Transport) (t : Request) (s : Traffic) :
    Exchange.result (c.proceed transport t) s =
      if s.closed then .error (.fault .closed)
      else
        let q := withAddressCredentials t
        ((c.dispatch transport s q).outcome >>= accept q).mapError .fault >>= fun p =>
          c.reported q (p.traced c.levels c.config.logger) := by
  by_cases hclosed : s.closed = true
  · rw [Exchange.result, proceed_of_closed c transport t hclosed, if_pos hclosed]
  · rw [Exchange.result, proceed_of_open c transport t hclosed, if_neg hclosed]
    show Exchange.result (c.pass transport (withAddressCredentials t) >>= _) s = _
    rw [Exchange.result_bind, result_pass]
    simp only [result_conclude]
    cases (c.dispatch transport s (withAddressCredentials t)).outcome with
    | ok p => rfl
    | error f => rfl

theorem after_proceed (c : Client) (transport : Transport) (t : Request) (s : Traffic) :
    ∃ log, Exchange.after (c.proceed transport t) s =
      if s.closed then s
      else { c.afterPass transport s (withAddressCredentials t) with log } := by
  by_cases hclosed : s.closed = true
  · refine ⟨s.log, ?_⟩
    rw [Exchange.after, proceed_of_closed c transport t hclosed, if_pos hclosed]
  · rw [Exchange.after, proceed_of_open c transport t hclosed]
    simp only [if_neg hclosed]
    show ∃ log, Exchange.after (c.pass transport (withAddressCredentials t) >>= _) s = _
    rw [Exchange.after_bind, after_pass]
    cases Exchange.result (c.pass transport (withAddressCredentials t)) s with
    | ok p => exact onlyLogs_conclude c _ p _
    | error e => exact ⟨(c.afterPass transport s (withAddressCredentials t)).log, rfl⟩

/-- What a call results in: its request cannot be signed, the client is closed, or what becomes of
the request is accepted and reported. -/
theorem result_perform (c : Client) (transport : Transport) (r : Request) (s : Traffic) :
    Exchange.result (c.perform transport r) s =
      match c.signed r with
      | .error f => .error (.fault f)
      | .ok t =>
        if s.closed then .error (.fault .closed)
        else
          let q := c.outgoing t
          ((c.dispatch transport s q).outcome >>= accept q).mapError .fault >>= fun p =>
            c.reported q (p.traced c.levels c.config.logger) := by
  obtain ⟨log, hlog⟩ := onlyLogs_prepare c r s
  rw [perform_eq_bind, Exchange.result_bind, result_prepare, hlog]
  cases c.signed r with
  | error f => rfl
  | ok t => exact result_proceed c transport (t.traced c.levels c.config.logger) { s with log }

/-- What a call changes besides the log: if its request can be signed and the client is open, what
passing the request on changes. -/
theorem after_perform (c : Client) (transport : Transport) (r : Request) (s : Traffic) :
    ∃ log, Exchange.after (c.perform transport r) s =
      match c.signed r with
      | .error _ => { s with log }
      | .ok t =>
        if s.closed then { s with log }
        else { c.afterPass transport s (c.outgoing t) with log } := by
  obtain ⟨log, hlog⟩ := onlyLogs_prepare c r s
  rw [perform_eq_bind, Exchange.after_bind, result_prepare, hlog]
  cases c.signed r with
  | error f => exact ⟨log, rfl⟩
  | ok t =>
    obtain ⟨log', hlog'⟩ :=
      after_proceed c transport (t.traced c.levels c.config.logger) { s with log }
    by_cases hclosed : s.closed = true
    · refine ⟨log, hlog'.trans ?_⟩
      simp only [if_pos hclosed]
    · refine ⟨log', hlog'.trans ?_⟩
      simp only [if_neg hclosed]
      rfl

end Client

end ApiClient
