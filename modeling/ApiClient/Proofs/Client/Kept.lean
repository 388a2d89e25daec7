import ApiClient.Kept
import ApiClient.Proofs.Client.Received

/-!
# A client keeps nothing

Whatever a call finds in the jar of a client is gone when it ends, and so calls that are made one
after the other on one client are seen as if each of them had a client of its own.
-/

namespace ApiClient

/-- Collecting puts the cookies of a response into an empty jar. -/
def Collecting.Lawful [Platform] (collect : Collecting) : Prop :=
  ∀ q p, collect [] q p = do p.cookies (← q.site)

/-- Collecting so that a cookie takes the place of those with its domain, path and name. -/
def Collecting.replacing [Platform] : Collecting := fun jar q p => do
  let fresh ← p.cookies (← q.site)
  return jar.filter (fun c => !fresh.any fun d => Jar.same c d) ++ fresh

theorem Collecting.lawful_replacing [Platform] : replacing.Lawful := by
  intro q p
  unfold replacing
  cases q.site with
  | error f => rfl
  | ok site =>
    show (p.cookies site >>= fun fresh => pure fresh) = p.cookies site
    exact bind_pure _

section Run

variable {α : Type}

theorem Exchange.besideJar_run (x : Exchange α) (k : Kept) : x.besideJar.run k =
    match x.run k.traffic with
    | .ok a s => .ok a { k with traffic := s }
    | .error e s => .error e { k with traffic := s } := rfl

theorem Exchange.besideJar_ok_run (a : α) (k : Kept) :
    (Exchange.ofExcept (.ok a)).besideJar.run k = .ok a k := rfl

theorem JarExchange.emptying_run (x : JarExchange α) (k : Kept) :
    (do try x finally JarExchange.emptyJar : JarExchange α).run k =
      match x.run k with
      | .ok a k => .ok a { k with jar := [] }
      | .error e k => .error e { k with jar := [] } := by
  unfold tryFinally EStateM.run
  simp only [Functor.map, EStateM.map, tryFinally']
  cases x k with
  | ok a k' => rfl
  | error e k' => rfl

end Run

namespace Client

variable {c : Client} {collect : Collecting} {s s₀ : Traffic}

/-! ## Preparing and passing on -/

/-- Whether the receiver of metrics fails does not depend on how long requests take. -/
def Timeless (c : Client) : Prop :=
  ∀ receiver, c.receiver? = some receiver → ∀ events others : List MetricEvent,
    events.map MetricEvent.labels = others.map MetricEvent.labels →
      receiver events = receiver others

theorem dispatch_alike (answer : Request → Except Fault Response)
    (hclock : c.Timeless ∨ s.clock = s₀.clock) (q : Request) :
    (c.dispatch (fun _ => answer) s q).outcome = (c.dispatch (fun _ => answer) s₀ q).outcome ∧
      (c.dispatch (fun _ => answer) s q).passed = (c.dispatch (fun _ => answer) s₀ q).passed ∧
      (c.dispatch (fun _ => answer) s q).events.map MetricEvent.labels =
        (c.dispatch (fun _ => answer) s₀ q).events.map MetricEvent.labels := by
  have hdispatch : ∀ s : Traffic, c.dispatch (fun _ => answer) s q = Dispatch.ofAnswer c.receiver?
      s.clock q (Transport.answer (fun _ => answer) [] q) := fun _ => rfl
  rcases hclock with htimeless | hclock
  · rw [hdispatch, hdispatch]
    cases hreceiver : c.receiver? with
    | none => exact ⟨rfl, rfl, rfl⟩
    | some receiver =>
      unfold Dispatch.ofAnswer
      simp only
      cases hfirst : receiver [.started q] with
      | some e =>
        rw [Dispatch.measured_of_some hfirst, Dispatch.measured_of_some hfirst]
        exact ⟨rfl, rfl, rfl⟩
      | none =>
        rw [Dispatch.measured_of_none hfirst, Dispatch.measured_of_none hfirst]
        have hlast : ∀ (time other : Int) (status : Option Int),
            receiver [.started q, .finished q time status] =
              receiver [.started q, .finished q other status] :=
          fun _ _ _ => htimeless receiver hreceiver _ _ rfl
        refine ⟨?_, rfl, rfl⟩
        simp only
        rw [hlast _ (s₀.clock.tick.2.tick.1 - s₀.clock.tick.1)]
  · rw [hdispatch, hdispatch, hclock]
    exact ⟨rfl, rfl, rfl⟩

theorem prepare_run (c : Client) (r : Request) (s : Traffic) : (c.prepare r).run s =
    match c.signed r with
    | .error f => .error (.fault f) s
    | .ok t => .ok (t.traced c.levels c.config.logger)
        { s with log := s.log ++ (t.trace c.levels c.config.logger).records } := by
  unfold signed prepare
  rw [EStateM.run_bind]
  cases hsign : c.sign.run r with
  | error f t =>
    unfold Exchange.edit
    rw [hsign]
    rfl
  | ok a t =>
    obtain ⟨bytes, hbody⟩ := held_of_sign hsign
    obtain ⟨hmessage, hfailure⟩ := @Request.trace_spec c.levels c.config.logger t bytes hbody
    rw [Exchange.edit_run hsign]
    simp only
    rw [Exchange.write_run hfailure, hmessage]

/-! ## By way of the jar -/

section

variable [Platform]

theorem nextRequest?_eq (q : Request) (p : Response) :
    p.nextRequest? q = (do p.cookies (← q.site)) >>= fun jar => p.followed? jar q := by
  unfold Response.nextRequest? Response.followed?
  cases q.site with
  | error f => rfl
  | ok site => rfl

/-- A response that is taken up with an empty jar is accepted, or fails to be. -/
theorem takeUp_run (hcollect : collect.Lawful) (q : Request) (p : Response) (s : Traffic) :
    ∃ jar, (takeUp collect q p).run { traffic := s } =
      match accept q p with
      | .error f => .error (.fault f) { traffic := s, jar }
      | .ok p' => .ok { request := q, response := p', next := (p.nextRequest? q).toOption.join }
          { traffic := s, jar } := by
  rw [accept_eq, nextRequest?_eq, ← hcollect]
  unfold takeUp
  by_cases hmode : p.body.mode? = some StreamMode.blocking
  · simp only [hmode, if_true]
    exact ⟨[], rfl⟩
  · simp only [hmode, if_false]
    simp only [EStateM.run_bind, EStateM.run_get, EStateM.run_modify]
    cases collect [] q p with
    | error f => exact ⟨[], rfl⟩
    | ok jar =>
      refine ⟨jar, ?_⟩
      have hfollowed : ((Except.ok jar : Except Fault Jar) >>= fun jar => p.followed? jar q) =
          p.followed? jar q := rfl
      rw [Exchange.besideJar_ok_run, hfollowed]
      cases hnext : p.followed? jar q with
      | error f =>
        simp only [hnext]
        rfl
      | ok next =>
        cases p.read.1 with
        | error f =>
          simp only [hnext]
          rfl
        | ok bytes =>
          simp only [hnext]
          rfl

theorem send_run (hcollect : collect.Lawful) (c : Client) (transport : Transport) (t : Request)
    (s : Traffic) : ∃ jar, (c.send collect transport t).run { traffic := s } =
      if s.closed then .error (.fault .closed) { traffic := s, jar }
      else
        let q := withAddressCredentials t
        match (c.pass transport q).run s with
        | .error e u => .error e { traffic := u, jar }
        | .ok p u =>
          match accept q p with
          | .error f => .error (.fault f) { traffic := u, jar }
          | .ok p' =>
            .ok { request := q, response := p', next := (p.nextRequest? q).toOption.join }
              { traffic := u, jar } := by
  unfold send
  rw [EStateM.run_bind, EStateM.run_get]
  by_cases hclosed : s.closed = true
  · simp only [hclosed, if_true]
    exact ⟨[], rfl⟩
  · simp only [hclosed, Bool.false_eq_true, if_false]
    simp only [EStateM.run_bind, Exchange.besideJar_run,
      Exchange.edit_run (useAddressCredentials_run t)]
    cases (c.pass transport (withAddressCredentials t)).run s with
    | error e u => exact ⟨[], rfl⟩
    | ok p u => exact takeUp_run hcollect (withAddressCredentials t) p u

/-- The request that would follow the response to a request that is passed on, if there is one. -/
def following? (c : Client) (transport : Transport) (s : Traffic) (q : Request) : Option Request :=
  match (c.dispatch transport s q).outcome with
  | .ok p => (p.nextRequest? q).toOption.join
  | .error _ => none

theorem proceedWithJar_run (hcollect : collect.Lawful) (c : Client) (transport : Transport)
    (t : Request) (s : Traffic) :
    (c.proceedWithJar collect transport t).run { traffic := s } =
      match (c.proceed transport t).run s with
      | .error e u => .error e { traffic := u }
      | .ok p u => .ok (p, c.following? transport s (withAddressCredentials t)) { traffic := u } := by
  unfold proceedWithJar
  rw [EStateM.run_bind, JarExchange.emptying_run]
  obtain ⟨jar, hsend⟩ := send_run hcollect c transport t s
  rw [hsend]
  by_cases hclosed : s.closed = true
  · rw [proceed_of_closed _ _ _ hclosed, if_pos hclosed]
  · rw [proceed_of_open _ _ _ hclosed, if_neg hclosed]
    obtain ⟨q, hq⟩ : ∃ q, q = withAddressCredentials t := ⟨_, rfl⟩
    have hconclude : ∀ p, c.conclude q p = Exchange.ofExcept (accept q p) >>= c.report q :=
      fun _ => rfl
    unfold following?
    simp only [← hq, EStateM.run_bind, pass_run, hconclude]
    cases (c.dispatch transport s q).outcome with
    | error f => rfl
    | ok p =>
      simp only
      cases accept q p with
      | error f => rfl
      | ok p' =>
        have hreport : (Exchange.ofExcept (Except.ok p')).run (c.afterPass transport s q) =
            .ok p' (c.afterPass transport s q) := rfl
        simp only [hreport, Exchange.besideJar_run]
        cases (c.report q p').run (c.afterPass transport s q) with
        | error e u => rfl
        | ok p u => rfl

/-- A call that begins with an empty jar is one without a jar, and leaves an empty jar, whether or
not it fails. -/
theorem performWithJar_run (hcollect : collect.Lawful) (c : Client) (transport : Transport)
    (r : Request) (s : Traffic) : (c.performWithJar collect transport r).run { traffic := s } =
      match (c.perform transport r).run s with
      | .error e u => .error e { traffic := u }
      | .ok p u =>
        .ok (p, (c.signed r).toOption.bind fun t => c.following? transport s (c.outgoing t))
          { traffic := u } := by
  unfold performWithJar
  rw [perform_eq_bind, EStateM.run_bind, EStateM.run_bind, Exchange.besideJar_run, prepare_run]
  cases c.signed r with
  | error f => rfl
  | ok t => exact proceedWithJar_run hcollect c transport _ _

/-! ## Calls -/

/-- A call: its request, the second that it is dated with, and what the clock of the metrics reads
from then on. -/
structure Occasion where
  /-- The request. -/
  request : Request
  /-- The second that a signature is dated with. -/
  now : Int
  /-- The readings to come. -/
  clock : Clock

/-- What is seen of a call. -/
structure Seen where
  /-- What it results in: the response, and the request that would follow it. -/
  result : Except Error (Response × Option Request)
  /-- The requests that the transport has got. -/
  sent : List Request
  /-- The records that have been written. -/
  records : List LogRecord
  /-- The labels of the metrics that have been delivered. -/
  labels : List (List (MetricLabel × String))

/-- What is seen of an operation that begins with `s` and leaves `t`. -/
def Seen.between (s t : Traffic) (result : Except Error (Response × Option Request)) : Seen where
  result
  sent := t.sent.drop s.sent.length
  records := t.log.drop s.log.length
  labels := (t.events.drop s.events.length).map MetricEvent.labels

/-- Makes a call: what is seen of it, and what the client keeps. -/
def call (c : Client) (collect : Collecting) (transport : Transport) (o : Occasion) (k : Kept) :
    Seen × Kept :=
  let begun := { k with traffic := { k.traffic with clock := o.clock } }
  match ({ c with now := o.now }.performWithJar collect transport o.request).run begun with
  | .ok a ended => (.between k.traffic ended.traffic (.ok a), ended)
  | .error e ended => (.between k.traffic ended.traffic (.error e), ended)

/-- Makes calls in a row. -/
def callAll (c : Client) (collect : Collecting) (transport : Transport) :
    List Occasion → Kept → List Seen
  | [], _ => []
  | o :: rest, k =>
    let (seen, k) := c.call collect transport o k
    seen :: c.callAll collect transport rest k

variable {answer : Request → Except Fault Response}

/-- What is seen of a call of an open client. -/
def seenOf (c : Client) (transport : Transport) (r : Request) (s : Traffic) : Seen :=
  match c.signed r with
  | .error f => { result := .error (.fault f), sent := [], records := [], labels := [] }
  | .ok t =>
    let q := c.outgoing t
    let dispatch := c.dispatch transport s q
    { result := (Exchange.result (c.perform transport r) s).map (·, c.following? transport s q)
      sent := if dispatch.passed then [q] else []
      records := (t.trace c.levels c.config.logger).records ++
        c.responseRecords q (c.accepted? transport s q)
      labels := dispatch.events.map MetricEvent.labels }

theorem log_perform (c : Client) (transport : Transport) (r : Request) (s : Traffic) :
    (Exchange.after (c.perform transport r) s).log =
      s.log ++ (c.seenOf transport r s).records := by
  unfold seenOf
  cases hsigned : c.signed r with
  | error f =>
    have hrun : (c.perform transport r).run s = .error (.fault f) s := by
      rw [perform_eq_bind, EStateM.run_bind, prepare_run, hsigned]
    rw [Exchange.after, hrun, List.append_nil]
  | ok t =>
    have hsign := signed_eq_ok.mp hsigned
    obtain ⟨bytes, hbody⟩ := held_of_sign hsign
    obtain ⟨hmessage, hfailure⟩ := @Request.trace_spec c.levels c.config.logger t bytes hbody
    have hlog : (Exchange.after (c.perform transport r) s).log =
        Exchange.logAfter (c.perform transport r) s := by
      unfold Exchange.after Exchange.logAfter
      cases (c.perform transport r).run s with
      | ok p u => rfl
      | error e u => rfl
    rw [hlog, logAfter_perform hsign hfailure hmessage, List.append_assoc]

theorem sent_perform_of_open (hopen : ¬ s.closed = true) (c : Client) (transport : Transport)
    (r : Request) : (Exchange.after (c.perform transport r) s).sent =
      s.sent ++ (c.seenOf transport r s).sent := by
  rw [sent_perform]
  unfold seenOf
  cases c.signed r with
  | error f => exact (List.append_nil _).symm
  | ok t =>
    by_cases hpassed : (c.dispatch transport s (c.outgoing t)).passed = true
    · simp [hopen, hpassed]
    · simp [hpassed]

theorem events_perform_of_open (hopen : ¬ s.closed = true) (c : Client) (transport : Transport)
    (r : Request) : ∃ events, (Exchange.after (c.perform transport r) s).events =
        s.events ++ events ∧ events.map MetricEvent.labels = (c.seenOf transport r s).labels := by
  obtain ⟨log, hafter⟩ := after_perform c transport r s
  rw [hafter]
  unfold seenOf
  cases c.signed r with
  | error f => exact ⟨[], (List.append_nil _).symm, rfl⟩
  | ok t =>
    simp only [if_neg hopen]
    exact ⟨_, rfl, rfl⟩

theorem closed_perform (c : Client) (transport : Transport) (r : Request) (s : Traffic) :
    (Exchange.after (c.perform transport r) s).closed = s.closed := by
  obtain ⟨log, hafter⟩ := after_perform c transport r s
  rw [hafter]
  cases c.signed r with
  | error f => rfl
  | ok t =>
    by_cases hclosed : s.closed = true
    · simp only [if_pos hclosed]
    · simp only [if_neg hclosed, afterPass]

theorem result_seenOf (c : Client) (transport : Transport) (r : Request) (s : Traffic) :
    (c.seenOf transport r s).result = (Exchange.result (c.perform transport r) s).map
      (·, (c.signed r).toOption.bind fun t => c.following? transport s (c.outgoing t)) := by
  unfold seenOf
  cases hsigned : c.signed r with
  | error f =>
    rw [result_perform, hsigned]
    rfl
  | ok t => rfl

/-- What is seen of a call of an open client whose jar is empty. -/
theorem call_of_open (hcollect : collect.Lawful) (hopen : ¬ s.closed = true) (c : Client)
    (transport : Transport) (o : Occasion) :
    c.call collect transport o { traffic := s } =
      ({ c with now := o.now }.seenOf transport o.request { s with clock := o.clock },
        { traffic := Exchange.after ({ c with now := o.now }.perform transport o.request)
            { s with clock := o.clock } }) := by
  obtain ⟨d, hd⟩ : ∃ d : Client, d = { c with now := o.now } := ⟨_, rfl⟩
  obtain ⟨u, hu⟩ : ∃ u : Traffic, u = { s with clock := o.clock } := ⟨_, rfl⟩
  have hopen' : ¬ u.closed = true := by rw [hu]; exact hopen
  obtain ⟨events, hevents, hlabels⟩ := events_perform_of_open hopen' d transport o.request
  have hseen : Seen.between s (Exchange.after (d.perform transport o.request) u)
      (d.seenOf transport o.request u).result = d.seenOf transport o.request u := by
    unfold Seen.between
    rw [log_perform, sent_perform_of_open hopen', hevents]
    simp [hu, hlabels]
  unfold call
  simp only [← hd, ← hu]
  rw [performWithJar_run hcollect, Exchange.run_eq]
  rw [← hseen, result_seenOf]
  cases Exchange.result (d.perform transport o.request) u with
  | error e => rfl
  | ok p => rfl

/-- What is seen of a call does not depend on what has been before, if the transport answers by the
request alone. -/
theorem seenOf_alike (hopen : ¬ s.closed = true) (hopen₀ : ¬ s₀.closed = true)
    (hclock : c.Timeless ∨ s.clock = s₀.clock) (r : Request) :
    c.seenOf (fun _ => answer) r s = c.seenOf (fun _ => answer) r s₀ := by
  unfold seenOf
  cases hsigned : c.signed r with
  | error f => rfl
  | ok t =>
    obtain ⟨houtcome, hpassed, hlabels⟩ := dispatch_alike answer hclock (c.outgoing t)
    have hresult : Exchange.result (c.perform (fun _ => answer) r) s =
        Exchange.result (c.perform (fun _ => answer) r) s₀ := by
      rw [result_perform, result_perform, hsigned]
      simp only [if_neg hopen, if_neg hopen₀, houtcome]
    have haccepted : c.accepted? (fun _ => answer) s (c.outgoing t) =
        c.accepted? (fun _ => answer) s₀ (c.outgoing t) := by
      unfold accepted?
      rw [if_neg hopen, if_neg hopen₀, houtcome]
    have hfollowing : c.following? (fun _ => answer) s (c.outgoing t) =
        c.following? (fun _ => answer) s₀ (c.outgoing t) := by
      unfold following?
      rw [houtcome]
    simp only [hresult, hfollowing, hpassed, haccepted, hlabels]

/-- What is seen of the call of a new client is what the call results in and what it leaves. -/
theorem call_of_new (hcollect : collect.Lawful) (c : Client) (transport : Transport)
    (o : Occasion) :
    let x := { c with now := o.now }.perform transport o.request
    let seen := (c.call collect transport o {}).1
    seen.result.map Prod.fst = Exchange.result x { clock := o.clock } ∧
      seen.sent = (Exchange.after x { clock := o.clock }).sent ∧
      seen.records = (Exchange.after x { clock := o.clock }).log ∧
      seen.labels = (Exchange.after x { clock := o.clock }).events.map MetricEvent.labels := by
  intro x seen
  obtain ⟨d, hd⟩ : ∃ d : Client, d = { c with now := o.now } := ⟨_, rfl⟩
  obtain ⟨u, hu⟩ : ∃ u : Traffic, u = { clock := o.clock } := ⟨_, rfl⟩
  have hopen : ¬ u.closed = true := by rw [hu]; simp
  have hx : x = d.perform transport o.request := by rw [hd]
  have hseen : seen = d.seenOf transport o.request u := by
    unfold seen
    rw [call_of_open hcollect (by simp), hd, hu]
  obtain ⟨events, hevents, hlabels⟩ := events_perform_of_open hopen d transport o.request
  rw [hseen, hx, ← hu]
  refine ⟨?_, ?_, ?_, ?_⟩
  · rw [result_seenOf]
    cases Exchange.result (d.perform transport o.request) u with
    | error e => rfl
    | ok p => rfl
  · rw [sent_perform_of_open hopen, hu]
    rfl
  · rw [log_perform, hu]
    rfl
  · rw [hevents, ← hlabels, hu]
    rfl

/-- A client keeps nothing between its calls. What is seen of each of them, one after the other, is
what is seen of the same call of a new client, whatever cookies the responses set, wherever they
redirect to and however the calls before it have ended. -/
theorem calls_as_new (hcollect : collect.Lawful) (c : Client)
    (answer : Request → Except Fault Response) (hopen : ¬ s.closed = true)
    {occasions : List Occasion} {i : Nat} {o : Occasion} (hi : occasions[i]? = some o)
    {clock : Clock} (hclock : c.Timeless ∨ o.clock = clock) :
    ∃ seen, (c.callAll collect (fun _ => answer) occasions { traffic := s })[i]? = some seen ∧
      seen = (c.call collect (fun _ => answer) { o with clock } {}).1 ∧
      let x := { c with now := o.now }.perform (fun _ => answer) o.request
      seen.result.map Prod.fst = Exchange.result x { clock } ∧
        seen.sent = (Exchange.after x { clock }).sent ∧
        seen.records = (Exchange.after x { clock }).log ∧
        seen.labels = (Exchange.after x { clock }).events.map MetricEvent.labels := by
  refine ⟨_, ?_, rfl, call_of_new hcollect c (fun _ => answer) { o with clock }⟩
  induction occasions generalizing s i with
  | nil => cases hi
  | cons first rest ih =>
    unfold callAll
    rw [call_of_open hcollect hopen]
    cases i with
    | zero =>
      obtain rfl : first = o := Option.some.inj hi
      have hnew : ¬ ({} : Traffic).closed = true := Bool.false_ne_true
      have hsame :
          { c with now := first.now }.seenOf (fun _ => answer) first.request
              { s with clock := first.clock } =
            { c with now := first.now }.seenOf (fun _ => answer) first.request { clock } := by
        refine seenOf_alike ?_ ?_ ?_ _
        · exact hopen
        · exact hnew
        · exact hclock
      rw [call_of_open hcollect hnew]
      exact congrArg some hsame
    | succ i => exact ih (by rw [closed_perform]; exact hopen) hi

end

section Plain

attribute [local instance] Platform.plain

/-- A response that sets a cookie, and then one to the same server that redirects: the request that
would follow has no cookie. -/
theorem calls_as_new_of_cookie :
    let c : Client := {
      levels := [("app", 10)], now := 0
      config := {
        baseUrl := "https://engine.test", credential := some (.bearer "T"), transport := .network
        userAgent := "agent", logger := "app", reportsFailures := false, measures := true
        version := "" } }
    let occasion : String → Occasion := fun path => {
      now := 0, clock := [0, 5]
      request := {
        method := "GET", body := .held [], headers := { rows := [] }
        url := {
          scheme := "https", userinfo := "", host := "engine.test", port := none, path
          query := none, fragment := none } } }
    let answer : Request → Except Fault Response := fun q => .ok {
      status := if q.url.path = "/a" then 200 else 302, body := .held []
      headers := {
        rows := [if q.url.path = "/a" then Headers.row "Set-Cookie" "k=v; Path=/"
          else Headers.row "Location" "/c"] } }
    ∃ seen, (c.callAll .replacing (fun _ => answer) [occasion "/a", occasion "/b"] {})[1]? =
        some seen ∧
      seen.sent.map (fun q => q.url.path) = ["/b"] ∧ seen.labels.length = 2 ∧
      (seen.result.toOption.bind Prod.snd).map (fun next => next.headers.get? "Cookie") =
        some none := by
  intro c occasion answer
  have hopen : ¬ ({} : Traffic).closed = true := Bool.false_ne_true
  obtain ⟨seen, hseen, hnew, -⟩ := calls_as_new Collecting.lawful_replacing c answer hopen
    (show [occasion "/a", occasion "/b"][1]? = some (occasion "/b") from rfl) (.inr rfl)
  refine ⟨seen, hseen, ?_⟩
  rw [hnew]
  unfold answer occasion c
  decide +kernel

end Plain

end Client

end ApiClient
