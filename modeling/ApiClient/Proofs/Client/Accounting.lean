import Mathlib.Algebra.BigOperators.Fin
import ApiClient.Proofs.Client.Session

/-!
# The account of the metrics

The metrics that the calls of a session deliver to a receiver add up, at any time and for each path
and method: the requests in flight are those under way, and the count is that of the requests that
have got an answer.
-/

namespace ApiClient

/-- Whether a request has this path and method. -/
def Request.isFor (resource method : String) (q : Request) : Bool :=
  q.url.resource = resource && q.method = method

namespace MetricEvent

/-- The change of a metric. -/
def change (m : Metric) (e : MetricEvent) : Int :=
  (e.values.lookup m).getD 0

/-- Whether an event is about requests with this path and method. -/
def concerns (resource method : String) (e : MetricEvent) : Bool :=
  e.labels.lookup .resource = some resource && e.labels.lookup .method = some method

/-- The sum of the changes of a metric, for one path and method. -/
def total (m : Metric) (resource method : String) (events : List MetricEvent) : Int :=
  ((events.filter (concerns resource method)).map (change m)).sum

variable {m : Metric} {resource method : String}

theorem total_cons (e : MetricEvent) (rest : List MetricEvent) :
    total m resource method (e :: rest) =
      (if e.concerns resource method then e.change m else 0) + total m resource method rest := by
  rw [total, total, List.filter_cons]
  split <;> simp

theorem concerns_started (q : Request) :
    (started q).concerns resource method = q.isFor resource method := by
  show (decide (some q.url.resource = some resource) && decide (some q.method = some method)) = _
  simp only [Option.some.injEq]
  rfl

theorem concerns_finished (q : Request) (time : Int) (status : Option Int) :
    (finished q time status).concerns resource method = q.isFor resource method :=
  concerns_started q

theorem labels_eq {q u : Request} (hpath : q.url.path = u.url.path)
    (hmethod : q.method = u.method) :
    started q = started u ∧ ∀ time time' status,
      (finished q time status).labels = (finished u time' status).labels := by
  have hlabels : labelsOf q = labelsOf u := by
    unfold labelsOf Url.resource Url.pathOrRoot
    rw [hpath, hmethod]
  refine ⟨?_, fun time time' status => ?_⟩
  · rw [started, started, hlabels]
  · rw [finished, finished, hlabels]

/-- The events of a call, in a list of events with the numbers of their calls. -/
def ofCall (i : Nat) (ds : List (Nat × MetricEvent)) : List MetricEvent :=
  (ds.filter fun d => d.1 = i).map Prod.snd

theorem ofCall_cons (i : Nat) (d : Nat × MetricEvent) (rest : List (Nat × MetricEvent)) :
    ofCall i (d :: rest) = if d.1 = i then d.2 :: ofCall i rest else ofCall i rest := by
  unfold ofCall
  rw [List.filter_cons]
  by_cases hi : d.1 = i
  · simp only [hi, decide_true, if_true, List.map_cons]
  · simp only [hi, decide_false, Bool.false_eq_true, if_false]

theorem ofCall_append (i : Nat) (first second : List (Nat × MetricEvent)) :
    ofCall i (first ++ second) = ofCall i first ++ ofCall i second := by
  rw [ofCall, ofCall, ofCall, List.filter_append, List.map_append]

theorem ofCall_tagged (i j : Nat) (es : List MetricEvent) :
    ofCall j (es.map fun e => (i, e)) = if i = j then es else [] := by
  induction es with
  | nil => exact (ite_self _).symm
  | cons e rest ih =>
    rw [List.map_cons, ofCall_cons, ih]
    split <;> rfl

theorem map_snd_tagged (i : Nat) (es : List MetricEvent) :
    (es.map fun e => (i, e)).map Prod.snd = es := by
  rw [List.map_map]
  exact List.map_id es

theorem total_eq_sum {n : Nat} {ds : List (Nat × MetricEvent)} (hds : ∀ d ∈ ds, d.1 < n)
    (m : Metric) (resource method : String) : total m resource method (ds.map Prod.snd) =
      ∑ i : Fin n, total m resource method (ofCall i ds) := by
  -- the first delivery adds to the total of its own call and to no other
  induction ds with
  | nil => simp [total, ofCall]
  | cons d rest ih =>
    obtain ⟨hd, hrest⟩ := List.forall_mem_cons.mp hds
    obtain ⟨x, hx⟩ : ∃ x, x = if d.2.concerns resource method then d.2.change m else 0 := ⟨_, rfl⟩
    have hcall : ∀ i : Fin n, total m resource method (ofCall i (d :: rest)) =
        (if (⟨d.1, hd⟩ : Fin n) = i then x else 0) + total m resource method (ofCall i rest) := by
      intro i
      rw [ofCall_cons]
      by_cases hi : d.1 = i.val
      · rw [if_pos hi, if_pos (Fin.ext hi), total_cons, hx]
      · rw [if_neg hi, if_neg fun h => hi (Fin.ext_iff.mp h), zero_add]
    rw [List.map_cons, total_cons, ih hrest, Finset.sum_congr rfl fun i _ => hcall i,
      Finset.sum_add_distrib, Finset.sum_ite_eq, if_pos (Finset.mem_univ _), hx]

end MetricEvent

namespace Client

/-! ## What a call delivers -/

namespace Call

/-- What a call has delivered by now: an event when its request was passed on, and another one when
that was answered. -/
inductive Delivered : Call → List MetricEvent → Prop
  | waiting {r : Request} : Delivered (.waiting r) []
  | prepared {t : Request} : Delivered (.prepared t) []
  | unsent {e : Error} : Delivered (.unsent e) []
  | underway {q : Request} {start : Int} : Delivered (.underway q start) [.started q]
  | answered {q : Request} {p : Response} {time : Int} :
      Delivered (.answered q p) [.started q, .finished q time (some p.status)]
  | ended {q : Request} {answer : Except Fault Response} {result : Except Error Response}
      {time : Int} : Delivered (.ended q answer result)
        [.started q, .finished q time (answer.toOption.map fun p => p.status)]

theorem Step.length_le {call next : Call} {events : List MetricEvent}
    (h : call.Step events next) : events.length ≤ 1 := by
  cases h with
  | idle | prepare | stop | stay | conclude => exact Nat.zero_le _
  | depart | respond | lose => exact Nat.le_refl _

theorem Delivered.step {call next : Call} {before events : List MetricEvent}
    (h : call.Delivered before) (hstep : call.Step events next) :
    next.Delivered (before ++ events) := by
  cases hstep with
  | idle => rwa [List.append_nil]
  | prepare => cases h; exact .prepared
  | stop => cases h; exact .unsent
  | depart => cases h; exact .underway
  | stay => cases h; exact .unsent
  | respond => cases h; exact .answered
  | lose => cases h; exact .ended
  | conclude => cases h; exact .ended

/-- Whether the request of a call has this path and method, and is under way. -/
def isUnderway (resource method : String) : Call → Bool
  | underway q _ => q.isFor resource method
  | _ => false

/-- Whether the request of a call has this path and method, and has been under way. -/
def isFinished (resource method : String) : Call → Bool
  | answered q _ | ended q _ _ => q.isFor resource method
  | _ => false

theorem Delivered.total {call : Call} {events : List MetricEvent} (h : call.Delivered events)
    (resource method : String) :
    MetricEvent.total .inFlight resource method events =
        (if call.isUnderway resource method then 1 else 0) ∧
      MetricEvent.total .count resource method events =
        (if call.isFinished resource method then 1 else 0) := by
  have hboth : ∀ (q : Request) (time : Int) (status : Option Int),
      MetricEvent.total .inFlight resource method [.started q, .finished q time status] = 0 ∧
        MetricEvent.total .count resource method [.started q, .finished q time status] =
          if q.isFor resource method then 1 else 0 := by
    intro q time status
    rw [MetricEvent.total_cons, MetricEvent.total_cons, MetricEvent.total_cons,
      MetricEvent.total_cons, MetricEvent.concerns_started, MetricEvent.concerns_finished]
    cases q.isFor resource method with
    | true => exact ⟨rfl, rfl⟩
    | false => exact ⟨rfl, rfl⟩
  cases h with
  | waiting => exact ⟨rfl, rfl⟩
  | prepared => exact ⟨rfl, rfl⟩
  | unsent => exact ⟨rfl, rfl⟩
  | @underway q start =>
    have hunderway : (Call.underway q start).isUnderway resource method =
        q.isFor resource method := rfl
    rw [MetricEvent.total_cons, MetricEvent.total_cons, MetricEvent.concerns_started, hunderway]
    cases q.isFor resource method with
    | true => exact ⟨rfl, rfl⟩
    | false => exact ⟨rfl, rfl⟩
  | answered => exact hboth _ _ _
  | ended => exact hboth _ _ _

end Call

/-! ## What the calls of a session deliver -/

theorem sum_ite_eq_countP (calls : List Call) (p : Call → Bool) :
    ∑ i : Fin calls.length, (if p calls[i.val] then 1 else 0 : Int) = calls.countP p := by
  rw [Fin.sum_univ_fun_getElem calls fun call => (if p call then 1 else 0 : Int)]
  induction calls with
  | nil => rfl
  | cons call rest ih =>
    rw [List.map_cons, List.sum_cons, ih, List.countP_cons]
    push_cast
    exact add_comm _ _

namespace Session

/-- The metrics that a session has delivered, in order. -/
def delivered (session : Session) : List MetricEvent :=
  session.deliveries.map Prod.snd

/-- The metrics that a call has delivered, in order. -/
def deliveredBy (session : Session) (i : Nat) : List MetricEvent :=
  MetricEvent.ofCall i session.deliveries

/-- The books of a session that began after the events `before` are in order. -/
structure Accounted (before : List MetricEvent) (session : Session) : Prop where
  /-- What has been delivered are the deliveries of the calls. -/
  events : session.traffic.events = before ++ session.delivered
  /-- Every delivery belongs to a call. -/
  owned : ∀ d ∈ session.deliveries, d.1 < session.calls.length
  /-- Every call has delivered what is due. -/
  due : ∀ (i : Nat) (call : Call), session.calls[i]? = some call →
    call.Delivered (session.deliveredBy i)

theorem Accounted.begin (s : Traffic) (requests : List Request) :
    Accounted s.events (begin s requests) where
  events := (List.append_nil _).symm
  owned := fun d hd => absurd hd List.not_mem_nil
  due := by
    intro i call hcall
    have hcall : (requests.map Call.waiting)[i]? = some call := hcall
    rw [List.getElem?_map] at hcall
    cases hr : requests[i]? with
    | none => rw [hr] at hcall; cases hcall
    | some r => rw [hr] at hcall; cases hcall; exact .waiting

variable {c : Client} {session : Session} {before : List MetricEvent}

theorem Accounted.sums (h : Accounted before session) (resource method : String) :
    MetricEvent.total .inFlight resource method session.delivered =
        session.calls.countP (Call.isUnderway resource method) ∧
      MetricEvent.total .count resource method session.delivered =
        session.calls.countP (Call.isFinished resource method) := by
  have hdue : ∀ i : Fin session.calls.length,
      session.calls[i.val].Delivered (session.deliveredBy i) := fun i =>
    h.due i session.calls[i.val] (List.getElem?_eq_getElem i.isLt)
  constructor
  · rw [delivered, MetricEvent.total_eq_sum h.owned, ← sum_ite_eq_countP]
    exact Finset.sum_congr rfl fun i _ => ((hdue i).total resource method).1
  · rw [delivered, MetricEvent.total_eq_sum h.owned, ← sum_ite_eq_countP]
    exact Finset.sum_congr rfl fun i _ => ((hdue i).total resource method).2

section

variable [Platform]

theorem step_call (hmeasures : c.config.measures = true) (hsteady : ∀ es, c.receiver es = none)
    {i : Nat} {call : Call} (hcall : session.calls[i]? = some call) (move : Move) :
    ∃ next es, call.Step es next ∧
      (session.step c (.call i move)).calls = session.calls.set i next ∧
      (session.step c (.call i move)).traffic.events = session.traffic.events ++ es ∧
      (session.step c (.call i move)).deliveries =
        session.deliveries ++ es.map fun e => (i, e) := by
  obtain ⟨es, hstep, hevents⟩ := c.step_of_move hmeasures hsteady session.traffic move call
  refine ⟨_, es, hstep, ?_, ?_, ?_⟩
  · simp only [Session.step, hcall]
  · simp only [Session.step, hcall]
    exact hevents
  · simp only [Session.step, hcall, hevents, List.drop_left]

theorem Accounted.step (hmeasures : c.config.measures = true)
    (hsteady : ∀ es, c.receiver es = none) (h : Accounted before session) (event : SessionEvent) :
    Accounted before (session.step c event) := by
  cases event with
  | close => exact ⟨h.events, h.owned, h.due⟩
  | call i move =>
    cases hcall : session.calls[i]? with
    | none =>
      have hstep : session.step c (.call i move) = session := by
        simp only [Session.step, hcall]
      rwa [hstep]
    | some call =>
      obtain ⟨next, es, hstep, hcalls, hevents, hdeliveries⟩ :=
        step_call hmeasures hsteady hcall move
      have hi : i < session.calls.length := (List.getElem?_eq_some_iff.mp hcall).1
      have hby : ∀ j, (session.step c (.call i move)).deliveredBy j =
          session.deliveredBy j ++ if i = j then es else [] := by
        intro j
        rw [deliveredBy, deliveredBy, hdeliveries, MetricEvent.ofCall_append,
          MetricEvent.ofCall_tagged]
      refine ⟨?_, ?_, ?_⟩
      · rw [hevents, h.events, List.append_assoc, delivered, delivered, hdeliveries,
          List.map_append, MetricEvent.map_snd_tagged]
      · intro d hd
        rw [hdeliveries] at hd
        rw [hcalls, List.length_set]
        rcases List.mem_append.mp hd with hd | hd
        · exact h.owned d hd
        · obtain ⟨e, -, rfl⟩ := List.mem_map.mp hd
          exact hi
      · intro j other hother
        rw [hby]
        rw [hcalls] at hother
        by_cases hij : i = j
        · subst hij
          rw [List.getElem?_set_self hi] at hother
          cases hother
          rw [if_pos rfl]
          exact (h.due i call hcall).step hstep
        · rw [List.getElem?_set_ne hij] at hother
          rw [if_neg hij, List.append_nil]
          exact h.due j other hother

theorem Accounted.run (hmeasures : c.config.measures = true)
    (hsteady : ∀ es, c.receiver es = none) (h : Accounted before session)
    (events : List SessionEvent) : Accounted before (session.run c events) := by
  induction events generalizing session with
  | nil => exact h
  | cons event rest ih => exact ih (h.step hmeasures hsteady event)

theorem length_delivered_step (hmeasures : c.config.measures = true)
    (hsteady : ∀ es, c.receiver es = none) (session : Session) (event : SessionEvent) :
    ∃ es, es.length ≤ 1 ∧ (session.step c event).delivered = session.delivered ++ es := by
  cases event with
  | close => exact ⟨[], by decide, (List.append_nil _).symm⟩
  | call i move =>
    cases hcall : session.calls[i]? with
    | none =>
      refine ⟨[], by decide, ?_⟩
      simp only [Session.step, hcall, List.append_nil]
    | some call =>
      obtain ⟨next, es, hstep, -, -, hdeliveries⟩ := step_call hmeasures hsteady hcall move
      refine ⟨es, hstep.length_le, ?_⟩
      rw [delivered, delivered, hdeliveries, List.map_append, MetricEvent.map_snd_tagged]

/-- The account of the metrics of any calls, in any order of their steps and with any answers and
failures, if the receiver does not fail. It is in order after every step, and a step delivers one
event at most. What a call has delivered goes by how far it is: nothing unless its request has been
passed on, one event while it is under way, and a second one with its status afterwards. For each
path and method, the sum for the requests in flight is the number of those under way, and the sum of
the counts is the number of those that have been answered. Two requests for one path and with one
method have the same labels. -/
theorem accounting {c : Client} (hmeasures : c.config.measures = true)
    (hsteady : ∀ es, c.receiver es = none) (s : Traffic) (requests : List Request)
    (events : List SessionEvent) :
    let session := (begin s requests).run c events
    session.traffic.events = s.events ++ session.delivered ∧
      (∀ event, ∃ es, es.length ≤ 1 ∧
        (session.step c event).delivered = session.delivered ++ es) ∧
      (∀ (i : Nat) (call : Call), session.calls[i]? = some call →
        call.Delivered (session.deliveredBy i)) ∧
      (∀ resource method,
        MetricEvent.total .inFlight resource method session.delivered =
            session.calls.countP (Call.isUnderway resource method) ∧
          MetricEvent.total .count resource method session.delivered =
            session.calls.countP (Call.isFinished resource method)) ∧
      ∀ q u : Request, q.url.path = u.url.path → q.method = u.method →
        MetricEvent.started q = MetricEvent.started u ∧ ∀ time time' status,
          (MetricEvent.finished q time status).labels =
            (MetricEvent.finished u time' status).labels := by
  intro session
  have h : Accounted s.events session :=
    (Accounted.begin s requests).run hmeasures hsteady events
  exact ⟨h.events, length_delivered_step hmeasures hsteady session, h.due, h.sums,
    fun q u hpath hmethod => MetricEvent.labels_eq hpath hmethod⟩

end

section Plain

attribute [local instance] Platform.plain

/-- Three calls for one path: the first is cancelled while it is under way, the second is still
under way, and the third is cancelled before its request is passed on. -/
theorem accounting_of_three_calls :
    let c : Client := {
      levels := [], now := 0
      config := {
        baseUrl := "https://engine.test", credential := none, transport := .network
        userAgent := "agent", logger := "app", reportsFailures := true, measures := true
        version := "" } }
    let r : Request := {
      method := "GET", headers := { rows := [] }, body := .held []
      url := {
        scheme := "https", userinfo := "", host := "engine.test", port := none, path := "/x"
        query := none, fragment := none } }
    let cancelled : Fault := .outside { kind := .cancelled, text := "" }
    let events : List SessionEvent := [
      .call 0 .prepare, .call 1 .prepare, .call 1 .depart, .call 2 (.fail cancelled),
      .call 0 .depart, .call 0 (.arrive (.error cancelled))]
    let session := (begin {} [r, r, r]).run c events
    c.config.measures = true ∧ (∀ es, c.receiver es = none) ∧
      MetricEvent.total .inFlight "/x" "GET" session.traffic.events = 1 ∧
      MetricEvent.total .count "/x" "GET" session.traffic.events = 1 := by
  intro c r cancelled events session
  have hmeasures : c.config.measures = true := rfl
  have hsteady : ∀ es, c.receiver es = none := fun _ => rfl
  have hunderway : session.calls.countP (Call.isUnderway "/x" "GET") = 1 := by
    unfold session events r c cancelled
    decide +kernel
  have hfinished : session.calls.countP (Call.isFinished "/x" "GET") = 1 := by
    unfold session events r c cancelled
    decide +kernel
  obtain ⟨hevents, -, -, hsums, -⟩ := accounting hmeasures hsteady {} [r, r, r] events
  have hsession : (begin {} [r, r, r]).run c events = session := rfl
  rw [hsession] at hevents hsums
  clear_value session
  obtain ⟨hflight, hcount⟩ := hsums "/x" "GET"
  have hevents : session.traffic.events = [] ++ session.delivered := hevents
  rw [hevents, List.nil_append, hflight, hcount, hunderway, hfinished]
  exact ⟨hmeasures, hsteady, rfl, rfl⟩

end Plain

end Session

end Client

end ApiClient
