import ApiClient.Proofs.Client.Stages

/-!
# Sessions

What a move makes of a call, and which metrics it delivers to a receiver that does not fail. A call
that has a session to itself is `Client.perform`.
-/

namespace ApiClient

theorem Exchange.OnlyLogs.events {α : Type} {x : Exchange α} (h : Exchange.OnlyLogs x)
    (s : Traffic) : (Exchange.after x s).events = s.events := by
  obtain ⟨log, hlog⟩ := h s
  rw [hlog]

namespace Client

/-- The steps of a call, each with the metrics that it delivers. -/
inductive Call.Step : Call → List MetricEvent → Call → Prop
  /-- Nothing happens. -/
  | idle {call : Call} : Step call [] call
  /-- The request is prepared. -/
  | prepare {r t : Request} : Step (.waiting r) [] (.prepared t)
  /-- The request cannot be prepared, or the call fails before. -/
  | stop {r : Request} {e : Error} : Step (.waiting r) [] (.unsent e)
  /-- The request is passed on. -/
  | depart {t q : Request} {start : Int} :
      Step (.prepared t) [.started q] (.underway q start)
  /-- The prepared request is not passed on. -/
  | stay {t : Request} {e : Error} : Step (.prepared t) [] (.unsent e)
  /-- There is a response. -/
  | respond {q : Request} {start time : Int} {p : Response} :
      Step (.underway q start) [.finished q time (some p.status)] (.answered q p)
  /-- The transport fails. -/
  | lose {q : Request} {start time : Int} {f : Fault} {e : Error} :
      Step (.underway q start) [.finished q time none] (.ended q (.error f) (.error e))
  /-- The call ends with a response, or fails with it. -/
  | conclude {q : Request} {p : Response} {result : Except Error Response} :
      Step (.answered q p) [] (.ended q (.ok p) result)

variable {c : Client} {s : Traffic}

variable [Platform]

/-- A move is a step of its call, if metrics are delivered to a receiver that does not fail. -/
theorem step_of_move (hmeasures : c.config.measures = true) (hsteady : ∀ es, c.receiver es = none)
    (s : Traffic) (move : Move) (call : Call) :
    ∃ es, call.Step es (c.move s move call).1 ∧
      (c.move s move call).2.events = s.events ++ es := by
  have hreceiver : c.receiver? = some c.receiver := if_pos hmeasures
  have hidle : ∃ es, call.Step es call ∧ s.events = s.events ++ es :=
    ⟨[], .idle, (List.append_nil _).symm⟩
  cases move with
  | prepare =>
    cases call with
    | waiting r =>
      have hevents := (onlyLogs_prepare c r).events s
      unfold move
      simp only
      rw [Exchange.run_eq]
      cases Exchange.result (c.prepare r) s with
      | ok t => exact ⟨[], .prepare, hevents.trans (List.append_nil _).symm⟩
      | error e => exact ⟨[], .stop, hevents.trans (List.append_nil _).symm⟩
    -- a move that does not fit the call
    | _ => exact hidle
  | depart =>
    cases call with
    | prepared t =>
      unfold move
      simp only
      rw [depart_run, hreceiver]
      by_cases hclosed : s.closed = true
      · simp only [if_pos hclosed]
        exact ⟨[], .stay, (List.append_nil _).symm⟩
      · simp only [if_neg hclosed, hsteady]
        exact ⟨_, .depart, rfl⟩
    | _ => exact hidle
  | arrive answer =>
    cases call with
    | underway q start =>
      unfold move
      simp only
      rw [arrive_run, hreceiver]
      simp only [hsteady]
      cases answer with
      | ok p => exact ⟨_, .respond, rfl⟩
      | error f => exact ⟨_, .lose, rfl⟩
    | _ => exact hidle
  | conclude =>
    cases call with
    | answered q p =>
      have hevents := (onlyLogs_conclude c q p).events s
      unfold move
      simp only
      rw [Exchange.run_eq]
      cases Exchange.result (c.conclude q p) s with
      | ok p' => exact ⟨[], .conclude, hevents.trans (List.append_nil _).symm⟩
      | error e => exact ⟨[], .conclude, hevents.trans (List.append_nil _).symm⟩
    | _ => exact hidle
  | fail f =>
    cases call with
    | waiting r => exact ⟨[], .stop, (List.append_nil _).symm⟩
    | prepared t => exact ⟨[], .stay, (List.append_nil _).symm⟩
    | answered q p => exact ⟨[], .conclude, (List.append_nil _).symm⟩
    | _ => exact hidle

/-- What moves in a row make of a call. -/
def moveAll (c : Client) (moves : List Move) (call : Call) (s : Traffic) : Call × Traffic :=
  moves.foldl (fun x move => c.move x.2 move x.1) (call, s)

/-- What a call has resulted in, if it has ended. -/
def Call.result? : Call → Option (Except Error Response)
  | unsent e => some (.error e)
  | ended _ _ result => some result
  | _ => none

/-- The moves of a call that is not disturbed and gets `answer`. -/
def movesOf (answer : Except Fault Response) : List Move :=
  [.prepare, .depart, .arrive answer, .conclude]

/-- A call that is not disturbed and gets the answer of a transport ends as `Client.perform` does,
and changes what that changes. -/
theorem moveAll_alone (c : Client) (transport : Transport) (r : Request) (s : Traffic) :
    ∃ answer, (c.moveAll (movesOf answer) (.waiting r) s).1.result? =
        some (Exchange.result (c.perform transport r) s) ∧
      (c.moveAll (movesOf answer) (.waiting r) s).2 =
        Exchange.after (c.perform transport r) s := by
  rw [perform_eq]
  unfold Exchange.result Exchange.after moveAll movesOf
  simp only [EStateM.run_bind, EStateM.run_get, List.foldl_cons, List.foldl_nil]
  -- a call ends where the first of its steps fails
  cases hprepare : (c.prepare r).run s with
  | error e u =>
    have hmove : c.move s .prepare (.waiting r) = (.unsent e, u) := by
      simp only [move, hprepare]
    refine ⟨.error .closed, ?_⟩
    rw [hmove]
    exact ⟨rfl, rfl⟩
  | ok t u =>
    have hmove : c.move s .prepare (.waiting r) = (.prepared t, u) := by
      simp only [move, hprepare]
    simp only [hmove]
    cases hdepart : (c.depart t).run u with
    | error e v =>
      have hmove : c.move u .depart (.prepared t) = (.unsent e, v) := by
        simp only [move, hdepart]
      refine ⟨.error .closed, ?_⟩
      rw [hmove]
      exact ⟨rfl, rfl⟩
    | ok departed v =>
      obtain ⟨q, start⟩ := departed
      have hmove : c.move u .depart (.prepared t) = (.underway q start, v) := by
        simp only [move, hdepart]
      refine ⟨transport.answer u.sent q, ?_⟩
      simp only [hmove]
      cases harrive : (c.arrive q start (transport.answer u.sent q)).run v with
      | error e w =>
        have hmove : c.move v (.arrive (transport.answer u.sent q)) (.underway q start) =
            (.ended q (transport.answer u.sent q) (.error e), w) := by
          simp only [move, harrive]
        rw [hmove]
        exact ⟨rfl, rfl⟩
      | ok p w =>
        have hmove : c.move v (.arrive (transport.answer u.sent q)) (.underway q start) =
            (.answered q p, w) := by
          simp only [move, harrive]
        simp only [hmove]
        cases hconclude : (c.conclude q p).run w with
        | error e x =>
          have hmove : c.move w .conclude (.answered q p) =
              (.ended q (.ok p) (.error e), x) := by
            simp only [move, hconclude]
          rw [hmove]
          exact ⟨rfl, rfl⟩
        | ok p' x =>
          have hmove : c.move w .conclude (.answered q p) =
              (.ended q (.ok p) (.ok p'), x) := by
            simp only [move, hconclude]
          rw [hmove]
          exact ⟨rfl, rfl⟩

namespace Session

theorem run_single (c : Client) (moves : List Move) (call : Call) (s : Traffic)
    (deliveries : List (Nat × MetricEvent)) :
    (run c { calls := [call], traffic := s, deliveries } (moves.map (.call 0))).calls =
        [(c.moveAll moves call s).1] ∧
      (run c { calls := [call], traffic := s, deliveries } (moves.map (.call 0))).traffic =
        (c.moveAll moves call s).2 := by
  induction moves generalizing call s deliveries with
  | nil => exact ⟨rfl, rfl⟩
  | cons move rest ih => exact ih _ _ _

/-- A call that has a session to itself ends as `Client.perform` does, and leaves what that
leaves. -/
theorem run_alone (c : Client) (transport : Transport) (r : Request) (s : Traffic) :
    ∃ events call, (run c (begin s [r]) events).calls = [call] ∧
      call.result? = some (Exchange.result (c.perform transport r) s) ∧
      (run c (begin s [r]) events).traffic = Exchange.after (c.perform transport r) s := by
  obtain ⟨answer, hresult, hafter⟩ := c.moveAll_alone transport r s
  obtain ⟨hcalls, htraffic⟩ := run_single c (movesOf answer) (.waiting r) s []
  exact ⟨_, _, hcalls, hresult, htraffic.trans hafter⟩

end Session

end Client

end ApiClient
