import ApiClient.Proofs.Trace.Message

/-!
# Bodies that cannot be read

A message whose body cannot be read is logged without its body, and with a warning. There are
exceptions: a stream that fails in a way that does not count as merely unreadable, a failure that
cannot give its text for the warning, and the body of a request that is to be read in step. Then
nothing is logged, and the fault goes through.
-/

namespace ApiClient

/-- A message that is logged: a request, or a response with its request if that is known. -/
inductive Message
  | request (r : Request)
  | response (request : Option Request) (r : Response)

namespace Message

variable {levels : Levels} {logger : String} {m : Message} {f : Fault}

/-- The body of a message. -/
def body : Message → Body
  | request r => r.body
  | response _ r => r.body

/-- What reading the body of a message gives. -/
def content : Message → Except Fault (List UInt8)
  | request r => (r.read .async).1
  | response _ r => r.read.1

/-- The record of a message. -/
def record (logger : String) : Message → String → Option String → LogRecord
  | request r => r.record (Levels.child logger traceName)
  | response q r => Response.record (Levels.child logger traceName) q r

/-- The records that logging a message writes, and why the message is not logged, if it is not. -/
def logged (levels : Levels) (logger : String) : Message → List LogRecord × Option Fault
  | request r => ((r.trace levels logger).records, (r.trace levels logger).failure)
  | response q r => ((r.trace levels logger q).records, (r.trace levels logger q).failure)

/-- A message is logged without disturbing anything: there is no failure; there is one record below
the logger, without a body exactly if the body is empty or cannot be read; and in front of it there
is one warning exactly if the body cannot be read and the logger keeps warnings. -/
def LoggedOnce (levels : Levels) (logger : String) (m : Message) : Prop :=
  ∃ warnings record fields, m.logged levels logger = (warnings ++ [record], none) ∧
    record.logger = Levels.child logger traceName ∧ record.level = traceLevel ∧
    record.fields = some fields ∧
    (fields.body = none ↔ m.content = .ok [] ∨ ∃ f, m.content = .error f) ∧
    (∀ w ∈ warnings, w.logger = logger ∧ w.level = warningLevel) ∧
    (warnings.length = 1 ↔ (∃ f, m.content = .error f) ∧ levels.keeps logger warningLevel = true) ∧
    warnings.length ≤ 1

/-- The body of a message fails with a fault that goes through the log. -/
inductive Breaks : Message → Fault → Prop
  /-- The stream fails, and not in one of the ways of the connection, the system or the run. -/
  | failing {m : Message} {chunks : List (List UInt8)} {e : Outside}
      (hbody : m.body = .stream .async chunks (some e)) (hkind : e.kind.meansUnreadable = false) :
      Breaks m (.outside e)
  /-- The stream fails in one of these ways, and fails again when it is asked for its text. -/
  | mute {m : Message} {chunks : List (List UInt8)} {e g : Outside}
      (hbody : m.body = .stream .async chunks (some e)) (hkind : e.kind.meansUnreadable = true)
      (htext : e.wording = .error g) : Breaks m (.outside g)
  /-- The body of a request is to be read in step. -/
  | blocking {r : Request} (hmode : r.body.mode? = some .blocking) :
      Breaks (.request r) .streamMode

theorem content_of_failing {chunks : List (List UInt8)} {e : Outside}
    (hbody : m.body = .stream .async chunks (some e)) : m.content = .error (.outside e) := by
  cases m with
  | request r =>
    rw [body] at hbody
    rw [content, Request.read, hbody]
    rfl
  | response q r =>
    rw [body] at hbody
    rw [content, Response.read, hbody]
    rfl

theorem content_of_blocking {r : Request} (hmode : r.body.mode? = some .blocking) :
    (request r).content = .error .streamMode := by
  rw [content, Request.read]
  cases hbody : r.body with
  | held bytes =>
    rw [hbody] at hmode
    cases hmode
  | stream mode chunks failure =>
    rw [hbody] at hmode
    cases hmode
    rfl
  | spent mode =>
    rw [hbody] at hmode
    cases hmode
    rfl

/-- A stream that fails breaks the log with what is not told of its failure. -/
theorem Breaks.of_stream {chunks : List (List UInt8)} {e : Outside}
    (hbody : m.body = .stream .async chunks (some e))
    (hfault : (Fault.outside e).unreadable = .error f) : m.Breaks f := by
  unfold Fault.unreadable at hfault
  split at hfault
  · rename_i hkind
    unfold Fault.wording at hfault
    simp only at hfault
    cases htext : e.wording with
    | ok text =>
      rw [htext] at hfault
      cases hfault
    | error g =>
      rw [htext] at hfault
      cases hfault
      exact .mute hbody hkind htext
  · rename_i hkind
    cases hfault
    exact .failing hbody (by simpa [Fault.meansUnreadable] using hkind)

/-- What goes through the log are the faults of reading of which nothing can be told. -/
theorem breaks_iff : m.Breaks f ↔ ∃ g, m.content = .error g ∧ g.unreadable = .error f := by
  constructor
  · intro h
    cases h with
    | failing hbody hkind =>
      exact ⟨_, content_of_failing hbody, if_neg (by simp [Fault.meansUnreadable, hkind])⟩
    | mute hbody hkind htext =>
      refine ⟨_, content_of_failing hbody, (if_pos hkind).trans ?_⟩
      simp only [Fault.wording, htext]
      rfl
    | blocking hmode => exact ⟨_, content_of_blocking hmode, rfl⟩
  · rintro ⟨g, h, hfault⟩
    cases m with
    | request r =>
      rw [content, Request.read] at h
      cases hbody : r.body with
      | held bytes =>
        rw [hbody] at h
        cases h
      | stream mode chunks failure =>
        rw [hbody] at h
        cases mode with
        | blocking =>
          cases h
          cases hfault
          exact .blocking (by rw [hbody]; rfl)
        | async =>
          cases failure with
          | none => cases h
          | some e =>
            cases h
            exact .of_stream hbody hfault
      | spent mode =>
        rw [hbody] at h
        cases mode with
        | blocking =>
          cases h
          cases hfault
          exact .blocking (by rw [hbody]; rfl)
        | async =>
          cases h
          cases hfault
    | response q r =>
      rw [content, Response.read] at h
      cases hbody : r.body with
      | held bytes =>
        rw [hbody] at h
        cases h
      | stream mode chunks failure =>
        rw [hbody] at h
        cases mode with
        | blocking =>
          cases h
          cases hfault
        | async =>
          cases failure with
          | none => cases h
          | some e =>
            cases h
            exact .of_stream hbody hfault
      | spent mode =>
        rw [hbody] at h
        cases mode with
        | blocking =>
          cases h
          cases hfault
        | async =>
          cases h
          cases hfault

/-- The warning about a body that cannot be read. -/
def warning (levels : Levels) (logger text : String) : List LogRecord :=
  levels.record logger warningLevel
    ("Error while preparing to log body, not logging it: " ++ text)

/-- What logging a message comes to whose body reads as `content`. -/
def outcome (levels : Levels) (logger : String) (record : Option String → LogRecord)
    (content : Except Fault (List UInt8)) : List LogRecord × Option Fault :=
  match content with
  | .ok bytes => ([record (shownBody bytes)], none)
  | .error f =>
    match f.unreadable with
    | .ok text => (warning levels logger text ++ [record none], none)
    | .error f => ([], some f)

theorem traceMessage_outcome {μ : Type} {secret : String} (headers : Headers) (message : μ)
    (content : Except Fault (List UInt8)) (record : String → Option String → LogRecord)
    (hsecret : IsAscii secret) :
    ∃ text, ((traceMessage levels logger secret headers message content record).records,
      (traceMessage levels logger secret headers message content record).failure) =
        outcome levels logger (record text) content := by
  obtain ⟨shown, hshown⟩ := headers.redact_eq_ok hsecret
  refine ⟨shown.render, ?_⟩
  rw [traceMessage, hshown]
  cases content with
  | ok bytes =>
    cases bytes with
    | nil => rfl
    | cons b rest => rfl
  | error f =>
    rw [loggedBody, outcome]
    cases f.unreadable with
    | ok text => rfl
    | error g => rfl

theorem logged_eq (hkeeps : levels.childKeeps logger traceName traceLevel = true) (m : Message) :
    ∃ text, m.logged levels logger = outcome levels logger (m.record logger text) m.content := by
  cases m with
  | request r =>
    unfold logged Request.trace
    simp only [hkeeps, if_true]
    exact traceMessage_outcome _ _ _ (r.record (Levels.child logger traceName))
      isAscii_authorization
  | response q r =>
    unfold logged Response.trace
    simp only [hkeeps, if_true]
    exact traceMessage_outcome _ _ _ (Response.record (Levels.child logger traceName) q r)
      isAscii_setCookie

theorem record_spec (logger : String) (m : Message) (text : String) (body : Option String) :
    (m.record logger text body).logger = Levels.child logger traceName ∧
      (m.record logger text body).level = traceLevel ∧
      ∃ fields, (m.record logger text body).fields = some fields ∧ fields.body = body := by
  cases m with
  | request r => exact ⟨rfl, rfl, _, rfl, rfl⟩
  | response q r => exact ⟨rfl, rfl, _, rfl, rfl⟩

theorem shownBody_eq_none_iff {bytes : List UInt8} : shownBody bytes = none ↔ bytes = [] := by
  cases bytes with
  | nil => simp [shownBody]
  | cons b rest => simp [shownBody]

theorem warning_spec (levels : Levels) (logger text : String) :
    (∀ w ∈ warning levels logger text, w.logger = logger ∧ w.level = warningLevel) ∧
      ((warning levels logger text).length = 1 ↔ levels.keeps logger warningLevel = true) ∧
      (warning levels logger text).length ≤ 1 := by
  unfold warning Levels.record
  by_cases hkeeps : levels.keeps logger warningLevel = true
  · rw [if_pos hkeeps]
    refine ⟨fun w hw => ?_, iff_of_true rfl hkeeps, Nat.le_refl 1⟩
    rw [List.mem_singleton.mp hw]
    exact ⟨rfl, rfl⟩
  · rw [if_neg hkeeps]
    exact ⟨fun w hw => absurd hw List.not_mem_nil, iff_of_false (by simp) hkeeps, Nat.zero_le 1⟩

/-- With the trace on, a message is logged once and without a failure exactly if its body does not
fail with a fault that goes through the log; such a fault is all that logging the message gives. -/
theorem loggedOnce_iff (hkeeps : levels.childKeeps logger traceName traceLevel = true)
    (m : Message) : (m.LoggedOnce levels logger ↔ ¬ ∃ f, m.Breaks f) ∧
      ∀ f, m.Breaks f → m.logged levels logger = ([], some f) := by
  obtain ⟨text, hlogged⟩ := logged_eq hkeeps m
  have hbreaks : ∀ f, m.Breaks f → m.logged levels logger = ([], some f) := by
    intro f hf
    obtain ⟨g, hcontent, hfault⟩ := breaks_iff.mp hf
    rw [hlogged, hcontent, outcome, hfault]
  refine ⟨⟨?_, fun hnone => ?_⟩, hbreaks⟩
  · rintro ⟨warnings, record, fields, honce, -⟩ ⟨f, hf⟩
    rw [hbreaks f hf] at honce
    cases congrArg Prod.snd honce
  · cases hcontent : m.content with
    | ok bytes =>
      rw [hcontent] at hlogged
      obtain ⟨hlogger, hlevel, fields, hfields, hbody⟩ :=
        record_spec logger m text (shownBody bytes)
      refine ⟨[], _, fields, hlogged, hlogger, hlevel, hfields, ?_,
        fun w hw => absurd hw List.not_mem_nil, ?_, Nat.zero_le 1⟩
      · rw [hbody, shownBody_eq_none_iff, hcontent]
        simp
      · rw [hcontent]
        simp
    | error f =>
      cases htold : f.unreadable with
      | error g => exact absurd ⟨g, breaks_iff.mpr ⟨f, hcontent, htold⟩⟩ hnone
      | ok told =>
        rw [hcontent, outcome, htold] at hlogged
        obtain ⟨hlogger, hlevel, fields, hfields, hbody⟩ := record_spec logger m text none
        obtain ⟨hwarnings, hlength, hle⟩ := warning_spec levels logger told
        refine ⟨_, _, fields, hlogged, hlogger, hlevel, hfields, ?_, hwarnings, ?_, hle⟩
        · exact iff_of_true hbody (Or.inr ⟨f, hcontent⟩)
        · rw [hlength]
          exact (and_iff_right ⟨f, hcontent⟩).symm

/-- A response whose stream fails after a chunk. -/
def partialResponse (kind : OutsideKind) : Message :=
  .response none
    { status := 200
      headers := { rows := [] }
      body := .stream .async [[104, 105]] (some { kind, text := "boom" }) }

theorem loggedOnce_of_read_failure :
    Levels.childKeeps [("app", 5)] "app" traceName traceLevel = true ∧
      (partialResponse .read).LoggedOnce [("app", 5)] "app" ∧
      ¬ (partialResponse .value).LoggedOnce [("app", 5)] "app" ∧
      (partialResponse .value).logged [("app", 5)] "app" =
        ([], some (.outside { kind := .value, text := "boom" })) := by
  have hkeeps : Levels.childKeeps [("app", 5)] "app" traceName traceLevel = true := by decide
  have hvalue : (partialResponse .value).Breaks (.outside { kind := .value, text := "boom" }) :=
    .failing rfl rfl
  refine ⟨hkeeps, (loggedOnce_iff hkeeps _).1.mpr ?_, ?_, (loggedOnce_iff hkeeps _).2 _ hvalue⟩
  · rintro ⟨f, hf⟩
    obtain ⟨g, hcontent, hfault⟩ := breaks_iff.mp hf
    cases hcontent
    cases hfault
  · intro h
    exact (loggedOnce_iff hkeeps _).1.mp h ⟨_, hvalue⟩

end Message

end ApiClient
