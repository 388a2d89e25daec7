import ApiClient.Echo
import ApiClient.Proofs.Client.Received
import ApiClient.Proofs.Errors.Taxonomy

/-!
# What an echo fails with

An echo that is answered either succeeds or fails with an error of the library, but for the answers
that are no text, hold a number with too many digits or are nested too deep, and for failure
responses with an infinite code: the faults of these go through as they are
(`Echo.as_documented_iff`).
-/

namespace ApiClient

/-- An error is one of the library's own, and no fault below it. -/
def Error.IsOwn : Error → Prop
  | .fault _ => False
  | _ => True

theorem Error.not_isOwn_iff {e : Error} : ¬ e.IsOwn ↔ ∃ f, e = .fault f := by
  cases e <;> simp [IsOwn]

/-- A body is not read because of the syntax of its text. -/
def Json.ReadError.IsSyntax : Json.ReadError → Prop
  | .text (.malformed _) => True
  | _ => False

section

variable [Platform]

/-- A failure response is reported as an error of the library unless its code is infinite or its
body is nested too deep. -/
theorem Response.isOwn_failure_iff {request : Option Request} {response : Response}
    {content : List UInt8} (hbody : response.body = .held content) :
    (response.failure request).IsOwn ↔
      ¬ (ErrorBody.HasInfiniteCode content ∨ ∃ object, ErrorBody.IsTooDeep content object) := by
  rw [Response.failure_eq hbody]
  constructor
  · rintro hown (hinfinite | ⟨object, hdeep⟩)
    · rw [ErrorBody.ofBytes_of_infinite hinfinite] at hown
      exact hown
    · rw [ErrorBody.ofBytes_of_tooDeep hdeep] at hown
      exact hown
  · intro hreported
    cases hbytes : ErrorBody.ofBytes content with
    | ok body => trivial
    | error f =>
      rcases ErrorBody.isDecoding_of_ofBytes hbytes with
        hdecoding | ⟨-, hinfinite⟩ | ⟨object, -, hdeep⟩
      · simp only [Fault.isUndecodable_of_isDecoding hdecoding, if_true]
        trivial
      · exact absurd (.inl hinfinite) hreported
      · exact absurd (.inr ⟨object, hdeep⟩) hreported

namespace Client

/-- Nothing stands between the answer to a request and the caller: the receiver of metrics does not
fail, and the request that would follow a redirection can be prepared. -/
structure HandsOver (c : Client) (s : Traffic) (q : Request) (p : Response) : Prop where
  receiver : c.finalFailure? s q p = none
  next : ∃ next, p.nextRequest? q = .ok next

variable {c : Client} {transport : Transport} {r q : Request} {s : Traffic} {p : Response}
  {bytes : List UInt8}

/-- An answer that does not redirect stands alone if its request has a site. -/
theorem handsOver_of_stays (hreceiver : c.finalFailure? s q p = none) (hstays : p.location? = none)
    (hsite : ∃ site, q.site = .ok site ∧ site.place? ≠ none) : c.HandsOver s q p :=
  ⟨hreceiver, none, Response.nextRequest?_of_site hstays hsite⟩

/-- What a call results in that passes on `q` and gets the answer `p`. -/
theorem result_of_sent (hsent : (Exchange.after (c.perform transport r) s).sent = s.sent ++ [q])
    (hanswer : transport s.sent q = .ok p) (hread : p.read.1 = .ok bytes) :
    (c.HandsOver s q p ∧
      Exchange.result (c.perform transport r) s = c.reported q (c.received p bytes)) ∨
    ¬ c.HandsOver s q p ∧ ∃ f, Exchange.result (c.perform transport r) s = .error (.fault f) := by
  obtain ⟨t, hsign, hopen, hpassed, rfl⟩ := sent_iff.mp hsent
  rw [result_of_answer hsign hopen hpassed hanswer hread]
  cases hfinal : c.finalFailure? s (c.outgoing t) p with
  | some e =>
    exact .inr ⟨fun h => absurd (hfinal.symm.trans h.receiver) nofun, .outside e, rfl⟩
  | none =>
    cases hnext : p.nextRequest? (c.outgoing t) with
    | error f =>
      refine .inr ⟨fun h => ?_, f, rfl⟩
      obtain ⟨next, h⟩ := h.next
      exact absurd (hnext.symm.trans h) nofun
    | ok next => exact .inl ⟨⟨hfinal, next, hnext⟩, rfl⟩

end Client

end

namespace Echo

section

variable [Platform]

variable {c : Client} {transport : Transport} {value : Int} {r q : Request} {s : Traffic}
  {p : Response} {body : List UInt8} {text : String} {e : Error}

/-! ## The check of an answer -/

/-- A status leads to the check of the body: a failure of the server does not, nor does one that is
reported. -/
def Passes (c : Client) (status : Int) : Prop :=
  (c.config.reportsFailures = true → isSuccess status = true) ∧ ¬ (500 ≤ status ∧ status < 600)

/-- The check of a body: it is the text, another value, no JSON because of its syntax, or none for
another reason. -/
theorem check_cases (hbody : p.body = .held body) (hstatus : ¬ (500 ≤ p.status ∧ p.status < 600))
    (text : String) :
    (Json.readBytes body = .ok (.str text) ∧ check text p = .ok ()) ∨
    (∃ v, Json.readBytes body = .ok v ∧ v ≠ .str text ∧
      check text p = .error (.echo (.mismatch text v))) ∨
    (∃ reason, Json.readBytes body = .error (.text (.malformed reason)) ∧
      check text p = .error (.echo (.undecodable reason))) ∨
    ∃ cause, Json.readBytes body = .error cause ∧ ¬ cause.IsSyntax ∧
      check text p = .error (.fault (.ofJsonBytes cause)) := by
  have hcontent : p.content = .ok body := by rw [Response.content, hbody]
  unfold check
  rw [if_neg hstatus, hcontent]
  dsimp only [Except.mapError, bind, Except.bind]
  cases Json.readBytes body with
  | ok v =>
    by_cases hv : v = .str text
    · subst hv
      exact .inl ⟨rfl, if_pos rfl⟩
    · refine .inr (.inl ⟨v, rfl, hv, ?_⟩)
      cases v with
      | str s => exact if_neg fun h => hv (congrArg Json.str h)
      | _ => rfl
  | error cause =>
    right
    right
    cases cause with
    | undecodable e => exact .inr ⟨_, rfl, not_false, rfl⟩
    | text e =>
      cases e with
      | malformed reason => exact .inl ⟨reason, rfl, rfl⟩
      | tooManyDigits count => exact .inr ⟨_, rfl, not_false, rfl⟩
      | tooDeep object => exact .inr ⟨_, rfl, not_false, rfl⟩

theorem check_of_server (hstatus : 500 ≤ p.status ∧ p.status < 600) (text : String) :
    check text p = .error (.echoUnavailable p.status) := by
  unfold check
  rw [if_pos hstatus]
  rfl

/-! ## The whole -/

/-- The end of an echo: its answer is checked. -/
def conclude (text : String) (p : Response) : Exchange Unit :=
  match check text p with
  | .ok _ => pure ()
  | .error e => throw e

theorem conclude_run (text : String) (p : Response) (s : Traffic) :
    Exchange.result (conclude text p) s = check text p ∧
      Exchange.after (conclude text p) s = s := by
  unfold conclude
  cases check text p with
  | ok _ => exact ⟨rfl, rfl⟩
  | error e => exact ⟨rfl, rfl⟩

theorem run_eq (c : Client) (transport : Transport) (value : Int) : run c transport value =
    Exchange.ofExcept (c.request "PUT" path none (.json (payload (toString value)))) >>= fun r =>
      c.perform transport r >>= conclude (toString value) := rfl

/-- An echo whose request can be made is a call that is concluded with the check. -/
theorem run_of_request
    (h : c.request "PUT" path none (.json (payload (toString value))) = .ok r) :
    run c transport value = c.perform transport r >>= conclude (toString value) := by
  rw [run_eq, h]
  rfl

/-- The check of an answer sends nothing. -/
theorem sent_run_of_request
    (h : c.request "PUT" path none (.json (payload (toString value))) = .ok r) (s : Traffic) :
    (Exchange.after (run c transport value) s).sent =
      (Exchange.after (c.perform transport r) s).sent := by
  rw [run_of_request h, Exchange.after_bind]
  cases Exchange.result (c.perform transport r) s with
  | ok p => exact congrArg Traffic.sent (conclude_run _ p _).2
  | error e => rfl

/-- An echo that reaches the transport does so by a call, whose response it checks. -/
theorem exists_call_of_sent
    (hsent : (Exchange.after (run c transport value) s).sent = s.sent ++ [q]) :
    ∃ r, (Exchange.after (c.perform transport r) s).sent = s.sent ++ [q] ∧
      Exchange.result (run c transport value) s =
        Exchange.result (c.perform transport r) s >>= check (toString value) := by
  cases hrequest : c.request "PUT" path none (.json (payload (toString value))) with
  | error f =>
    rw [run_eq, hrequest] at hsent
    have hunsent : s.sent = s.sent ++ [q] := hsent
    simp at hunsent
  | ok r =>
    refine ⟨r, (sent_run_of_request hrequest s).symm.trans hsent, ?_⟩
    rw [run_of_request hrequest, Exchange.result_bind]
    exact congrArg _ (funext fun p => (conclude_run _ p _).1)

/-- What an echo comes to is as it is documented: it succeeds only if the body is the JSON text of
what was sent, it fails only with an error of the library, and once the status leads to the check
of the body, that a body cannot be decoded is such an error, with the reason as its cause. -/
def AsDocumented (c : Client) (status : Int) (text : String) (body : List UInt8) :
    Except Error Unit → Prop
  | .ok () => Json.readBytes body = .ok (.str text)
  | .error e => e.IsOwn ∧
    (Passes c status → ∀ cause, Json.readBytes body = .error cause →
      ∃ reason, cause = .text (.malformed reason) ∧ e = .echo (.undecodable reason))

/-- An answer makes an echo fail with a fault that is no error of the library. -/
inductive Escapes (c : Client) (status : Int) (body : List UInt8) : Prop
  /-- It is reported as a failure, and its code is infinite. -/
  | infiniteCode (hreports : c.config.reportsFailures = true) (hstatus : ¬ isSuccess status = true)
      (hcode : ErrorBody.HasInfiniteCode body)
  /-- It is reported as a failure, and its body is nested too deep. -/
  | tooDeep (hreports : c.config.reportsFailures = true) (hstatus : ¬ isSuccess status = true)
      {object : Bool} (hdeep : ErrorBody.IsTooDeep body object)
  /-- Its body is checked and cannot be decoded, but not because of its syntax. -/
  | undecodable (hpasses : Passes c status) {cause : Json.ReadError}
      (hread : Json.readBytes body = .error cause) (hother : ¬ cause.IsSyntax)

theorem escapes_iff_of_reported (hreports : c.config.reportsFailures = true) {status : Int}
    (hstatus : ¬ isSuccess status = true) :
    Escapes c status body ↔
      ErrorBody.HasInfiniteCode body ∨ ∃ object, ErrorBody.IsTooDeep body object := by
  constructor
  · rintro (⟨-, -, hcode⟩ | ⟨-, -, hdeep⟩ | ⟨hpasses, -, -⟩)
    · exact .inl hcode
    · exact .inr ⟨_, hdeep⟩
    · exact absurd (hpasses.1 hreports) hstatus
  · rintro (hcode | ⟨object, hdeep⟩)
    · exact .infiniteCode hreports hstatus hcode
    · exact .tooDeep hreports hstatus hdeep

theorem escapes_iff_of_passes {status : Int} (hpasses : Passes c status) :
    Escapes c status body ↔ ∃ cause, Json.readBytes body = .error cause ∧ ¬ cause.IsSyntax := by
  constructor
  · rintro (⟨hreports, hstatus, -⟩ | ⟨hreports, hstatus, -⟩ | ⟨-, hread, hother⟩)
    · exact absurd (hpasses.1 hreports) hstatus
    · exact absurd (hpasses.1 hreports) hstatus
    · exact ⟨_, hread, hother⟩
  · rintro ⟨cause, hread, hother⟩
    exact .undecodable hpasses hread hother

/-- What an echo comes to when its answer gets to it: the failure that it is reported as, that of
the server, or the check of its body. -/
theorem outcome_cases (hsent : (Exchange.after (run c transport value) s).sent = s.sent ++ [q])
    (hanswer : transport s.sent q = .ok p) (hread : p.read.1 = .ok body)
    (hover : c.HandsOver s q p) :
    let outcome := Exchange.result (run c transport value) s
    (c.config.reportsFailures = true ∧ ¬ isSuccess p.status = true ∧
      ∃ e, outcome = .error e ∧ (e.IsOwn ↔
        ¬ (ErrorBody.HasInfiniteCode body ∨ ∃ object, ErrorBody.IsTooDeep body object))) ∨
    (¬ Passes c p.status ∧ ¬ Escapes c p.status body ∧
      outcome = .error (.echoUnavailable p.status)) ∨
    (Passes c p.status ∧ ∃ p' : Response, p'.body = .held body ∧
      ¬ (500 ≤ p'.status ∧ p'.status < 600) ∧ outcome = check (toString value) p') := by
  intro outcome
  obtain ⟨r, hsent, houtcome⟩ := exists_call_of_sent hsent
  have houtcome : outcome = Exchange.result (c.perform transport r) s >>= check (toString value) :=
    houtcome
  obtain ⟨p', hstatus, hbody, hresult⟩ : ∃ p' : Response, p'.status = p.status ∧
      p'.body = .held body ∧ Exchange.result (c.perform transport r) s = c.reported q p' := by
    obtain ⟨hstatus, -, -, hbody⟩ := c.received_cameAs p body
    refine ⟨_, hstatus, hbody, ?_⟩
    rcases Client.result_of_sent hsent hanswer hread with ⟨-, hresult⟩ | ⟨hlost, -⟩
    · exact hresult
    · exact absurd hover hlost
  rw [hresult, Client.reported_eq, hstatus] at houtcome
  by_cases hreported : c.config.reportsFailures = true ∧ ¬ isSuccess p.status = true
  · rw [if_pos hreported] at houtcome
    exact .inl ⟨hreported.1, hreported.2, _, houtcome, Response.isOwn_failure_iff hbody⟩
  · rw [if_neg hreported] at houtcome
    have houtcome : outcome = check (toString value) p' := houtcome
    right
    by_cases hserver : 500 ≤ p.status ∧ p.status < 600
    · left
      refine ⟨fun h => h.2 hserver, ?_, ?_⟩
      · rintro (⟨hreports, hfailure, -⟩ | ⟨hreports, hfailure, -⟩ | ⟨hpasses, -, -⟩)
        · exact hreported ⟨hreports, hfailure⟩
        · exact hreported ⟨hreports, hfailure⟩
        · exact hpasses.2 hserver
      · rw [houtcome, check_of_server (hstatus.symm ▸ hserver), hstatus]
    · have hpasses : Passes c p.status :=
        ⟨fun hreports => not_not.mp fun h => hreported ⟨hreports, h⟩, hserver⟩
      exact .inr ⟨hpasses, p', hbody, hstatus.symm ▸ hserver, houtcome⟩

/-- An echo that is answered with a readable body is as documented unless the answer does not get
to it or has a body with a fault that escapes: an infinite code in a failure that is reported, bytes
that are no text and numbers with too many digits where the body is checked, and too deep a nesting
in either case. It succeeds exactly if the body is the JSON text of what was sent. -/
theorem as_documented_iff (hsent : (Exchange.after (run c transport value) s).sent = s.sent ++ [q])
    (hanswer : transport s.sent q = .ok p) (hread : p.read.1 = .ok body) :
    let outcome := Exchange.result (run c transport value) s
    (AsDocumented c p.status (toString value) body outcome ↔
      c.HandsOver s q p ∧ ¬ Escapes c p.status body) ∧
    (outcome = .ok () ↔ c.HandsOver s q p ∧ Passes c p.status ∧
      Json.readBytes body = .ok (.str (toString value))) ∧
    ((∃ f, outcome = .error (.fault f)) ↔ ¬ c.HandsOver s q p ∨ Escapes c p.status body) ∧
    (∀ cause, c.HandsOver s q p → Passes c p.status → Json.readBytes body = .error cause →
      ¬ cause.IsSyntax → outcome = .error (.fault (.ofJsonBytes cause))) ∧
    (c.finalFailure? s q p = none → p.location? = none →
      (∃ site, q.site = .ok site ∧ site.place? ≠ none) → c.HandsOver s q p) := by
  dsimp only
  rw [← and_assoc, ← and_assoc, ← and_assoc]
  refine ⟨?_, Client.handsOver_of_stays⟩
  by_cases hover : c.HandsOver s q p
  · rcases outcome_cases hsent hanswer hread hover with
      ⟨hreports, hstatus, e, houtcome, hown⟩ | ⟨hpasses, hescapes, houtcome⟩ |
        ⟨hpasses, p', hbody, hserver, houtcome⟩
    · rw [← escapes_iff_of_reported hreports hstatus] at hown
      have hfault : (∃ f, e = .fault f) ↔ Escapes c p.status body := by
        rw [← Error.not_isOwn_iff, hown, not_not]
      have hpasses : ¬ Passes c p.status := fun h => hstatus (h.1 hreports)
      rw [houtcome]
      simp [AsDocumented, hover, hpasses, hown, hfault]
    · rw [houtcome]
      simp [AsDocumented, Error.IsOwn, hover, hpasses, hescapes]
    · rw [houtcome, escapes_iff_of_passes hpasses]
      rcases check_cases hbody hserver (toString value) with
        ⟨hjson, hcheck⟩ | ⟨v, hjson, hv, hcheck⟩ | ⟨reason, hjson, hcheck⟩ |
          ⟨cause, hjson, hother, hcheck⟩
      · rw [hcheck, hjson]
        simp [AsDocumented, hover, hpasses, hjson]
      · rw [hcheck, hjson]
        simpa [AsDocumented, Error.IsOwn, hover, hpasses, hjson] using hv
      · rw [hcheck, hjson]
        simp [AsDocumented, Error.IsOwn, Json.ReadError.IsSyntax, hover, hpasses, hjson]
      · rw [hcheck, hjson]
        simp [AsDocumented, Error.IsOwn, hover, hpasses, hjson, hother]
  · obtain ⟨r, hcall, houtcome⟩ := exists_call_of_sent hsent
    obtain ⟨f, hresult⟩ : ∃ f, Exchange.result (c.perform transport r) s = .error (.fault f) := by
      rcases Client.result_of_sent hcall hanswer hread with ⟨h, -⟩ | ⟨-, hresult⟩
      · exact absurd h hover
      · exact hresult
    have houtcome : Exchange.result (run c transport value) s = .error (.fault f) := by
      rw [houtcome, hresult]
      rfl
    rw [houtcome]
    simp [AsDocumented, Error.IsOwn, hover]

end

section Plain

attribute [local instance] Platform.plain

/-- An answer of three bytes, two quotes and one between them that is in no text. -/
theorem as_documented_of_answer :
    let c : Client := {
      levels := [], now := 0
      config := {
        baseUrl := "https://engine.test", credential := none, transport := .network
        userAgent := "agent", logger := "app", reportsFailures := true, measures := false
        version := "" } }
    let q : Request := {
      method := "PUT"
      url := {
        scheme := "https", userinfo := "", host := "engine.test", port := none, path := Echo.path
        query := none, fragment := none }
      headers := {
        rows := [Headers.row "Host" "engine.test", Headers.row "Content-Length" "13",
          Headers.row "Content-Type" "application/json", Headers.row "User-Agent" "agent"] }
      body := .held (Headers.asciiBytes "\x7b\"value\":\"7\"\x7d") }
    let answer : List UInt8 → Response := fun body =>
      { status := 200, headers := { rows := [] }, body := .held body }
    let echo : List UInt8 → Exchange Unit := fun body => run c (fun _ _ => .ok (answer body)) 7
    let broken : List UInt8 := [0x22, 0xFF, 0x22]
    let whole : List UInt8 := [0x22, 0x37, 0x22]
    (∀ body ∈ [broken, whole], (Exchange.after (echo body) {}).sent = [] ++ [q]) ∧
      ¬ AsDocumented c 200 "7" broken (Exchange.result (echo broken) {}) ∧
      Exchange.result (echo whole) {} = .ok () := by
  intro c q answer echo broken whole
  have hsent : ∀ body ∈ [broken, whole], (Exchange.after (echo body) {}).sent = [] ++ [q] := by
    unfold echo broken whole answer q c
    decide +kernel
  have hnext : ∀ body ∈ [broken, whole], ((answer body).nextRequest? q).toBool = true := by
    unfold broken whole answer q
    decide +kernel
  have hover : ∀ body ∈ [broken, whole], c.HandsOver {} q (answer body) := by
    intro body hbody
    cases h : (answer body).nextRequest? q with
    | error f => exact absurd (hnext body hbody) (by rw [h]; exact Bool.false_ne_true)
    | ok next => exact ⟨rfl, next, h⟩
  have hpasses : Passes c 200 := ⟨fun _ => rfl, by decide⟩
  have hbroken : Json.readBytes broken = .error (.undecodable
      { encoding := .utf8, position := 1, bytes := [0xFF], flaw := .start }) := by
    have htext : Json.bodyText broken = .error
        { encoding := .utf8, position := 1, bytes := [0xFF], flaw := .start } := by decide +kernel
    rw [Json.readBytes, htext]
  have hwhole : Json.readBytes whole = .ok (.str (toString (7 : Int))) := by
    have htext : Json.bodyText whole = .ok ['"', '7', '"'] := by decide +kernel
    have hchars : Json.readChars ['"', '7', '"'] = .ok (.str (toString (7 : Int))) := rfl
    rw [Json.readBytes, htext]
    exact congrArg (Except.mapError Json.ReadError.text) hchars
  obtain ⟨hdocumented, -⟩ := as_documented_iff (hsent broken (by simp)) rfl rfl
  obtain ⟨-, hsucceeds, -⟩ := as_documented_iff (hsent whole (by simp)) rfl rfl
  refine ⟨hsent, fun h => (hdocumented.mp h).2 (.undecodable hpasses hbroken not_false), ?_⟩
  exact hsucceeds.mpr ⟨hover whole (by simp), hpasses, hwhole⟩

end Plain

end Echo

end ApiClient
