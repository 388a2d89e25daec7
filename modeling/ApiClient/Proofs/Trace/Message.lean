import ApiClient.Proofs.Http.Body
import ApiClient.Proofs.Trace.Redaction

/-!
# Messages that are logged

A message whose body is held in memory is logged without a failure, in one record, which shows its
header fields but for the values of one name.
-/

namespace ApiClient

theorem isAscii_authorization : IsAscii "Authorization" := by
  decide

theorem isAscii_setCookie : IsAscii "Set-Cookie" := by
  decide

/-- The text of a body that a record shows. -/
def shownBody : List UInt8 → Option String
  | [] => none
  | bytes => some (String.ofList (Text.Utf8.decodeLenient bytes))

/-- Logging a message whose body has been read does not fail, and leaves the message as read. -/
theorem traceMessage_spec {μ : Type} {levels : Levels} {logger secret : String} {headers : Headers}
    {message : μ} {bytes : List UInt8} {record : String → Option String → LogRecord}
    (hsecret : IsAscii secret) :
    (traceMessage levels logger secret headers message (.ok bytes) record).message = message ∧
      (traceMessage levels logger secret headers message (.ok bytes) record).failure = none := by
  obtain ⟨shown, hshown⟩ := headers.redact_eq_ok hsecret
  rw [traceMessage, hshown]
  cases bytes with
  | nil => exact ⟨rfl, rfl⟩
  | cons b rest => exact ⟨rfl, rfl⟩

/-- The message that is left when a request has been logged. -/
def Request.traced (levels : Levels) (logger : String) (r : Request) : Request :=
  if levels.childKeeps logger traceName traceLevel then { r with headers := r.headers.settle }
  else r

/-- Logging a request changes nothing of it but the character set of its header fields. -/
theorem Request.traced_eq (levels : Levels) (logger : String) (r : Request) :
    ∃ headers : Headers, headers.rows = r.headers.rows ∧
      r.traced levels logger = { r with headers } := by
  unfold Request.traced
  split
  · exact ⟨r.headers.settle, rfl, rfl⟩
  · exact ⟨r.headers, rfl, rfl⟩

/-- A request whose body is held is logged without a failure. -/
theorem Request.trace_spec {levels : Levels} {logger : String} {r : Request} {bytes : List UInt8}
    (hbody : r.body = .held bytes) : (r.trace levels logger).message = r.traced levels logger ∧
      (r.trace levels logger).failure = none := by
  unfold Request.trace Request.traced
  by_cases hkeeps : levels.childKeeps logger traceName traceLevel = true
  · have hread : Request.read .async { r with headers := r.headers.settle } =
        (.ok bytes, { r with headers := r.headers.settle }) := Request.read_of_held hbody
    simp only [hkeeps, if_true, hread]
    exact traceMessage_spec (by decide)
  · simp only [hkeeps, Bool.false_eq_true, if_false, and_self]

/-- The message that is left when a response has been logged. -/
def Response.traced (levels : Levels) (logger : String) (r : Response) : Response :=
  if levels.childKeeps logger traceName traceLevel then { r with headers := r.headers.settle }
  else r

/-- Logging a response changes nothing of it but the character set of its header fields. -/
theorem Response.traced_eq (levels : Levels) (logger : String) (r : Response) :
    ∃ headers : Headers, headers.rows = r.headers.rows ∧
      r.traced levels logger = { r with headers } := by
  unfold Response.traced
  split
  · exact ⟨r.headers.settle, rfl, rfl⟩
  · exact ⟨r.headers, rfl, rfl⟩

/-- A response whose body is held is logged without a failure. -/
theorem Response.trace_spec {levels : Levels} {logger : String} {request : Option Request}
    {r : Response} {bytes : List UInt8} (hbody : r.body = .held bytes) :
    (r.trace levels logger request).message = r.traced levels logger ∧
      (r.trace levels logger request).failure = none := by
  unfold Response.trace Response.traced
  by_cases hkeeps : levels.childKeeps logger traceName traceLevel = true
  · have hread : Response.read { r with headers := r.headers.settle } =
        (.ok bytes, { r with headers := r.headers.settle }) := Response.read_of_held hbody
    simp only [hkeeps, if_true, hread]
    exact traceMessage_spec (by decide)
  · simp only [hkeeps, Bool.false_eq_true, if_false, and_self]

end ApiClient
