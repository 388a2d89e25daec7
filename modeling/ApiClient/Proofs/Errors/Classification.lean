import ApiClient.Proofs.Errors.Taxonomy
import ApiClient.Proofs.Http.Headers
import ApiClient.Proofs.Number.Integer

/-!
# The status decides

Whether a response is an error, and of which class, goes by its status alone. Its body gives what
the error says, and its header fields give nothing but the seconds to wait.
-/

namespace ApiClient

namespace ResponseClass

/-- A class is another one or refines it, in one or more steps. -/
inductive Refines : ResponseClass → ResponseClass → Prop
  | refl (kind : ResponseClass) : Refines kind kind
  | step {kind parent ancestor : ResponseClass} (h : kind.parent? = some parent)
      (hparent : Refines parent ancestor) : Refines kind ancestor

/-- The class of each status. -/
inductive Classifies : Int → ResponseClass → Prop
  | badRequest : Classifies 400 .badRequest
  | unauthorized : Classifies 401 .unauthorized
  | forbidden : Classifies 403 .forbidden
  | notFound : Classifies 404 .notFound
  | conflict : Classifies 409 .conflict
  | validation : Classifies 422 .validation
  | rateLimit : Classifies 429 .rateLimit
  | client {status : Int} (hlow : 400 ≤ status) (hhigh : status < 500)
      (hplain : status ∉ [400, 401, 403, 404, 409, 422, 429]) : Classifies status .client
  | server {status : Int} (hlow : 500 ≤ status) (hhigh : status < 600) : Classifies status .server
  | unclassified {status : Int} (h : status < 400 ∨ 600 ≤ status) :
      Classifies status .unclassified

variable {status : Int} {kind : ResponseClass}

theorem ofExactStatus?_eq_none (h : status ∉ [400, 401, 403, 404, 409, 422, 429]) :
    ofExactStatus? status = none := by
  simp only [List.mem_cons, List.not_mem_nil, or_false, not_or] at h
  simp [ofExactStatus?, List.lookup_eq_none_iff, h]

theorem classifies_ofStatus (status : Int) : Classifies status (ofStatus status) := by
  by_cases hexact : status ∈ [400, 401, 403, 404, 409, 422, 429]
  · simp only [List.mem_cons, List.not_mem_nil, or_false] at hexact
    rcases hexact with rfl | rfl | rfl | rfl | rfl | rfl | rfl
    · exact .badRequest
    · exact .unauthorized
    · exact .forbidden
    · exact .notFound
    · exact .conflict
    · exact .validation
    · exact .rateLimit
  · rw [ofStatus, ofExactStatus?_eq_none hexact]
    dsimp only
    by_cases hclient : 400 ≤ status ∧ status < 500
    · rw [if_pos hclient]
      exact .client hclient.1 hclient.2 hexact
    · rw [if_neg hclient]
      by_cases hserver : 500 ≤ status ∧ status < 600
      · rw [if_pos hserver]
        exact .server hserver.1 hserver.2
      · rw [if_neg hserver]
        exact .unclassified (by omega)

theorem Classifies.ofStatus_eq (h : Classifies status kind) : ofStatus status = kind := by
  have houtside : ∀ s : Int, s < 400 ∨ 500 ≤ s → s ∉ [400, 401, 403, 404, 409, 422, 429] := by
    intro s hs hmem
    simp only [List.mem_cons, List.not_mem_nil, or_false] at hmem
    omega
  cases h with
  | client hlow hhigh hplain =>
    rw [ofStatus, ofExactStatus?_eq_none hplain]
    exact if_pos ⟨hlow, hhigh⟩
  | server hlow hhigh =>
    rw [ofStatus, ofExactStatus?_eq_none (houtside _ (Or.inr hlow))]
    dsimp only
    rw [if_neg (by omega), if_pos ⟨hlow, hhigh⟩]
  | unclassified h =>
    rw [ofStatus, ofExactStatus?_eq_none (houtside _ (by omega))]
    dsimp only
    rw [if_neg (by omega), if_neg (by omega)]
  | _ => rfl

theorem not_refines_unclassified (h : kind ≠ unclassified) : ¬ Refines unclassified kind := by
  intro hrefines
  cases hrefines with
  | refl => exact h rfl
  | step hparent => cases hparent

/-- The client errors are those of the statuses from 400 to 499. -/
theorem Classifies.refines_client_iff (h : Classifies status kind) :
    kind.Refines .client ↔ 400 ≤ status ∧ status < 500 := by
  cases h with
  | client hlow hhigh hplain => exact iff_of_true (.refl _) ⟨hlow, hhigh⟩
  | server hlow hhigh =>
    refine iff_of_false (fun hrefines => ?_) (by omega)
    cases hrefines with
    | step hparent hclient =>
      cases hparent
      exact not_refines_unclassified (by decide) hclient
  | unclassified h => exact iff_of_false (not_refines_unclassified (by decide)) (by omega)
  | _ => exact iff_of_true (.step rfl (.refl _)) (by decide)

/-- The server errors are those of the statuses from 500 to 599. -/
theorem Classifies.refines_server_iff (h : Classifies status kind) :
    kind.Refines .server ↔ 500 ≤ status ∧ status < 600 := by
  have hclient : ¬ Refines .client .server := by
    intro hrefines
    cases hrefines with
    | step hparent hserver =>
      cases hparent
      exact not_refines_unclassified (by decide) hserver
  have hrefusal : kind.parent? = some .client → ¬ kind.Refines .server := by
    intro hparent hrefines
    cases hrefines with
    | refl => cases hparent
    | step hparent' hserver =>
      rw [hparent] at hparent'
      cases hparent'
      exact hclient hserver
  cases h with
  | client hlow hhigh hplain => exact iff_of_false hclient (by omega)
  | server hlow hhigh => exact iff_of_true (.refl _) ⟨hlow, hhigh⟩
  | unclassified h => exact iff_of_false (not_refines_unclassified (by decide)) (by omega)
  | _ => exact iff_of_false (hrefusal rfl) (by decide)

theorem ofStatus_eq_rateLimit_iff : ofStatus status = rateLimit ↔ status = 429 := by
  constructor
  · intro h
    have hclass := classifies_ofStatus status
    rw [h] at hclass
    cases hclass
    rfl
  · rintro rfl
    rfl

end ResponseClass

/-! ## The seconds to wait -/

/-- The seconds to wait are the integer that the values of all rows make, joined by commas. -/
theorem Response.retryAfter_eq_some_iff {r : Response} {n : Int} : r.retryAfter = some n ↔
    r.headers.valuesOf (Headers.fieldKey "retry-after") ≠ [] ∧ Integer.Denotes
      (", ".intercalate (r.headers.valuesOf (Headers.fieldKey "retry-after"))) n := by
  have htoOption : ∀ text, (Integer.read text).toOption = some n ↔ Integer.read text = .ok n := by
    intro text
    cases Integer.read text with
    | ok m => simp [Except.toOption]
    | error e => simp [Except.toOption]
  rw [Response.retryAfter, Headers.get?, ← Headers.fieldKey]
  cases hvalues : r.headers.valuesOf (Headers.fieldKey "retry-after") with
  | nil => simp
  | cons value more =>
    rw [Option.bind_some, htoOption, Integer.read_eq_ok_iff]
    exact (and_iff_right (List.cons_ne_nil _ _)).symm

/-! ## Errors -/

/-- An error has what its body says, the status, and the messages that it is about. -/
structure ResponseError.Carries (e : ResponseError) (body : ErrorBody) (request : Option Request)
    (response : Response) : Prop where
  /-- The code, whatever the status. -/
  code : e.code = body.code
  /-- The message. -/
  text : e.text = body.message
  /-- The messages for single fields, in order. -/
  validation : e.validation = body.validation.map fun (name, text) => (name, .str text)
  /-- The place in the server. -/
  debugSource : e.debugSource = body.debugSource
  /-- The status. -/
  status : e.status = some response.status
  /-- The request. -/
  request : e.request = request
  /-- The response. -/
  response : e.response = some response

section Checks

variable [Platform]

theorem Response.check_of_success {request : Option Request} {response : Response}
    (h : 200 ≤ response.status ∧ response.status < 300) : response.check request = .ok () := by
  have hsuccess : isSuccess response.status = true := by
    rw [isSuccess, Bool.and_eq_true]
    exact ⟨decide_eq_true h.1, decide_eq_true h.2⟩
  rw [Response.check, if_pos hsuccess]

theorem Response.check_of_failure {request : Option Request} {response : Response}
    {content : List UInt8} {body : ErrorBody}
    (hstatus : ¬ (200 ≤ response.status ∧ response.status < 300))
    (hcontent : response.body = .held content) (hbody : ErrorBody.ofBytes content = .ok body) :
    response.check request = .error (.response (.ofBody body request response)) := by
  have hfailure : ¬ isSuccess response.status = true := by
    rw [isSuccess, Bool.and_eq_true]
    exact fun h => hstatus ⟨of_decide_eq_true h.1, of_decide_eq_true h.2⟩
  rw [Response.check, if_neg hfailure, Response.failure_eq hcontent, hbody]

/-- The status alone decides. A success is accepted, whatever its body. Any other response whose
body is an error body is a response error of the class of its status, which carries what the body
says, the status, the request and the response. Its header fields give nothing but the seconds to
wait, and these only if there are too many requests. -/
theorem Response.check_by_status (request : Option Request) (response : Response) :
    (200 ≤ response.status ∧ response.status < 300 → response.check request = .ok ()) ∧
    (¬ (200 ≤ response.status ∧ response.status < 300) → ∀ content body,
      response.body = .held content → ErrorBody.ofBytes content = .ok body →
      ∃ e, response.check request = .error (.response e) ∧
        (∀ kind, e.kind = kind ↔ ResponseClass.Classifies response.status kind) ∧
        (e.kind.Refines .client ↔ 400 ≤ response.status ∧ response.status < 500) ∧
        (e.kind.Refines .server ↔ 500 ≤ response.status ∧ response.status < 600) ∧
        e.Carries body request response ∧
        (∀ n, e.retryAfter = some n ↔ response.status = 429 ∧
          response.headers.valuesOf (Headers.fieldKey "retry-after") ≠ [] ∧ Integer.Denotes
            (", ".intercalate (response.headers.valuesOf (Headers.fieldKey "retry-after"))) n) ∧
        ∀ headers, ∃ retryAfter, ({ response with headers } : Response).check request =
          .error (.response
            { e with response := some { response with headers }, retryAfter })) := by
  refine ⟨check_of_success, fun hstatus content body hcontent hbody => ?_⟩
  have hclass := ResponseClass.classifies_ofStatus response.status
  refine ⟨.ofBody body request response, check_of_failure hstatus hcontent hbody,
    fun kind => ?_, hclass.refines_client_iff, hclass.refines_server_iff, ?_, fun n => ?_,
    fun headers => ?_⟩
  · constructor
    · rintro rfl
      exact hclass
    · exact fun h => h.ofStatus_eq
  · exact ⟨rfl, rfl, rfl, rfl, rfl, rfl, rfl⟩
  · rw [← retryAfter_eq_some_iff]
    show (if ResponseClass.ofStatus response.status = .rateLimit then response.retryAfter
      else none) = some n ↔ _
    by_cases h : response.status = 429
    · rw [if_pos (ResponseClass.ofStatus_eq_rateLimit_iff.mpr h)]
      exact (and_iff_right h).symm
    · rw [if_neg fun hkind => h (ResponseClass.ofStatus_eq_rateLimit_iff.mp hkind)]
      exact iff_of_false (fun hnone => by cases hnone) fun hall => h hall.1
  · have hother : ({ response with headers } : Response).body = .held content := hcontent
    exact ⟨_, check_of_failure hstatus hother hbody⟩

end Checks

section Plain

attribute [local instance] Platform.plain

/-- Two rows make no number together, one with blanks and an underscore does; and a body that claims
another code does not change the class. -/
theorem Response.check_by_status_of_too_many :
    let content := Headers.asciiBytes "\x7b\"error\":\x7b\"code\":404\x7d\x7d"
    let response : List String → Response := fun values => {
      status := 429, body := .held content
      headers := { rows := values.map fun value => Headers.row "Retry-After" value } }
    let body : ErrorBody := { code := 404 }
    ErrorBody.ofBytes content = .ok body ∧
      (∃ e, (response [" +1_0 "]).check none = .error (.response e) ∧ e.kind = .rateLimit ∧
        e.code = 404 ∧ e.retryAfter = some 10) ∧
      ∃ e, (response ["1", "2"]).check none = .error (.response e) ∧ e.kind = .rateLimit ∧
        e.retryAfter = none := by
  intro content response body
  have hbody : ErrorBody.ofBytes content = .ok body := by decide +kernel
  have hfailure : ¬ ((200 : Int) ≤ 429 ∧ (429 : Int) < 300) := by decide
  obtain ⟨-, hsingle⟩ := check_by_status none (response [" +1_0 "])
  obtain ⟨-, hdouble⟩ := check_by_status none (response ["1", "2"])
  obtain ⟨e, he, hkind, -, -, hcarries, hretry, -⟩ := hsingle hfailure content body rfl hbody
  obtain ⟨e', he', hkind', -, -, -, hretry', -⟩ := hdouble hfailure content body rfl hbody
  have hten : (response [" +1_0 "]).retryAfter = some 10 := by decide +kernel
  have hnone : (response ["1", "2"]).retryAfter = none := by decide +kernel
  refine ⟨hbody, ⟨e, he, (hkind _).mpr .rateLimit, hcarries.code, ?_⟩,
    ⟨e', he', (hkind' _).mpr .rateLimit, ?_⟩⟩
  · exact (hretry 10).mpr ⟨rfl, retryAfter_eq_some_iff.mp hten⟩
  · cases hafter : e'.retryAfter with
    | none => rfl
    | some n =>
      have hsome := retryAfter_eq_some_iff.mpr ((hretry' n).mp hafter).2
      rw [hnone] at hsome
      cases hsome

end Plain

end ApiClient
