import ApiClient.Errors.Classify
import ApiClient.Proofs.Http.Site

/-!
# Messages without their character sets

What goes over the wire of the header fields of a message are the rows. The character set that
reading them has settled stays behind; it decides how other fields are found and set later on.
-/

namespace ApiClient

/-- The same rows, of which none has been read. -/
def Headers.unsettled (h : Headers) : Headers :=
  .ofRows h.rows

theorem Headers.charset_settle (h : Headers) : h.settle.charset = h.charset := rfl

theorem Headers.get?_settle (h : Headers) (name : String) : h.settle.get? name = h.get? name := by
  have hvalues : ∀ key, h.settle.valuesOf key = h.valuesOf key := by
    intro key
    rw [valuesOf, valuesOf, charset_settle]
    rfl
  rw [Headers.get?, Headers.get?, hvalues]

theorem Response.retryAfter_settle (p : Response) :
    Response.retryAfter { p with headers := p.headers.settle } = p.retryAfter := by
  rw [Response.retryAfter, Headers.get?_settle]
  rfl

/-- A request as it goes over the wire. -/
def Request.unsettled (r : Request) : Request :=
  { r with headers := r.headers.unsettled }

/-- A response as it comes over the wire. -/
def Response.unsettled (r : Response) : Response :=
  { r with headers := r.headers.unsettled }

/-- A failure with its messages as they go over the wire. -/
def ResponseError.unsettled (e : ResponseError) : ResponseError :=
  { e with
    request := e.request.map Request.unsettled
    response := e.response.map Response.unsettled }

/-- A failure with its messages as they go over the wire. -/
def UndecodableResponse.unsettled (e : UndecodableResponse) : UndecodableResponse :=
  { e with
    request := e.request.map Request.unsettled
    response := e.response.map Response.unsettled }

/-- An error with its messages as they go over the wire. -/
def Error.unsettled : Error → Error
  | .response e => .response e.unsettled
  | .undecodable e => .undecodable e.unsettled
  | e => e

/-- A response, or why there is none, with the messages as they go over the wire. -/
def unsettledResult : Except Error Response → Except Error Response
  | .ok p => .ok p.unsettled
  | .error e => .error e.unsettled

variable {q u : Request} {p : Response}

theorem Request.eq_of_unsettled (h : q.unsettled = u.unsettled) :
    q.method = u.method ∧ q.url = u.url ∧ q.headers.rows = u.headers.rows ∧ q.body = u.body := by
  have hmethod := congrArg Request.method h
  have hurl := congrArg Request.url h
  have hrows := congrArg (fun r : Request => r.headers.rows) h
  have hbody := congrArg Request.body h
  exact ⟨hmethod, hurl, hrows, hbody⟩

theorem Response.eq_of_unsettled {p p' : Response} (h : p.unsettled = p'.unsettled) :
    p.status = p'.status ∧ p.content = p'.content := by
  have hstatus := congrArg Response.status h
  have hcontent := congrArg Response.content h
  exact ⟨hstatus, hcontent⟩

variable [Platform]

theorem Response.nextRequest?_eq (h : q.unsettled = u.unsettled) (hsite : q.site = u.site)
    (p : Response) : p.nextRequest? q = p.nextRequest? u := by
  obtain ⟨hmethod, hurl, hrows, hbody⟩ := Request.eq_of_unsettled h
  have hredirected : ∀ status place, q.redirected status place = u.redirected status place := by
    intro status place
    unfold Request.redirected
    rw [hmethod, hurl, hrows, hbody]
  unfold Response.nextRequest?
  simp only [hsite, hurl, hredirected]

/-- A failure is reported alike for messages that are the same over the wire, if their headers give
the same time to wait. -/
theorem Response.unsettled_failure {p p' : Response} (h : q.unsettled = u.unsettled)
    (hp : p.unsettled = p'.unsettled) (hretry : p.retryAfter = p'.retryAfter) :
    (p.failure (some q)).unsettled = (p'.failure (some u)).unsettled := by
  obtain ⟨hstatus, hcontent⟩ := Response.eq_of_unsettled hp
  unfold Response.failure
  rw [hcontent]
  cases p'.content >>= ErrorBody.ofBytes with
  | ok body =>
    have hbody : (ResponseError.ofBody body (some q) p).unsettled =
        (ResponseError.ofBody body (some u) p').unsettled := by
      unfold ResponseError.unsettled ResponseError.ofBody
      simp only [Option.map_some, h, hstatus, hp, hretry]
    exact congrArg Error.response hbody
  | error f =>
    have hfault : (UndecodableResponse.ofFault f (some q) p).unsettled =
        (UndecodableResponse.ofFault f (some u) p').unsettled := by
      unfold UndecodableResponse.unsettled UndecodableResponse.ofFault
      simp only [Option.map_some, h, hstatus, hp]
    show
      (if f.isUndecodable then Error.undecodable (.ofFault f (some q) p) else .fault f).unsettled =
      (if f.isUndecodable then Error.undecodable (.ofFault f (some u) p') else .fault f).unsettled
    cases f.isUndecodable with
    | true => exact congrArg Error.undecodable hfault
    | false => rfl

end ApiClient
