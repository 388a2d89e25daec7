import Mathlib.Control.Monad.Basic
import ApiClient.Errors.Classify

/-!
# Failure responses and the taxonomy of errors

A failure response whose body has been read is reported as a response error, or as an undecodable
response with the fault of its body as the cause. There are two exceptions: the code of the body may
be an infinite number, and the value in the body may be nested too deep. Then the fault of the
conversion, or that of the depth, goes through as it is.
-/

namespace ApiClient

/-- The faults of decoding an error body: its bytes are no text, the text is no JSON, a number in it
has too many digits, the value has another shape, or its code is no integer. -/
def Fault.IsDecoding : Fault → Prop
  | .decode _ | .json _ | .integer _ | .shape _ | .number .nan | .number (.kind _) => True
  | _ => False

theorem Fault.isDecoding_ofJsonBytes (e : Json.ReadError) :
    (Fault.ofJsonBytes e).IsDecoding ∨ ∃ object, e = .text (.tooDeep object) := by
  cases e with
  | undecodable e => exact Or.inl trivial
  | text e =>
    cases e with
    | malformed e => exact Or.inl trivial
    | tooManyDigits count => exact Or.inl trivial
    | tooDeep object => exact Or.inr ⟨object, rfl⟩

namespace ErrorBody

/-- A value has the shape of an error body: it is an object or nothing, its members `error` and
`debug` are objects or say nothing, and so does the map of messages in `error`. -/
structure Shaped (v : Json) (error debug : List (String × Json))
    (validation : List (String × String)) : Prop where
  /-- The members that have to be objects are. -/
  members : ∃ fields, (v = .null ∧ fields = [] ∨ v = .obj fields) ∧
    object? (member? fields "error") = some error ∧ object? (member? fields "debug") = some debug
  /-- The messages for single fields are texts. -/
  validation : (object? (member? error "validation")).bind texts? = some validation

/-- The code that the member `error` gives. -/
def codeOf (error : List (String × Json)) : Except Fault Int :=
  match member? error "code" with
  | some v => integer v
  | none => .ok 0

theorem isDecoding_of_integer {v : Json} {f : Fault} (h : integer v = .error f) :
    f.IsDecoding ∨ f = .number .infinite ∧ ∃ negative, v = .float (.infinite negative) := by
  cases v with
  | bool b => cases h
  | int n => cases h
  | float x =>
    cases x with
    | finite negative mantissa exponent => cases h
    | infinite negative => cases h; exact Or.inr ⟨rfl, negative, rfl⟩
    | nan => cases h; exact Or.inl trivial
  | str s =>
    have h : (Integer.read s).mapError Fault.integer = .error f := h
    cases hread : Integer.read s with
    | ok n => rw [hread] at h; cases h
    | error e => rw [hread] at h; cases h; exact Or.inl trivial
  | null => cases h; exact Or.inl trivial
  | arr items => cases h; exact Or.inl trivial
  | obj fields => cases h; exact Or.inl trivial

theorem codeOf_eq_infinite_iff {error : List (String × Json)} :
    codeOf error = .error (.number .infinite) ↔
      ∃ negative, member? error "code" = some (.float (.infinite negative)) := by
  unfold codeOf
  cases hcode : member? error "code" with
  | none => simp
  | some v =>
    constructor
    · intro h
      rcases isDecoding_of_integer h with hdecoding | ⟨-, negative, rfl⟩
      · cases hdecoding
      · exact ⟨negative, rfl⟩
    · rintro ⟨negative, hv⟩
      cases hv
      rfl

theorem isDecoding_of_codeOf {error : List (String × Json)} {f : Fault}
    (h : codeOf error = .error f) : f.IsDecoding ∨ f = .number .infinite := by
  unfold codeOf at h
  split at h
  · exact (isDecoding_of_integer h).imp_right And.left
  · cases h

theorem ofJson_of_shaped {v : Json} {error debug : List (String × Json)}
    {validation : List (String × String)} (h : Shaped v error debug validation) :
    ofJson v = (codeOf error).map fun code => {
      code
      message := ((member? error "message").map Json.display).getD ""
      validation
      debugSource := ((member? debug "source").map Json.display).getD "" } := by
  obtain ⟨⟨fields, hv, herror, hdebug⟩, hvalidation⟩ := h
  have hfields : ofJson v = ofJson (.obj fields) := by
    rcases hv with ⟨rfl, rfl⟩ | rfl
    · rfl
    · rfl
  rw [hfields]
  unfold ofJson codeOf
  simp only [pure_bind, herror, hdebug, hvalidation]
  cases member? error "code" with
  | none => rfl
  | some v =>
    simp only
    cases integer v with
    | ok n => rfl
    | error f => rfl

theorem ofJson_of_not_shaped {v : Json}
    (h : ∀ error debug validation, ¬ Shaped v error debug validation) :
    ∃ e, ofJson v = .error (.shape e) := by
  -- nothing is read as an object without members
  have hobject : ∀ fields, v = .null ∧ fields = [] ∨ v = .obj fields →
      ∃ e, ofJson (.obj fields) = .error (.shape e) := by
    intro fields hv
    unfold ofJson
    simp only [pure_bind]
    cases herror : object? (member? fields "error") with
    | none => exact ⟨.members, rfl⟩
    | some error =>
      cases hdebug : object? (member? fields "debug") with
      | none => exact ⟨.members, rfl⟩
      | some debug =>
        cases hvalidation : (object? (member? error "validation")).bind texts? with
        | none => exact ⟨.validation, by simp only [hvalidation]; rfl⟩
        | some validation =>
          exact absurd ⟨⟨fields, hv, herror, hdebug⟩, hvalidation⟩ (h error debug validation)
  cases v with
  | null => exact hobject [] (Or.inl ⟨rfl, rfl⟩)
  | obj fields => exact hobject fields (Or.inr rfl)
  | bool b => exact ⟨_, rfl⟩
  | int n => exact ⟨_, rfl⟩
  | float x => exact ⟨_, rfl⟩
  | str s => exact ⟨_, rfl⟩
  | arr items => exact ⟨_, rfl⟩

theorem isDecoding_of_ofJson {v : Json} {f : Fault} (h : ofJson v = .error f) :
    f.IsDecoding ∨ f = .number .infinite ∧ ∃ error debug validation negative,
      Shaped v error debug validation ∧
        member? error "code" = some (.float (.infinite negative)) := by
  by_cases hshaped : ∃ error debug validation, Shaped v error debug validation
  · obtain ⟨error, debug, validation, hshaped⟩ := hshaped
    rw [ofJson_of_shaped hshaped] at h
    cases hcode : codeOf error with
    | ok code => rw [hcode] at h; cases h
    | error e =>
      rw [hcode] at h
      cases h
      rcases isDecoding_of_codeOf hcode with hdecoding | rfl
      · exact Or.inl hdecoding
      · obtain ⟨negative, hmember⟩ := codeOf_eq_infinite_iff.mp hcode
        exact Or.inr ⟨rfl, error, debug, validation, negative, hshaped, hmember⟩
  · obtain ⟨e, he⟩ := ofJson_of_not_shaped fun error debug validation hv =>
      hshaped ⟨error, debug, validation, hv⟩
    rw [he] at h
    cases h
    exact Or.inl trivial

variable [Platform]

/-- The value in the body is nested too deep: there is an object, or an array, too many in it. -/
def IsTooDeep (body : List UInt8) (object : Bool) : Prop :=
  Json.readBytes body = .error (.text (.tooDeep object))

/-- The body is an error body but for its code, which is infinite. -/
def HasInfiniteCode (body : List UInt8) : Prop :=
  ∃ v error debug validation negative, Json.readBytes body = .ok v ∧
    Shaped v error debug validation ∧
    member? error "code" = some (.float (.infinite negative))

theorem isDecoding_of_ofBytes {body : List UInt8} {f : Fault} (h : ofBytes body = .error f) :
    f.IsDecoding ∨ f = .number .infinite ∧ HasInfiniteCode body ∨
      ∃ object, f = .tooDeep object ∧ IsTooDeep body object := by
  unfold ofBytes at h
  cases hread : Json.readBytes body with
  | error e =>
    rw [hread] at h
    cases h
    refine (Fault.isDecoding_ofJsonBytes e).imp_right fun ⟨object, he⟩ => Or.inr ⟨object, ?_, ?_⟩
    · rw [he]
      rfl
    · rw [IsTooDeep, hread, he]
  | ok v =>
    rw [hread] at h
    refine (isDecoding_of_ofJson h).imp_right fun ⟨hf, error, debug, validation, negative, hv⟩ => ?_
    exact Or.inl ⟨hf, v, error, debug, validation, negative, hread, hv⟩

theorem ofBytes_of_tooDeep {body : List UInt8} {object : Bool} (h : IsTooDeep body object) :
    ofBytes body = .error (.tooDeep object) := by
  have hread : Json.readBytes body = .error (.text (.tooDeep object)) := h
  rw [ofBytes, hread]
  rfl

theorem ofBytes_of_infinite {body : List UInt8} (h : HasInfiniteCode body) :
    ofBytes body = .error (.number .infinite) := by
  obtain ⟨v, error, debug, validation, negative, hread, hshaped, hcode⟩ := h
  unfold ofBytes
  rw [hread]
  show ofJson v = _
  rw [ofJson_of_shaped hshaped, codeOf_eq_infinite_iff.mpr ⟨negative, hcode⟩]
  rfl

end ErrorBody

theorem Fault.isUndecodable_of_isDecoding {f : Fault} (h : f.IsDecoding) :
    f.isUndecodable = true := by
  cases f with
  | number e =>
    cases e with
    | infinite => cases h
    | nan => rfl
    | kind name => rfl
  | unreadResponse => cases h
  | tooDeep object => cases h
  | _ => rfl

section Reports

variable [Platform]

/-- How a failure response is to be reported: by what its body says, or as undecodable with the
fault of decoding its body as the cause. -/
inductive Response.Reported (request : Option Request) (response : Response)
    (content : List UInt8) : Error → Prop
  /-- The body is an error body. -/
  | understood {body : ErrorBody} (h : ErrorBody.ofBytes content = .ok body) :
      Reported request response content (.response (.ofBody body request response))
  /-- The body is none. -/
  | undecodable {cause : Fault} (h : ErrorBody.ofBytes content = .error cause)
      (hcause : cause.IsDecoding) :
      Reported request response content (.undecodable (.ofFault cause request response))

variable {request : Option Request} {response : Response} {content : List UInt8}

theorem Response.failure_eq (hbody : response.body = .held content) :
    response.failure request =
      match ErrorBody.ofBytes content with
      | .ok body => .response (.ofBody body request response)
      | .error f =>
        if f.isUndecodable then .undecodable (.ofFault f request response) else .fault f := by
  have hcontent : response.content = .ok content := by rw [Response.content, hbody]
  unfold Response.failure
  rw [hcontent]
  rfl

/-- A failure response that has been read is an error. It is reported unless its body is an error
body but for an infinite code, or the value in it is nested too deep; in these cases the fault of
the code, or that of the depth, is the error. -/
theorem Response.failure_reported_iff (hstatus : isSuccess response.status = false)
    (hbody : response.body = .held content) :
    ∃ e, response.check request = .error e ∧
      (response.Reported request content e ↔
        ¬ ErrorBody.HasInfiniteCode content ∧ ∀ object, ¬ ErrorBody.IsTooDeep content object) ∧
      (ErrorBody.HasInfiniteCode content → e = .fault (.number .infinite)) ∧
      ∀ object, ErrorBody.IsTooDeep content object → e = .fault (.tooDeep object) := by
  refine ⟨response.failure request, ?_, ?_, fun h => ?_, fun object h => ?_⟩
  · rw [Response.check, hstatus]
    rfl
  · constructor
    · intro hreported
      constructor
      · intro hinfinite
        rw [Response.failure_eq hbody, ErrorBody.ofBytes_of_infinite hinfinite] at hreported
        cases hreported
      · intro object hdeep
        rw [Response.failure_eq hbody, ErrorBody.ofBytes_of_tooDeep hdeep] at hreported
        cases hreported
    · rintro ⟨hfinite, hshallow⟩
      rw [Response.failure_eq hbody]
      cases hbytes : ErrorBody.ofBytes content with
      | ok body => exact .understood hbytes
      | error f =>
        rcases ErrorBody.isDecoding_of_ofBytes hbytes with
          hdecoding | ⟨-, hinfinite⟩ | ⟨object, -, hdeep⟩
        · simp only [Fault.isUndecodable_of_isDecoding hdecoding, if_true]
          exact .undecodable hbytes hdecoding
        · exact absurd hinfinite hfinite
        · exact absurd hdeep (hshallow object)
  · rw [Response.failure_eq hbody, ErrorBody.ofBytes_of_infinite h]
    rfl
  · rw [Response.failure_eq hbody, ErrorBody.ofBytes_of_tooDeep h]
    rfl

end Reports

section Plain

attribute [local instance] Platform.plain

/-- A body whose code is the infinite number goes through as the fault of its conversion, and one
whose code is no number is reported with that fault as the cause. -/
theorem Response.failure_reported_of_infinite_code :
    let response : String → Response := fun body => {
      status := 404, headers := { rows := [] }, body := .held (Headers.asciiBytes body) }
    let infinite := "\x7b\"error\":\x7b\"code\":Infinity\x7d\x7d"
    let nan := "\x7b\"error\":\x7b\"code\":NaN\x7d\x7d"
    isSuccess 404 = false ∧
      (response infinite).check none = .error (.fault (.number .infinite)) ∧
      ∃ e, (response nan).check none = .error e ∧
        (response nan).Reported none (Headers.asciiBytes nan) e := by
  intro response infinite nan
  have hstatus : ∀ body, isSuccess (response body).status = false := fun body => rfl
  have hinfinite : ErrorBody.HasInfiniteCode (Headers.asciiBytes infinite) := by
    have hbytes : ErrorBody.ofBytes (Headers.asciiBytes infinite) = .error (.number .infinite) := by
      decide +kernel
    rcases ErrorBody.isDecoding_of_ofBytes hbytes with hdecoding | ⟨-, h⟩ | ⟨object, h, -⟩
    · cases hdecoding
    · exact h
    · cases h
  have hnan : ErrorBody.ofBytes (Headers.asciiBytes nan) = .error (.number .nan) := by
    decide +kernel
  have hfinite : ¬ ErrorBody.HasInfiniteCode (Headers.asciiBytes nan) := by
    intro h
    rw [ErrorBody.ofBytes_of_infinite h] at hnan
    cases hnan
  have hshallow : ∀ object, ¬ ErrorBody.IsTooDeep (Headers.asciiBytes nan) object := by
    intro object h
    rw [ErrorBody.ofBytes_of_tooDeep h] at hnan
    cases hnan
  obtain ⟨e, he, -, hfault, -⟩ := @failure_reported_iff _ none (response infinite) _
    (hstatus infinite) rfl
  obtain ⟨e', he', hreported, -⟩ := @failure_reported_iff _ none (response nan) _ (hstatus nan) rfl
  exact ⟨rfl, he.trans (congrArg _ (hfault hinfinite)), e', he', hreported.mpr ⟨hfinite, hshallow⟩⟩

end Plain

end ApiClient
