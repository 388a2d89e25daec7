import ApiClient.Proofs.Errors.Taxonomy
import ApiClient.Proofs.Json.Nesting
import ApiClient.Proofs.Json.Printing

/-!
# Reading back error bodies

The error of a failure response carries what its body gives, member by member, and the default of
each member that is left out of the body or null there. Other members make no difference, unless
they keep the body from being read: by an integer of too many digits, or by being nested too deep.
-/

namespace ApiClient

namespace ErrorBody

/-- What a server gives in an error body. -/
structure Given where
  /-- The code. -/
  code : Option Int := none
  /-- The message. -/
  message : Option String := none
  /-- The messages for single fields. -/
  validation : Option (List (String × String)) := none
  /-- The place in the server. -/
  debugSource : Option String := none

/-- What is given, with the defaults of the rest. -/
def Given.body (given : Given) : ErrorBody where
  code := given.code.getD 0
  message := given.message.getD ""
  validation := given.validation.getD []
  debugSource := given.debugSource.getD ""

/-- Messages for single fields, as the fields of an object. -/
def messageFields (validation : List (String × String)) : List (String × Json) :=
  validation.map fun (name, text) => (name, .str text)

/-- The member `name` of an object is `v`. If there is no `v`, it is left out or null. -/
def HasMember (fields : List (String × Json)) (name : String) (v : Option Json) : Prop :=
  Json.field? fields name = v ∨ v = none ∧ Json.field? fields name = some .null

/-- An object with the given members, of which `error` and `debug` are objects. Whatever other
members there are in the three of them, nothing is said about. -/
structure Given.In (given : Given) (fields : List (String × Json))
    (error debug : Option (List (String × Json))) : Prop where
  /-- The member `error`. -/
  hasError : HasMember fields "error" (error.map .obj)
  /-- The member `debug`. -/
  hasDebug : HasMember fields "debug" (debug.map .obj)
  /-- The code. -/
  hasCode : HasMember (error.getD []) "code" (given.code.map .int)
  /-- The message. -/
  hasMessage : HasMember (error.getD []) "message" (given.message.map .str)
  /-- The messages for single fields. -/
  hasValidation : HasMember (error.getD []) "validation"
    ((given.validation.map messageFields).map .obj)
  /-- The place in the server. -/
  hasSource : HasMember (debug.getD []) "source" (given.debugSource.map .str)

variable {given : Given} {fields : List (String × Json)}
  {error debug : Option (List (String × Json))}

theorem member?_of_hasMember {name : String} {v : Option Json} (h : HasMember fields name v) :
    member? fields name = v.filter Json.isTruthy := by
  unfold member?
  rcases h with h | ⟨rfl, h⟩
  · rw [h]
  · rw [h]
    rfl

/-- An empty object and none are the same. -/
theorem object?_filter (fields : Option (List (String × Json))) :
    object? ((fields.map Json.obj).filter Json.isTruthy) = some (fields.getD []) := by
  cases fields with
  | none => rfl
  | some fields =>
    cases fields with
    | nil => rfl
    | cons f fields => rfl

/-- An empty text and none are the same. -/
theorem display_filter (text : Option String) :
    (((text.map Json.str).filter Json.isTruthy).map Json.display).getD "" = text.getD "" := by
  cases text with
  | none => rfl
  | some text =>
    by_cases hempty : text = ""
    · subst hempty
      rfl
    · have htruthy : Json.isTruthy (.str text) = true := decide_eq_true hempty
      rw [Option.map_some, Option.filter_some, if_pos htruthy]
      rfl

theorem texts?_messageFields (validation : List (String × String)) :
    texts? (messageFields validation) = some validation := by
  induction validation with
  | nil => rfl
  | cons message validation ih =>
    show (texts? (messageFields validation)).map (message :: ·) = _
    rw [ih]
    rfl

theorem Given.In.shaped (h : given.In fields error debug) :
    Shaped (.obj fields) (error.getD []) (debug.getD []) (given.validation.getD []) where
  members := by
    refine ⟨fields, Or.inr rfl, ?_, ?_⟩
    · rw [member?_of_hasMember h.hasError, object?_filter]
    · rw [member?_of_hasMember h.hasDebug, object?_filter]
  validation := by
    rw [member?_of_hasMember h.hasValidation, object?_filter, Option.bind_some]
    cases given.validation with
    | none => rfl
    | some validation => exact texts?_messageFields validation

theorem Given.In.codeOf_eq (h : given.In fields error debug) :
    codeOf (error.getD []) = .ok (given.code.getD 0) := by
  unfold codeOf
  rw [member?_of_hasMember h.hasCode]
  cases given.code with
  | none => rfl
  | some n =>
    by_cases hzero : n = 0
    · subst hzero
      rfl
    · have htruthy : Json.isTruthy (.int n) = true := decide_eq_true hzero
      rw [Option.map_some, Option.filter_some, if_pos htruthy]
      rfl

theorem Given.In.ofJson_eq (h : given.In fields error debug) :
    ofJson (.obj fields) = .ok given.body := by
  rw [ofJson_of_shaped h.shaped, h.codeOf_eq, member?_of_hasMember h.hasMessage, display_filter,
    member?_of_hasMember h.hasSource, display_filter]
  rfl

section Bytes

variable [Platform]

theorem ofBytes_of_written {b t b' : List Char} (hb : Json.Blanks b) (hb' : Json.Blanks b')
    (ht : Json.Written (.obj fields) t) (hdepth : (Json.obj fields).depth ≤ Platform.nesting)
    (h : given.In fields error debug) :
    ofBytes (Text.Utf8.encode (b ++ t ++ b')) = .ok given.body := by
  unfold ofBytes
  rw [Json.readBytes_of_written hb hb' ht hdepth]
  exact h.ofJson_eq

end Bytes

/-! ## Full bodies -/

/-- The member `error` of an error body. -/
def errorFields (body : ErrorBody) : List (String × Json) :=
  [("code", .int body.code), ("message", .str body.message),
    ("validation", .obj (messageFields body.validation))]

/-- The member `debug` of an error body. -/
def debugFields (body : ErrorBody) : List (String × Json) :=
  [("source", .str body.debugSource)]

/-- The members of an error body. -/
def members (body : ErrorBody) : List (String × Json) :=
  [("error", .obj body.errorFields), ("debug", .obj body.debugFields)]

/-- Everything in an error body. -/
def Given.all (body : ErrorBody) : Given where
  code := some body.code
  message := some body.message
  validation := some body.validation
  debugSource := some body.debugSource

theorem in_members (body : ErrorBody) :
    (Given.all body).In body.members (some body.errorFields) (some body.debugFields) where
  hasError := Or.inl rfl
  hasDebug := Or.inl rfl
  hasCode := Or.inl rfl
  hasMessage := Or.inl rfl
  hasValidation := Or.inl rfl
  hasSource := Or.inl rfl

theorem exactFields_messageFields (validation : List (String × String)) :
    Json.ExactFields (messageFields validation) := by
  induction validation with
  | nil => trivial
  | cons message validation ih => exact ⟨trivial, ih⟩

theorem exact_members {body : ErrorBody}
    (hcode : (Nat.toDigits 10 body.code.natAbs).length ≤ Integer.maxDigits)
    (hnames : (body.validation.map Prod.fst).Nodup) : Json.Exact (.obj body.members) := by
  have hfields : ((messageFields body.validation).map Prod.fst).Nodup := by
    unfold messageFields
    rw [List.map_map]
    exact hnames
  have hvalidation : Json.Exact (.obj (messageFields body.validation)) :=
    ⟨hfields, exactFields_messageFields body.validation⟩
  have herror : Json.Exact (.obj body.errorFields) :=
    ⟨by simp [errorFields], hcode, trivial, hvalidation, trivial⟩
  have hdebug : Json.Exact (.obj body.debugFields) := ⟨by simp [debugFields], trivial, trivial⟩
  exact ⟨by simp [members], herror, hdebug, trivial⟩

theorem depth_messageFields (validation : List (String × String)) :
    Json.fieldsDepth (messageFields validation) = 0 := by
  induction validation with
  | nil => rfl
  | cons message validation ih =>
    show max 0 (Json.fieldsDepth (messageFields validation)) = 0
    rw [ih]
    rfl

theorem depth_members (body : ErrorBody) : (Json.obj body.members).depth = 3 := by
  have hvalidation : (Json.obj (messageFields body.validation)).depth = 1 :=
    congrArg (· + 1) (depth_messageFields body.validation)
  show max (max 0 (max 0 (max (Json.obj (messageFields body.validation)).depth 0)) + 1)
    (max (max 0 0 + 1) 0) + 1 = 3
  rw [hvalidation]
  rfl

/-- An error body with all its members is written, and read back as it is. -/
theorem ofBytes_bytes? [Platform] {body : ErrorBody}
    (hcode : (Nat.toDigits 10 body.code.natAbs).length ≤ Integer.maxDigits)
    (hnames : (body.validation.map Prod.fst).Nodup) :
    ∃ bytes, Json.bytes? (.obj body.members) = some bytes ∧ ofBytes bytes = .ok body := by
  obtain ⟨t, hprint, ht⟩ := Json.exists_print_of_exact _ (exact_members hcode hnames)
  have hread := ofBytes_of_written Json.blanks_nil Json.blanks_nil ht
    ((depth_members body).trans_le Platform.three_le_nesting) (in_members body)
  rw [List.append_nil] at hread
  refine ⟨Text.Utf8.encode t, ?_, hread⟩
  rw [Json.bytes?, hprint]
  rfl

end ErrorBody

/-! ## Failure responses -/

section Failures

variable [Platform] {request : Option Request} {response : Response}

end Failures

section Plain

attribute [local instance] Platform.plain

end Plain

end ApiClient
