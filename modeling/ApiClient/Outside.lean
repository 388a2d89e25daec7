import ApiClient.Text.Quoted

/-!
# Failures from outside

What goes wrong in the parts that a caller supplies (streams, transports, listings, predicates) is
passed on as it is: a kind and a text. Asking a failure for its text may fail in turn.
-/

namespace ApiClient

/-- The families of failures that a body or a file may fail with without harm. -/
inductive OutsideFamily
  /-- Failures of the connection. -/
  | connection
  /-- Failures of the run. -/
  | runtime
  /-- Failures of the system. -/
  | os
  deriving DecidableEq, Repr

/-- The kinds of failures that supplied parts may raise. A special case of "stop" (`cancelled`) or
of "nothing found" (`neverMet`) counts as that, wherever it is told from other failures. -/
inductive OutsideKind
  | runtime
  | os
  | value
  | type
  | arithmetic
  | key
  | cancelled
  | connect
  | read
  | write
  | readTimeout
  | connectTimeout
  | poolTimeout
  | remoteProtocol
  | unsupportedProtocol
  | decoding
  | tooManyRedirects
  | invalidUrl
  | neverMet
  /-- Any further kind, by its name and the family that it belongs to, if it is one of those. -/
  | other (name : String) (family : Option OutsideFamily)
  deriving DecidableEq, Repr

namespace OutsideKind

/-- The family of a kind, if it is one that may be without harm. -/
def family? : OutsideKind → Option OutsideFamily
  | runtime => some .runtime
  | os => some .os
  | value | type | arithmetic | key | cancelled | invalidUrl | neverMet => none
  | other _ family => family
  | _ => some .connection

/-- Whether a body that fails in this way is merely unreadable. Any other failure goes through to
the caller. -/
def meansUnreadable (kind : OutsideKind) : Bool :=
  kind.family?.isSome

end OutsideKind

/-- A failure of a supplied part. -/
structure Outside where
  /-- Its kind. -/
  kind : OutsideKind
  /-- Its text. -/
  text : String
  /-- Kind and text of the failure that there is instead when its text is asked for, if that
  fails. -/
  textFailure : Option (OutsideKind × String) := none
  deriving DecidableEq, Repr

namespace Outside

/-- The wording of a failure that has one; the text of a missing key is quoted. -/
def message (e : Outside) : String :=
  if e.kind = .key then Text.quoted e.text else e.text

/-- The wording of a failure, or what asking for it comes to. -/
def wording (e : Outside) : Except Outside String :=
  match e.textFailure with
  | none => .ok e.message
  | some (kind, text) => .error { kind, text }

end Outside

end ApiClient
