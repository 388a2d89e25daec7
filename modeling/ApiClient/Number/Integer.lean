import ApiClient.Text.Quoted

/-!
# Reading integers

The decimal form of an integer in a header field or an error body: blanks around it, an optional
sign, then digits of any script, single underscores allowed between them. A text of more than
`maxDigits` digits is refused before it is turned into a number.
-/

namespace ApiClient.Integer

open Text

/-- The most digits that are read. -/
def maxDigits : Nat := 4300

/-- Why something is not an integer. -/
inductive ReadError
  /-- The text is no integer. -/
  | notAnInteger (text : String)
  /-- The text has this many digits, more than are read. -/
  | tooManyDigits (count : Nat)
  deriving DecidableEq, Repr

/-- The wording of a failure; of a quoted text, 200 characters are shown. -/
def ReadError.message : ReadError → String
  | .notAnInteger text =>
    "invalid literal for int() with base 10: " ++ String.ofList ((quoted text).toList.take 200)
  | .tooManyDigits count =>
    s!"Exceeds the limit ({maxDigits} digits) for integer string conversion: value has "
      ++ s!"{count} digits; use sys.set_int_max_str_digits() to increase the limit"

/-- Whether `c` may stand before or after an integer: every blank may but the information
separators. -/
def isMargin (c : Char) : Bool :=
  isBlank c && !(0x1C ≤ c.toNat && c.toNat ≤ 0x1F)

/-- The digits at the front of a text, with single underscores between them, and the rest; `none`
if there is no digit, or an underscore without a digit on both sides. -/
def digitRun : List Char → Option (List Nat × List Char)
  | [] => none
  | c :: rest =>
    match digitValue? c with
    | none => none
    | some value =>
      match rest with
      | [] => some ([value], [])
      | d :: more =>
        if d = '_' then (digitRun more).map fun run => (value :: run.1, run.2)
        else if (digitValue? d).isSome then
          (digitRun (d :: more)).map fun run => (value :: run.1, run.2)
        else some ([value], d :: more)

/-- The sign at the front of a text, and the rest. -/
def signOf : List Char → Bool × List Char
  | '-' :: rest => (true, rest)
  | '+' :: rest => (false, rest)
  | s => (false, s)

/-- The number that digits stand for. -/
def ofDigits (digits : List Nat) : Nat :=
  digits.foldl (fun n d => n * 10 + d) 0

/-- The integer that a text denotes. -/
def read (text : String) : Except ReadError Int :=
  let (negative, body) := signOf (text.toList.dropWhile isMargin)
  match digitRun body with
  | none => .error (.notAnInteger text)
  | some (digits, rest) =>
    if maxDigits < digits.length then .error (.tooManyDigits digits.length)
    else if rest.all isMargin then
      .ok (if negative then -(ofDigits digits : Int) else ofDigits digits)
    else .error (.notAnInteger text)

end ApiClient.Integer
