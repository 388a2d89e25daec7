import ApiClient.Json.Basic
import ApiClient.Number.Integer
import ApiClient.Platform
import ApiClient.Text.Character
import ApiClient.Text.Wide

/-!
# Reading JSON

Reading a value from a text, with the place of the first fault if there is one. Besides the JSON
grammar, the numbers `NaN`, `Infinity` and `-Infinity` are read, and an integer of more digits than
an integer may have is refused, and so is an array or an object inside of more of them than may be
open at once. Of fields with one name the last value counts, in the place of the first.
-/

namespace ApiClient.Json

/-- What is wrong at some place of a text. -/
inductive Fault
  | value
  | key
  | colon
  | comma
  | extraData
  | openString
  | control
  | escape
  | unicodeEscape
  | byteOrderMark
  deriving DecidableEq, Repr

/-- The wording of a fault. -/
def Fault.text : Fault → String
  | value => "Expecting value"
  | key => "Expecting property name enclosed in double quotes"
  | colon => "Expecting ':' delimiter"
  | comma => "Expecting ',' delimiter"
  | extraData => "Extra data"
  | openString => "Unterminated string starting at"
  | control => "Invalid control character at"
  | escape => "Invalid \\escape"
  | unicodeEscape => "Invalid \\uXXXX escape"
  | byteOrderMark => "Unexpected UTF-8 BOM (decode using utf-8-sig)"

/-- A fault and where it is: line and column count from one, the position from zero. -/
structure FaultAt where
  /-- The fault. -/
  fault : Fault
  /-- The line of the fault. -/
  line : Nat
  /-- The column of the fault in its line. -/
  column : Nat
  /-- The characters in front of the fault. -/
  position : Nat
  deriving DecidableEq, Repr

/-- The place behind `before`. -/
def FaultAt.after (fault : Fault) (before : List Char) : FaultAt where
  fault
  line := before.count '\n' + 1
  column := (before.reverse.takeWhile (· ≠ '\n')).length + 1
  position := before.length

/-- The wording of a fault and its place. -/
def FaultAt.message (e : FaultAt) : String :=
  e.fault.text ++ s!": line {e.line} column {e.column} (char {e.position})"

/-- Why a text is not read. -/
inductive TextError
  /-- The text is no JSON. -/
  | malformed (e : FaultAt)
  /-- An integer has this many digits, more than are read. -/
  | tooManyDigits (count : Nat)
  /-- An object, or an array, is nested too deep. -/
  | tooDeep (object : Bool)
  deriving DecidableEq, Repr

/-- A failure inside a text: a fault with the part of the text that begins there. -/
inductive Stop
  | fault (what : Fault) (rest : List Char)
  | tooManyDigits (count : Nat)
  | tooDeep (object : Bool)

/-- The blanks between the tokens of a text. -/
def isBlank (c : Char) : Bool :=
  c = ' ' || c = '\t' || c = '\n' || c = '\r'

/-- A text without the blanks at its front. -/
def skipBlanks (s : List Char) : List Char :=
  s.dropWhile isBlank

/-! ## Strings -/

/-- The number that four hexadecimal digits stand for. -/
def hex4? (a b c d : Char) : Option Nat := do
  let a ← Text.hexValue? a
  let b ← Text.hexValue? b
  let c ← Text.hexValue? c
  let d ← Text.hexValue? d
  return ((a * 16 + b) * 16 + c) * 16 + d

/-- The character that a backslash and `c` stand for. -/
def unescape? (c : Char) : Option Char :=
  if c = '"' ∨ c = '\\' ∨ c = '/' then some c
  else if c = 'b' then some '\x08'
  else if c = 'f' then some '\x0c'
  else if c = 'n' then some '\n'
  else if c = 'r' then some '\r'
  else if c = 't' then some '\t'
  else none

/-- The code unit behind a backslash and `u`, of which `s` is what follows the `u`. At least one
more character has to stand behind the four digits. -/
def codeUnit? : List Char → Option (Nat × List Char)
  | a :: b :: c :: d :: e :: rest => (hex4? a b c d).map fun n => (n, e :: rest)
  | _ => none

/-- The second half of a pair, with what follows it, where `s` follows a first half. A backslash
and `u` without four digits behind them are a fault; another code unit is left alone. -/
def secondHalf? (s : List Char) : Except Stop (Option (Nat × List Char)) :=
  match s with
  | '\\' :: 'u' :: rest =>
    if rest.length ≤ 4 then .ok none
    else
      match codeUnit? rest with
      | none => .error (.fault .unicodeEscape ('u' :: rest))
      | some (n, after) => .ok (if Text.isSecondHalf n then some (n, after) else none)
  | _ => .ok none

/-- The rest of a string up to its closing quote, and what follows the quote. `whole` is the text
from the opening quote on. -/
def stringRest (whole : List Char) : Nat → List Char → Except Stop (List Char × List Char)
  | 0, _ => .error (.fault .openString whole)
  | _, [] => .error (.fault .openString whole)
  | fuel + 1, c :: rest =>
    if c = '"' then .ok ([], rest)
    else if c = '\\' then
      match rest with
      | [] => .error (.fault .openString whole)
      | e :: after =>
        if e = 'u' then
          match codeUnit? after with
          | none => .error (.fault .unicodeEscape rest)
          | some (unit, after) => do
            let second ← if Text.isFirstHalf unit then secondHalf? after else .ok none
            match second with
            | some (second, after) =>
              let (s, end_) ← stringRest whole fuel after
              return (Text.joinHalves unit second :: s, end_)
            | none =>
              let (s, end_) ← stringRest whole fuel after
              return (Text.charOrReplacement unit :: s, end_)
        else
          match unescape? e with
          | none => .error (.fault .escape (c :: rest))
          | some d => do
            let (s, end_) ← stringRest whole fuel after
            return (d :: s, end_)
    else if c.toNat < 0x20 then .error (.fault .control (c :: rest))
    else do
      let (s, end_) ← stringRest whole fuel rest
      return (c :: s, end_)

/-- The string whose opening quote is followed by `rest`. -/
def string (rest : List Char) : Except Stop (String × List Char) := do
  let (s, after) ← stringRest ('"' :: rest) (rest.length + 1) rest
  return (String.ofList s, after)

/-! ## Numbers -/

/-- Whether `c` is a digit of a number. -/
def isDigit (c : Char) : Bool :=
  '0' ≤ c && c ≤ '9'

/-- The number that digits stand for. -/
def digitsValue (digits : List Char) : Nat :=
  digits.foldl (fun n d => n * 10 + (d.toNat - 0x30)) 0

/-- The digits of a fraction behind a point, and what follows them. -/
def fraction? : List Char → Option (List Char × List Char)
  | '.' :: rest =>
    match rest.takeWhile isDigit with
    | [] => none
    | digits => some (digits, rest.dropWhile isDigit)
  | _ => none

/-- The exponent behind an `e`, and what follows it. -/
def exponent? : List Char → Option (Int × List Char)
  | e :: rest =>
    if e = 'e' ∨ e = 'E' then
      let (negative, rest) := Integer.signOf rest
      match rest.takeWhile isDigit with
      | [] => none
      | digits =>
        let n : Int := digitsValue digits
        some (if negative then -n else n, rest.dropWhile isDigit)
    else none
  | [] => none

/-- The number with the integer digits `whole`, followed by `rest`. -/
def numberFrom (negative : Bool) (whole rest : List Char) : Except Stop (Json × List Char) :=
  let (decimals, rest, pointed) := match fraction? rest with
    | some (decimals, rest) => (decimals, rest, true)
    | none => ([], rest, false)
  let (exponent, rest, raised) := match exponent? rest with
    | some (exponent, rest) => (exponent, rest, true)
    | none => (0, rest, false)
  if pointed || raised then
    .ok (float (.ofDecimal negative (digitsValue (whole ++ decimals))
      (exponent - decimals.length)), rest)
  else if Integer.maxDigits < whole.length then .error (.tooManyDigits whole.length)
  else
    let n : Int := digitsValue whole
    .ok (int (if negative then -n else n), rest)

/-- The number at the front of a text. An integer part begins with zero only if it is zero. -/
def number (s : List Char) : Except Stop (Json × List Char) :=
  let (negative, body) := match s with
    | '-' :: rest => (true, rest)
    | _ => (false, s)
  match body with
  | [] => .error (.fault .value s)
  | c :: rest =>
    if c = '0' then numberFrom negative [c] rest
    else if isDigit c then
      numberFrom negative (body.takeWhile isDigit) (body.dropWhile isDigit)
    else .error (.fault .value s)

/-! ## Values -/

/-- The words that are values. -/
def words : List (List Char × Json) :=
  [("null".toList, null), ("true".toList, bool true), ("false".toList, bool false),
    ("NaN".toList, float .nan), ("Infinity".toList, float (.infinite false)),
    ("-Infinity".toList, float (.infinite true))]

/-- The word at the front of a text, and what follows it. -/
def word? (s : List Char) : Option (Json × List Char) :=
  (words.find? fun w => w.1.isPrefixOf s).map fun w => (w.2, s.drop w.1.length)

mutual

/-- The value at the front of a text, and what follows it. No more than `depth` arrays and objects
are open at once in it. -/
def value : Nat → Nat → List Char → Except Stop (Json × List Char)
  | 0, _, s => .error (.fault .value s)
  | fuel + 1, depth, s =>
    match s with
    | [] => .error (.fault .value [])
    | c :: rest =>
      if c = '"' then do
        let (s, after) ← string rest
        return (str s, after)
      else if c = '[' then
        if depth = 0 then .error (.tooDeep false)
        else
          match skipBlanks rest with
          | ']' :: after => .ok (arr [], after)
          | inner => do
            let (items, after) ← items fuel (depth - 1) inner
            return (arr items, after)
      else if c = '\x7b' then
        if depth = 0 then .error (.tooDeep true)
        else
          match skipBlanks rest with
          | '\x7d' :: after => .ok (obj [], after)
          | inner => do
            let (fields, after) ← fields fuel (depth - 1) [] inner
            return (obj fields, after)
      else
        match word? s with
        | some found => .ok found
        | none => number s

/-- The items of an array up to its closing bracket, and what follows the bracket. -/
def items : Nat → Nat → List Char → Except Stop (List Json × List Char)
  | 0, _, s => .error (.fault .value s)
  | fuel + 1, depth, s => do
    let (item, after) ← value fuel depth s
    match skipBlanks after with
    | ']' :: rest => return ([item], rest)
    | ',' :: rest =>
      let (more, rest) ← items fuel depth (skipBlanks rest)
      return (item :: more, rest)
    | rest => .error (.fault .comma rest)

/-- The fields of an object up to its closing brace, put behind the fields `known`, and what
follows the brace. -/
def fields : Nat → Nat → List (String × Json) → List Char →
    Except Stop (List (String × Json) × List Char)
  | 0, _, _, s => .error (.fault .value s)
  | fuel + 1, depth, known, s =>
    match s with
    | '"' :: rest => do
      let (name, after) ← string rest
      match skipBlanks after with
      | ':' :: rest =>
        let (v, after) ← value fuel depth (skipBlanks rest)
        let known := setField known name v
        match skipBlanks after with
        | '\x7d' :: rest => return (known, rest)
        | ',' :: rest => fields fuel depth known (skipBlanks rest)
        | rest => .error (.fault .comma rest)
      | rest => .error (.fault .colon rest)
    | s => .error (.fault .key s)

end

/-- A failure inside `s`, with its place. -/
def Stop.inText (s : List Char) : Stop → TextError
  | fault what rest => .malformed (.after what (s.take (s.length - rest.length)))
  | tooManyDigits count => .tooManyDigits count
  | tooDeep object => .tooDeep object

variable [Platform]

/-- The value of a text, which nothing but blanks may surround. -/
def readChars (s : List Char) : Except TextError Json :=
  match value (2 * s.length + 2) Platform.nesting (skipBlanks s) with
  | .error stop => .error (stop.inText s)
  | .ok (v, after) =>
    match skipBlanks after with
    | [] => .ok v
    | rest => .error (Stop.inText s (.fault .extraData rest))

/-- The value of a text. A byte order mark at its front is a fault of its own. -/
def readText (s : String) : Except TextError Json :=
  match s.toList with
  | '\uFEFF' :: rest => .error (Stop.inText ('\uFEFF' :: rest) (.fault .byteOrderMark s.toList))
  | chars => readChars chars

end ApiClient.Json
