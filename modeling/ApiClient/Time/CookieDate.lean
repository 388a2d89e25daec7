import ApiClient.Number.Integer
import ApiClient.Time.HttpDate

/-!
# Dates of cookies

The date that a cookie expires at is written in one form strictly, or in many forms loosely: a
weekday is left out of account, day, month and year are separated by blanks or single marks, the
month is a name or a number, and a time and a zone may follow. A text in none of these forms is no
date, but a few flaws in a text that has one of them break off reading.
-/

namespace ApiClient.CookieDate

/-- Why reading a date is broken off. -/
inductive Error
  /-- The strict form has a month of no name. -/
  | month
  /-- The year has more digits than an integer may have. -/
  | digits
  /-- The year is beyond the calendar. -/
  | calendar
  deriving DecidableEq, Repr

/-! ## Moments -/

/-- A day and a time as they are written. -/
structure Moment where
  /-- The day. -/
  day : HttpDate.Day
  /-- The hour. -/
  hour : Nat
  /-- The minute. -/
  minute : Nat
  /-- The second. -/
  second : Nat
  deriving DecidableEq, Repr

/-- Whether the parts of a moment are in their ranges, which do not go by the length of the month.
-/
def Moment.isRegular (m : Moment) : Bool :=
  1970 ≤ m.day.year && (1 ≤ m.day.month && m.day.month ≤ 12) && (1 ≤ m.day.day && m.day.day ≤ 31)
    && m.hour ≤ 24 && m.minute ≤ 59 && m.second ≤ 61

/-- The second of a moment in Greenwich since 1970, if it is regular. -/
def Moment.seconds (m : Moment) : Except Error (Option Int) :=
  if !m.isRegular then .ok none
  else if 9999 < m.day.year then .error .calendar
  else
    .ok (some (m.day.number * HttpDate.secondsPerDay
      + (m.hour * 3600 + m.minute * 60 + m.second : Nat)))

/-- The number of a month by the beginning of its name. -/
def monthNumber? (name : List Char) : Option Nat :=
  (HttpDate.months.findIdx? fun month =>
    month.toList.map Char.toLower = name.map Char.toLower).map (· + 1)

/-- The number of decimal digits. -/
def number (digits : List Char) : Nat :=
  digits.foldl (fun n c => n * 10 + (c.toNat - 0x30)) 0

/-! ## The strict form -/

/-- Whether `c` is a decimal digit. -/
def isDigit (c : Char) : Bool :=
  '0' ≤ c && c ≤ '9'

/-- Whether a character fits one of a form, where `0` stands for a digit, `a` for a small letter,
and `w` and `m` for the first letters of weekdays and months. -/
def fits (form c : Char) : Bool :=
  if form = '0' then isDigit c
  else if form = 'a' then 'a' ≤ c && c ≤ 'z'
  else if form = 'w' then "SMTWF".toList.contains c
  else if form = 'm' then "JFMASOND".toList.contains c
  else form = c

/-- The strict form. -/
def strictForm : List Char :=
  "waa, 00 maa 0000 00:00:00 GMT".toList

/-- Whether a text has the strict form, behind which a line may end. -/
def isStrict (s : List Char) : Bool :=
  let s := if s.getLast? = some '\n' then s.dropLast else s
  s.length = strictForm.length && (strictForm.zip s).all fun (form, c) => fits form c

/-- The second of a text in the strict form. -/
def readStrict (s : List Char) : Except Error (Option Int) :=
  match monthNumber? ((s.drop 8).take 3) with
  | none => .error .month
  | some month =>
    let twoAt := fun place => number ((s.drop place).take 2)
    Moment.seconds {
      day := { year := number ((s.drop 12).take 4), month, day := twoAt 5 }
      hour := twoAt 17
      minute := twoAt 20
      second := twoAt 23 }

/-! ## Loose forms -/

/-- Whether `c` is an ASCII blank. -/
def isSpace (c : Char) : Bool :=
  c = ' ' || (0x09 ≤ c.toNat && c.toNat ≤ 0x0D)

/-- Whether `c` is an ASCII letter. -/
def isLetter (c : Char) : Bool :=
  ('a' ≤ c && c ≤ 'z') || ('A' ≤ c && c ≤ 'Z')

/-- Whether `c` is an ASCII letter, a digit or a low line. -/
def isWord (c : Char) : Bool :=
  isLetter c || isDigit c || c = '_'

/-- A text without a weekday at its front: a name that begins like one, a comma and blanks. -/
def dropWeekday (s : List Char) : List Char :=
  let day := (s.take 3).map Char.toLower
  if HttpDate.weekdays.any fun name => name.toList.map Char.toLower = day then
    let rest := (s.drop 3).dropWhile isLetter
    (if rest.head? = some ',' then rest.drop 1 else rest).dropWhile isSpace
  else s

/-- What follows a separator of day, month and year. -/
def dropSeparator? : List Char → Option (List Char)
  | [] => none
  | c :: rest =>
    if c = '-' || c = '/' then some rest
    else if isSpace c then some (rest.dropWhile isSpace)
    else none

/-- The two digits behind a colon, and what follows them. -/
def cutPart? : List Char → Option (List Char × List Char)
  | ':' :: a :: b :: rest => if isDigit a && isDigit b then some ([a, b], rest) else none
  | _ => none

/-- The time behind a separator, if there is one, and what follows it: hour and minute, and maybe
the second. -/
def cutTime (s : List Char) : (Nat × Nat × Nat) × List Char :=
  let behind :=
    match s with
    | ':' :: rest => some rest
    | c :: rest => if isSpace c then some (rest.dropWhile isSpace) else none
    | [] => none
  let found := do
    let rest ← behind
    let hour := rest.takeWhile isDigit
    guard (hour.length = 1 ∨ hour.length = 2)
    let (minute, rest) ← cutPart? (rest.dropWhile isDigit)
    let (second, rest) := (cutPart? rest).getD ([], rest)
    return ((number hour, number minute, number second), rest)
  found.getD ((0, 0, 0), s)

/-- The zone at the front of a text, if there is one, and what follows it: two to four digits behind
a sign, or a name other than those of the halves of a day. -/
def cutZone (s : List Char) : Option (List Char) × List Char :=
  let (sign, digits) :=
    match s with
    | c :: rest => if c = '-' || c = '+' then ([c], rest) else ([], s)
    | [] => ([], s)
  let run := digits.takeWhile isDigit
  let name := s.takeWhile isLetter
  if 2 ≤ run.length && run.length ≤ 4 then (some (sign ++ run), digits.dropWhile isDigit)
  else if name.isEmpty || ["am", "pm"].contains (String.ofList (name.map Char.toLower)) then
    (none, s)
  else (some name, s.dropWhile isLetter)

/-- A text without a word in parentheses at its front. -/
def dropRemark (s : List Char) : List Char :=
  match s with
  | '(' :: rest =>
    match rest.takeWhile isWord, rest.dropWhile isWord with
    | _ :: _, ')' :: behind => behind.dropWhile isSpace
    | _, _ => s
  | _ => s

/-- The parts of a date as they are written. -/
structure Parts where
  /-- The day of the month. -/
  day : List Char
  /-- The month. -/
  month : List Char
  /-- The year. -/
  year : List Char
  /-- Hour, minute and second. -/
  time : Nat × Nat × Nat
  /-- The zone. -/
  zone : Option (List Char)
  deriving DecidableEq, Repr

/-- The parts of a date in a loose form. -/
def Parts.ofText (s : List Char) : Option Parts := do
  let day := s.takeWhile isDigit
  guard (day.length = 1 ∨ day.length = 2)
  let rest ← dropSeparator? (s.dropWhile isDigit)
  let month := rest.takeWhile isWord
  guard (month ≠ [])
  let rest ← dropSeparator? (rest.dropWhile isWord)
  let year := rest.takeWhile isDigit
  guard (year ≠ [])
  let (time, rest) := cutTime (rest.dropWhile isDigit)
  let (zone, rest) := cutZone (rest.dropWhile isSpace)
  guard (dropRemark (rest.dropWhile isSpace) = [])
  return { day, month, year, time, zone }

/-- The seconds that a zone is ahead of Greenwich, if that is known. -/
def zoneOffset? : Option (List Char) → Option Int
  | none => some 0
  | some zone =>
    let negative := zone.head? = some '-'
    let digits := zone.filter isDigit
    if ["GMT", "UTC", "UT", "Z"].contains (String.ofList (zone.map Char.toUpper)) then some 0
    else if digits.isEmpty then none
    else
      let hours := if digits.length = 3 then digits.take 1 else digits.take 2
      let offset : Int := (number hours * 3600 + number (digits.drop hours.length) * 60 : Nat)
      some (if negative then -offset else offset)

/-- The number of a month by its name, or as it is written. -/
def looseMonth? (month : List Char) : Option Nat :=
  match monthNumber? month with
  | some n => some n
  | none =>
    match Integer.read (String.ofList month) with
    | .ok n => if 1 ≤ n ∧ n ≤ 12 then some n.toNat else none
    | .error _ => none

/-- The year that a year below 1000 stands for: the one with its last digits in the century around
the year `current`. -/
def fullYear (current year : Int) : Int :=
  if 1000 ≤ year then year
  else
    let inCentury := current.fmod 100
    let full := year + current - inCentury
    let distance := inCentury - year
    if 50 < distance then full + 100
    else if distance < -50 then full - 100
    else full

/-- The second that parts of a date stand for. -/
def Parts.read (current : Int) (p : Parts) : Except Error (Option Int) := do
  let year ← (Integer.read (String.ofList p.year)).mapError fun _ => Error.digits
  if 9999 < year then return none
  match looseMonth? p.month with
  | none => return none
  | some month =>
    let (hour, minute, second) := p.time
    let day := { year := fullYear current year, month, day := number p.day }
    match ← Moment.seconds { day, hour, minute, second } with
    | none => return none
    | some time => return (zoneOffset? p.zone).map (time - ·)

/-- The second that a text names since 1970, if it is a date; years below 1000 are taken to be close
to `current`. -/
def read (current : Int) (s : List Char) : Except Error (Option Int) :=
  if isStrict s then readStrict s
  else
    match Parts.ofText (dropWeekday (s.dropWhile Text.isBlank)) with
    | none => .ok none
    | some parts => parts.read current

end ApiClient.CookieDate
