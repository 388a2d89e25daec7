/-!
# Dates of requests

The date of a request in the form that header fields have it: weekday, day, month, year and time of
day in Greenwich, from the seconds since 1970.
-/

namespace ApiClient.HttpDate

/-- Why seconds have no date. -/
inductive Error
  /-- The year has not one to four digits, or is not positive. -/
  | year (n : Int)
  /-- The year does not fit the 32 bits that a calendar year has. -/
  | calendar
  /-- The seconds do not fit 64 bits. -/
  | clock
  deriving DecidableEq, Repr

/-- The wording of a failure. -/
def Error.message : Error → String
  | year n => s!"year {n} is out of range"
  | calendar => "[Errno 75] Value too large for defined data type"
  | clock => "timestamp out of range for platform time_t"

/-- A day of the Gregorian calendar. -/
structure Day where
  /-- The year. -/
  year : Int
  /-- The month, from one. -/
  month : Nat
  /-- The day of the month, from one. -/
  day : Nat
  deriving DecidableEq, Repr

/-- The day that is `n` days after 1 January 1970. Years are counted from March, so that the leap
day comes last, in spans of 400 years with 146097 days. -/
def Day.ofNumber (n : Int) : Day :=
  let shifted := n + 719468
  let span := shifted.fdiv 146097
  let inSpan := (shifted.fmod 146097).toNat
  let yearOfSpan := (inSpan - inSpan / 1460 + inSpan / 36524 - inSpan / 146096) / 365
  let dayOfYear := inSpan - (365 * yearOfSpan + yearOfSpan / 4 - yearOfSpan / 100)
  let shiftedMonth := (5 * dayOfYear + 2) / 153
  let month := if shiftedMonth < 10 then shiftedMonth + 3 else shiftedMonth - 9
  { year := yearOfSpan + span * 400 + (if month ≤ 2 then 1 else 0)
    month
    day := dayOfYear - (153 * shiftedMonth + 2) / 5 + 1 }

/-- How many days after 1 January 1970 a day is. -/
def Day.number (d : Day) : Int :=
  let shiftedMonth := (d.month + 9) % 12
  let shifted := d.year - (if d.month ≤ 2 then 1 else 0)
  let yearOfSpan := shifted.fmod 400
  shifted.fdiv 400 * 146097 + (yearOfSpan * 365 + yearOfSpan / 4 - yearOfSpan / 100)
    + ((153 * shiftedMonth + 2) / 5 : Nat) + d.day - 1 - 719468

/-- `n` in at least `width` decimal digits. -/
def padded (width n : Nat) : String :=
  let digits := Nat.toDigits 10 n
  String.ofList (List.replicate (width - digits.length) '0' ++ digits)

/-- The names of the days of the week, from the one of 1 January 1970. -/
def weekdays : List String := ["Thu", "Fri", "Sat", "Sun", "Mon", "Tue", "Wed"]

/-- The names of the months. -/
def months : List String :=
  ["Jan", "Feb", "Mar", "Apr", "May", "Jun", "Jul", "Aug", "Sep", "Oct", "Nov", "Dec"]

/-- The seconds of a day. -/
def secondsPerDay : Nat := 86400

/-- The date of the second `now` after the beginning of 1970. -/
def ofSeconds (now : Int) : Except Error String :=
  let days := now.fdiv secondsPerDay
  let time := (now.fmod secondsPerDay).toNat
  let date := Day.ofNumber days
  if now < -Nat.pow 2 63 ∨ Nat.pow 2 63 ≤ now then .error .clock
  else if date.year - 1900 < -Nat.pow 2 31 ∨ Nat.pow 2 31 ≤ date.year - 1900 then .error .calendar
  else if date.year < 1 ∨ 9999 < date.year then .error (.year (date.year.bmod (Nat.pow 2 32)))
  else
    .ok (weekdays.getD (days.fmod 7).toNat "" ++ ", " ++ padded 2 date.day ++ " "
      ++ months.getD (date.month - 1) "" ++ " " ++ padded 4 date.year.toNat ++ " "
      ++ padded 2 (time / 3600) ++ ":" ++ padded 2 (time / 60 % 60) ++ ":" ++ padded 2 (time % 60)
      ++ " GMT")

end ApiClient.HttpDate
