/-!
# Dates and moments

Days of the years 1 to 9999 and moments of the day with microseconds and an optional distance from
universal time, in the two forms in which they are written: the plain form `2001-12-14 21:59:43` and
the form that names the fields.
-/

namespace DagAccess.Calendar

/-- Why numbers are not a date or a moment. -/
inductive Refusal
  | year (n : Nat)
  | month
  | day
  | hour
  | minute
  | second
  /-- The distance from universal time, in seconds, is a day or more. -/
  | offset (seconds : Int)
  deriving DecidableEq, Repr

/-- A day. -/
structure Date where
  year : Nat
  month : Nat
  day : Nat
  deriving DecidableEq, Repr

/-- A moment of a day; the offset is the distance from universal time in seconds. -/
structure Moment where
  date : Date
  hour : Nat
  minute : Nat
  second : Nat
  microsecond : Nat
  offset : Option Int
  deriving DecidableEq, Repr

/-- A year with a 29th of February. -/
def isLeap (year : Nat) : Bool :=
  year % 4 = 0 && (year % 100 ≠ 0 || year % 400 = 0)

/-- The number of days of a month. -/
def daysInMonth (year month : Nat) : Nat :=
  if month = 2 then (if isLeap year then 29 else 28)
  else if [4, 6, 9, 11].contains month then 30
  else 31

/-- The date with these numbers. -/
def Date.make (year month day : Nat) : Except Refusal Date :=
  if year < 1 || 9999 < year then .error (.year year)
  else if month < 1 || 12 < month then .error .month
  else if day < 1 || daysInMonth year month < day then .error .day
  else .ok ⟨year, month, day⟩

/-- A distance from universal time of less than a day. -/
def checkOffset (seconds : Int) : Except Refusal Unit :=
  if -86400 < seconds && seconds < 86400 then .ok () else .error (.offset seconds)

/-- The moment with these numbers. -/
def Moment.make (year month day hour minute second microsecond : Nat) (offset : Option Int) :
    Except Refusal Moment := do
  offset.forM checkOffset
  let date ← Date.make year month day
  if 23 < hour then throw .hour
  if 59 < minute then throw .minute
  if 59 < second then throw .second
  return ⟨date, hour, minute, second, microsecond, offset⟩

/-- The number of days before a date, counted from the first day of year 1. -/
def Date.number (d : Date) : Int :=
  let y := d.year - 1
  let months := (List.range (d.month - 1)).map fun m => daysInMonth d.year (m + 1)
  (y * 365 + y / 4 - y / 100 + y / 400 + months.foldl (· + ·) 0 + d.day - 1 : Nat)

/-- Microseconds in universal time, or in local time if no offset is known. -/
def Moment.instant (m : Moment) : Int :=
  let seconds := m.date.number * 86400 + (m.hour * 3600 + m.minute * 60 + m.second : Nat)
  (seconds - m.offset.getD 0) * 1000000 + m.microsecond

/-- The same instant, both with a known offset or both without one. -/
def Moment.same (m n : Moment) : Bool :=
  m.offset.isSome == n.offset.isSome && m.instant == n.instant

/-! ## Writing -/

/-- A number with zeros before it. -/
def padded (width n : Nat) : String :=
  let s := toString n
  "".pushn '0' (width - s.length) ++ s

/-- The plain form of a date. -/
def Date.text (d : Date) : String :=
  padded 4 d.year ++ "-" ++ padded 2 d.month ++ "-" ++ padded 2 d.day

/-- Sign, hours and minutes of an offset. -/
def offsetText (seconds : Int) : String :=
  let n := seconds.natAbs
  (if seconds < 0 then "-" else "+") ++ padded 2 (n / 3600) ++ ":" ++ padded 2 (n / 60 % 60)

/-- The plain form of a moment. -/
def Moment.text (m : Moment) : String :=
  m.date.text ++ " " ++ padded 2 m.hour ++ ":" ++ padded 2 m.minute ++ ":" ++ padded 2 m.second
    ++ (if m.microsecond = 0 then "" else "." ++ padded 6 m.microsecond)
    ++ (m.offset.map offsetText).getD ""

/-- Numbers between parentheses. -/
def fields (ns : List Nat) : String :=
  ", ".intercalate (ns.map toString)

/-- The form of a date that names its fields. -/
def Date.fieldText (d : Date) : String :=
  "datetime.date(" ++ fields [d.year, d.month, d.day] ++ ")"

/-- A span of time as whole days, possibly negative, and seconds of a day. -/
def spanText (seconds : Int) : String :=
  let days := seconds / 86400
  let rest := seconds % 86400
  let parts := (if days = 0 then [] else ["days=" ++ toString days])
    ++ (if rest = 0 then [] else ["seconds=" ++ toString rest])
  "datetime.timedelta(" ++ (if parts.isEmpty then "0" else ", ".intercalate parts) ++ ")"

/-- The form of an offset that names its fields. -/
def zoneText (seconds : Int) : String :=
  if seconds = 0 then "datetime.timezone.utc" else "datetime.timezone(" ++ spanText seconds ++ ")"

/-- The form of a moment that names its fields; zeros at the end are left out. -/
def Moment.fieldText (m : Moment) : String :=
  let time :=
    if m.microsecond ≠ 0 then [m.second, m.microsecond]
    else if m.second ≠ 0 then [m.second]
    else []
  "datetime.datetime("
    ++ fields ([m.date.year, m.date.month, m.date.day, m.hour, m.minute] ++ time)
    ++ (m.offset.map fun o => ", tzinfo=" ++ zoneText o).getD "" ++ ")"

/-- What is wrong, in words. -/
def Refusal.message : Refusal → String
  | .year n => "year " ++ toString n ++ " is out of range"
  | .month => "month must be in 1..12"
  | .day => "day is out of range for month"
  | .hour => "hour must be in 0..23"
  | .minute => "minute must be in 0..59"
  | .second => "second must be in 0..59"
  | .offset seconds =>
    "offset must be a timedelta strictly between -timedelta(hours=24) and timedelta(hours=24), not "
      ++ spanText seconds ++ "."

end DagAccess.Calendar
