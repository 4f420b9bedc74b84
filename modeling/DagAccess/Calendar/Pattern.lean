import DagAccess.Calendar

/-!
# Patterns of dates and times

A pattern is a text in which `%` and a letter stand for a part of a moment. A flag between them
changes the padding of a number, or writes a name in capitals. Letters without a meaning stand for
themselves.
-/

namespace DagAccess.Calendar

/-- The day of the week, from Monday = 0. -/
def Date.weekday (d : Date) : Nat :=
  (d.number % 7).toNat

/-- The day of the year, from 0. -/
def Date.yearDay (d : Date) : Nat :=
  (d.number - (Date.mk d.year 1 1).number).toNat

/-- The number of days of a year. -/
def yearLength (year : Nat) : Nat :=
  if isLeap year then 366 else 365

/-- The year and the number of a week that starts on Monday and belongs to the year of its
Thursday. -/
def Date.week (d : Date) : Nat × Nat :=
  let thursday : Int := (d.yearDay : Int) - d.weekday + 3
  if thursday < 0 then
    (d.year - 1, ((thursday + yearLength (d.year - 1)) / 7).toNat + 1)
  else if (yearLength d.year : Int) ≤ thursday then
    (d.year + 1, ((thursday - yearLength d.year) / 7).toNat + 1)
  else (d.year, (thursday / 7).toNat + 1)

/-- The names of the days of the week. -/
def dayNames : List String :=
  ["Monday", "Tuesday", "Wednesday", "Thursday", "Friday", "Saturday", "Sunday"]

/-- The names of the months. -/
def monthNames : List String :=
  ["January", "February", "March", "April", "May", "June", "July", "August", "September", "October",
   "November", "December"]

/-- A part of a moment: a number with its usual width and padding, or a text. -/
inductive Part
  | number (n width : Nat) (pad : Char)
  | text (s : String)

/-- The hour on a clock face. -/
def Moment.faceHour (m : Moment) : Nat :=
  if m.hour % 12 = 0 then 12 else m.hour % 12

/-- The half of the day. -/
def Moment.half (m : Moment) : String :=
  if m.hour < 12 then "AM" else "PM"

/-- The time of day with colons. -/
def Moment.clockText (m : Moment) : String :=
  padded 2 m.hour ++ ":" ++ padded 2 m.minute ++ ":" ++ padded 2 m.second

/-- The first three letters of a name. -/
def short (name : String) : String :=
  String.ofList (name.toList.take 3)

/-- The part that a letter stands for. -/
def Moment.part? (m : Moment) (letter : Char) : Option Part :=
  let d := m.date
  let day := dayNames.getD d.weekday ""
  let month := monthNames.getD (d.month - 1) ""
  let sunday := (d.weekday + 1) % 7
  let shortDate := padded 2 d.month ++ "/" ++ padded 2 d.day ++ "/" ++ padded 2 (d.year % 100)
  match letter with
  | 'a' => some (.text (short day))
  | 'A' => some (.text day)
  | 'b' => some (.text (short month))
  | 'h' => some (.text (short month))
  | 'B' => some (.text month)
  | 'c' => some (.text (short day ++ " " ++ short month ++ " "
      ++ (if d.day < 10 then " " else "") ++ toString d.day ++ " " ++ m.clockText ++ " "
      ++ toString d.year))
  | 'C' => some (.number (d.year / 100) 2 '0')
  | 'd' => some (.number d.day 2 '0')
  | 'D' => some (.text shortDate)
  | 'e' => some (.number d.day 2 ' ')
  | 'F' => some (.text (toString d.year ++ "-" ++ padded 2 d.month ++ "-" ++ padded 2 d.day))
  | 'g' => some (.number (d.week.1 % 100) 2 '0')
  | 'G' => some (.number d.week.1 1 '0')
  | 'H' => some (.number m.hour 2 '0')
  | 'I' => some (.number m.faceHour 2 '0')
  | 'j' => some (.number (d.yearDay + 1) 3 '0')
  | 'k' => some (.number m.hour 2 ' ')
  | 'l' => some (.number m.faceHour 2 ' ')
  | 'm' => some (.number d.month 2 '0')
  | 'M' => some (.number m.minute 2 '0')
  | 'n' => some (.text "\n")
  | 'p' => some (.text m.half)
  | 'P' => some (.text (String.ofList (m.half.toList.map Char.toLower)))
  | 'r' => some (.text (padded 2 m.faceHour ++ ":" ++ padded 2 m.minute ++ ":" ++ padded 2 m.second
      ++ " " ++ m.half))
  | 'R' => some (.text (padded 2 m.hour ++ ":" ++ padded 2 m.minute))
  | 's' => some (.text (toString ((m.instant - (Date.mk 1970 1 1).number * 86400000000) / 1000000)))
  | 'S' => some (.number m.second 2 '0')
  | 't' => some (.text "\t")
  | 'T' => some (.text m.clockText)
  | 'u' => some (.number (d.weekday + 1) 1 '0')
  | 'U' => some (.number ((d.yearDay + 7 - sunday) / 7) 2 '0')
  | 'V' => some (.number d.week.2 2 '0')
  | 'w' => some (.number sunday 1 '0')
  | 'W' => some (.number ((d.yearDay + 7 - d.weekday) / 7) 2 '0')
  | 'x' => some (.text shortDate)
  | 'X' => some (.text m.clockText)
  | 'y' => some (.number (d.year % 100) 2 '0')
  | 'Y' => some (.number d.year 1 '0')
  | 'z' => some (.text "+0000")
  | 'Z' => some (.text "UTC")
  | '%' => some (.text "%")
  | _ => none

/-- A part with a flag. -/
def Part.write (flag : Option Char) : Part → String
  | .text s => if flag = some '^' then String.ofList (s.toList.map Char.toUpper) else s
  | .number n width pad =>
    let s := toString n
    match flag with
    | some '-' => s
    | some '_' => "".pushn ' ' (width - s.length) ++ s
    | some '0' => "".pushn '0' (width - s.length) ++ s
    | _ => "".pushn pad (width - s.length) ++ s

/-- Writes the moment, in universal time, by a pattern. -/
def Moment.write (m : Moment) : List Char → List Char
  | [] => []
  | '%' :: flag :: letter :: rest =>
    if flag = '-' || flag = '_' || flag = '0' || flag = '^' || flag = '#' then
      match m.part? letter with
      | some part => (part.write (some flag)).toList ++ m.write rest
      | none => '%' :: flag :: letter :: m.write rest
    else
      match m.part? flag with
      | some part => (part.write none).toList ++ m.write (letter :: rest)
      | none => '%' :: flag :: m.write (letter :: rest)
  | '%' :: letter :: rest =>
    match m.part? letter with
    | some part => (part.write none).toList ++ m.write rest
    | none => '%' :: letter :: m.write rest
  | c :: rest => c :: m.write rest

end DagAccess.Calendar
