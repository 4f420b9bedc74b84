import DagAccess.Calendar
import DagAccess.Text.Blank

/-!
# Written timestamps

A timestamp is a date, or a date with a time of day, which may have a fraction of a second and a
distance from universal time.
-/

namespace DagAccess.Yaml

/-- A time of day as it is written. -/
structure TimeOfDay where
  hour : Nat
  minute : Nat
  second : Nat
  /-- The digits of the fraction. -/
  fraction : List Char
  /-- The distance from universal time in seconds. -/
  offset : Option Int

/-- A timestamp as it is written. -/
structure Timestamp where
  year : Nat
  month : Nat
  day : Nat
  /-- Month and day have two digits each. -/
  wide : Bool
  time : Option TimeOfDay

namespace Timestamp

/-- The value of decimal digits. -/
def number (ds : List Char) : Nat :=
  ds.foldl (fun n d => n * 10 + (d.toNat - 0x30)) 0

/-- Reads at least `least` and at most `most` digits. -/
def digits (least most : Nat) (cs : List Char) : Option (List Char × List Char) :=
  let ds := (cs.take most).takeWhile Char.isDigit
  if ds.length < least then none else some (ds, cs.drop ds.length)

/-- Reads one character. -/
def sign (c : Char) : List Char → Option (List Char)
  | d :: cs => if d = c then some cs else none
  | [] => none

/-- Reads the distance from universal time at the end of a timestamp. -/
def readZone (cs : List Char) : Option (Option Int) :=
  match cs.dropWhile fun c => c = ' ' || c = '\t' with
  | [] => if cs.isEmpty then some none else none
  | ['Z'] => some (some 0)
  | s :: cs => do
    if s ≠ '+' && s ≠ '-' then none
    let (hours, rest) ← digits 1 2 cs
    let minutes ← match rest with
      | [] => some []
      | rest => do
        let rest ← sign ':' rest
        let (minutes, rest) ← digits 2 2 rest
        if rest.isEmpty then some minutes else none
    let seconds : Int := (number hours * 60 + number minutes) * 60
    return some (if s = '-' then -seconds else seconds)

/-- Reads the time of day behind a date. -/
def readTime (cs : List Char) : Option TimeOfDay := do
  let cs ← match cs with
    | 'T' :: cs => some cs
    | 't' :: cs => some cs
    | cs =>
      match cs.dropWhile fun c => c = ' ' || c = '\t' with
      | rest => if rest.length < cs.length then some rest else none
  let (hour, cs) ← digits 1 2 cs
  let cs ← sign ':' cs
  let (minute, cs) ← digits 2 2 cs
  let cs ← sign ':' cs
  let (second, cs) ← digits 2 2 cs
  let (fraction, cs) := match cs with
    | '.' :: cs => cs.span Char.isDigit
    | cs => ([], cs)
  let offset ← readZone cs
  return ⟨number hour, number minute, number second, fraction, offset⟩

/-- Reads a whole text as a timestamp. -/
def read? (cs : List Char) : Option Timestamp := do
  let (year, cs) ← digits 4 4 cs
  let cs ← sign '-' cs
  let (month, cs) ← digits 1 2 cs
  let cs ← sign '-' cs
  let (day, cs) ← digits 1 2 cs
  let wide := month.length = 2 && day.length = 2
  let time ← match cs with
    | [] => some none
    | cs => (readTime cs).map some
  return ⟨number year, number month, number day, wide, time⟩

/-- The form that needs no tag: dates without a time have all their digits. -/
def isPlain (t : Timestamp) : Bool :=
  t.wide || t.time.isSome

/-- The microseconds that the digits of a fraction stand for; more than six digits are cut off. -/
def microseconds (fraction : List Char) : Nat :=
  let ds := fraction.take 6
  number (ds ++ List.replicate (6 - ds.length) '0')

/-- The date or the moment that a timestamp names. -/
def resolve (t : Timestamp) : Except Calendar.Refusal (Calendar.Date ⊕ Calendar.Moment) :=
  match t.time with
  | none => (Calendar.Date.make t.year t.month t.day).map .inl
  | some c =>
    (Calendar.Moment.make t.year t.month t.day c.hour c.minute c.second (microseconds c.fraction)
      c.offset).map .inr

end Timestamp

end DagAccess.Yaml
