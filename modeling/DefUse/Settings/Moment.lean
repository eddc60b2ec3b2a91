/-!
# Settings/Moment — dates and times

A settings file may hold a date, a time of day, or both, with or without an offset from universal
time.  No setting is one; they are kept to be named in complaints.
-/

namespace DefUse

/-- A day. -/
structure Date where
  year : Nat
  month : Nat
  day : Nat
  deriving DecidableEq, Repr

/-- A time of day, to the microsecond. -/
structure Time where
  hour : Nat
  minute : Nat
  second : Nat
  micro : Nat
  deriving DecidableEq, Repr

/-- **A date, a time of day, or both**, then perhaps with an offset in minutes. -/
inductive Moment where
  | date (d : Date)
  | time (t : Time)
  | dateTime (d : Date) (t : Time) (offset : Option Int)
  deriving DecidableEq, Repr

/-- The number of days of a month. -/
def daysOf (year month : Nat) : Nat :=
  if month = 2 then
    if year % 4 = 0 ∧ (year % 100 ≠ 0 ∨ year % 400 = 0) then 29 else 28
  else if month = 4 ∨ month = 6 ∨ month = 9 ∨ month = 11 then 30 else 31

/-- Whether a day is in the calendar. -/
def Date.isValid (d : Date) : Bool :=
  1 ≤ d.year && 1 ≤ d.month && d.month ≤ 12 && 1 ≤ d.day && d.day ≤ daysOf d.year d.month

/-- The parts of a day. -/
def Date.parts (d : Date) : List Nat := [d.year, d.month, d.day]

/-- The parts of a time: seconds and microseconds only where they are not zero. -/
def Time.parts (t : Time) : List Nat :=
  [t.hour, t.minute] ++
    if t.micro ≠ 0 then [t.second, t.micro] else if t.second ≠ 0 then [t.second] else []

/-- Numbers with commas between them. -/
def commaSeparated (ns : List Nat) : String := ", ".intercalate (ns.map toString)

/-- The text of an offset: whole days below zero apart from the seconds. -/
def offsetText (minutes : Int) : String :=
  if minutes = 0 then "datetime.timezone.utc"
  else
    let seconds := minutes * 60
    let span :=
      if seconds < 0 then s!"days=-1, seconds={seconds + 86400}" else s!"seconds={seconds}"
    s!"datetime.timezone(datetime.timedelta({span}))"

namespace Moment

/-- The word for the kind of a moment. -/
def typeName : Moment → String
  | date _ => "date"
  | time _ => "time"
  | dateTime _ _ _ => "datetime"

/-- The literal form of a moment. -/
def display : Moment → String
  | date d => s!"datetime.date({commaSeparated d.parts})"
  | time t => s!"datetime.time({commaSeparated t.parts})"
  | dateTime d t offset =>
    let zone := match offset with
      | some minutes => ", tzinfo=" ++ offsetText minutes
      | none => ""
    s!"datetime.datetime({commaSeparated (d.parts ++ t.parts)}{zone})"

end Moment

end DefUse
