/-!
# CoverageDiff.Toml.Moment

Dates and times of day.

1. A date is one of the calendar in which every fourth year has a leap day,
   except those of full centuries that four hundred does not divide; years
   count from one.
2. A time of day has hours, minutes, seconds and millionths of seconds.
3. A date with a time of day can give its offset from universal time in
   minutes.
-/

namespace CoverageDiff.Toml

/-- A date. -/
structure Date where
  year : Nat
  /-- The month, from one. -/
  month : Nat
  /-- The day of the month, from one. -/
  day : Nat
  deriving DecidableEq

namespace Date

/-- Whether a year has a leap day. -/
def isLeap (year : Nat) : Bool :=
  year % 4 = 0 && (year % 100 ≠ 0 || year % 400 = 0)

/-- How many days a month has. -/
def daysIn (year month : Nat) : Nat :=
  if month = 2 then (if isLeap year then 29 else 28)
  else if month ∈ [4, 6, 9, 11] then 30
  else 31

/-- Whether the calendar has a date. -/
def isValid (d : Date) : Bool :=
  1 ≤ d.year && 1 ≤ d.month && d.month ≤ 12 && 1 ≤ d.day && d.day ≤ daysIn d.year d.month

end Date

/-- A time of day. -/
structure Clock where
  /-- Hours from midnight. -/
  hour : Nat
  minute : Nat
  second : Nat
  /-- Millionths of a second. -/
  micro : Nat := 0
  deriving DecidableEq

/-- A date, a time of day, or both. -/
inductive Moment where
  /-- A date alone. -/
  | date (d : Date)
  /-- A time of day alone. -/
  | clock (c : Clock)
  /-- Both, and how many minutes they are ahead of universal time. -/
  | full (d : Date) (c : Clock) (offset : Option Int)
  deriving DecidableEq

namespace Moment

/-! ## Showing -/

/-- Parts of a call, as messages show it. -/
def call (name : String) (parts : List String) : String :=
  name ++ "(" ++ String.intercalate ", " parts ++ ")"

/-- The parts of a date. -/
def dateParts (d : Date) : List String :=
  [d.year, d.month, d.day].map toString

/-- The parts of a time of day; seconds are left out if all that follows is zero. -/
def clockParts (c : Clock) : List String :=
  let seconds := if c.second = 0 && c.micro = 0 then [] else [c.second]
  let micros := if c.micro = 0 then [] else [c.micro]
  ([c.hour, c.minute] ++ seconds ++ micros).map toString

/-- A span of minutes, as days and the seconds beyond them. -/
def spanText (minutes : Int) : String :=
  let days := Int.fdiv minutes 1440
  let seconds := 60 * Int.fmod minutes 1440
  call "datetime.timedelta"
    ((if days = 0 then [] else ["days=" ++ toString days])
      ++ (if seconds = 0 then [] else ["seconds=" ++ toString seconds]))

/-- An offset from universal time. -/
def offsetText (minutes : Int) : String :=
  if minutes = 0 then "datetime.timezone.utc" else call "datetime.timezone" [spanText minutes]

/-- A moment as messages show it. -/
def text : Moment → String
  | date d => call "datetime.date" (dateParts d)
  | clock c => call "datetime.time" (clockParts c)
  | full d c offset =>
    call "datetime.datetime"
      (dateParts d ++ clockParts c ++ (offset.map fun o => "tzinfo=" ++ offsetText o).toList)

end Moment

end CoverageDiff.Toml
