import TypeContracts.Text.Pieces

/-!
# Days and moments

Days of the calendar and moments of a day. Numbers that name none are refused with the
first of them that is out of its range. A moment may tell how many minutes its clock is
ahead of universal time; two such moments are one if they are the same instant.
-/

set_option autoImplicit false

namespace TypeContracts

/-- A day of the calendar. -/
structure Day where
  year : Nat
  month : Nat
  day : Nat
deriving DecidableEq, Repr, Inhabited

/-- A moment of a day. `ahead` is in minutes. -/
structure Moment where
  date : Day
  hour : Nat
  minute : Nat
  second : Nat
  microsecond : Nat
  ahead : Option Int
deriving DecidableEq, Repr, Inhabited

/-- The first number that keeps others from being a day or a moment. -/
inductive CalendarFault where
  | year (value : Nat)
  | month
  | day
  | hour
  | minute
  | second
  | ahead (minutes : Int)
deriving DecidableEq, Repr

namespace Calendar

/-- A number with zeros in front, up to a width. -/
def padded (width number : Nat) : String :=
  let digits := Nat.toDigits 10 number
  String.ofList (List.replicate (width - digits.length) '0' ++ digits)

/-- The minutes of a day. -/
def minutesPerDay : Int := 1440

/-- The spelling of a span of minutes: whole days, rounded down, and the seconds behind
them; a part that is zero is left out. -/
def spanLiteral (minutes : Int) : String :=
  let days := Int.fdiv minutes minutesPerDay
  let seconds := Int.fmod minutes minutesPerDay * 60
  let parts :=
    (if days = 0 then [] else ["days=" ++ toString days]) ++
      (if seconds = 0 then [] else ["seconds=" ++ toString seconds])
  "datetime.timedelta(" ++ (if parts.isEmpty then "0" else Text.join ", " parts) ++ ")"

/-- The year has a leap day. -/
def isLeap (year : Nat) : Bool := year % 4 = 0 && (year % 100 ≠ 0 || year % 400 = 0)

/-- How many days a month has. -/
def daysIn (year month : Nat) : Nat :=
  if month = 2 then if isLeap year then 29 else 28
  else if [4, 6, 9, 11].contains month then 30
  else 31

/-- The days before a day, counted from the first of the calendar. -/
def daysBefore (date : Day) : Nat :=
  let years := date.year - 1
  let months := List.range (date.month - 1)
  365 * years + years / 4 - years / 100 + years / 400 +
    months.foldl (fun total index => total + daysIn date.year (index + 1)) 0 + (date.day - 1)

end Calendar

/-- The report of numbers that are no day or no moment. -/
def CalendarFault.message : CalendarFault → String
  | .year value => "year " ++ toString value ++ " is out of range"
  | .month => "month must be in 1..12"
  | .day => "day is out of range for month"
  | .hour => "hour must be in 0..23"
  | .minute => "minute must be in 0..59"
  | .second => "second must be in 0..59"
  | .ahead minutes =>
    "offset must be a timedelta strictly between -timedelta(hours=24) and " ++
      "timedelta(hours=24), not " ++ Calendar.spanLiteral minutes ++ "."

namespace Day

/-- The day that numbers name. -/
def ofNumbers (year month day : Nat) : Except CalendarFault Day :=
  if year < 1 || 9999 < year then .error (.year year)
  else if month < 1 || 12 < month then .error .month
  else if day < 1 || Calendar.daysIn year month < day then .error .day
  else .ok ⟨year, month, day⟩

/-- The text of a day. -/
def text (date : Day) : String :=
  Calendar.padded 4 date.year ++ "-" ++ Calendar.padded 2 date.month ++ "-" ++
    Calendar.padded 2 date.day

/-- The numbers of a day as arguments. -/
def arguments (date : Day) : List String :=
  [toString date.year, toString date.month, toString date.day]

/-- The spelling of a day inside another value. -/
def literal (date : Day) : String := "datetime.date(" ++ Text.join ", " date.arguments ++ ")"

end Day

namespace Moment

/-- The moment that numbers name. A clock is less than a day ahead or behind. -/
def ofNumbers (year month day hour minute second microsecond : Nat) (ahead : Option Int) :
    Except CalendarFault Moment := do
  match ahead with
  | some minutes =>
    if Calendar.minutesPerDay ≤ minutes.natAbs then throw (.ahead minutes)
  | none => pure ()
  let date ← Day.ofNumbers year month day
  if 23 < hour then throw .hour
  if 59 < minute then throw .minute
  if 59 < second then throw .second
  return ⟨date, hour, minute, second, microsecond, ahead⟩

/-- The text of how far a clock is ahead. -/
def aheadText (minutes : Int) : String :=
  (if minutes < 0 then "-" else "+") ++ Calendar.padded 2 (minutes.natAbs / 60) ++ ":" ++
    Calendar.padded 2 (minutes.natAbs % 60)

/-- The text of a moment. -/
def text (moment : Moment) : String :=
  moment.date.text ++ " " ++ Calendar.padded 2 moment.hour ++ ":" ++
    Calendar.padded 2 moment.minute ++ ":" ++ Calendar.padded 2 moment.second ++
    (if moment.microsecond = 0 then "" else "." ++ Calendar.padded 6 moment.microsecond) ++
    (moment.ahead.map aheadText).getD ""

/-- The spelling of how far a clock is ahead. -/
def aheadLiteral (minutes : Int) : String :=
  if minutes = 0 then "datetime.timezone.utc"
  else "datetime.timezone(" ++ Calendar.spanLiteral minutes ++ ")"

/-- The spelling of a moment inside another value. Seconds are left out where nothing
counts behind the minutes. -/
def literal (moment : Moment) : String :=
  let seconds :=
    if moment.microsecond = 0 then
      if moment.second = 0 then [] else [toString moment.second]
    else [toString moment.second, toString moment.microsecond]
  let zone := match moment.ahead with
    | some minutes => ["tzinfo=" ++ aheadLiteral minutes]
    | none => []
  "datetime.datetime(" ++ Text.join ", " (moment.date.arguments ++
    [toString moment.hour, toString moment.minute] ++ seconds ++ zone) ++ ")"

/-- The microseconds since the start of the calendar, on the clock of universal time. -/
def instant (moment : Moment) : Int :=
  let minutes := (1440 * Calendar.daysBefore moment.date + 60 * moment.hour + moment.minute : Nat)
  ((minutes - moment.ahead.getD 0) * 60 + moment.second) * 1000000 + moment.microsecond

/-- Two moments are one: the same instant, both or none with a known clock. -/
def same (a b : Moment) : Bool := a.ahead.isSome == b.ahead.isSome && a.instant == b.instant

end Moment

end TypeContracts
