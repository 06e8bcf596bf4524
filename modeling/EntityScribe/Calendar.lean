/-!
# Dates and moments

Days of the Gregorian calendar and moments of a day, with an optional distance from universal time.
A value is built only if all its parts are in range; the first part out of range is the fault.
-/

namespace EntityScribe.Calendar

structure Date where
  year : Nat
  month : Nat
  day : Nat
  deriving DecidableEq, Repr

structure Moment where
  date : Date
  hour : Nat
  minute : Nat
  second : Nat
  microsecond : Nat
  /-- Minutes ahead of universal time, if the moment says so. -/
  zone : Option Int
  deriving DecidableEq, Repr

/-- The part that is out of range. -/
inductive Fault where
  | year (given : Nat)
  | month
  | day
  | hour
  | minute
  | second
  /-- A distance from universal time of a day or more, in minutes. -/
  | zone (minutes : Int)
  deriving DecidableEq, Repr

def isLeap (year : Nat) : Bool :=
  year % 4 == 0 && (year % 100 != 0 || year % 400 == 0)

def daysIn (year month : Nat) : Nat :=
  if month == 2 then (if isLeap year then 29 else 28)
  else if [4, 6, 9, 11].contains month then 30
  else 31

def padded (width n : Nat) : String :=
  let digits := Nat.toDigits 10 n
  String.ofList (List.replicate (width - digits.length) '0' ++ digits)

/-- A span of minutes as whole days, the last of them cut off downwards, and seconds. -/
def spanParts (minutes : Int) : Int × Int :=
  (Int.fdiv minutes 1440, 60 * Int.fmod minutes 1440)

/-- A span with its days and seconds named, each left out if it is zero. -/
def spanText (minutes : Int) : String :=
  let (days, seconds) := spanParts minutes
  let parts := (if days ≠ 0 then ["days=" ++ toString days] else []) ++
    (if seconds ≠ 0 then ["seconds=" ++ toString seconds] else [])
  "datetime.timedelta(" ++ (if parts.isEmpty then "0" else ", ".intercalate parts) ++ ")"

namespace Fault

def message : Fault → String
  | .year given => "year " ++ toString given ++ " is out of range"
  | .month => "month must be in 1..12"
  | .day => "day is out of range for month"
  | .hour => "hour must be in 0..23"
  | .minute => "minute must be in 0..59"
  | .second => "second must be in 0..59"
  | .zone minutes =>
      "offset must be a timedelta strictly between -timedelta(hours=24) and " ++
        "timedelta(hours=24), not " ++ spanText minutes ++ "."

end Fault

namespace Date

/-- The day, if there is such a day; years run from 1 to 9999. -/
def make (year month day : Nat) : Except Fault Date :=
  if year < 1 ∨ year > 9999 then .error (.year year)
  else if month < 1 ∨ month > 12 then .error .month
  else if day < 1 ∨ day > daysIn year month then .error .day
  else .ok ⟨year, month, day⟩

/-- Days up to and including this one, counted from the first day of the year 1. -/
def ordinal (d : Date) : Nat :=
  let before := d.year - 1
  let months := (List.range (d.month - 1)).foldl (fun days m => days + daysIn d.year (m + 1)) 0
  365 * before + before / 4 - before / 100 + before / 400 + months + d.day

def text (d : Date) : String :=
  padded 4 d.year ++ "-" ++ padded 2 d.month ++ "-" ++ padded 2 d.day

def quoted (d : Date) : String :=
  "datetime.date(" ++ ", ".intercalate ([d.year, d.month, d.day].map toString) ++ ")"

end Date

namespace Moment

/-- The moment, if its zone, its day and its time of day are all in range. -/
def make (year month day hour minute second microsecond : Nat) (zone : Option Int) :
    Except Fault Moment := do
  if let some minutes := zone then
    if minutes ≤ -1440 ∨ minutes ≥ 1440 then throw (.zone minutes)
  let date ← Date.make year month day
  if hour > 23 then throw .hour
  if minute > 59 then throw .minute
  if second > 59 then throw .second
  return ⟨date, hour, minute, second, microsecond, zone⟩

/-- Microseconds of the calendar up to this moment, in universal time if the moment has a zone. -/
def instant (m : Moment) : Int :=
  let minutes := (1440 * m.date.ordinal + 60 * m.hour + m.minute : Nat) - m.zone.getD 0
  1000000 * (60 * minutes + m.second) + m.microsecond

/-- Two moments are the same if both have a zone or neither has, and they are one instant. -/
def same (m n : Moment) : Bool :=
  m.zone.isSome == n.zone.isSome && m.instant == n.instant

/-- The sign, hours and minutes of a zone. -/
def zoneText (minutes : Int) : String :=
  (if minutes < 0 then "-" else "+") ++ padded 2 (minutes.natAbs / 60) ++ ":" ++
    padded 2 (minutes.natAbs % 60)

/-- Day and time with a blank between them; a fraction of a second and a zone only if there are. -/
def text (m : Moment) : String :=
  m.date.text ++ " " ++ padded 2 m.hour ++ ":" ++ padded 2 m.minute ++ ":" ++ padded 2 m.second ++
    (if m.microsecond = 0 then "" else "." ++ padded 6 m.microsecond) ++
    (match m.zone with
      | none => ""
      | some minutes => zoneText minutes)

def quotedZone (minutes : Int) : String :=
  if minutes = 0 then "datetime.timezone.utc"
  else "datetime.timezone(" ++ spanText minutes ++ ")"

/-- All parts of a moment, without a last part that is zero: first the microseconds, then the
seconds. -/
def quoted (m : Moment) : String :=
  let fine := if m.microsecond = 0 then (if m.second = 0 then [] else [m.second])
    else [m.second, m.microsecond]
  let parts := [m.date.year, m.date.month, m.date.day, m.hour, m.minute] ++ fine
  "datetime.datetime(" ++ ", ".intercalate (parts.map toString) ++
    (match m.zone with
      | none => ""
      | some minutes => ", tzinfo=" ++ quotedZone minutes) ++ ")"

end Moment

end EntityScribe.Calendar
