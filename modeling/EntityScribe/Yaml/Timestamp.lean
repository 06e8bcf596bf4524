import EntityScribe.Calendar
import EntityScribe.Yaml.Character
import EntityScribe.Yaml.Problem

/-!
# Timestamps

A date, or a date with a time of day and perhaps a zone. Without a time and without a tag, month and
day must have two digits.
-/

namespace EntityScribe.Yaml.Timestamp

/-- A time of day as it is written. -/
structure Time where
  hour : Nat
  minute : Nat
  second : Nat
  fraction : List Char
  /-- Minutes ahead of universal time. -/
  zone : Option Int

structure Written where
  year : Nat
  month : List Char
  day : List Char
  time : Option Time

def number (digits : List Char) : Nat :=
  (digitsValue? hexValue? 10 digits).getD 0

/-- From `least` to `most` digits, as many as there are, with what comes after them. -/
def digits? (least most : Nat) (cs : List Char) : Option (List Char × List Char) :=
  let run := (cs.take most).takeWhile Char.isDigit
  if run.length < least then none else some (run, cs.drop run.length)

def after? (mark : Char) (cs : List Char) : Option (List Char) :=
  match cs with
  | c :: rest => if c = mark then some rest else none
  | [] => none

/-- What stands between the date and the time. -/
def timeStart? (cs : List Char) : Option (List Char) :=
  match cs with
  | c :: rest =>
      if c = 'T' ∨ c = 't' then some rest
      else if isBlankOrTab c then some (rest.dropWhile isBlankOrTab)
      else none
  | [] => none

/-- The zone at the end of a timestamp: nothing, or universal time, or a distance from it. -/
def zone? (cs : List Char) : Option (Option Int) :=
  match cs with
  | [] => some none
  | _ =>
      match cs.dropWhile isBlankOrTab with
      | ['Z'] => some (some 0)
      | sign :: rest => do
          if sign ≠ '+' ∧ sign ≠ '-' then none
          let (hours, rest) ← digits? 1 2 rest
          let minutes ←
            if rest = [] then some []
            else do
              let rest ← after? ':' rest
              let (minutes, rest) ← digits? 2 2 rest
              if rest = [] then some minutes else none
          let distance : Int := 60 * number hours + number minutes
          some (some (if sign = '-' then -distance else distance))
      | [] => none

def time? (cs : List Char) : Option Time := do
  let cs ← timeStart? cs
  let (hour, cs) ← digits? 1 2 cs
  let cs ← after? ':' cs
  let (minute, cs) ← digits? 2 2 cs
  let cs ← after? ':' cs
  let (second, cs) ← digits? 2 2 cs
  let (fraction, cs) :=
    match cs with
    | '.' :: rest => (rest.takeWhile Char.isDigit, rest.dropWhile Char.isDigit)
    | other => ([], other)
  let zone ← zone? cs
  return ⟨number hour, number minute, number second, fraction, zone⟩

def parse? (cs : List Char) : Option Written := do
  let (year, cs) ← digits? 4 4 cs
  let cs ← after? '-' cs
  let (month, cs) ← digits? 1 2 cs
  let cs ← after? '-' cs
  let (day, cs) ← digits? 1 2 cs
  let year := number year
  if cs = [] then return ⟨year, month, day, none⟩
  let time ← time? cs
  return ⟨year, month, day, some time⟩

/-- Whether a text is a timestamp without a tag. -/
def isPlain (cs : List Char) : Bool :=
  match parse? cs with
  | some w => w.time.isSome || (w.month.length == 2 && w.day.length == 2)
  | none => false

/-- The first six digits of a fraction, as a number of millionths. -/
def microseconds (fraction : List Char) : Nat :=
  let digits := fraction.take 6
  number (digits ++ List.replicate (6 - digits.length) '0')

/-- A value that is a date or a moment. -/
inductive Value where
  | date (d : Calendar.Date)
  | moment (m : Calendar.Moment)

/-- A text without the line feed at its end, if there is one. -/
def withoutLineFeed (cs : List Char) : List Char :=
  match cs.reverse with
  | '\n' :: rest => rest.reverse
  | _ => cs

/-- The value of a timestamp, whose parts may be out of range. A line feed may end it. -/
def valueOf (cs : List Char) : Except ValueFault Value :=
  match parse? (withoutLineFeed cs) with
  | none => .error .notTimestamp
  | some w =>
      match w.time with
      | none =>
          ((Calendar.Date.make w.year (number w.month) (number w.day)).map .date).mapError .calendar
      | some t =>
          ((Calendar.Moment.make w.year (number w.month) (number w.day) t.hour t.minute t.second
            (microseconds t.fraction) t.zone).map .moment).mapError .calendar

end EntityScribe.Yaml.Timestamp
