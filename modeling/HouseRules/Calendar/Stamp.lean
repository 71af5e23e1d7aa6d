/-! # Dates and times

A date of the Gregorian calendar, and a date with a time of day and possibly a distance from
universal time. Both come with the two ways in which they are written: for reading, and as the call
that makes them. -/

namespace HouseRules.Calendar

/-- A date. -/
structure Date where
  /-- The year. -/
  year : Nat
  /-- The month, from 1. -/
  month : Nat
  /-- The day of the month, from 1. -/
  day : Nat
  deriving DecidableEq, Repr

/-- A time of day. -/
structure Time where
  /-- The hour. -/
  hour : Nat
  /-- The minute. -/
  minute : Nat
  /-- The second. -/
  second : Nat
  /-- The millionths of a second. -/
  micro : Nat := 0
  /-- The minutes ahead of universal time, if known. -/
  zone : Option Int := none
  deriving DecidableEq, Repr

/-- The year has a day more than others. -/
def isLeap (y : Nat) : Bool := y % 4 = 0 && (y % 100 ≠ 0 || y % 400 = 0)

/-- The number of days of a month. -/
def daysOf (y m : Nat) : Nat :=
  if m = 2 then (if isLeap y then 29 else 28)
  else if m = 4 || m = 6 || m = 9 || m = 11 then 30
  else 31

/-- What is out of range in a date, in words. -/
def Date.fault? (d : Date) : Option String :=
  if d.year = 0 then some "year 0 is out of range"
  else if d.month = 0 || 12 < d.month then some "month must be in 1..12"
  else if d.day = 0 || daysOf d.year d.month < d.day then some "day is out of range for month"
  else none

/-- What is out of range in a time of day, in words. -/
def Time.fault? (t : Time) : Option String :=
  if 23 < t.hour then some "hour must be in 0..23"
  else if 59 < t.minute then some "minute must be in 0..59"
  else if 59 < t.second then some "second must be in 0..59"
  else none

/-- The call that makes a span of minutes: whole days, rounded down, and seconds. -/
def spanCall (minutes : Int) : String :=
  let days := Int.fdiv minutes 1440
  let seconds := (minutes - 1440 * days) * 60
  let parts := (if days = 0 then [] else [s!"days={days}"]) ++
    (if seconds = 0 then [] else [s!"seconds={seconds}"])
  "datetime.timedelta(" ++ (if parts.isEmpty then "0" else ", ".intercalate parts) ++ ")"

/-- What is wrong with a distance from universal time of a day or more, in words. -/
def zoneFault? (minutes : Int) : Option String :=
  if minutes.natAbs < 1440 then none
  else some <|
    "offset must be a timedelta strictly between -timedelta(hours=24) and timedelta(hours=24), not " ++
      spanCall minutes ++ "."

/-- A number with zeros in front. -/
def padded (width n : Nat) : String :=
  let ds := toString n
  String.ofList (List.replicate (width - ds.length) '0') ++ ds

/-- A date for reading. -/
def Date.text (d : Date) : String :=
  padded 4 d.year ++ "-" ++ padded 2 d.month ++ "-" ++ padded 2 d.day

/-- A distance from universal time for reading. -/
def zoneText (minutes : Int) : String :=
  let n := minutes.natAbs
  (if minutes < 0 then "-" else "+") ++ padded 2 (n / 60) ++ ":" ++ padded 2 (n % 60)

/-- A time of day for reading. -/
def Time.text (t : Time) : String :=
  padded 2 t.hour ++ ":" ++ padded 2 t.minute ++ ":" ++ padded 2 t.second ++
    (if t.micro = 0 then "" else "." ++ padded 6 t.micro) ++ (t.zone.map zoneText).getD ""

/-- The call that makes a date. -/
def Date.call (d : Date) : String := s!"datetime.date({d.year}, {d.month}, {d.day})"

/-- The call that makes a distance from universal time. -/
def zoneCall (minutes : Int) : String :=
  if minutes = 0 then "datetime.timezone.utc" else "datetime.timezone(" ++ spanCall minutes ++ ")"

/-- The call that makes a date with a time of day. -/
def stampCall (d : Date) (t : Time) : String :=
  let seconds := if t.micro = 0 then (if t.second = 0 then [] else [t.second]) else [t.second, t.micro]
  let parts := [d.year, d.month, d.day, t.hour, t.minute] ++ seconds
  "datetime.datetime(" ++ ", ".intercalate (parts.map toString) ++
    (t.zone.map fun z => ", tzinfo=" ++ zoneCall z).getD "" ++ ")"

end HouseRules.Calendar
