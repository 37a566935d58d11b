/-!
# Timestamps

A timestamp is a calendar date, or a date with a time of day: hours, minutes, seconds and
microseconds, and an offset east of UTC when the time is not local.

* `Timestamp.check` names the first part out of range: the offset first, then the year
  (`1..9999`), the month, the day within its month, the hour, the minute and the second;
* `Timestamp.repr` is the source text of a timestamp, `datetime.date(2024, 1, 31)` or
  `datetime.datetime(2024, 1, 31, 8, 30, tzinfo=datetime.timezone.utc)`, where trailing zero
  seconds and microseconds are left out;
* `Timestamp.isoText` is its display text, `2024-01-31` or `2024-01-31 08:30:00+00:00`;
* `Timestamp.same` is equality by value: dates by their parts, local times by their parts,
  times with an offset by the instant they name; a date is never a date-time, and a local time
  never equals a time with an offset.
-/

namespace LowPowerPayload

/-- A time of day, with its offset east of UTC in minutes when it has one. -/
structure TimeOfDay where
  hour : Nat
  minute : Nat
  second : Nat
  micro : Nat
  offset : Option Int
  deriving Repr, DecidableEq

/-- A calendar date, with a time of day when it is a date-time. -/
structure Timestamp where
  year : Nat
  month : Nat
  day : Nat
  time : Option TimeOfDay
  deriving Repr, DecidableEq

namespace Timestamp

/-- Whether a year of the Gregorian calendar is a leap year. -/
def isLeap (year : Nat) : Bool := year % 4 == 0 && (year % 100 != 0 || year % 400 == 0)

/-- The number of days of a month, `1..12`, in a year. -/
def daysIn (year month : Nat) : Nat :=
  match month with
  | 2 => if isLeap year then 29 else 28
  | 4 | 6 | 9 | 11 => 30
  | _ => 31

/-- The number of days from the first day of year 1 to a date. -/
def dayNumber (year month day : Nat) : Nat :=
  let y := year - 1
  365 * y + y / 4 - y / 100 + y / 400 +
    (List.range (month - 1)).foldr (fun m days => daysIn year (m + 1) + days) 0 + (day - 1)

/-- A number written in decimal with zeros in front to a width. -/
def padded (n width : Nat) : String :=
  let s := toString n
  String.ofList (List.replicate (width - s.length) '0') ++ s

/-- The source text of a span of seconds as whole days (rounded down) and the seconds left. -/
def spanRepr (seconds : Int) : String :=
  let days := seconds / 86400
  let rest := seconds % 86400
  let parts := (if days != 0 then ["days=" ++ toString days] else []) ++
    (if rest != 0 then ["seconds=" ++ toString rest] else [])
  "datetime.timedelta(" ++ (if parts.isEmpty then "0" else ", ".intercalate parts) ++ ")"

/-- The source text of a fixed offset of some minutes east of UTC. -/
def zoneRepr (minutes : Int) : String :=
  if minutes == 0 then "datetime.timezone.utc"
  else "datetime.timezone(" ++ spanRepr (60 * minutes) ++ ")"

/-- The display text of an offset: its sign, hours and minutes. -/
def zoneText (minutes : Int) : String :=
  (if minutes < 0 then "-" else "+") ++ padded (minutes.natAbs / 60) 2 ++ ":" ++
    padded (minutes.natAbs % 60) 2

/-- The first part of a timestamp out of range, as its message. -/
def check (t : Timestamp) : Option String :=
  let offset := t.time.bind TimeOfDay.offset
  match offset with
  | some m =>
    if 24 * 60 ≤ m.natAbs then
      some ("offset must be a timedelta strictly between -timedelta(hours=24) and " ++
        "timedelta(hours=24), not " ++ spanRepr (60 * m) ++ ".")
    else checkDate t
  | none => checkDate t
where
  /-- The first part out of range of the date, then of the time of day. -/
  checkDate (t : Timestamp) : Option String :=
    if t.year < 1 ∨ 9999 < t.year then some ("year " ++ toString t.year ++ " is out of range")
    else if t.month < 1 ∨ 12 < t.month then some "month must be in 1..12"
    else if t.day < 1 ∨ daysIn t.year t.month < t.day then some "day is out of range for month"
    else match t.time with
      | none => none
      | some c =>
        if 23 < c.hour then some "hour must be in 0..23"
        else if 59 < c.minute then some "minute must be in 0..59"
        else if 59 < c.second then some "second must be in 0..59"
        else if 999999 < c.micro then some "microsecond must be in 0..999999"
        else none

/-- The source text of a timestamp. -/
def repr (t : Timestamp) : String :=
  let date := [t.year, t.month, t.day].map toString
  match t.time with
  | none => "datetime.date(" ++ ", ".intercalate date ++ ")"
  | some c =>
    let clock :=
      if c.micro != 0 then [c.hour, c.minute, c.second, c.micro]
      else if c.second != 0 then [c.hour, c.minute, c.second]
      else [c.hour, c.minute]
    let zone := match c.offset with
      | some m => ["tzinfo=" ++ zoneRepr m]
      | none => []
    "datetime.datetime(" ++ ", ".intercalate (date ++ clock.map toString ++ zone) ++ ")"

/-- The display text of a timestamp. -/
def isoText (t : Timestamp) : String :=
  let date := padded t.year 4 ++ "-" ++ padded t.month 2 ++ "-" ++ padded t.day 2
  match t.time with
  | none => date
  | some c =>
    date ++ " " ++ padded c.hour 2 ++ ":" ++ padded c.minute 2 ++ ":" ++ padded c.second 2 ++
      (if c.micro != 0 then "." ++ padded c.micro 6 else "") ++
      (match c.offset with
        | some m => zoneText m
        | none => "")

/-- The microseconds from the start of year 1 to a date-time, read in its own offset. -/
def instant (t : Timestamp) (c : TimeOfDay) : Int :=
  let minutes : Int := (dayNumber t.year t.month t.day * 24 + c.hour) * 60 + c.minute
  ((minutes - c.offset.getD 0) * 60 + c.second) * 1000000 + c.micro

/-- Equality of timestamps by value. -/
def same (a b : Timestamp) : Bool :=
  match a.time, b.time with
  | none, none => a.year == b.year && a.month == b.month && a.day == b.day
  | some c, some d =>
    match c.offset, d.offset with
    | none, none => a == b
    | some _, some _ => a.instant c == b.instant d
    | _, _ => false
  | _, _ => false

end Timestamp

end LowPowerPayload
