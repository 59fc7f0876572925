/-!
# Dates and times of day

Calendar dates of the years 1 to 9999 and moments with a microsecond and an optional offset
from universal time.  `Date.make?` and `Moment.make?` check the fields in order and name the
first one out of range; `Moment.instant` places moments with an offset on one time line.
-/

namespace LiveConfig

/-- A calendar date. -/
structure Date where
  year : Nat
  month : Nat
  day : Nat
  deriving DecidableEq, Inhabited

/-- A date with a time of day and, if known, the offset from universal time in seconds. -/
structure Moment where
  date : Date
  hour : Nat
  minute : Nat
  second : Nat
  microsecond : Nat
  offset : Option Int
  deriving DecidableEq, Inhabited

/-- A field out of its range. -/
inductive CalendarFault
  | year (n : Nat)
  | month
  | day
  | hour
  | minute
  | second
  | offset (seconds : Int)
  deriving DecidableEq

/-- A number written with at least `width` digits. -/
def padded (width n : Nat) : String :=
  let digits := Nat.toDigits 10 n
  String.ofList (List.replicate (width - digits.length) '0' ++ digits)

/-- A length of time as days and the seconds of the last, incomplete day. -/
def daysAndSeconds (seconds : Int) : Int × Int :=
  (seconds.fdiv 86400, seconds.fmod 86400)

/-- The written form of a length of time: its non-zero parts by name, or `0`. -/
def durationText (seconds : Int) : String :=
  let (days, rest) := daysAndSeconds seconds
  let parts :=
    (if days = 0 then [] else ["days=" ++ toString days]) ++
      (if rest = 0 then [] else ["seconds=" ++ toString rest])
  "datetime.timedelta(" ++ (if parts.isEmpty then "0" else ", ".intercalate parts) ++ ")"

def CalendarFault.message : CalendarFault → String
  | .year n => "year " ++ toString n ++ " is out of range"
  | .month => "month must be in 1..12"
  | .day => "day is out of range for month"
  | .hour => "hour must be in 0..23"
  | .minute => "minute must be in 0..59"
  | .second => "second must be in 0..59"
  | .offset seconds =>
    "offset must be a timedelta strictly between -timedelta(hours=24) and " ++
      "timedelta(hours=24), not " ++ durationText seconds ++ "."

namespace Date

/-- Every fourth year, but of the full centuries only every fourth. -/
def isLeap (year : Nat) : Bool :=
  year % 4 == 0 && (year % 100 != 0 || year % 400 == 0)

def daysInMonth (year month : Nat) : Nat :=
  if month = 2 then (if isLeap year then 29 else 28)
  else if month = 4 ∨ month = 6 ∨ month = 9 ∨ month = 11 then 30
  else 31

/-- The date with the given fields, if there is one. -/
def make? (year month day : Nat) : Except CalendarFault Date :=
  if year < 1 ∨ 9999 < year then .error (.year year)
  else if month < 1 ∨ 12 < month then .error .month
  else if day < 1 ∨ daysInMonth year month < day then .error .day
  else .ok ⟨year, month, day⟩

/-- Days before a year, counted from the first day of year 1. -/
def daysBeforeYear (year : Nat) : Nat :=
  let y := year - 1
  y * 365 + y / 4 - y / 100 + y / 400

/-- Days of a year before a month. -/
def daysBeforeMonth (year month : Nat) : Nat :=
  (List.range (month - 1)).foldl (fun days m => days + daysInMonth year (m + 1)) 0

/-- The number of days since the last day before year 1. -/
def ordinal (d : Date) : Nat :=
  daysBeforeYear d.year + daysBeforeMonth d.year d.month + d.day

/-- Year, month and day with hyphens. -/
def isoText (d : Date) : String :=
  padded 4 d.year ++ "-" ++ padded 2 d.month ++ "-" ++ padded 2 d.day

/-- The fields by position, as they are given to make the date. -/
def fieldText (d : Date) : String :=
  "datetime.date(" ++ ", ".intercalate ([d.year, d.month, d.day].map toString) ++ ")"

end Date

namespace Moment

/-- The moment with the given fields, if there is one; the date is checked first. -/
def make? (year month day hour minute second microsecond : Nat) (offset : Option Int) :
    Except CalendarFault Moment := do
  let date ← Date.make? year month day
  if 23 < hour then .error .hour
  else if 59 < minute then .error .minute
  else if 59 < second then .error .second
  else .ok ⟨date, hour, minute, second, microsecond, offset⟩

/-- Offsets are shorter than a day. -/
def checkOffset (seconds : Int) : Except CalendarFault Int :=
  if -86400 < seconds ∧ seconds < 86400 then .ok seconds else .error (.offset seconds)

/-- Microseconds of the clock since the last day before year 1. -/
def clock (m : Moment) : Int :=
  (((m.date.ordinal * 24 + m.hour) * 60 + m.minute) * 60 + m.second) * 1000000 + m.microsecond

/-- Microseconds in universal time, for a moment with an offset. -/
def instant? (m : Moment) : Option Int :=
  m.offset.map fun offset => m.clock - offset * 1000000

/-- An offset as sign, hours and minutes, and seconds if there are any. -/
def offsetText (seconds : Int) : String :=
  let n := seconds.natAbs
  let tail := if n % 60 = 0 then "" else ":" ++ padded 2 (n % 60)
  (if seconds < 0 then "-" else "+") ++ padded 2 (n / 3600) ++ ":" ++ padded 2 (n / 60 % 60) ++ tail

/-- Date and time joined by a separator, with microseconds and offset if there are any. -/
def isoText (separator : String) (m : Moment) : String :=
  m.date.isoText ++ separator ++ padded 2 m.hour ++ ":" ++ padded 2 m.minute ++ ":" ++
    padded 2 m.second ++
    (if m.microsecond = 0 then "" else "." ++ padded 6 m.microsecond) ++
    (match m.offset with | none => "" | some seconds => offsetText seconds)

/-- An offset, as it is given to make the moment. -/
def zoneText (seconds : Int) : String :=
  if seconds = 0 then "datetime.timezone.utc"
  else "datetime.timezone(" ++ durationText seconds ++ ")"

/-- The fields by position, as they are given to make the moment; seconds only if needed. -/
def fieldText (m : Moment) : String :=
  let time :=
    if m.microsecond ≠ 0 then [m.hour, m.minute, m.second, m.microsecond]
    else if m.second ≠ 0 then [m.hour, m.minute, m.second]
    else [m.hour, m.minute]
  let fields := ([m.date.year, m.date.month, m.date.day] ++ time).map toString
  let zone :=
    match m.offset with
    | none => []
    | some seconds => ["tzinfo=" ++ zoneText seconds]
  "datetime.datetime(" ++ ", ".intercalate (fields ++ zone) ++ ")"

end Moment

/-! ## Reading the written forms -/

/-- A number of exactly `width` digits at the head of some characters. -/
def takeDigits? (width : Nat) (cs : List Char) : Option (Nat × List Char) :=
  let digits := cs.take width
  if digits.length = width ∧ digits.all Char.isDigit then
    some (digits.foldl (fun n c => n * 10 + (c.toNat - 48)) 0, cs.drop width)
  else none

/-- The millionths that the digits of a fraction make, and the rest; later digits do not count. -/
def takeMillionths? (cs : List Char) : Option (Nat × List Char) := do
  let digits := cs.takeWhile Char.isDigit
  let (n, _) ← takeDigits? 6 (digits ++ List.replicate 5 '0')
  return (n, cs.drop digits.length)

/-- The rest after an expected character. -/
def takeChar? (c : Char) : List Char → Option (List Char)
  | [] => none
  | d :: cs => if d = c then some cs else none

namespace Date

def readChars? (cs : List Char) : Option (Date × List Char) := do
  let (year, cs) ← takeDigits? 4 cs
  let cs ← takeChar? '-' cs
  let (month, cs) ← takeDigits? 2 cs
  let cs ← takeChar? '-' cs
  let (day, cs) ← takeDigits? 2 cs
  match make? year month day with
  | .ok date => some (date, cs)
  | .error _ => none

/-- Reads what `isoText` writes. -/
def ofIsoText? (s : String) : Option Date := do
  let (date, rest) ← readChars? s.toList
  if rest.isEmpty then some date else none

end Date

namespace Moment

def readOffset? (cs : List Char) : Option (Option Int) :=
  match cs with
  | [] => some none
  | ['Z'] => some (some 0)
  | sign :: cs => do
    let (hours, cs) ← takeDigits? 2 cs
    let cs ← takeChar? ':' cs
    let (minutes, cs) ← takeDigits? 2 cs
    let seconds ←
      match cs with
      | [] => some 0
      | _ => do
        let cs ← takeChar? ':' cs
        let (n, _) ← takeDigits? 2 cs
        some n
    let total : Int := hours * 3600 + minutes * 60 + seconds
    if sign = '+' then some (some total)
    else if sign = '-' then some (some (-total))
    else none

/-- Reads what `isoText` writes, with any separator, and `Z` for no offset. -/
def ofIsoText? (s : String) : Option Moment := do
  let (date, cs) ← Date.readChars? s.toList
  let (hour, cs) ← takeDigits? 2 (cs.drop 1)
  let cs ← takeChar? ':' cs
  let (minute, cs) ← takeDigits? 2 cs
  let (second, cs) ←
    match takeChar? ':' cs with
    | some cs => takeDigits? 2 cs
    | none => some (0, cs)
  let (microsecond, cs) ←
    match takeChar? '.' cs with
    | some cs => takeMillionths? cs
    | none => some (0, cs)
  let offset ← readOffset? cs
  match make? date.year date.month date.day hour minute second microsecond offset with
  | .ok moment => some moment
  | .error _ => none

end Moment

end LiveConfig
