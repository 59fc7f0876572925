import LiveConfig.Calendar
import LiveConfig.Number.Read
import LiveConfig.Text.Blank
import LiveConfig.Yaml.Spot

/-!
# Dates and moments in documents

A date is written with hyphens.  A moment adds, after a `T` or blanks, the time of day, which may
end in a fraction of a second and an offset from universal time; without an offset it is a clock
reading.  Months, days and hours may have one digit, but a date alone is recognised without a tag
only if it has all of its digits.
-/

namespace LiveConfig.Yaml

/-- The time of day of a stamp. -/
structure StampTime where
  hour : Nat
  minute : Nat
  second : Nat
  fraction : List Char
  /-- The offset from universal time in seconds. -/
  offset : Option Int

/-- The fields of a date or a moment as written. -/
structure Stamp where
  year : Nat
  month : Nat
  day : Nat
  time : Option StampTime
  /-- Whether month and day have two digits. -/
  full : Bool

namespace Stamp

/-- One or two digits, and whether there are two. -/
def takeShort? : List Char → Option (Nat × Bool × List Char)
  | c :: d :: rest =>
    if c.isDigit then
      if d.isDigit then some (decimalNumber [c, d], true, rest)
      else some (decimalNumber [c], false, d :: rest)
    else none
  | [c] => if c.isDigit then some (decimalNumber [c], false, []) else none
  | [] => none

/-- The offset at the end of a stamp, which blanks may precede; nothing at all is no offset. -/
def readOffset? (cs : List Char) : Option (Option Int) :=
  match cs.dropWhile isBlank with
  | [] => if cs.isEmpty then some none else none
  | ['Z'] => some (some 0)
  | sign :: rest => do
    if sign ≠ '+' ∧ sign ≠ '-' then none
    let (hours, _, rest) ← takeShort? rest
    let minutes ←
      match rest with
      | [] => some 0
      | _ => do
        let (minutes, rest) ← takeDigits? 2 (← takeChar? ':' rest)
        if rest.isEmpty then some minutes else none
    let seconds : Int := hours * 3600 + minutes * 60
    some (some (if sign = '-' then -seconds else seconds))

/-- The time of day, from the hour on. -/
def readTime? (cs : List Char) : Option StampTime := do
  let (hour, _, cs) ← takeShort? cs
  let (minute, cs) ← takeDigits? 2 (← takeChar? ':' cs)
  let (second, cs) ← takeDigits? 2 (← takeChar? ':' cs)
  let (fraction, cs) :=
    match cs with
    | '.' :: rest => (rest.takeWhile Char.isDigit, rest.dropWhile Char.isDigit)
    | cs => ([], cs)
  let offset ← readOffset? cs
  some ⟨hour, minute, second, fraction, offset⟩

/-- What follows the date: nothing, or a time after a `T` or blanks. -/
def readRest? : List Char → Option (Option StampTime)
  | [] => some none
  | c :: cs =>
    if c = 'T' ∨ c = 't' then (readTime? cs).map some
    else if isBlank c then (readTime? (cs.dropWhile isBlank)).map some
    else none

/-- The stamp written by some characters. -/
def ofChars? (cs : List Char) : Option Stamp := do
  let (year, cs) ← takeDigits? 4 cs
  let (month, longMonth, cs) ← takeShort? (← takeChar? '-' cs)
  let (day, longDay, cs) ← takeShort? (← takeChar? '-' cs)
  let time ← readRest? cs
  some ⟨year, month, day, time, longMonth && longDay⟩

/-- Whether some characters are recognised as a date or a moment without a tag. -/
def isTimestamp (cs : List Char) : Bool :=
  match ofChars? cs with
  | none => false
  | some s => s.time.isSome || s.full

/-- The first six digits of a fraction of a second as microseconds. -/
def microseconds (fraction : List Char) : Nat :=
  let digits := fraction.take 6
  decimalNumber (digits ++ List.replicate (6 - digits.length) '0')

/-- The value of a stamp; its offset is checked before all other fields. -/
def value (s : Stamp) : Except CalendarFault Value.Scalar :=
  match s.time with
  | none => (Date.make? s.year s.month s.day).map fun date => ⟨.date date, rfl⟩
  | some t => do
    let offset ← t.offset.mapM Moment.checkOffset
    let moment ←
      Moment.make? s.year s.month s.day t.hour t.minute t.second (microseconds t.fraction) offset
    return ⟨.moment moment, rfl⟩

end Stamp

end LiveConfig.Yaml
