import VolumeDrain.Text.Blank

/-!
# Instants

Points in time in nanoseconds since 1970-01-01T00:00:00Z, and their forms in RFC 3339: with a `Z`
to the second or to the microsecond, and with the offset `+00:00` and as many digits of the
fraction as they need, in groups of three. Reading is laxer than writing: numbers may lack leading
zeros, and white space may stand around the parts.
-/
namespace VolumeDrain

/-- A point in time. -/
structure Instant where
  nanos : Int
deriving DecidableEq, Repr, Inhabited

namespace Instant

/-- Days from 1970-01-01 to a date of the Gregorian calendar. -/
def daysFromDate (year month day : Int) : Int :=
  let y := if month ≤ 2 then year - 1 else year
  let era := y / 400
  let yearOfEra := y % 400
  let dayOfYear := (153 * (month + (if month > 2 then -3 else 9)) + 2) / 5 + day - 1
  era * 146097 + (yearOfEra * 365 + yearOfEra / 4 - yearOfEra / 100 + dayOfYear) - 719468

/-- The date that lies a number of days after 1970-01-01, as year, month and day. -/
def dateOfDays (days : Int) : Int × Int × Int :=
  let z := days + 719468
  let era := z / 146097
  let dayOfEra := z % 146097
  let yearOfEra := (dayOfEra - dayOfEra / 1460 + dayOfEra / 36524 - dayOfEra / 146096) / 365
  let dayOfYear := dayOfEra - (365 * yearOfEra + yearOfEra / 4 - yearOfEra / 100)
  let m := (5 * dayOfYear + 2) / 153
  let day := dayOfYear - (153 * m + 2) / 5 + 1
  let month := if m < 10 then m + 3 else m - 9
  (yearOfEra + era * 400 + (if month ≤ 2 then 1 else 0), month, day)

/-- Whether a year has a 29th of February. -/
def isLeapYear (year : Int) : Bool := year % 4 == 0 && (year % 100 != 0 || year % 400 == 0)

/-- The number of days of a month. -/
def daysInMonth (year month : Int) : Int :=
  if month == 2 then (if isLeapYear year then 29 else 28)
  else if month == 4 || month == 6 || month == 9 || month == 11 then 30
  else 31

/-- A number with leading zeros up to a width. -/
def padded (width : Nat) (n : Int) : String :=
  let s := toString n
  String.ofList (List.replicate (width - s.length) '0') ++ s

/-- Whole seconds since 1970. -/
def seconds (t : Instant) : Int := t.nanos / 1000000000

/-- Nanoseconds into the running second. -/
def subsecond (t : Instant) : Int := t.nanos % 1000000000

/-- Date and time of day, without fraction and offset. -/
def dateTimeText (t : Instant) : String :=
  let (year, month, day) := dateOfDays (t.seconds / 86400)
  let s := t.seconds % 86400
  padded 4 year ++ "-" ++ padded 2 month ++ "-" ++ padded 2 day ++ "T" ++
    padded 2 (s / 3600) ++ ":" ++ padded 2 (s / 60 % 60) ++ ":" ++ padded 2 (s % 60)

/-- The instant to the second. -/
def secondsText (t : Instant) : String := t.dateTimeText ++ "Z"

/-- The instant to the microsecond. -/
def microsText (t : Instant) : String :=
  t.dateTimeText ++ "." ++ padded 6 (t.subsecond / 1000) ++ "Z"

/-- The instant with its offset and the digits that its fraction needs. -/
def fullText (t : Instant) : String :=
  let f := t.subsecond
  let fraction :=
    if f == 0 then ""
    else if f % 1000000 == 0 then "." ++ padded 3 (f / 1000000)
    else if f % 1000 == 0 then "." ++ padded 6 (f / 1000)
    else "." ++ padded 9 f
  t.dateTimeText ++ fraction ++ "+00:00"

/-- The value of a run of decimal digits. -/
def digitsValue (digits : List Char) : Int :=
  digits.foldl (fun n c => n * 10 + ((c.toNat : Int) - 48)) 0

/-- Reads a number of at most so many digits, after white space. -/
def readNumber (most : Nat) (cs : List Char) : Option (Int × List Char) :=
  let cs := Text.skipBlanks cs
  let digits := (cs.take most).takeWhile Char.isDigit
  if digits.isEmpty then none else some (digitsValue digits, cs.drop digits.length)

/-- Reads a mark, after white space. -/
def readMark (mark : Char) (cs : List Char) : Option (List Char) :=
  match Text.skipBlanks cs with
  | c :: rest => if c = mark then some rest else none
  | [] => none

/-- Reads year, month and day, of a date that there is, as days since 1970. -/
def readDate (cs : List Char) : Option (Int × List Char) := do
  let (year, cs) ← readNumber 4 cs
  let (month, cs) ← readNumber 2 (← readMark '-' cs)
  let (day, cs) ← readNumber 2 (← readMark '-' cs)
  guard (1 ≤ month && month ≤ 12 && 1 ≤ day && day ≤ daysInMonth year month)
  return (daysFromDate year month day, cs)

/-- Reads the fraction of a second, if there is one, in nanoseconds. Digits beyond the ninth are
dropped. -/
def readFraction (cs : List Char) : Option (Int × List Char) :=
  match cs with
  | '.' :: rest =>
    let digits := rest.takeWhile Char.isDigit
    if digits.isEmpty then none
    else some (digitsValue ((digits ++ List.replicate 9 '0').take 9), rest.drop digits.length)
  | _ => some (0, cs)

/-- Reads a time of day, in nanoseconds. A minute may have a sixty-first second. -/
def readTimeOfDay (cs : List Char) : Option (Int × List Char) := do
  let (hour, cs) ← readNumber 2 cs
  let (minute, cs) ← readNumber 2 (← readMark ':' cs)
  let (second, cs) ← readNumber 2 (← readMark ':' cs)
  guard (hour < 24 && minute < 60 && second ≤ 60)
  let (fraction, cs) ← readFraction cs
  return ((hour * 3600 + minute * 60 + second) * 1000000000 + fraction, cs)

/-- Reads the hours and minutes of an offset, with colons and white space between them, in
seconds. -/
def readHoursMinutes (cs : List Char) : Option (Int × List Char) :=
  match cs with
  | a :: b :: rest =>
    match rest.dropWhile fun c => c = ':' || Text.isWhiteSpace c with
    | c :: d :: rest =>
      if [a, b, c, d].all Char.isDigit && digitsValue [a, b] < 24 && digitsValue [c, d] < 60 then
        some (digitsValue [a, b] * 3600 + digitsValue [c, d] * 60, rest)
      else none
    | _ => none
  | _ => none

/-- Reads the offset from UTC, after white space, in seconds. -/
def readOffset (cs : List Char) : Option (Int × List Char) :=
  match Text.skipBlanks cs with
  | [] => none
  | sign :: rest =>
    if ((sign :: rest).take 3).map Char.toUpper = ['U', 'T', 'C'] then some (0, rest.drop 2)
    else if sign = 'Z' || sign = 'z' then some (0, rest)
    else if sign = '+' then readHoursMinutes rest
    else if sign = '-' || sign = '\u2212' then
      (readHoursMinutes rest).map fun r => (-r.1, r.2)
    else none

/-- Reads date, time of day and offset. A letter `T` or a space stands before the time. -/
def read? (text : String) : Option Instant := do
  let (days, cs) ← readDate text.toList
  let cs ← match cs with
    | c :: rest => if c = 'T' || c = 't' || c = ' ' then some rest else none
    | [] => none
  let (time, cs) ← readTimeOfDay cs
  let (offset, cs) ← readOffset cs
  guard (Text.skipBlanks cs).isEmpty
  return ⟨(days * 86400 - offset) * 1000000000 + time⟩

end Instant

end VolumeDrain
