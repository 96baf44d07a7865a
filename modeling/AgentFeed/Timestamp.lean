/-!
# Times

A time is a number of milliseconds since the start of 1970, in universal time. Its text is
`YYYY-MM-DDTHH:MM:SS.mmmZ`. Dates are those of the Gregorian calendar: 400 years have 146097 days,
and counting years from March puts the leap day at the end of a year.
-/

namespace AgentFeed

/-- A date of the Gregorian calendar. -/
structure CalendarDate where
  /-- The year. -/
  year : Nat
  /-- The month, from 1. -/
  month : Nat
  /-- The day of the month, from 1. -/
  day : Nat
deriving DecidableEq, Repr

/-- The date that is a number of days after the first of March of the year 0. -/
def CalendarDate.ofMarchDays (days : Nat) : CalendarDate :=
  let cycle := days / 146097
  let dayOfCycle := days % 146097
  let year :=
    (dayOfCycle - dayOfCycle / 1460 + dayOfCycle / 36524 - dayOfCycle / 146096) / 365
  let dayOfYear := dayOfCycle - (365 * year + year / 4 - year / 100)
  let month := (5 * dayOfYear + 2) / 153
  let day := dayOfYear - (153 * month + 2) / 5 + 1
  if month < 10 then ⟨400 * cycle + year, month + 3, day⟩
  else ⟨400 * cycle + year + 1, month - 9, day⟩

/-- The date that is a number of days after the start of 1970. -/
def CalendarDate.ofDays (days : Nat) : CalendarDate :=
  ofMarchDays (days + 719468)

namespace Timestamp

/-- A number with leading zeros up to a width. -/
def padded (width n : Nat) : List Char :=
  let digits := Nat.toDigits 10 n
  List.replicate (width - digits.length) '0' ++ digits

/-- The text of a time. -/
def text (millis : Nat) : String :=
  let seconds := millis / 1000
  let date := CalendarDate.ofDays (seconds / 86400)
  String.ofList
    (padded 4 date.year ++ '-' :: padded 2 date.month ++ '-' :: padded 2 date.day ++ 'T' ::
      padded 2 (seconds / 3600 % 24) ++ ':' :: padded 2 (seconds / 60 % 60) ++ ':' ::
      padded 2 (seconds % 60) ++ '.' :: padded 3 (millis % 1000) ++ ['Z'])

/-- The shape of the text of a time: a zero for each digit. -/
def shape : List Char :=
  "0000-00-00T00:00:00.000Z".toList

/-- Whether a text has the shape of a time. -/
def hasShape (s : String) : Bool :=
  s.toList.map (fun c => if c.isDigit then '0' else c) == shape

end Timestamp

end AgentFeed
