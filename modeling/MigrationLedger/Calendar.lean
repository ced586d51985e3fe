/-
# The calendar

Days are counted from the first of January 1970 and times of day in
microseconds. Dates are those of the proleptic Gregorian calendar, whose cycle
of 400 years has 146097 days; a year is taken to begin in March, so that the day
that leap years add is the last of the year.
-/

import MigrationLedger.Number.Decimal

namespace MigrationLedger.Calendar

/-- Days before a date, counted from the first of January 1970. -/
def daysOfDate (year : Int) (month day : Nat) : Int :=
  let year := if month ≤ 2 then year - 1 else year
  let era := year.fdiv 400
  let yearOfEra := year - era * 400
  let dayOfYear : Int := (153 * (if 2 < month then month - 3 else month + 9) + 2) / 5 + day - 1
  let dayOfEra := yearOfEra * 365 + yearOfEra / 4 - yearOfEra / 100 + dayOfYear
  era * 146097 + dayOfEra - 719468

/-- The date of a day: year, month and day of the month. -/
def dateOfDays (days : Int) : Int × Nat × Nat :=
  let days := days + 719468
  let era := days.fdiv 146097
  let dayOfEra := days - era * 146097
  let yearOfEra := (dayOfEra - dayOfEra / 1460 + dayOfEra / 36524 - dayOfEra / 146096) / 365
  let dayOfYear := dayOfEra - (365 * yearOfEra + yearOfEra / 4 - yearOfEra / 100)
  let shifted := (5 * dayOfYear + 2) / 153
  let day := dayOfYear - (153 * shifted + 2) / 5 + 1
  let month := if shifted < 10 then shifted + 3 else shifted - 9
  let year := yearOfEra + era * 400 + (if month ≤ 2 then 1 else 0)
  (year, month.toNat, day.toNat)

/-- Microseconds of a day. -/
def dayLength : Int := 86400000000

/-- A number with zeros in front up to a width. -/
def padded (width n : Nat) : String :=
  let digits := toString n
  String.ofList (List.replicate (width - digits.length) '0') ++ digits

/-- The text of a date. -/
def dateText (days : Int) : String :=
  let (year, month, day) := dateOfDays days
  let yearText := if year < 1 then padded 4 (1 - year).toNat else padded 4 year.toNat
  yearText ++ "-" ++ padded 2 month ++ "-" ++ padded 2 day ++ (if year < 1 then " (BC)" else "")

/-- Hours, minutes and seconds of a time of day. -/
def clockText (micros : Nat) : String :=
  let seconds := micros / 1000000
  padded 2 (seconds / 3600) ++ ":" ++ padded 2 (seconds / 60 % 60) ++ ":" ++
    padded 2 (seconds % 60)

/-- The text of a time of day. A fraction of a second is written without the
zeros at its end. -/
def timeText (micros : Nat) : String :=
  let rest := micros % 1000000
  if rest = 0 then clockText micros
  else
    let digits := (padded 6 rest).toList.reverse.dropWhile (· == '0')
    clockText micros ++ "." ++ String.ofList digits.reverse

/-- The day of a moment and the time within it. -/
def split (moment : Int) : Int × Nat :=
  let day := moment.fdiv dayLength
  (day, (moment - day * dayLength).toNat)

/-- The text of a moment. -/
def momentText (moment : Int) : String :=
  let (day, micros) := split moment
  dateText day ++ " " ++ timeText micros

/-- The text of a moment in milliseconds, with a letter between date and
time. -/
def stampText (moment : Int) : String :=
  let (day, micros) := split moment
  dateText day ++ "T" ++ clockText micros ++ "." ++ padded 3 (micros % 1000000 / 1000)

/-! ### Reading -/

/-- Digits at the beginning of a text, at least one and at most `most`. -/
def digits? (most : Nat) (text : List Char) : Option (Nat × List Char) :=
  let digits := text.takeWhile Text.isAsciiDigit
  if digits = [] ∨ most < digits.length then none
  else some (Decimal.digitsValue 0 digits, text.drop digits.length)

/-- The number of days of a month. -/
def monthLength (year : Int) (month : Nat) : Nat :=
  if month = 2 then
    if year % 4 = 0 ∧ (year % 100 ≠ 0 ∨ year % 400 = 0) then 29 else 28
  else if month = 4 ∨ month = 6 ∨ month = 9 ∨ month = 11 then 30
  else 31

/-- A date at the beginning of a text. -/
def date? (text : List Char) : Option (Int × List Char) := do
  let (negative, text) :=
    match text with
    | '-' :: rest => (true, rest)
    | rest => (false, rest)
  let (size, text) ← digits? 6 text
  let year : Int := if negative then -(size : Int) else size
  match text with
  | separator :: text =>
    if separator ≠ '-' ∧ separator ≠ '/' then none
    else
      let (month, text) ← digits? 2 text
      match text with
      | second :: text =>
        if second ≠ separator then none
        else
          let (day, text) ← digits? 2 text
          if month = 0 ∨ 12 < month ∨ day = 0 ∨ monthLength year month < day then none
          else some (daysOfDate year month day, text)
      | [] => none
  | [] => none

/-- Digits behind the point of a second, in microseconds. -/
def fraction (digits : List Char) : Nat :=
  Decimal.digitsValue 0 ((digits ++ List.replicate 6 '0').take 6)

/-- A time of day at the beginning of a text. -/
def time? (text : List Char) : Option (Nat × List Char) := do
  let (hour, text) ← digits? 2 text
  match text with
  | ':' :: text =>
    let (minute, text) ← digits? 2 text
    let (second, text) ←
      match text with
      | ':' :: text => digits? 2 text
      | text => some (0, text)
    let (micros, text) :=
      match text with
      | '.' :: text =>
        (fraction (text.takeWhile Text.isAsciiDigit), text.dropWhile Text.isAsciiDigit)
      | text => (0, text)
    if 24 ≤ hour ∨ 60 ≤ minute ∨ 60 ≤ second then none
    else some (((hour * 60 + minute) * 60 + second) * 1000000 + micros, text)
  | _ => none

/-- How far a zone is ahead, in microseconds, from the text of the zone. -/
def zone? (text : List Char) : Option Int :=
  let offset (sign : Int) (text : List Char) : Option Int := do
    let (hours, text) ← digits? 2 text
    match text with
    | [] => some (sign * hours * 3600000000)
    | ':' :: text =>
      let (minutes, text) ← digits? 2 text
      if text = [] then some (sign * (hours * 60 + minutes) * 60000000) else none
    | _ => none
  match text with
  | [] => some 0
  | ['Z'] | ['z'] => some 0
  | '+' :: text => offset 1 text
  | '-' :: text => offset (-1) text
  | _ => none

/-- Read a date; a time behind it does not count. -/
def readDate? (text : String) : Option Int :=
  match date? (Text.trim text.toList) with
  | some (days, []) => some days
  | some (days, ' ' :: text) | some (days, 'T' :: text) => (time? text).map fun _ => days
  | _ => none

/-- Read a time of day. -/
def readTime? (text : String) : Option Nat :=
  match time? (Text.trim text.toList) with
  | some (micros, []) => some micros
  | _ => none

/-- Read a moment: a date, and a time with an optional zone. -/
def readMoment? (text : String) : Option Int :=
  match date? (Text.trim text.toList) with
  | some (days, []) => some (days * dayLength)
  | some (days, separator :: text) =>
    if separator ≠ ' ' ∧ separator ≠ 'T' then none
    else do
      let (micros, text) ← time? text
      let ahead ← zone? (Text.trim text)
      some (days * dayLength + micros - ahead)
  | none => none

end MigrationLedger.Calendar
