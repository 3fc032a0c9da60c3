import FactModel.Text.Digits
import FactModel.Text.Quoted

/-!
Dates and their written forms: `2024-02-29`, `20240229`, and by week and weekday `2024-W09-4`.
-/

namespace FactModel

structure Date where
  year : Nat
  month : Nat
  day : Nat
deriving DecidableEq

def dayMicros : Int := 86400000000

/-- A length of time: days, which may be negative, and what is left, as far as it is not zero. -/
def durationText (micros : Int) : String :=
  let days := micros / dayMicros
  let rest := micros % dayMicros
  let parts := [("days", days), ("seconds", rest / 1000000), ("microseconds", rest % 1000000)]
  let shown := parts.filterMap fun (name, n) => if n = 0 then none else some s!"{name}={n}"
  "datetime.timedelta(" ++ String.intercalate ", " shown ++ ")"

inductive CalendarError where
  | malformed (text : String)
  | offset (micros : Int)
  | year (n : Nat)
  | month
  | day
  | hour
  | minute
  | second
deriving DecidableEq

namespace CalendarError

def message : CalendarError → String
  | malformed text => s!"Invalid isoformat string: {Text.quoted text}"
  | offset micros =>
    "offset must be a timedelta strictly between -timedelta(hours=24) and timedelta(hours=24), " ++
      s!"not {durationText micros}."
  | year n => s!"year {n} is out of range"
  | month => "month must be in 1..12"
  | day => "day is out of range for month"
  | hour => "hour must be in 0..23"
  | minute => "minute must be in 0..59"
  | second => "second must be in 0..59"

end CalendarError

namespace Date

open Text

def lastYear : Nat := 9999

def isLeapYear (year : Nat) : Bool := year % 4 == 0 && (year % 100 != 0 || year % 400 == 0)

def daysIn (year month : Nat) : Nat :=
  if month = 2 then if isLeapYear year then 29 else 28
  else if month = 4 || month = 6 || month = 9 || month = 11 then 30
  else 31

def check (d : Date) : Except CalendarError Date :=
  if d.year = 0 || lastYear < d.year then .error (.year d.year)
  else if d.month = 0 || 12 < d.month then .error .month
  else if d.day = 0 || daysIn d.year d.month < d.day then .error .day
  else .ok d

def daysBefore (year : Nat) : Nat :=
  let years := year - 1
  365 * years + years / 4 - years / 100 + years / 400

/-- The weekday of a day counted from the start of the year one; Monday is zero. -/
def weekday (days : Nat) : Nat := days % 7

/-- The day on which week one of a year begins: the Monday nearest to its first day. -/
def firstMonday (year : Nat) : Nat :=
  let first := daysBefore year
  let monday := first - weekday first
  if 3 < weekday first then monday + 7 else monday

/-- A year of 53 weeks begins on a Thursday, or is a leap year that begins on a Wednesday. -/
def hasLongYear (year : Nat) : Bool :=
  let first := weekday (daysBefore year)
  first == 3 || (first == 2 && isLeapYear year)

/-- The date a number of days after the start of the first of some months. -/
def ofMonths (year : Nat) : List Nat → Nat → Date
  | [], days => ⟨year, 13, days + 1⟩
  | month :: rest, days =>
    if days < daysIn year month then ⟨year, month, days + 1⟩
    else ofMonths year rest (days - daysIn year month)

/-- The date of a day near a year, counted from the start of the year one. -/
def ofDays (near days : Nat) : Date :=
  let year := if days < daysBefore near then near - 1
    else if daysBefore (near + 1) ≤ days then near + 1
    else near
  ofMonths year (List.range' 1 12) (days - daysBefore year)

/-- The date of a weekday in a week of a year, both counted from one. -/
def ofWeek? (year week day : Nat) : Option Date :=
  let isWeek := 0 < week && (week < 53 || (week == 53 && hasLongYear year))
  if year = 0 || !isWeek || day = 0 || 7 < day then none
  else some (ofDays year (firstMonday year + 7 * (week - 1) + (day - 1)))

def dropDash? : List Char → Option (List Char)
  | '-' :: rest => some rest
  | _ => none

/-- The date in front of a text. A dash stands between all its parts or none. A week may lack its
weekday, if the date has no more characters than `length`. -/
def read? (length : Nat) (cs : List Char) : Option Date := do
  let (year, rest) ← readDigits? 4 cs
  let dashed := (dropDash? rest).isSome
  let next := fun (cs : List Char) => if dashed then dropDash? cs else some cs
  match ← next rest with
  | 'W' :: rest =>
    let (week, rest) ← readDigits? 2 rest
    if length ≤ cs.length - rest.length then ofWeek? year week 1
    else
      let (day, _) ← readDigits? 1 (← next rest)
      ofWeek? year week day
  | rest =>
    let (month, rest) ← readDigits? 2 rest
    let (day, _) ← readDigits? 2 (← next rest)
    some ⟨year, month, day⟩

/-- The lengths that a date alone may have. -/
def lengths : List Nat := [7, 8, 10]

/-- A date alone; what is left of one of these lengths does not count. -/
def parse (text : String) : Except CalendarError Date :=
  let length := text.utf8ByteSize
  match if lengths.contains length then read? length text.toList else none with
  | some d => d.check
  | none => .error (.malformed text)

def text (d : Date) : List Char :=
  fixedDigits 4 d.year ++ '-' :: fixedDigits 2 d.month ++ '-' :: fixedDigits 2 d.day

def numbers (d : Date) : List Nat := [d.year, d.month, d.day]

end Date

end FactModel
