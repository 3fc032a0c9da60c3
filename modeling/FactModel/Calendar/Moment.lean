import FactModel.Calendar

/-!
Times of day and moments, and their written forms: `23:59:01.500000` and
`2024-02-29T23:59:01.500000+01:00`.
-/

namespace FactModel

/-- A time of day. -/
structure Clock where
  hour : Nat
  minute : Nat
  second : Nat
  micro : Nat
deriving DecidableEq

/-- A date and a time of day, with the distance from universal time in microseconds. -/
structure Moment where
  date : Date
  clock : Clock
  offset : Option Int
deriving DecidableEq

namespace Clock

open Text

def midnight : Clock := ⟨0, 0, 0, 0⟩

/-- What follows a part of a time of day. -/
inductive Next where
  | stop (rest : List Char)
  | part (rest : List Char)
  | fraction (rest : List Char)

/-- A colon stands between all parts or none. A last character of one byte is left over. -/
def next? (colons : Bool) : List Char → Option Next
  | [] => some (.stop [])
  | c :: rest =>
    if rest.isEmpty && c.utf8Size = 1 then some (.stop [c])
    else if colons && c == ':' then some (.part rest)
    else if c == '.' || c == ',' then some (.fraction rest)
    else if colons then none
    else some (.part (c :: rest))

/-- Digits as microseconds, and what follows them; digits after the sixth do not count. -/
def readFraction? (cs : List Char) : Option (Nat × List Char) :=
  let digits := cs.take 6
  if digits.all isDigit then
    some (number ((digits ++ List.replicate 6 '0').take 6), (cs.drop 6).dropWhile isDigit)
  else none

/-- A time of day, and what is left over; parts that are left out are zero. -/
def read? (cs : List Char) : Option (Clock × List Char) := do
  let (hour, rest) ← readDigits? 2 cs
  let colons := rest.head? == some ':'
  let fraction := fun (minute second : Nat) (rest : List Char) => do
    let (micro, rest) ← readFraction? rest
    some (Clock.mk hour minute second micro, rest)
  match ← next? colons rest with
  | .stop rest => some (⟨hour, 0, 0, 0⟩, rest)
  | .fraction rest => fraction 0 0 rest
  | .part rest =>
    let (minute, rest) ← readDigits? 2 rest
    match ← next? colons rest with
    | .stop rest => some (⟨hour, minute, 0, 0⟩, rest)
    | .fraction rest => fraction minute 0 rest
    | .part rest =>
      let (second, rest) ← readDigits? 2 rest
      match ← next? colons rest with
      | .stop rest => some (⟨hour, minute, second, 0⟩, rest)
      | .fraction rest => fraction minute second rest
      | .part rest => fraction minute second rest

def check (c : Clock) : Except CalendarError Clock :=
  if 23 < c.hour then .error .hour
  else if 59 < c.minute then .error .minute
  else if 59 < c.second then .error .second
  else .ok c

def seconds (c : Clock) : Nat := (c.hour * 60 + c.minute) * 60 + c.second

def ofMicros (n : Nat) : Clock :=
  let seconds := n / 1000000
  ⟨seconds / 3600, seconds / 60 % 60, seconds % 60, n % 1000000⟩

def microText (micro : Nat) : List Char :=
  if micro = 0 then [] else '.' :: fixedDigits 6 micro

def minutesText (c : Clock) : List Char := fixedDigits 2 c.hour ++ ':' :: fixedDigits 2 c.minute

def text (c : Clock) : List Char :=
  c.minutesText ++ ':' :: fixedDigits 2 c.second ++ microText c.micro

/-- The numbers of a time of day, as a call takes them: seconds and microseconds only as far as
they are not zero. -/
def numbers (c : Clock) : List Nat :=
  [c.hour, c.minute] ++
    if c.micro != 0 then [c.second, c.micro]
    else if c.second != 0 then [c.second]
    else []

end Clock

namespace Moment

open Text

def isOffsetStart (c : Char) : Bool := c == '+' || c == '-' || c == 'Z'

/-- A distance from universal time; less than a second is none. -/
def offsetOf (negative : Bool) (c : Clock) : Int :=
  let size : Int := if c.seconds = 0 then 0 else c.seconds * 1000000 + c.micro
  if negative then -size else size

/-- A time of day with its distance from universal time, if one is written. In front of a distance
what is left over does not count. -/
def readTime? (cs : List Char) : Option (Clock × Option Int) := do
  let (clock, rest) ← Clock.read? (cs.takeWhile fun c => !isOffsetStart c)
  match cs.dropWhile fun c => !isOffsetStart c with
  | [] => if rest.isEmpty then some (clock, none) else none
  | ['Z'] => some (clock, some 0)
  | sign :: tail =>
    if sign = 'Z' then none
    else
      let (distance, rest) ← Clock.read? tail
      if rest.isEmpty then some (clock, some (offsetOf (sign = '-') distance)) else none

/-- How many characters of a text are its date. After a week, digits belong to the time in pairs,
and a dash with a digit two places further stands before the time. -/
def dateLength (cs : List Char) : Nat :=
  let has := fun (n : Nat) (c : Char) => cs[n]? == some c
  if cs.length = 7 then 7
  else if has 4 '-' then
    if !has 5 'W' then 10
    else if !has 8 '-' || (cs[10]?).any isDigit then 8
    else 10
  else if has 4 'W' then
    let stop := 7 + ((cs.drop 7).takeWhile isDigit).length
    if stop < 9 then stop else if stop % 2 = 0 then 7 else 8
  else 8

/-- Any character may stand between date and time; a date alone is its midnight. -/
def read? (cs : List Char) : Option Moment := do
  let length := dateLength cs
  let date ← Date.read? length cs
  match cs.drop length with
  | [] => some ⟨date, Clock.midnight, none⟩
  | _ :: rest =>
    let (clock, offset) ← readTime? rest
    some ⟨date, clock, offset⟩

def checkOffset : Option Int → Except CalendarError Unit
  | some micros => if dayMicros ≤ micros.natAbs then .error (.offset micros) else .ok ()
  | none => .ok ()

def parse (text : String) : Except CalendarError Moment :=
  match read? text.toList with
  | none => .error (.malformed text)
  | some m => do
    checkOffset m.offset
    let date ← m.date.check
    let clock ← m.clock.check
    return ⟨date, clock, m.offset⟩

def offsetText (offset : Int) : List Char :=
  let size := Clock.ofMicros offset.natAbs
  let tail := if size.second = 0 && size.micro = 0 then []
    else ':' :: fixedDigits 2 size.second ++ Clock.microText size.micro
  (if offset < 0 then '-' else '+') :: size.minutesText ++ tail

def text (m : Moment) (mark : Char) : List Char :=
  m.date.text ++ mark :: m.clock.text ++ (m.offset.map offsetText).getD []

end Moment

end FactModel
