import FactModel.Value
import FactModel.Text.Digits

/-!
Reading the document text of a value. Beside the numbers of the grammar, `NaN`, `Infinity` and
`-Infinity` are read. Keys may be repeated; all fields of an object are kept in order.
-/

namespace FactModel

namespace Value

open Text

def isSpace (c : Char) : Bool := c == ' ' || c == '\n' || c == '\r' || c == '\t'

def skipSpace (cs : List Char) : List Char := cs.dropWhile isSpace

def escaped? (c : Char) : Option Char :=
  if c = '"' then some '"'
  else if c = '\\' then some '\\'
  else if c = '/' then some '/'
  else if c = 'b' then some (Char.ofNat 8)
  else if c = 'f' then some (Char.ofNat 12)
  else if c = 'n' then some '\n'
  else if c = 'r' then some '\r'
  else if c = 't' then some '\t'
  else none

def isHigh (unit : Nat) : Bool := 0xD800 ≤ unit && unit < 0xDC00

def isLow (unit : Nat) : Bool := 0xDC00 ≤ unit && unit < 0xE000

def joinUnits (high low : Nat) : Char :=
  Char.ofNat (0x10000 + (high - 0xD800) * 0x400 + (low - 0xDC00))

/-- The characters of a string up to its closing quote. Halves of a surrogate pair stand only
next to each other. -/
def readString (fuel : Nat) (cs : List Char) : Option (List Char × List Char) :=
  match fuel, cs with
  | 0, _ => none
  | _, [] => none
  | _, '"' :: rest => some ([], rest)
  | fuel + 1, '\\' :: 'u' :: a :: b :: c :: d :: rest => do
    let unit ← hexNumber? [a, b, c, d]
    if isHigh unit then
      match rest with
      | '\\' :: 'u' :: a' :: b' :: c' :: d' :: rest' =>
        let low ← hexNumber? [a', b', c', d']
        if isLow low then
          let (tail, rest) ← readString fuel rest'
          some (joinUnits unit low :: tail, rest)
        else none
      | _ => none
    else if isLow unit then none
    else
      let (tail, rest) ← readString fuel rest
      some (Char.ofNat unit :: tail, rest)
  | fuel + 1, '\\' :: c :: rest => do
    let c ← escaped? c
    let (tail, rest) ← readString fuel rest
    some (c :: tail, rest)
  | fuel + 1, c :: rest =>
    if c.toNat < 0x20 || c = '\\' then none
    else do
      let (tail, rest) ← readString fuel rest
      some (c :: tail, rest)

def readWhole (cs : List Char) : Option (List Char × List Char) :=
  match spanDigits cs with
  | ([], _) => none
  | ('0' :: _ :: _, _) => none
  | result => some result

/-- Digits after a point, if there is one; a point without digits is refused. -/
def readPlaces (cs : List Char) : Option (Option (List Char) × List Char) :=
  match cs with
  | '.' :: rest => match spanDigits rest with
    | ([], _) => none
    | (places, rest) => some (some places, rest)
  | _ => some (none, cs)

def readPower (cs : List Char) : Option (Option Int × List Char) :=
  match cs with
  | mark :: rest =>
    if mark = 'e' || mark = 'E' then
      let (negative, rest) := match rest with
        | '-' :: rest => (true, rest)
        | '+' :: rest => (false, rest)
        | _ => (false, rest)
      match spanDigits rest with
      | ([], _) => none
      | (digits, rest) =>
        let size : Int := number digits
        some (some (if negative then -size else size), rest)
    else some (none, cs)
  | [] => some (none, cs)

/-- What a document may hold: how deep its brackets nest, and how many digits may stand in front
of a point. -/
structure Limits where
  depth : Nat
  digits : Nat

/-- A number with a point or an exponent is a float, any other an integer. -/
def readNumber (digits : Nat) (negative : Bool) (cs : List Char) :
    Option (Value × List Char) := do
  let (whole, rest) ← readWhole cs
  if digits < whole.length then none
  let (places, rest) ← readPlaces rest
  let (power, rest) ← readPower rest
  match places, power with
  | none, none =>
    let size : Int := number whole
    some (int (if negative then -size else size), rest)
  | _, _ =>
    let places := places.getD []
    some (float (Binary64.ofDecimal negative (number (whole ++ places))
      (power.getD 0 - places.length)), rest)

def dropText? (word : List Char) (cs : List Char) : Option (List Char) :=
  if word.isPrefixOf cs then some (cs.drop word.length) else none

def readWord (word : String) (value : Value) (cs : List Char) : Option (Value × List Char) :=
  (dropText? word.toList cs).map ((value, ·))

mutual

/-- Reads a value at the front of the text. `depth` bounds the nesting of brackets that hold
something, `digits` those of a number; `fuel` bounds the steps and never runs out when it exceeds
the length of the text. -/
def read (digits fuel depth : Nat) (cs : List Char) : Option (Value × List Char) :=
  match fuel with
  | 0 => none
  | fuel + 1 => match skipSpace cs with
    | '"' :: rest => (readString (rest.length + 1) rest).map fun (s, rest) =>
        (str (String.ofList s), rest)
    | '[' :: rest => match skipSpace rest with
      | ']' :: rest => some (arr [], rest)
      | rest => match depth with
        | 0 => none
        | depth + 1 => (readItems digits fuel depth rest).map fun (items, rest) => (arr items, rest)
    | '\x7b' :: rest => match skipSpace rest with
      | '\x7d' :: rest => some (obj [], rest)
      | rest => match depth with
        | 0 => none
        | depth + 1 => (readFields digits fuel depth rest).map fun (fields, rest) =>
            (obj fields, rest)
    | '-' :: 'I' :: rest => readWord "Infinity" (float (Binary64.infinity true)) ('I' :: rest)
    | '-' :: rest => readNumber digits true rest
    | 'n' :: rest => readWord "null" null ('n' :: rest)
    | 't' :: rest => readWord "true" (bool true) ('t' :: rest)
    | 'f' :: rest => readWord "false" (bool false) ('f' :: rest)
    | 'N' :: rest => readWord "NaN" (float Binary64.nan) ('N' :: rest)
    | 'I' :: rest => readWord "Infinity" (float (Binary64.infinity false)) ('I' :: rest)
    | rest => readNumber digits false rest

def readItems (digits fuel depth : Nat) (cs : List Char) : Option (List Value × List Char) :=
  match fuel with
  | 0 => none
  | fuel + 1 => do
    let (item, rest) ← read digits fuel depth cs
    match skipSpace rest with
    | ']' :: rest => some ([item], rest)
    | ',' :: rest =>
      let (items, rest) ← readItems digits fuel depth rest
      some (item :: items, rest)
    | _ => none

def readFields (digits fuel depth : Nat) (cs : List Char) :
    Option (List (String × Value) × List Char) :=
  match fuel with
  | 0 => none
  | fuel + 1 =>
    match skipSpace cs with
    | '"' :: rest => do
      let (key, rest) ← readString (rest.length + 1) rest
      match skipSpace rest with
      | ':' :: rest =>
        let (value, rest) ← read digits fuel depth rest
        let field := (String.ofList key, value)
        match skipSpace rest with
        | '\x7d' :: rest => some ([field], rest)
        | ',' :: rest =>
          let (fields, rest) ← readFields digits fuel depth rest
          some (field :: fields, rest)
        | _ => none
      | _ => none
    | _ => none

end

def parse? (limits : Limits) (text : String) : Option Value :=
  let cs := text.toList
  match read limits.digits (2 * cs.length + 1) limits.depth cs with
  | some (value, rest) => if skipSpace rest = [] then some value else none
  | none => none

end Value

end FactModel
