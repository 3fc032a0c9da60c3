import FactModel.Calendar.Moment
import FactModel.Ddl
import FactModel.DecimalNumber

/-!
Values that a caller may hold beside those of documents: dates, decimal numbers, tuples and
typed scalars.
-/

namespace FactModel

inductive Datum where
  | plain (v : Value)
  | date (d : Date)
  | moment (m : Moment)
  | decimal (n : DecimalNumber)
  | scalar (v : Value)
  | arr (items : List Datum)
  | tuple (items : List Datum)
  | obj (fields : List (String × Datum))

namespace Datum

mutual

/-- The value whose encoding a datum has: a date is its text, a tuple a list. -/
def toValue : Datum → Value
  | plain v => v
  | date d => .str (String.ofList d.text)
  | moment m => .str (String.ofList (m.text 'T'))
  | decimal n => .str (String.ofList n.text)
  | scalar v => v
  | arr items => .arr (toValues items)
  | tuple items => .arr (toValues items)
  | obj fields => .obj (toFields fields)

def toValues : List Datum → List Value
  | [] => []
  | d :: rest => d.toValue :: toValues rest

def toFields : List (String × Datum) → List (String × Value)
  | [] => []
  | (key, d) :: rest => (key, d.toValue) :: toFields rest

end

def encode (d : Datum) : String := d.toValue.encode

def callText (name : String) (arguments : List String) : List Char :=
  (name ++ "(" ++ String.intercalate ", " arguments ++ ")").toList

def offsetText (offset : Int) : String :=
  let zone := if offset = 0 then "datetime.timezone.utc"
    else String.ofList (callText "datetime.timezone" [durationText offset])
  "tzinfo=" ++ zone

def momentArguments (m : Moment) : List String :=
  (m.date.numbers ++ m.clock.numbers).map (fun (n : Nat) => (Value.int n).shown) ++
    (m.offset.map offsetText).toList

/-- The numbers that a typed whole number may be: of 64 bits with a sign, else without. -/
def wholeText (n : Int) : List Char :=
  let shown := (Value.int n).shown
  if -(twoTo 63 : Int) ≤ n && n < twoTo 63 then callText "np.int64" [shown]
  else if 0 ≤ n && n < twoTo 64 then callText "np.uint64" [shown]
  else shown.toList

def scalarText : Value → List Char
  | .bool b => ("np." ++ (Value.bool b).shown ++ "_").toList
  | .int n => wholeText n
  | .float x => callText "np.float64" [(Value.float x).shown]
  | .str s => callText "np.str_" [(Value.str s).shown]
  | v => v.display

mutual

def display : Datum → List Char
  | plain v => v.display
  | date d => callText "datetime.date" (d.numbers.map fun (n : Nat) => (Value.int n).shown)
  | moment m => callText "datetime.datetime" (momentArguments m)
  | decimal n => callText "Decimal" [(Value.str (String.ofList n.text)).shown]
  | scalar v => scalarText v
  | arr items => '[' :: Value.separated (displayItems items) ++ [']']
  | tuple [] => ['(', ')']
  | tuple [d] => '(' :: d.display ++ [',', ')']
  | tuple items => '(' :: Value.separated (displayItems items) ++ [')']
  | obj fields => '\x7b' :: Value.separated (displayFields fields) ++ ['\x7d']

def displayItems : List Datum → List (List Char)
  | [] => []
  | d :: rest => d.display :: displayItems rest

def displayFields : List (String × Datum) → List (List Char)
  | [] => []
  | (key, d) :: rest =>
    (Text.quote key.toList ++ ':' :: ' ' :: d.display) :: displayFields rest

end

/-- The datum as a literal of a check; what has no literal form is written as its text. -/
def literal (numericBooleans : Bool) : Datum → String
  | plain v => Ddl.literal numericBooleans v
  | date d => String.ofList d.text
  | moment m => String.ofList (m.text ' ')
  | decimal n => String.ofList n.text
  | scalar (.str s) => Ddl.literal numericBooleans (.str s)
  | scalar v => v.shown
  | d => String.ofList d.display

end Datum

end FactModel
