import FactModel.OrderedMap
import FactModel.Binary64.Decimal
import FactModel.Text.Quoted

/-!
Free values: what a population, an enumeration or a parameter may hold. Integers and floats are
apart, and the fields of an object keep their order. `encode` decides which values count as the
same instance.
-/

namespace FactModel

inductive Value where
  | null
  | bool (b : Bool)
  | int (n : Int)
  | float (x : Binary64)
  | str (s : String)
  | arr (items : List Value)
  | obj (fields : List (String × Value))
deriving BEq

namespace Value

instance : Inhabited Value := ⟨null⟩

def field? (key : String) : Value → Option Value
  | obj fields => fields.lookup key
  | _ => none

def ofOption {α : Type} (f : α → Value) : Option α → Value
  | none => null
  | some a => f a

def strings (items : List String) : Value := arr (items.map str)

/-- Floats are written with the fewest digits that read back, and without an exponent between
1e-4 and 1e16. -/
def floatText : DecimalLayout := ⟨-4, 15, 2, "nan", "inf", "-inf"⟩

def documentFloat : DecimalLayout := ⟨-4, 15, 2, "NaN", "Infinity", "-Infinity"⟩

/-- Files keep numbers from 1e-5 on without an exponent, and hold no infinities. -/
def savedFloat : DecimalLayout := ⟨-5, 15, 0, "null", "null", "null"⟩

def intText (n : Int) : List Char :=
  if n < 0 then '-' :: Nat.toDigits 10 n.natAbs else Nat.toDigits 10 n.natAbs

mutual

/-- The value with every integral float replaced by the integer it holds. -/
def canonical : Value → Value
  | float x => match x.toInt? with
    | some n => int n
    | none => float x
  | arr items => arr (canonicalItems items)
  | obj fields => obj (canonicalFields fields)
  | v => v

def canonicalItems : List Value → List Value
  | [] => []
  | v :: rest => v.canonical :: canonicalItems rest

def canonicalFields : List (String × Value) → List (String × Value)
  | [] => []
  | (key, v) :: rest => (key, v.canonical) :: canonicalFields rest

end

mutual

/-- The value with the fields of every object under keys of their own: a key that is repeated
keeps its first place and takes its last value. -/
def settled : Value → Value
  | arr items => arr (settledItems items)
  | obj fields => obj (settledFields fields []).reverse
  | v => v

def settledItems : List Value → List Value
  | [] => []
  | v :: rest => v.settled :: settledItems rest

/-- `before` holds the fields settled so far, the last one first. -/
def settledFields : List (String × Value) → List (String × Value) → List (String × Value)
  | [], before => before
  | (key, v) :: rest, before =>
    if before.any fun pair => pair.1 == key then
      settledFields rest (putPair key v.settled before)
    else settledFields rest ((key, v.settled) :: before)

end

def separated (parts : List (List Char)) : List Char := List.intercalate [',', ' '] parts

def sortPairs {α : Type} (pairs : List (String × α)) : List (String × α) :=
  pairs.mergeSort fun a b => decide (a.1 ≤ b.1)

mutual

/-- One line of ASCII, with the keys of objects in ascending order. -/
def dump : Value → List Char
  | null => "null".toList
  | bool true => "true".toList
  | bool false => "false".toList
  | int n => intText n
  | float x => documentFloat.text x
  | str s => Text.encodeAscii s.toList
  | arr items => '[' :: separated (dumpItems items) ++ [']']
  | obj fields =>
    '{' :: separated ((sortPairs (dumpFields fields)).map fun pair =>
      Text.encodeAscii pair.1.toList ++ ':' :: ' ' :: pair.2) ++ ['}']

def dumpItems : List Value → List (List Char)
  | [] => []
  | v :: rest => v.dump :: dumpItems rest

def dumpFields : List (String × Value) → List (String × List Char)
  | [] => []
  | (key, v) :: rest => (key, v.dump) :: dumpFields rest

end

/-- Two values are the same instance when their encodings are equal. -/
def encode (v : Value) : String := String.ofList v.canonical.dump

mutual

def display : Value → List Char
  | null => "None".toList
  | bool true => "True".toList
  | bool false => "False".toList
  | int n => intText n
  | float x => floatText.text x
  | str s => Text.quote s.toList
  | arr items => '[' :: separated (displayItems items) ++ [']']
  | obj fields => '{' :: separated (displayFields fields) ++ ['}']

def displayItems : List Value → List (List Char)
  | [] => []
  | v :: rest => v.display :: displayItems rest

def displayFields : List (String × Value) → List (List Char)
  | [] => []
  | (key, v) :: rest =>
    (Text.quote key.toList ++ ':' :: ' ' :: v.display) :: displayFields rest

end

def shown (v : Value) : String := String.ofList v.display

def newline (depth : Nat) : List Char := '\n' :: List.replicate (2 * depth) ' '

/-- Parts on lines of their own, one step deeper than the brackets around them. -/
def block (depth : Nat) (left right : Char) (parts : List (List Char)) : List Char :=
  match parts with
  | [] => [left, right]
  | parts =>
    left :: newline (depth + 1) ++ List.intercalate (',' :: newline (depth + 1)) parts ++
      newline depth ++ [right]

mutual

def pretty (depth : Nat) : Value → List Char
  | null => "null".toList
  | bool true => "true".toList
  | bool false => "false".toList
  | int n => intText n
  | float x => savedFloat.text x
  | str s => Text.encode s.toList
  | arr items => block depth '[' ']' (prettyItems (depth + 1) items)
  | obj fields => block depth '{' '}' (prettyFields (depth + 1) fields)

def prettyItems (depth : Nat) : List Value → List (List Char)
  | [] => []
  | v :: rest => v.pretty depth :: prettyItems depth rest

def prettyFields (depth : Nat) : List (String × Value) → List (List Char)
  | [] => []
  | (key, v) :: rest =>
    (Text.encode key.toList ++ ':' :: ' ' :: v.pretty depth) :: prettyFields depth rest

end

def saved (v : Value) : String := String.ofList (v.pretty 0)

end Value

end FactModel
