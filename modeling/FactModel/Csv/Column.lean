import FactModel.Csv
import FactModel.Reading

/-!
Typed columns: the cells of a column are all integers, else all floats, else all truth values,
else texts. Empty cells and some words are missing values.
-/

namespace FactModel

namespace Csv

open Text

def missingWords : List String :=
  ["", "#N/A", "#N/A N/A", "#NA", "-1.#IND", "-1.#QNAN", "-NaN", "-nan", "1.#IND", "1.#QNAN",
    "<NA>", "N/A", "NA", "NULL", "NaN", "None", "n/a", "nan", "null"]

def isMissing (cell : String) : Bool := missingWords.contains cell

def isSpace (c : Char) : Bool :=
  c == ' ' || c == '\t' || c == '\n' || c == '\r' || c.toNat == 0x0B || c.toNat == 0x0C

def splitSign : List Char → Bool × List Char
  | '-' :: rest => (true, rest)
  | '+' :: rest => (false, rest)
  | cs => (false, cs)

/-- What a cell is as an integer of a range. The range counts before what follows the digits. -/
inductive WholeCell where
  | value (n : Int)
  | tooLarge
  | negative
  | other
deriving DecidableEq

def WholeCell.value? : WholeCell → Option Int
  | value n => some n
  | _ => none

def wholeDigits (inRange : Int → Bool) (negative : Bool) (cs : List Char) : WholeCell :=
  let (digits, rest) := spanDigits cs
  let size : Int := number digits
  let n := if negative then -size else size
  if digits.isEmpty then .other
  else if !inRange n then .tooLarge
  else if !rest.all isSpace then .other
  else .value n

/-- A cell as a signed 64-bit integer, with a sign, zeros and blanks around it allowed. -/
def signedCell (cell : String) : WholeCell :=
  let (negative, cs) := splitSign (cell.toList.dropWhile isSpace)
  wholeDigits Value.fitsSigned negative cs

/-- A cell as an unsigned 64-bit integer. A minus sign settles that it is negative. -/
def unsignedCell (cell : String) : WholeCell :=
  match splitSign (cell.toList.dropWhile isSpace) with
  | (true, _) => .negative
  | (false, cs) => wholeDigits (fun n => decide (n < twoTo 64)) false cs

/-- What the cells that are not missing make of a column of integers. -/
inductive WholeColumn where
  | integers (values : List Int)
  | texts
  | rawTexts
  | other
deriving DecidableEq

/-- A column beyond the signed range is read unsigned, if no cell is negative or missing. -/
def unsignedColumn (hasMissing : Bool) (cells : List String) : WholeColumn :=
  let read := cells.map unsignedCell
  let values := read.filterMap WholeCell.value?
  let hasNegative := read.contains .negative
  match read.find? fun c => c = .tooLarge || c = .other with
  | some .tooLarge => .texts
  | some _ => .other
  | none =>
    if (values.any fun n => twoTo 63 ≤ n) && (hasNegative || hasMissing) then .rawTexts
    else if hasNegative then .texts
    else .integers values

/-- The cells of a column that are not missing, read as integers. The first one that is none
decides against integers, unless it begins with too large a number. -/
def wholeColumn (hasMissing : Bool) (cells : List String) : WholeColumn :=
  let read := cells.map signedCell
  match read.find? fun c => c.value?.isNone with
  | none => .integers (read.filterMap WholeCell.value?)
  | some .tooLarge => unsignedColumn hasMissing cells
  | some _ => .other

def keptDigits : Nat := 17

def powerOfTen (n : Nat) : Binary64 := Binary64.ofRatio false (tenTo n) 1

/-- Digits are taken one by one, each step rounded. -/
def accumulate (digits : List Char) : Binary64 :=
  digits.foldl (fun x c =>
    let scaled := Binary64.mul x (Binary64.ofInt 10)
    Binary64.ofRatio false
      (scaled.ratio.1 + digitValue c * scaled.ratio.2) scaled.ratio.2) (Binary64.zero false)

/-- Scaling by a power of ten in one step, or in two where one would leave the range. -/
def scale (x : Binary64) (exponent : Int) : Option Binary64 :=
  if 308 < exponent then none
  else
    let result :=
      if 0 ≤ exponent then Binary64.mul x (powerOfTen exponent.toNat)
      else if exponent < -616 then Binary64.zero x.isNegative
      else if exponent < -308 then
        Binary64.div (Binary64.div x (powerOfTen (-308 - exponent).toNat)) (powerOfTen 308)
      else Binary64.div x (powerOfTen (-exponent).toNat)
    if result.isFinite then some result else none

def floatWord? (negative : Bool) (cs : List Char) : Option Binary64 :=
  let word := cs.map Char.toLower
  if word = "inf".toList || word = "infinity".toList then some (Binary64.infinity negative)
  else none

/-- An exponent has 32 bits. -/
def wrapped (n : Int) : Int := Int.bmod n (twoTo 32)

def readExponent (cs : List Char) : Int × List Char :=
  match cs with
  | mark :: rest =>
    if mark = 'e' || mark = 'E' then
      let (negative, rest) := splitSign rest
      let digits := (spanDigits rest).1.take keptDigits
      if digits.isEmpty then (0, cs)
      else
        let size : Int := number digits
        (if negative then -wrapped size else wrapped size, rest.drop digits.length)
    else (0, cs)
  | [] => (0, cs)

/-- A float of a cell. No more than 17 digits count, and the result is that of rounded steps,
not always the nearest float. -/
def floatCell? (cell : String) : Option Binary64 :=
  let (negative, cs) := splitSign cell.toList
  match floatWord? negative cs with
  | some x => some x
  | none => do
    let (negative, cs) := splitSign (trim isSpace cell.toList)
    let (whole, rest) := spanDigits cs
    let (places, rest) := match rest with
      | '.' :: rest => spanDigits rest
      | _ => ([], rest)
    if whole.isEmpty && places.isEmpty then none
    else
      let (power, []) := readExponent rest | none
      let kept := whole.take keptDigits
      let keptPlaces := places.take (keptDigits - kept.length)
      let size := accumulate (kept ++ keptPlaces)
      let exponent : Int := (whole.length - kept.length : Nat) - (keptPlaces.length : Int)
      let signed := if negative then Binary64.withSign true size.bits.toNat else size
      scale signed (wrapped (exponent + power))

def boolCell? (cell : String) : Option Bool :=
  match lower cell with
  | "true" => some true
  | "false" => some false
  | _ => none

/-- A float as a value; a whole one is an integer. -/
def floatValue (x : Binary64) : Value :=
  match x.toInt? with
  | some n => .int n
  | none => .float x

/-- Integers in a column with gaps go through floats, where the lowest one marks a gap. -/
def gappedInt (n : Int) : Option Value :=
  let x := Binary64.ofInt n
  if x.toInt? = some (-(twoTo 63 : Int)) then none else some (floatValue x)

def fill : List String → List (Option Value) → List (Option Value)
  | [], _ => []
  | cell :: rest, values =>
    if isMissing cell then none :: fill rest values
    else match values with
      | v :: values => v :: fill rest values
      | [] => none :: fill rest []

def columnValues (cells : List String) : List (Option Value) :=
  let present := cells.filter fun c => !isMissing c
  let hasMissing := present.length != cells.length
  let texts := fill cells (present.map fun c => some (.str c))
  match wholeColumn hasMissing present with
  | .integers values =>
    fill cells (values.map fun n => if hasMissing then gappedInt n else some (.int n))
  | .texts => texts
  | .rawTexts => cells.map fun c => some (.str c)
  | .other =>
    match present.mapM floatCell? with
    | some floats => fill cells (floats.map fun x => some (floatValue x))
    | none => match present.mapM boolCell? with
      | some bools => fill cells (bools.map fun b => some (.bool b))
      | none => texts

end Csv

namespace CsvTable

def column (t : CsvTable) (position : Nat) : List (Option Value) :=
  Csv.columnValues (t.rows.map fun row => row.getD position "")

def columns (t : CsvTable) : List (List (Option Value)) :=
  (List.range t.names.length).map t.column

def records (t : CsvTable) : List (List (String × Value)) :=
  let columns := t.columns
  (List.range t.rows.length).map fun n =>
    (t.names.zip columns).filterMap fun (name, values) =>
      ((values[n]?).getD none).map fun v => (name, v)

end CsvTable

end FactModel
