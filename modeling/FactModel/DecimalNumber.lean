import FactModel.Text.Blank
import FactModel.Text.DecimalDigit

/-!
Decimal numbers of any length, which keep the zeros at their end: `1.50` is not `1.5`.
-/

namespace FactModel

/-- The digits of a number without leading zeros, and the power of ten of the last one. -/
inductive DecimalNumber where
  | finite (negative : Bool) (digits : List Char) (exponent : Int)
  | infinite (negative : Bool)
  | notNumber (negative signaling : Bool) (digits : List Char)
deriving DecidableEq

inductive DecimalError where
  | malformed
  | outOfRange
deriving DecidableEq

namespace DecimalNumber

open Text

def maxExponent : Int := 999999999999999999

def minExponent : Int := -1999999999999999997

def readSign : List Char → Bool × List Char
  | '-' :: rest => (true, rest)
  | '+' :: rest => (false, rest)
  | cs => (false, cs)

def isMark (lower c : Char) : Bool := c.toLower == lower

def startsWith (word : String) (cs : List Char) : Bool :=
  word.toList.isPrefixOf (cs.map Char.toLower)

def trimZeros (digits : List Char) : List Char :=
  match digits.dropWhile (· == '0') with
  | [] => ['0']
  | rest => rest

/-- A power of ten after its mark; nothing stands for the power zero. -/
def readExponent? : List Char → Option Int
  | [] => some 0
  | c :: rest =>
    let (negative, digits) := readSign rest
    if isMark 'e' c && !digits.isEmpty && digits.all isDigit then
      some (if negative then -(number digits : Int) else number digits)
    else none

def readFinite? (negative : Bool) (cs : List Char) : Option DecimalNumber :=
  let (whole, rest) := spanDigits cs
  let (fraction, rest) := match rest with
    | '.' :: rest => spanDigits rest
    | rest => ([], rest)
  if whole.isEmpty && fraction.isEmpty then none
  else (readExponent? rest).map fun exponent =>
    finite negative (trimZeros (whole ++ fraction)) (exponent - fraction.length)

/-- What is no number may carry digits. -/
def readWord? (negative : Bool) (cs : List Char) : Option DecimalNumber :=
  let word := String.ofList (cs.map Char.toLower)
  if word == "inf" || word == "infinity" then some (infinite negative)
  else
    let signaling := startsWith "snan" cs
    let rest := cs.drop (if signaling then 4 else 3)
    if (signaling || startsWith "nan" cs) && rest.all isDigit then
      some (notNumber negative signaling (rest.dropWhile (· == '0')))
    else none

def isInRange : DecimalNumber → Bool
  | finite _ digits exponent =>
    minExponent ≤ exponent && exponent + digits.length - 1 ≤ maxExponent
  | _ => true

/-- Blanks around a number and underscores in it do not count; its digits may be of any script. -/
def parse (text : String) : Except DecimalError DecimalNumber :=
  let plain := ((trim isBlank text.toList).filter (· != '_')).map plainDigit
  let (negative, rest) := readSign plain
  match (readFinite? negative rest).orElse fun _ => readWord? negative rest with
  | some n => if n.isInRange then .ok n else .error .outOfRange
  | none => .error .malformed

/-- The least place of the first digit that is written without a power of ten. -/
def lowestPlace : Int := -6

def exponentText (n : Int) : List Char :=
  'E' :: (if n < 0 then '-' else '+') :: Nat.toDigits 10 n.natAbs

def placePoint (digits : List Char) (place : Int) : List Char :=
  if place ≤ 0 then '0' :: '.' :: List.replicate place.natAbs '0' ++ digits
  else
    let whole := digits.take place.toNat
    let fraction := digits.drop place.toNat
    if fraction.isEmpty then whole else whole ++ '.' :: fraction

/-- Positional where the last digit is not left of the point and the first not far right of it. -/
def sizeText (digits : List Char) (exponent : Int) : List Char :=
  let place := exponent + digits.length
  if exponent ≤ 0 && lowestPlace < place then placePoint digits place
  else
    let shown := placePoint digits 1
    if place = 1 then shown else shown ++ exponentText (place - 1)

def text (n : DecimalNumber) : List Char :=
  let signed := fun (negative : Bool) (size : List Char) => if negative then '-' :: size else size
  match n with
  | finite negative digits exponent => signed negative (sizeText digits exponent)
  | infinite negative => signed negative "Infinity".toList
  | notNumber negative signaling digits =>
    signed negative ((if signaling then "sNaN" else "NaN").toList ++ digits)

end DecimalNumber

end FactModel
