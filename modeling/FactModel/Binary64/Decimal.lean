import FactModel.Binary64

/-!
The decimal text of a binary64 number: the fewest digits that read back to it, laid out by a
`DecimalLayout`.
-/

namespace FactModel

namespace Binary64

/-- The numbers that round to a finite positive number, as numerators over a common
denominator. The ends belong to the interval when the mantissa is even. -/
structure RoundingInterval where
  low : Nat
  value : Nat
  high : Nat
  den : Nat
  closed : Bool

/-- Halves of the gaps to the neighbours; the gap below a power of two is half as wide. -/
def roundingInterval (x : Binary64) : RoundingInterval :=
  let scale := twoTo (x.power - 2).toNat
  let lowGap := if x.fraction = 0 && 1 < x.exponentField then 1 else 2
  { low := (4 * x.mantissa - lowGap) * scale
    value := 4 * x.mantissa * scale
    high := (4 * x.mantissa + 2) * scale
    den := twoTo (2 - x.power).toNat
    closed := x.mantissa % 2 = 0 }

namespace RoundingInterval

/-- Whether `digits · 10 ^ exponent` reads back to the number. -/
def contains (i : RoundingInterval) (digits : Nat) (exponent : Int) : Bool :=
  let point := digits * tenTo exponent.toNat * i.den
  let unit := tenTo (-exponent).toNat
  if i.closed then i.low * unit ≤ point && point ≤ i.high * unit
  else i.low * unit < point && point < i.high * unit

/-- The better of the two points around the value on the grid of step `10 ^ exponent`, among
those that read back. -/
def onGrid? (i : RoundingInterval) (exponent : Int) : Option Nat :=
  let unit := i.den * tenTo exponent.toNat
  let scaled := i.value * tenTo (-exponent).toNat
  let below := scaled / unit
  let nearest := roundHalfEven scaled unit
  if i.contains nearest exponent then some nearest
  else if i.contains below exponent then some below
  else if i.contains (below + 1) exponent then some (below + 1)
  else none

/-- The number of places before the point; negative or zero for numbers below one tenth. -/
def places (i : RoundingInterval) : Int :=
  if i.den ≤ i.value then (Nat.toDigits 10 (i.value / i.den)).length
  else
    match (List.range 400).find? fun j => i.den ≤ i.value * tenTo (j + 1) with
    | some j => -(j : Int)
    | none => -400

end RoundingInterval

def stripZeros : Nat → Nat → Int → Nat × Int
  | 0, digits, exponent => (digits, exponent)
  | fuel + 1, digits, exponent =>
    if digits % 10 = 0 && digits != 0 then stripZeros fuel (digits / 10) (exponent + 1)
    else (digits, exponent)

/-- Digits and exponent of the shortest decimal that reads back to a finite nonzero number. -/
def shortest (x : Binary64) : Nat × Int :=
  let i := x.roundingInterval
  let places := i.places
  let grids := (List.range 17).map fun n => places - (n + 1 : Nat)
  match grids.findSome? fun g => (i.onGrid? g).map fun digits => (digits, g) with
  | some (digits, exponent) => stripZeros 17 digits exponent
  | none => (0, 0)

end Binary64

/-- How decimals are written: the exponents that are written without an exponent part, the
least number of exponent digits, and the words for what is not a number. -/
structure DecimalLayout where
  leastPositional : Int
  greatestPositional : Int
  exponentWidth : Nat
  nan : String
  infinity : String
  negativeInfinity : String

namespace DecimalLayout

def zeros (n : Nat) : List Char := List.replicate n '0'

def positional (digits : List Char) (exponent : Int) : List Char :=
  let whole := digits.length + exponent
  if 0 ≤ exponent then digits ++ zeros exponent.toNat ++ ['.', '0']
  else if 0 < whole then digits.take whole.toNat ++ '.' :: digits.drop whole.toNat
  else '0' :: '.' :: zeros (-whole).toNat ++ digits

def exponential (layout : DecimalLayout) (digits : List Char) (scientific : Int) : List Char :=
  let power := Nat.toDigits 10 scientific.natAbs
  let lead := match digits with
    | [] => []
    | [d] => [d]
    | d :: rest => d :: '.' :: rest
  lead ++ 'e' :: (if scientific < 0 then '-' else '+') ::
    zeros (layout.exponentWidth - power.length) ++ power

def magnitude (layout : DecimalLayout) (x : Binary64) : List Char :=
  if x.mantissa = 0 then ['0', '.', '0']
  else
    let (number, exponent) := x.shortest
    let digits := Nat.toDigits 10 number
    let scientific := exponent + digits.length - 1
    if layout.leastPositional ≤ scientific && scientific ≤ layout.greatestPositional then
      positional digits exponent
    else layout.exponential digits scientific

def text (layout : DecimalLayout) (x : Binary64) : List Char :=
  if x.isNaN then layout.nan.toList
  else if x.isFinite then
    if x.isNegative then '-' :: layout.magnitude x else layout.magnitude x
  else if x.isNegative then layout.negativeInfinity.toList
  else layout.infinity.toList

end DecimalLayout

end FactModel
