import FactModel.Text.Blank
import FactModel.Value.Parser

/-!
Reading typed data out of a free value. A reading yields the datum, or every problem found, each
with its location. Numbers and truth values may be written as texts, and whole floats as
integers.
-/

namespace FactModel

inductive PathStep where
  | key (name : String)
  | index (n : Nat)
deriving DecidableEq

inductive ProblemKind where
  | missing
  | textType
  | intType
  | intParsing
  | intSize
  | intFromFloat
  | finiteNumber
  | floatType
  | floatParsing
  | boolType
  | boolParsing
  | literal
  | listType
  | mapType
  | recordType
  | pathType
  | document
deriving DecidableEq

def ProblemKind.code : ProblemKind → String
  | missing => "missing"
  | textType => "string_type"
  | intType => "int_type"
  | intParsing => "int_parsing"
  | intSize => "int_parsing_size"
  | intFromFloat => "int_from_float"
  | finiteNumber => "finite_number"
  | floatType => "float_type"
  | floatParsing => "float_parsing"
  | boolType => "bool_type"
  | boolParsing => "bool_parsing"
  | literal => "literal_error"
  | listType => "list_type"
  | mapType => "dict_type"
  | recordType => "model_type"
  | pathType => "path_type"
  | document => "json_invalid"

structure Problem where
  location : List PathStep
  kind : ProblemKind
deriving DecidableEq

inductive Reading (α : Type) where
  | ok (value : α)
  | bad (problems : List Problem)

namespace Reading

variable {α β : Type}

def fail (kind : ProblemKind) : Reading α := bad [⟨[], kind⟩]

def map (f : α → β) : Reading α → Reading β
  | ok a => ok (f a)
  | bad problems => bad problems

/-- Problems of both sides are kept. -/
def seq (f : Reading (α → β)) (a : Unit → Reading α) : Reading β :=
  match f, a () with
  | ok f, ok a => ok (f a)
  | ok _, bad q => bad q
  | bad p, ok _ => bad p
  | bad p, bad q => bad (p ++ q)

instance : Applicative Reading where
  pure := ok
  map := map
  seq := seq

def within (step : PathStep) : Reading α → Reading α
  | ok a => ok a
  | bad problems => bad (problems.map fun p => { p with location := step :: p.location })

def toExcept : Reading α → Except (List Problem) α
  | ok a => .ok a
  | bad problems => .error problems

def value? : Reading α → Option α
  | ok a => some a
  | bad _ => none

def all (f : Nat → α → Reading β) : Nat → List α → Reading (List β)
  | _, [] => ok []
  | n, a :: rest => (· :: ·) <$> (f n a).within (.index n) <*> all f (n + 1) rest

end Reading

namespace Value

open Text

def readText : Value → Reading String
  | str s => .ok s
  | _ => .fail .textType

/-- Drops zeros in front of a number, and underscores among them, up to its last character. -/
def dropLeadingZeros : List Char → Option (List Char)
  | [] => none
  | '0' :: rest =>
    match rest.dropWhile fun c => c == '0' || c == '_' with
    | [] => ('0' :: rest).getLast?.map ([·])
    | c :: tail => if isDigit c || c == '-' then some (c :: tail) else none
  | c :: rest => if isDigit c then some (c :: rest) else none

def dropZeroPlaces (cs : List Char) : List Char :=
  match cs.span (· != '.') with
  | (whole, '.' :: '0' :: places) => if places.all (· == '0') then whole else cs
  | _ => cs

def hasDoubleUnderscore : List Char → Bool
  | '_' :: '_' :: _ => true
  | _ :: rest => hasDoubleUnderscore rest
  | [] => false

/-- Underscores are allowed one by one inside a number. -/
def dropUnderscores (cs : List Char) : Option (List Char) :=
  if cs.head? = some '_' || cs.getLast? = some '_' || hasDoubleUnderscore cs then none
  else some (cs.filter (· != '_'))

def maxDigits : Nat := 4300

/-- An integer in plain digits with a minus sign at most. Too many digits are a problem of their
own, whatever follows them. -/
def plainInt (cs : List Char) : Reading Int :=
  let (negative, cs) := match cs with
    | '-' :: rest => (true, rest)
    | _ => (false, cs)
  match readWhole cs with
  | none => .fail .intParsing
  | some (digits, rest) =>
    if maxDigits < digits.length then .fail .intSize
    else if !rest.isEmpty then .fail .intParsing
    else
      let size : Int := number digits
      .ok (if negative then -size else size)

def plainDigits (cs : List Char) : Option (List Char) :=
  (dropLeadingZeros (dropZeroPlaces cs)).bind dropUnderscores

def plainForm : List Char → Option (List Char)
  | '+' :: '-' :: _ => none
  | '+' :: rest => plainDigits rest
  | '-' :: rest => (plainDigits rest).map ('-' :: ·)
  | cs => plainDigits cs

/-- An integer written as a text, with blanks, a sign, zeros and underscores around its digits. -/
def intOfText (s : String) : Reading Int :=
  let cs := trim isWhiteSpace s.toList
  match plainInt cs, plainForm cs with
  | .ok n, _ => .ok n
  | .bad problems, none => .bad problems
  | .bad problems, some plain =>
    if problems = [⟨[], .intSize⟩] then .bad problems else plainInt plain

def fitsSigned (n : Int) : Bool := -(twoTo 63 : Int) ≤ n && n < twoTo 63

/-- A float that is to be an integer lies strictly between the signed 64-bit bounds. -/
def wholeFloat? (x : Binary64) : Option Int :=
  x.toInt?.filter fun n => n.natAbs < twoTo 63

def readInt : Value → Reading Int
  | int n => .ok n
  | bool b => .ok (if b then 1 else 0)
  | float x =>
    if !x.isFinite then .fail .finiteNumber
    else if x.toInt?.isNone then .fail .intFromFloat
    else match wholeFloat? x with
      | some n => .ok n
      | none => .fail .intSize
  | str s => intOfText s
  | _ => .fail .intType

/-- A float written as a text: digits with an optional point and exponent, or a word for what
is not a number. -/
def unsignedFloat? (negative : Bool) (cs : List Char) : Option Binary64 :=
  let word := cs.map Char.toLower
  if word = "nan".toList then some Binary64.nan
  else if word = "inf".toList || word = "infinity".toList then some (Binary64.infinity negative)
  else do
    let (whole, rest) := spanDigits cs
    let (places, rest) := match rest with
      | '.' :: rest => spanDigits rest
      | _ => ([], rest)
    if whole.isEmpty && places.isEmpty then none
    else
      let (power, []) ← readPower rest | none
      some (Binary64.ofDecimal negative (number (whole ++ places))
        (power.getD 0 - places.length))

def signedFloat? : List Char → Option Binary64
  | '-' :: rest => unsignedFloat? true rest
  | '+' :: rest => unsignedFloat? false rest
  | cs => unsignedFloat? false cs

/-- A float written as a text, with blanks around it or underscores in it. -/
def floatOfText? (s : String) : Option Binary64 :=
  (signedFloat? (trim isWhiteSpace s.toList)).orElse fun _ =>
    (dropUnderscores s.toList).bind signedFloat?

def readFloat : Value → Reading Binary64
  | float x => .ok x
  | int n => .ok (Binary64.ofInt n)
  | bool b => .ok (Binary64.ofInt (if b then 1 else 0))
  | str s => match floatOfText? s with
    | some x => .ok x
    | none => .fail .floatParsing
  | _ => .fail .floatType

/-- A float, where an integer has to lie in the range of floats. -/
def readRangedFloat : Value → Reading Binary64
  | int n => if (Binary64.ofInt n).isFinite then .ok (Binary64.ofInt n) else .fail .floatType
  | v => readFloat v

def falseWords : List String := ["0", "off", "f", "false", "n", "no"]

def trueWords : List String := ["1", "on", "t", "true", "y", "yes"]

def boolOfInt? (n : Int) : Option Bool :=
  if n = 0 then some false else if n = 1 then some true else none

def boolOfText? (s : String) : Option Bool :=
  if falseWords.contains (lower s) then some false
  else if trueWords.contains (lower s) then some true
  else none

/-- Of the numbers, zero and one are truth values. One with a fraction or beyond 64 bits has the
wrong type; any other has the wrong content. -/
def readBool : Value → Reading Bool
  | bool b => .ok b
  | int n => if fitsSigned n then ofBool? (boolOfInt? n) else .fail .boolType
  | float x => match wholeFloat? x with
    | some n => ofBool? (boolOfInt? n)
    | none => .fail .boolType
  | str s => ofBool? (boolOfText? s)
  | _ => .fail .boolType
where
  ofBool? : Option Bool → Reading Bool
    | some b => .ok b
    | none => .fail .boolParsing

def readWordOf {α : Type} (ofText? : String → Option α) : Value → Reading α
  | str s => match ofText? s with
    | some a => .ok a
    | none => .fail .literal
  | _ => .fail .literal

def readList {α : Type} (read : Value → Reading α) : Value → Reading (List α)
  | arr items => Reading.all (fun _ v => read v) 0 items
  | _ => .fail .listType

def readPairs {α : Type} (read : Value → Reading α) :
    List (String × Value) → Reading (List (String × α))
  | [] => .ok []
  | (key, v) :: rest =>
    (fun a tail => (key, a) :: tail) <$> (read v).within (.key key) <*> readPairs read rest

def readMap {α : Type} (read : Value → Reading α) : Value → Reading (OrderedMap α)
  | obj fields => OrderedMap.ofList <$> readPairs read fields
  | _ => .fail .mapType

def readNullable {α : Type} (read : Value → Reading α) : Value → Reading (Option α)
  | null => .ok none
  | v => some <$> read v

def readAny (v : Value) : Reading Value := .ok v.settled

def readOpenMap : Value → Reading (List (String × Value))
  | obj fields => .ok (settledFields fields []).reverse
  | _ => .fail .mapType

def readTexts : Value → Reading (List String) := readList readText

end Value

abbrev Fields := List (String × Value)

namespace Fields

/-- The value of a field; of a field that is repeated, the last one. -/
def value? (fields : Fields) (name : String) : Option Value := fields.reverse.lookup name

def locate? (fields : Fields) (names : List String) : Option (String × Value) :=
  names.findSome? fun name => (fields.value? name).map ((name, ·))

def requiredAs {α : Type} (fields : Fields) (names : List String) (read : Value → Reading α) :
    Reading α :=
  match fields.locate? names with
  | some (name, v) => (read v).within (.key name)
  | none => (Reading.fail .missing).within (.key (names.headD ""))

def optionalAs {α : Type} (fields : Fields) (names : List String) (default : α)
    (read : Value → Reading α) : Reading α :=
  match fields.locate? names with
  | some (name, v) => (read v).within (.key name)
  | none => .ok default

def required {α : Type} (fields : Fields) (name : String) (read : Value → Reading α) :
    Reading α := fields.requiredAs [name] read

def optional {α : Type} (fields : Fields) (name : String) (default : α)
    (read : Value → Reading α) : Reading α := fields.optionalAs [name] default read

def nullable {α : Type} (fields : Fields) (name : String) (read : Value → Reading α) :
    Reading (Option α) := fields.optional name none (Value.readNullable read)

def tag (fields : Fields) (name word : String) : Reading Unit :=
  fields.optional name () (Value.readWordOf fun s => if s = word then some () else none)

end Fields

def Value.readRecord {α : Type} (read : Fields → Reading α) : Value → Reading α
  | .obj fields => read fields
  | _ => .fail .recordType

def documentLimits : Value.Limits := ⟨200, Value.maxDigits⟩

def Reading.ofDocument {α : Type} (read : Value → Reading α) (text : String) : Reading α :=
  match Value.parse? documentLimits text with
  | some v => read v
  | none => .fail .document

end FactModel
