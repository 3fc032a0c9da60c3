import FactModel.Reading

/-!
Populations: sample instances of objects and tuples of fact types. The instances of an object
form a set, told apart by their encodings.
-/

namespace FactModel

/-- A tuple of a fact type: values by predicator id; roles may be left out. -/
abbrev Tuple := OrderedMap Value

namespace Tuple

/-- The value of a role; an absent role counts as null. -/
def role (t : Tuple) (predicator : String) : Value := (t.find? predicator).getD .null

def filled? (t : Tuple) (predicator : String) : Option Value :=
  match t.find? predicator with
  | some .null => none
  | value => value

def toValue (t : Tuple) : Value := .obj t.entries

end Tuple

structure Population where
  schemaId : Option String
  objects : OrderedMap (List Value)
  facts : OrderedMap (List Tuple)

namespace Population

def empty : Population := ⟨none, ∅, ∅⟩

/-- The values whose encodings are neither in `seen` nor earlier in the list. -/
def distinctFrom (seen : List String) : List Value → List Value
  | [] => []
  | v :: rest =>
    if seen.contains v.encode then distinctFrom seen rest
    else v :: distinctFrom (v.encode :: seen) rest

def distinct (values : List Value) : List Value := distinctFrom [] values

def ofInstances (schemaId : Option String) (objects : OrderedMap (List Value))
    (facts : OrderedMap (List Tuple)) : Population :=
  ⟨schemaId, objects.mapValues fun _ values => distinct values, facts⟩

def instances? (p : Population) (object : String) : Option (List Value) := p.objects.find? object

def tuples? (p : Population) (factType : String) : Option (List Tuple) := p.facts.find? factType

def addInstance (p : Population) (object : String) (added : Value) : Population :=
  let values := (p.instances? object).getD []
  let values :=
    if values.any fun v => v.encode == added.encode then values else values ++ [added]
  { p with objects := p.objects.insert object values }

def addTuple (p : Population) (factType : String) (tuple : Tuple) : Population :=
  { p with facts := p.facts.insert factType ((p.tuples? factType).getD [] ++ [tuple]) }

def clear (p : Population) : Population := { p with objects := ∅, facts := ∅ }

open Value in
def objectValues (p : Population) : List (String × Value) :=
  p.objects.entries.map fun pair => (pair.1, arr pair.2)

open Value in
def factValues (p : Population) : List (String × Value) :=
  p.facts.entries.map fun pair => (pair.1, arr (pair.2.map Tuple.toValue))

open Value in
def toValue (p : Population) : Value := obj [
  ("schema_id", ofOption str p.schemaId),
  ("object_populations", obj p.objectValues),
  ("fact_populations", obj p.factValues)]

open Value in
def read : Value → Reading Population := readRecord fun f =>
  ofInstances
  <$> f.nullable "schema_id" readText
  <*> f.optional "object_populations" ∅ (readMap (readList readAny))
  <*> f.optional "fact_populations" ∅ (readMap (readList (readMap readAny)))

end Population

end FactModel
