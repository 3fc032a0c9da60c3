import FactModel.Schema.Document
import FactModel.Value.Loose

/-!
Assigning to a field of an element directly. Any value is taken for what it says: as a text, as a
truth value, as a list, or as a bound.
-/

namespace FactModel

inductive AssignmentError where
  | noMapping (name : String)
  | keyNotFound (key : String)
  | noField (element field : String)
  | derivedField (element field : String)

namespace AssignmentError

def message : AssignmentError → String
  | noMapping name => s!"'InformationSchema' object has no attribute '{name}'"
  | keyNotFound key => key
  | noField element field => s!"\"{element}\" object has no field \"{field}\""
  | derivedField element field => s!"property '{field}' of '{element}' object has no setter"

end AssignmentError

/-- A value that was assigned to a field, where it shows as it was given. -/
structure AssignedValue where
  mapping : String
  key : String
  field : String
  value : Value

namespace Value

def withField (target : Value) (key : String) (value : Value) : Value :=
  match target with
  | obj fields => obj (putPair key value fields)
  | v => v

def nameText : Value → String
  | null => ""
  | v => v.plain

def textList (v : Value) : List String := v.members.map plain

def text? : Value → Option String
  | str s => some s
  | _ => none

def int? : Value → Option Int
  | int n => some n
  | _ => none

def isTrue (v : Value) : Bool := !v.isEmpty

def wholeOfText? (s : String) : Option Int :=
  let (negative, cs) := match Text.trim Text.isBlank s.toList with
    | '-' :: rest => (true, rest)
    | '+' :: rest => (false, rest)
    | cs => (false, cs)
  (dropUnderscores cs).bind fun digits =>
    let size : Int := Text.number digits
    if digits.isEmpty || !digits.all Text.isDigit then none
    else some (if negative then -size else size)

/-- The bound of values that a value says; a whole number has any size. -/
def rangeBound? : Value → Option RangeBound
  | float x => some (.float x)
  | int n => some (.int n)
  | bool b => some (.int (if b then 1 else 0))
  | str s => (floatOfText? s).map fun x => match wholeOfText? s, x.toInt? with
    | some n, some _ => .int n
    | _, _ => .float x
  | _ => none

/-- An integer above all counts. -/
def beyondCounts : Int := twoTo 64

/-- The integer that bounds counts like the value: the next one upwards, or downwards. -/
def bound? (upwards : Bool) : Value → Option Int
  | int n => some n
  | bool b => some (if b then 1 else 0)
  | float x =>
    if x.isNaN then none
    else if !x.isFinite then some (if x.isNegative then -beyondCounts else beyondCounts)
    else some (if upwards then x.ceil else x.floor)
  | _ => none

end Value

open Value

namespace Entity

def assign (field : String) (v : Value) (e : Entity) : Option Entity :=
  match field with
  | "id" => some { e with id := v.plain }
  | "name" => some { e with name := v.nameText }
  | "kind" => some e
  | "identifiers" => some { e with identifiers := v.textList }
  | "specialization_of" => some { e with specializationOf := v.textList }
  | "objectified_fact_type_id" => some { e with objectifiedFactTypeId := v.text? }
  | "is_abstract" => some { e with isAbstract := v.isTrue }
  | _ => none

end Entity

namespace LabelType

def assign (field : String) (v : Value) (l : LabelType) : Option LabelType :=
  match field with
  | "id" => some { l with id := v.plain }
  | "name" => some { l with name := v.nameText }
  | "kind" => some l
  | "data_type" => some { l with dataType := DataType.ofName v.plain }
  | "enumeration" => some { l with enumeration := v.members? }
  | "min_value" => some { l with minValue := v.rangeBound? }
  | "max_value" => some { l with maxValue := v.rangeBound? }
  | "pattern" => some { l with pattern := v.text? }
  | _ => none

end LabelType

namespace PowerType

def assign (field : String) (v : Value) (p : PowerType) : Option PowerType :=
  match field with
  | "id" => some { p with id := v.plain }
  | "name" => some { p with name := v.nameText }
  | "kind" => some p
  | "element_type_id" => some { p with elementTypeId := v.plain }
  | _ => none

end PowerType

namespace SequenceType

def assign (field : String) (v : Value) (q : SequenceType) : Option SequenceType :=
  match field with
  | "id" => some { q with id := v.plain }
  | "name" => some { q with name := v.nameText }
  | "kind" => some q
  | "element_type_id" => some { q with elementTypeId := v.plain }
  | "is_ordered" => some { q with isOrdered := v.isTrue }
  | "allows_duplicates" => some { q with allowsDuplicates := v.isTrue }
  | _ => none

end SequenceType

namespace FactType

def assign (field : String) (v : Value) (f : FactType) : Option FactType :=
  match field with
  | "id" => some { f with id := v.plain }
  | "name" => some { f with name := v.nameText }
  | "predicators" => some { f with predicators := v.textList }
  | "is_objectified" => some { f with isObjectified := v.isTrue }
  | "objectified_as_id" => some { f with objectifiedAsId := v.text? }
  | _ => none

def derivedFields : List String := ["arity", "is_unary"]

end FactType

namespace Predicator

/-- The position that a value other than an integer says. -/
def noPosition : Int := -1

def assign (field : String) (v : Value) (p : Predicator) : Option Predicator :=
  match field with
  | "id" => some { p with id := v.plain }
  | "name" => some { p with name := v.nameText }
  | "fact_type_id" => some { p with factTypeId := v.plain }
  | "position" => some { p with position := v.int?.getD noPosition }
  | "object_id" => some { p with objectId := v.plain }
  | "is_optional" => some { p with isOptional := v.isTrue }
  | _ => none

end Predicator

namespace UniqueConstraint

def assign (field : String) (v : Value) (c : UniqueConstraint) : Option UniqueConstraint :=
  match field with
  | "id" => some { c with id := v.plain }
  | "name" => some { c with name := v.plain }
  | "predicator_ids" => some { c with predicatorIds := v.textList }
  | "is_primary" => some { c with isPrimary := v.isTrue }
  | "is_preferred" => some { c with isPreferred := v.isTrue }
  | _ => none

end UniqueConstraint

namespace TotalRoleConstraint

def assign (field : String) (v : Value) (c : TotalRoleConstraint) : Option TotalRoleConstraint :=
  match field with
  | "id" => some { c with id := v.plain }
  | "name" => some { c with name := v.plain }
  | "predicator_id" => some { c with predicatorId := v.plain }
  | "object_id" => some { c with objectId := v.plain }
  | _ => none

end TotalRoleConstraint

namespace SetConstraint

def assign (field : String) (v : Value) (c : SetConstraint) : Option SetConstraint :=
  match field with
  | "id" => some { c with id := v.plain }
  | "name" => some { c with name := v.plain }
  | "kind" => some { c with kind := (SetKind.ofName? v.plain).getD (.other v.plain) }
  | "source_predicator_ids" => some { c with sourcePredicatorIds := v.textList }
  | "target_predicator_ids" => some { c with targetPredicatorIds := v.textList }
  | _ => none

end SetConstraint

namespace Bounds

def assign (field : String) (v : Value) (b : Bounds) : Option Bounds :=
  match field with
  | "min" => some { b with min := v.bound? true }
  | "max" => some { b with max := v.bound? false }
  | _ => none

end Bounds

namespace CardinalityConstraint

def assign (field : String) (v : Value) (c : CardinalityConstraint) :
    Option CardinalityConstraint :=
  match field with
  | "id" => some { c with id := v.plain }
  | "name" => some { c with name := v.plain }
  | "predicator_id" => some { c with predicatorId := v.plain }
  | field => (c.bounds.assign field v).map fun bounds => { c with bounds := bounds }

end CardinalityConstraint

namespace FrequencyConstraint

def assign (field : String) (v : Value) (c : FrequencyConstraint) : Option FrequencyConstraint :=
  match field with
  | "id" => some { c with id := v.plain }
  | "name" => some { c with name := v.plain }
  | "fact_type_id" => some { c with factTypeId := v.plain }
  | field => (c.bounds.assign field v).map fun bounds => { c with bounds := bounds }

end FrequencyConstraint

namespace EnumerationConstraint

def assign (field : String) (v : Value) (c : EnumerationConstraint) :
    Option EnumerationConstraint :=
  match field with
  | "id" => some { c with id := v.plain }
  | "name" => some { c with name := v.plain }
  | "label_type_id" => some { c with labelTypeId := v.plain }
  | "allowed_values" => some { c with allowedValues := v.members }
  | _ => none

end EnumerationConstraint

namespace CustomConstraint

def assign (field : String) (v : Value) (c : CustomConstraint) : Option CustomConstraint :=
  match field with
  | "id" => some { c with id := v.plain }
  | "name" => some { c with name := v.plain }
  | "kind" => some { c with kind := v.plain }
  | "description" => some { c with description := v.plain }
  | "applies_to" => some { c with appliesTo := v.textList }
  | "parameters" => some { c with parameters := match v with
    | .obj fields => fields
    | _ => [] }
  | _ => none

end CustomConstraint

namespace Schema

def assignIn {α : Type} (element field : String) (m : OrderedMap α) (key : String)
    (change : α → Option α) : Except AssignmentError (OrderedMap α) :=
  match m.find? key with
  | none => .error (.keyNotFound key)
  | some a => match change a with
    | some a => .ok (m.insert key a)
    | none =>
      if element = "FactType" && FactType.derivedFields.contains field then
        .error (.derivedField element field)
      else .error (.noField element field)

/-- The mapping of a key among all objects: of an id of several kinds that of the last one. -/
def objectMapping? (s : Schema) (key : String) : Option String :=
  if s.sequenceTypes.contains key then some "sequence_types"
  else if s.powerTypes.contains key then some "power_types"
  else if s.labelTypes.contains key then some "label_types"
  else if s.entities.contains key then some "entities"
  else none

/-- Assigns to a field of the element under a key of the mapping of a name. -/
def assign (s : Schema) (mapping key field : String) (v : Value) :
    Except AssignmentError Schema :=
  match mapping with
  | "entities" => return { s with
      entities := ← assignIn "Entity" field s.entities key (Entity.assign field v) }
  | "label_types" => return { s with
      labelTypes := ← assignIn "LabelType" field s.labelTypes key (LabelType.assign field v) }
  | "power_types" => return { s with
      powerTypes := ← assignIn "PowerType" field s.powerTypes key (PowerType.assign field v) }
  | "sequence_types" => return { s with
      sequenceTypes :=
        ← assignIn "SequenceType" field s.sequenceTypes key (SequenceType.assign field v) }
  | "fact_types" => return { s with
      factTypes := ← assignIn "FactType" field s.factTypes key (FactType.assign field v) }
  | "predicators" => return { s with
      predicators := ← assignIn "Predicator" field s.predicators key (Predicator.assign field v) }
  | "unique_constraints" => return { s with
      uniqueConstraints := ← assignIn "UniqueConstraint" field s.uniqueConstraints key
        (UniqueConstraint.assign field v) }
  | "total_role_constraints" => return { s with
      totalRoleConstraints := ← assignIn "TotalRoleConstraint" field s.totalRoleConstraints key
        (TotalRoleConstraint.assign field v) }
  | "set_constraints" => return { s with
      setConstraints := ← assignIn "SetConstraint" field s.setConstraints key
        (SetConstraint.assign field v) }
  | "cardinality_constraints" => return { s with
      cardinalityConstraints := ← assignIn "CardinalityConstraint" field
        s.cardinalityConstraints key (CardinalityConstraint.assign field v) }
  | "frequency_constraints" => return { s with
      frequencyConstraints := ← assignIn "FrequencyConstraint" field s.frequencyConstraints key
        (FrequencyConstraint.assign field v) }
  | "enumeration_constraints" => return { s with
      enumerationConstraints := ← assignIn "EnumerationConstraint" field
        s.enumerationConstraints key (EnumerationConstraint.assign field v) }
  | "custom_constraints" => return { s with
      customConstraints := ← assignIn "CustomConstraint" field s.customConstraints key
        (CustomConstraint.assign field v) }
  | name => .error (.noMapping name)

end Schema

end FactModel
