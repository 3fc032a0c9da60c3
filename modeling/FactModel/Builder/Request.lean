import FactModel.Builder

/-!
Requests to a builder: the name of an operation and its arguments as free values. An argument
that is empty, zero or false counts as not given where a default stands for it.
-/

namespace FactModel

/-- An operation of a builder by name. -/
inductive Operation where
  | addEntity
  | addLabelType
  | addPowerType
  | addSequenceType
  | addFactType
  | addUnaryFactType
  | addBinaryFactType
  | specialize
  | objectify
  | addUnique
  | addMandatory
  | addSetConstraint
  | addCardinality
  | addFrequency
  | addEnumeration
  | addCustom
  | removeObject
  | removeFactType
  | removeConstraint
  | build
deriving DecidableEq

namespace Operation

def names : List (String × Operation) := [
  ("add_entity", addEntity),
  ("add_label_type", addLabelType),
  ("add_power_type", addPowerType),
  ("add_sequence_type", addSequenceType),
  ("add_fact_type", addFactType),
  ("add_unary_fact_type", addUnaryFactType),
  ("add_binary_fact_type", addBinaryFactType),
  ("specialize", specialize),
  ("objectify", objectify),
  ("add_unique", addUnique),
  ("add_mandatory", addMandatory),
  ("add_set_constraint", addSetConstraint),
  ("add_cardinality", addCardinality),
  ("add_frequency", addFrequency),
  ("add_enumeration", addEnumeration),
  ("add_custom", addCustom),
  ("remove_object", removeObject),
  ("remove_fact_type", removeFactType),
  ("remove_constraint", removeConstraint),
  ("build", build)]

def ofName? (s : String) : Option Operation := names.lookup s

def required : Operation → List String
  | addEntity => []
  | addLabelType => []
  | addPowerType => ["element_type_id"]
  | addSequenceType => ["element_type_id"]
  | addFactType => ["object_ids"]
  | addUnaryFactType => ["object_id", "name"]
  | addBinaryFactType => ["name", "first_object_id", "second_object_id"]
  | specialize => ["child_id", "parent_id"]
  | objectify => ["fact_type_id"]
  | addUnique => ["predicator_ids"]
  | addMandatory => ["predicator_id"]
  | addSetConstraint => ["kind", "source_predicator_ids", "target_predicator_ids"]
  | addCardinality => ["predicator_id"]
  | addFrequency => ["fact_type_id"]
  | addEnumeration => ["label_type_id", "allowed_values"]
  | addCustom => ["kind", "applies_to"]
  | removeObject => ["object_id"]
  | removeFactType => ["fact_type_id"]
  | removeConstraint => ["constraint_id"]
  | build => []

def optional : Operation → List String
  | addEntity => ["name", "id"]
  | addLabelType =>
    ["name", "data_type", "id", "enumeration", "min_value", "max_value", "pattern"]
  | addPowerType => ["name", "id"]
  | addSequenceType => ["name", "id", "allows_duplicates"]
  | addFactType => ["name", "role_names", "optional", "id"]
  | addBinaryFactType => ["first_role", "second_role"]
  | objectify => ["name", "id"]
  | addUnique => ["name", "is_primary", "id"]
  | addMandatory => ["name"]
  | addSetConstraint => ["name"]
  | addCardinality => ["min", "max", "name"]
  | addFrequency => ["min", "max", "name"]
  | addEnumeration => ["name"]
  | addCustom => ["name", "description", "parameters"]
  | _ => []

def checkArguments (op : Operation) (name : String) (f : Fields) : Except ArgumentError Unit :=
  let known := op.required ++ op.optional
  match f.find? fun pair => !known.contains pair.1 with
  | some pair => .error (.unexpected name pair.1)
  | none =>
    let missing := op.required.filter fun name => (f.lookup name).isNone
    if missing.isEmpty then .ok () else .error (.missing name missing)

def mapping? : Operation → Option String
  | addEntity => some "entities"
  | objectify => some "entities"
  | addLabelType => some "label_types"
  | addPowerType => some "power_types"
  | addSequenceType => some "sequence_types"
  | addFactType => some "fact_types"
  | addUnaryFactType => some "fact_types"
  | addBinaryFactType => some "fact_types"
  | addUnique => some "unique_constraints"
  | addMandatory => some "total_role_constraints"
  | addSetConstraint => some "set_constraints"
  | addCardinality => some "cardinality_constraints"
  | addFrequency => some "frequency_constraints"
  | addEnumeration => some "enumeration_constraints"
  | addCustom => some "custom_constraints"
  | _ => none

end Operation

namespace Fields

def get (f : Fields) (name : String) : Value := (f.lookup name).getD .null

def text (f : Fields) (name : String) : String := (f.get name).plain

def id (f : Fields) (name : String) : GivenId := .ofValue (f.get name)

def given? (f : Fields) (name : String) : Option (Reading String) :=
  if (f.get name).isEmpty then none else some (f.get name).readText

/-- A wish for yes or no, where any value that is not empty means yes. -/
def wish? (f : Fields) (name : String) : Option Bool :=
  match f.get name with
  | .null => none
  | v => some !v.isEmpty

def textOr (f : Fields) (name default : String) : Reading String :=
  match f.lookup name with
  | some v => v.readText
  | none => .ok default

def wishes {α : Type} (f : Fields) (name : String) (read : Value → Reading α) : RoleWishes α :=
  match f.get name with
  | .arr (item :: rest) => .ofList ((item :: rest).map read)
  | .str s =>
    if s.isEmpty then .none
    else fun position => match (Value.str s).members[position]? with
      | some c => .ok (some (read c))
      | none => .error .missingCharacter
  | v =>
    if v.isEmpty then .none
    else fun position => match v with
      | .obj _ => .error (.keyNotFound (toString position))
      | v => .error (.argument (.notIndexed v.typeName))

/-- A bound of values, where an integer has to lie in the range of floats. -/
def readBound (v : Value) : Reading RangeBound := .float <$> v.readRangedFloat

def facets (f : Fields) : Reading LabelFacets :=
  LabelFacets.mk
  <$> f.optional "data_type" .string DataType.read
  <*> f.nullable "enumeration" (Value.readList Value.readAny)
  <*> f.nullable "min_value" readBound
  <*> f.nullable "max_value" readBound
  <*> f.nullable "pattern" Value.readText

end Fields

namespace Builder

open Edit

def givenIds (v : Except ArgumentError (List Value)) : Edit (List GivenId) :=
  return (← argument v).map GivenId.ofValue

/-- Performs an operation, and yields the element it made or changed. -/
def perform (f : Fields) : Operation → Edit Value
  | .addEntity => return (← addEntity (f.given? "name") (f.given? "id")).toValue
  | .addLabelType =>
    return (← addLabelType (f.given? "name") (f.given? "id") f.facets).toValue
  | .addPowerType =>
    return (← addPowerType (f.id "element_type_id") (f.given? "name") (f.given? "id")).toValue
  | .addSequenceType => do
    let duplicates := match f.lookup "allows_duplicates" with
      | some v => v.readBool
      | none => .ok false
    return (← addSequenceType (f.id "element_type_id") (f.given? "name") (f.given? "id")
      duplicates).toValue
  | .addFactType => do
    let objects ← givenIds (f.get "object_ids").iterated
    return (← addFactType objects (f.given? "name") (f.wishes "role_names" Value.readText)
      (f.wishes "optional" Value.readBool) (f.given? "id")).toValue
  | .addUnaryFactType =>
    return (← addFactType [f.id "object_id"] (f.given? "name")
      (.ofList [(f.get "name").readText]) .none none).toValue
  | .addBinaryFactType =>
    return (← addFactType [f.id "first_object_id", f.id "second_object_id"] (f.given? "name")
      (.ofList [f.textOr "first_role" "source", f.textOr "second_role" "target"])
      .none none).toValue
  | .specialize => return (← specialize (f.id "child_id") (f.id "parent_id")).toValue
  | .objectify =>
    return (← objectify (f.id "fact_type_id") (f.given? "name") (f.given? "id")).toValue
  | .addUnique => do
    let v := f.get "predicator_ids"
    let predicators ← if v.isEmpty then pure [] else givenIds v.iterated
    return (← addUnique predicators (f.given? "name") (f.wish? "is_primary")
      (f.given? "id")).toValue
  | .addMandatory => return (← addMandatory (f.id "predicator_id") (f.given? "name")).toValue
  | .addSetConstraint => do
    let source ← givenIds (f.get "source_predicator_ids").spread
    let target ← givenIds (f.get "target_predicator_ids").spread
    return (← addSetConstraint (SetKind.read (f.get "kind")) source target
      (f.given? "name")).toValue
  | .addCardinality =>
    return (← addCardinality (f.id "predicator_id") (Bounds.read f) (f.given? "name")).toValue
  | .addFrequency =>
    return (← addFrequency (f.id "fact_type_id") (Bounds.read f) (f.given? "name")).toValue
  | .addEnumeration =>
    return (← addEnumeration (f.id "label_type_id") (f.get "allowed_values").iterated
      (f.given? "name")).toValue
  | .addCustom =>
    let parameters :=
      if (f.get "parameters").isEmpty then .ok [] else (f.get "parameters").readOpenMap
    return (← addCustom (f.get "kind").readText (f.get "applies_to") (f.given? "name")
      (f.textOr "description" "") parameters).toValue
  | .removeObject => do
    removeObject (f.id "object_id")
    return .null
  | .removeFactType => do
    removeFactType (f.id "fact_type_id")
    return .null
  | .removeConstraint => do
    removeConstraint (f.id "constraint_id")
    return .null
  | .build => return .null

/-- A builder of an empty schema of a name; without one it has the default name. -/
def create (name : Value) (defaultName version : String) (counter : NameCounter) :
    Reading Builder :=
  let make := fun (id name : String) =>
    (⟨{ id := id, name := name, version := version }, counter, [], []⟩ : Builder)
  if name.isEmpty then .ok (make defaultName defaultName)
  else make <$> name.readText.within (.key "id") <*> name.readText.within (.key "name")

end Builder

end FactModel
