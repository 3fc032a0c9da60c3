import FactModel.Schema
import FactModel.Reading

/-!
Schemas as documents: one object per element, one object of elements per mapping.
-/

namespace FactModel

open Value

def optionalText (s : Option String) : Value := ofOption str s

def optionalInt (n : Option Int) : Value := ofOption int n

namespace Entity

def toValue (e : Entity) : Value := obj [
  ("id", str e.id),
  ("name", str e.name),
  ("kind", str "Entity"),
  ("identifiers", strings e.identifiers),
  ("specialization_of", strings e.specializationOf),
  ("objectified_fact_type_id", optionalText e.objectifiedFactTypeId),
  ("is_abstract", bool e.isAbstract)]

def read : Value → Reading Entity := readRecord fun f =>
  (fun id name _ identifiers parents objectified isAbstract =>
    ⟨id, name, identifiers, parents, objectified, isAbstract⟩)
  <$> f.required "id" readText
  <*> f.required "name" readText
  <*> f.tag "kind" "Entity"
  <*> f.optional "identifiers" [] readTexts
  <*> f.optional "specialization_of" [] readTexts
  <*> f.nullable "objectified_fact_type_id" readText
  <*> f.optional "is_abstract" false readBool

end Entity

def DataType.read : Value → Reading DataType := readWordOf DataType.ofName?

namespace RangeBound

def toValue : RangeBound → Value
  | float x => .float x
  | int n => .int n

def read (v : Value) : Reading RangeBound := .float <$> readFloat v

end RangeBound

namespace LabelType

def toValue (l : LabelType) : Value := obj [
  ("id", str l.id),
  ("name", str l.name),
  ("kind", str "Label"),
  ("data_type", str l.dataType.name),
  ("enumeration", ofOption arr l.enumeration),
  ("min_value", ofOption RangeBound.toValue l.minValue),
  ("max_value", ofOption RangeBound.toValue l.maxValue),
  ("pattern", optionalText l.pattern)]

def read : Value → Reading LabelType := readRecord fun f =>
  (fun id name _ dataType enumeration least most pattern =>
    ⟨id, name, dataType, enumeration, least, most, pattern⟩)
  <$> f.required "id" readText
  <*> f.required "name" readText
  <*> f.tag "kind" "Label"
  <*> f.optional "data_type" .string DataType.read
  <*> f.nullable "enumeration" (readList readAny)
  <*> f.nullable "min_value" RangeBound.read
  <*> f.nullable "max_value" RangeBound.read
  <*> f.nullable "pattern" readText

end LabelType

namespace PowerType

def toValue (p : PowerType) : Value := obj [
  ("id", str p.id),
  ("name", str p.name),
  ("kind", str "Power"),
  ("element_type_id", str p.elementTypeId)]

def read : Value → Reading PowerType := readRecord fun f =>
  (fun id name _ element => ⟨id, name, element⟩)
  <$> f.required "id" readText
  <*> f.required "name" readText
  <*> f.tag "kind" "Power"
  <*> f.optional "element_type_id" "" readText

end PowerType

namespace SequenceType

def toValue (s : SequenceType) : Value := obj [
  ("id", str s.id),
  ("name", str s.name),
  ("kind", str "Sequence"),
  ("element_type_id", str s.elementTypeId),
  ("is_ordered", bool s.isOrdered),
  ("allows_duplicates", bool s.allowsDuplicates)]

def read : Value → Reading SequenceType := readRecord fun f =>
  (fun id name _ element ordered duplicates => ⟨id, name, element, ordered, duplicates⟩)
  <$> f.required "id" readText
  <*> f.required "name" readText
  <*> f.tag "kind" "Sequence"
  <*> f.optional "element_type_id" "" readText
  <*> f.optional "is_ordered" true readBool
  <*> f.optional "allows_duplicates" false readBool

end SequenceType

def ObjectType.toValue : ObjectType → Value
  | .entity e => e.toValue
  | .label l => l.toValue
  | .power p => p.toValue
  | .sequence s => s.toValue

namespace FactType

def toValue (f : FactType) : Value := obj [
  ("id", str f.id),
  ("name", str f.name),
  ("predicators", strings f.predicators),
  ("is_objectified", bool f.isObjectified),
  ("objectified_as_id", optionalText f.objectifiedAsId)]

def read : Value → Reading FactType := readRecord fun f =>
  FactType.mk
  <$> f.required "id" readText
  <*> f.required "name" readText
  <*> f.optional "predicators" [] readTexts
  <*> f.optional "is_objectified" false readBool
  <*> f.nullable "objectified_as_id" readText

end FactType

namespace Predicator

def toValue (p : Predicator) : Value := obj [
  ("id", str p.id),
  ("name", str p.name),
  ("fact_type_id", str p.factTypeId),
  ("position", int p.position),
  ("object_id", str p.objectId),
  ("is_optional", bool p.isOptional)]

def defaultName : String := "unnamed_role"

def read : Value → Reading Predicator := readRecord fun f =>
  Predicator.mk
  <$> f.required "id" readText
  <*> f.optional "name" defaultName readText
  <*> f.required "fact_type_id" readText
  <*> f.optional "position" 0 readInt
  <*> f.required "object_id" readText
  <*> f.optional "is_optional" true readBool

end Predicator

namespace UniqueConstraint

def defaultName : String := "Unique Constraint"

def toValue (c : UniqueConstraint) : Value := obj [
  ("id", str c.id),
  ("name", str c.name),
  ("predicator_ids", strings c.predicatorIds),
  ("is_primary", bool c.isPrimary),
  ("is_preferred", bool c.isPreferred)]

def read : Value → Reading UniqueConstraint := readRecord fun f =>
  UniqueConstraint.mk
  <$> f.required "id" readText
  <*> f.optional "name" defaultName readText
  <*> f.optional "predicator_ids" [] readTexts
  <*> f.optional "is_primary" false readBool
  <*> f.optional "is_preferred" false readBool

end UniqueConstraint

namespace TotalRoleConstraint

def defaultName : String := "Mandatory Constraint"

def toValue (c : TotalRoleConstraint) : Value := obj [
  ("id", str c.id),
  ("name", str c.name),
  ("predicator_id", str c.predicatorId),
  ("object_id", str c.objectId)]

def read : Value → Reading TotalRoleConstraint := readRecord fun f =>
  TotalRoleConstraint.mk
  <$> f.required "id" readText
  <*> f.optional "name" defaultName readText
  <*> f.required "predicator_id" readText
  <*> f.required "object_id" readText

end TotalRoleConstraint

def SetKind.read : Value → Reading SetKind := readWordOf SetKind.ofName?

namespace SetConstraint

def defaultName : String := "Set Constraint"

def toValue (c : SetConstraint) : Value := obj [
  ("id", str c.id),
  ("name", str c.name),
  ("kind", str c.kind.name),
  ("source_predicator_ids", strings c.sourcePredicatorIds),
  ("target_predicator_ids", strings c.targetPredicatorIds)]

def read : Value → Reading SetConstraint := readRecord fun f =>
  SetConstraint.mk
  <$> f.required "id" readText
  <*> f.optional "name" defaultName readText
  <*> f.required "kind" SetKind.read
  <*> f.optional "source_predicator_ids" [] readTexts
  <*> f.optional "target_predicator_ids" [] readTexts

end SetConstraint

def Bounds.read (f : Fields) : Reading Bounds :=
  Bounds.mk <$> f.nullable "min" readInt <*> f.nullable "max" readInt

namespace CardinalityConstraint

def defaultName : String := "Cardinality Constraint"

def toValue (c : CardinalityConstraint) : Value := obj [
  ("id", str c.id),
  ("name", str c.name),
  ("predicator_id", str c.predicatorId),
  ("min", optionalInt c.bounds.min),
  ("max", optionalInt c.bounds.max)]

def read : Value → Reading CardinalityConstraint := readRecord fun f =>
  CardinalityConstraint.mk
  <$> f.required "id" readText
  <*> f.optional "name" defaultName readText
  <*> f.required "predicator_id" readText
  <*> Bounds.read f

end CardinalityConstraint

namespace FrequencyConstraint

def defaultName : String := "Frequency Constraint"

def toValue (c : FrequencyConstraint) : Value := obj [
  ("id", str c.id),
  ("name", str c.name),
  ("fact_type_id", str c.factTypeId),
  ("min", optionalInt c.bounds.min),
  ("max", optionalInt c.bounds.max)]

def read : Value → Reading FrequencyConstraint := readRecord fun f =>
  FrequencyConstraint.mk
  <$> f.required "id" readText
  <*> f.optional "name" defaultName readText
  <*> f.required "fact_type_id" readText
  <*> Bounds.read f

end FrequencyConstraint

namespace EnumerationConstraint

def defaultName : String := "Enumeration Constraint"

def toValue (c : EnumerationConstraint) : Value := obj [
  ("id", str c.id),
  ("name", str c.name),
  ("label_type_id", str c.labelTypeId),
  ("allowed_values", arr c.allowedValues)]

def read : Value → Reading EnumerationConstraint := readRecord fun f =>
  EnumerationConstraint.mk
  <$> f.required "id" readText
  <*> f.optional "name" defaultName readText
  <*> f.required "label_type_id" readText
  <*> f.optional "allowed_values" [] (readList readAny)

end EnumerationConstraint

namespace CustomConstraint

def defaultName : String := "Custom Constraint"

def toValue (c : CustomConstraint) : Value := obj [
  ("id", str c.id),
  ("name", str c.name),
  ("kind", str c.kind),
  ("description", str c.description),
  ("applies_to", strings c.appliesTo),
  ("parameters", obj c.parameters)]

def read : Value → Reading CustomConstraint := readRecord fun f =>
  CustomConstraint.mk
  <$> f.required "id" readText
  <*> f.optional "name" defaultName readText
  <*> f.required "kind" readText
  <*> f.optional "description" "" readText
  <*> f.optional "applies_to" [] readTexts
  <*> f.optional "parameters" [] readOpenMap

end CustomConstraint

namespace Schema

def mappings (s : Schema) : List (String × List (String × Value)) := [
  ("entities", (s.entities.mapValues fun _ e => e.toValue).entries),
  ("label_types", (s.labelTypes.mapValues fun _ l => l.toValue).entries),
  ("power_types", (s.powerTypes.mapValues fun _ p => p.toValue).entries),
  ("sequence_types", (s.sequenceTypes.mapValues fun _ q => q.toValue).entries),
  ("fact_types", (s.factTypes.mapValues fun _ f => f.toValue).entries),
  ("predicators", (s.predicators.mapValues fun _ p => p.toValue).entries),
  ("unique_constraints", (s.uniqueConstraints.mapValues fun _ c => c.toValue).entries),
  ("total_role_constraints", (s.totalRoleConstraints.mapValues fun _ c => c.toValue).entries),
  ("set_constraints", (s.setConstraints.mapValues fun _ c => c.toValue).entries),
  ("cardinality_constraints", (s.cardinalityConstraints.mapValues fun _ c => c.toValue).entries),
  ("frequency_constraints", (s.frequencyConstraints.mapValues fun _ c => c.toValue).entries),
  ("enumeration_constraints", (s.enumerationConstraints.mapValues fun _ c => c.toValue).entries),
  ("custom_constraints", (s.customConstraints.mapValues fun _ c => c.toValue).entries)]

def header (s : Schema) : List (String × Value) :=
  [("id", str s.id), ("name", str s.name), ("version", str s.version)]

def toValue (s : Schema) : Value :=
  obj (s.header ++ s.mappings.map fun pair => (pair.1, obj pair.2))

def defaultVersion : String := "1.0.0"

def read : Value → Reading Schema := readRecord fun f =>
  Schema.mk
  <$> f.required "id" readText
  <*> f.required "name" readText
  <*> f.optional "version" defaultVersion readText
  <*> f.optional "entities" ∅ (readMap Entity.read)
  <*> f.optional "label_types" ∅ (readMap LabelType.read)
  <*> f.optional "power_types" ∅ (readMap PowerType.read)
  <*> f.optional "sequence_types" ∅ (readMap SequenceType.read)
  <*> f.optional "fact_types" ∅ (readMap FactType.read)
  <*> f.optional "predicators" ∅ (readMap Predicator.read)
  <*> f.optional "unique_constraints" ∅ (readMap UniqueConstraint.read)
  <*> f.optional "total_role_constraints" ∅ (readMap TotalRoleConstraint.read)
  <*> f.optional "set_constraints" ∅ (readMap SetConstraint.read)
  <*> f.optional "cardinality_constraints" ∅ (readMap CardinalityConstraint.read)
  <*> f.optional "frequency_constraints" ∅ (readMap FrequencyConstraint.read)
  <*> f.optional "enumeration_constraints" ∅ (readMap EnumerationConstraint.read)
  <*> f.optional "custom_constraints" ∅ (readMap CustomConstraint.read)

end Schema

end FactModel
