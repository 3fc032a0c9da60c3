import FactModel.Constraint

/-!
Information schemas: object types, the fact types between them, the predicators that make up
fact types, and constraints. Elements refer to each other by id; nothing forces a reference to
resolve.
-/

namespace FactModel

/-- Abstract type of a label; a type of another name is stored like text. -/
inductive DataType where
  | string
  | integer
  | decimal
  | boolean
  | date
  | dateTime
  | other (name : String)
deriving DecidableEq

namespace DataType

def name : DataType → String
  | string => "String"
  | integer => "Integer"
  | decimal => "Decimal"
  | boolean => "Boolean"
  | date => "Date"
  | dateTime => "DateTime"
  | other name => name

def ofName? (s : String) : Option DataType :=
  if s = "String" then some string
  else if s = "Integer" then some integer
  else if s = "Decimal" then some decimal
  else if s = "Boolean" then some boolean
  else if s = "Date" then some date
  else if s = "DateTime" then some dateTime
  else none

def ofName (s : String) : DataType := (ofName? s).getD (other s)

end DataType

/-- An independently identified object type. -/
structure Entity where
  id : String
  name : String
  identifiers : List String
  specializationOf : List String
  objectifiedFactTypeId : Option String
  isAbstract : Bool
deriving BEq

/-- A bound of the values of a label type. -/
inductive RangeBound where
  | float (x : Binary64)
  | int (n : Int)
deriving BEq

/-- A scalar value type. -/
structure LabelType where
  id : String
  name : String
  dataType : DataType
  enumeration : Option (List Value)
  minValue : Option RangeBound
  maxValue : Option RangeBound
  pattern : Option String
deriving BEq

/-- Sets of instances of the element type. -/
structure PowerType where
  id : String
  name : String
  elementTypeId : String
deriving BEq

/-- Ordered collections of instances of the element type. -/
structure SequenceType where
  id : String
  name : String
  elementTypeId : String
  isOrdered : Bool
  allowsDuplicates : Bool
deriving BEq

inductive ObjectType where
  | entity (e : Entity)
  | label (l : LabelType)
  | power (p : PowerType)
  | sequence (s : SequenceType)

namespace ObjectType

def id : ObjectType → String
  | entity e => e.id
  | label l => l.id
  | power p => p.id
  | sequence s => s.id

def name : ObjectType → String
  | entity e => e.name
  | label l => l.name
  | power p => p.name
  | sequence s => s.name

end ObjectType

/-- A role of one fact type, played by one object. -/
structure Predicator where
  id : String
  name : String
  factTypeId : String
  position : Int
  objectId : String
  isOptional : Bool
deriving BEq

/-- A relationship, by the ids of its predicators in order. -/
structure FactType where
  id : String
  name : String
  predicators : List String
  isObjectified : Bool
  objectifiedAsId : Option String
deriving BEq

namespace FactType

def arity (f : FactType) : Nat := f.predicators.length

def isUnary (f : FactType) : Bool := f.arity == 1

end FactType

structure Schema where
  id : String
  name : String
  version : String
  entities : OrderedMap Entity := ∅
  labelTypes : OrderedMap LabelType := ∅
  powerTypes : OrderedMap PowerType := ∅
  sequenceTypes : OrderedMap SequenceType := ∅
  factTypes : OrderedMap FactType := ∅
  predicators : OrderedMap Predicator := ∅
  uniqueConstraints : OrderedMap UniqueConstraint := ∅
  totalRoleConstraints : OrderedMap TotalRoleConstraint := ∅
  setConstraints : OrderedMap SetConstraint := ∅
  cardinalityConstraints : OrderedMap CardinalityConstraint := ∅
  frequencyConstraints : OrderedMap FrequencyConstraint := ∅
  enumerationConstraints : OrderedMap EnumerationConstraint := ∅
  customConstraints : OrderedMap CustomConstraint := ∅

namespace Schema

/-- All object types. An id of several kinds has the place of the first and the type of the
last. -/
def objects (s : Schema) : OrderedMap ObjectType :=
  OrderedMap.ofList <|
    s.entities.entries.map (fun pair => (pair.1, .entity pair.2)) ++
    s.labelTypes.entries.map (fun pair => (pair.1, .label pair.2)) ++
    s.powerTypes.entries.map (fun pair => (pair.1, .power pair.2)) ++
    s.sequenceTypes.entries.map (fun pair => (pair.1, .sequence pair.2))

/-- The object type of an id; entities come first, then labels, powers and sequences. -/
def object? (s : Schema) (id : String) : Option ObjectType :=
  ((s.entities.find? id).map .entity).orElse fun _ =>
  ((s.labelTypes.find? id).map .label).orElse fun _ =>
  ((s.powerTypes.find? id).map .power).orElse fun _ =>
  (s.sequenceTypes.find? id).map .sequence

def hasObject (s : Schema) (id : String) : Bool :=
  s.entities.contains id || s.labelTypes.contains id || s.powerTypes.contains id ||
    s.sequenceTypes.contains id

def constraintIds (s : Schema) : ConstraintCategory → List String
  | .uniqueness => s.uniqueConstraints.keys
  | .totalRole => s.totalRoleConstraints.keys
  | .set => s.setConstraints.keys
  | .cardinality => s.cardinalityConstraints.keys
  | .frequency => s.frequencyConstraints.keys
  | .enumeration => s.enumerationConstraints.keys
  | .custom => s.customConstraints.keys

def ids (s : Schema) : List String :=
  s.entities.keys ++ s.labelTypes.keys ++ s.powerTypes.keys ++ s.sequenceTypes.keys ++
    s.factTypes.keys ++ s.predicators.keys ++ ConstraintCategory.all.flatMap s.constraintIds

def roles (s : Schema) (f : FactType) : List Predicator :=
  f.predicators.filterMap s.predicators.find?

def setPositions (s : Schema) (ids : List String) : Schema :=
  let place := fun (m : OrderedMap Predicator) (pair : String × Nat) =>
    m.modify pair.1 fun p => { p with position := pair.2 }
  { s with predicators := ids.zipIdx.foldl place s.predicators }

def identifiersOf (s : Schema) (e : Entity) : List UniqueConstraint :=
  e.identifiers.filterMap s.uniqueConstraints.find?

def primaryIdentifier? (s : Schema) (e : Entity) : Option UniqueConstraint :=
  (s.identifiersOf e).find? (·.isPrimary)

/-- The entity that a uniqueness constraint identifies: the one playing its first predicator. -/
def owner? (s : Schema) (c : UniqueConstraint) : Option String := do
  let first ← s.predicators.find? (← c.predicatorIds.head?)
  if s.entities.contains first.objectId then some first.objectId else none

/-- Makes or unmakes a constraint the primary and preferred identifier. -/
def setPrimary (s : Schema) (key : String) (primary : Bool) : Schema :=
  { s with uniqueConstraints := s.uniqueConstraints.modify key fun c =>
      { c with isPrimary := primary, isPreferred := primary } }

def listIdentifier (s : Schema) (entity constraint : String) : Schema :=
  { s with entities := s.entities.modify entity fun e =>
      if e.identifiers.contains constraint then e
      else { e with identifiers := e.identifiers ++ [constraint] } }

def demoteIdentifiers (s : Schema) (e : Entity) : Schema :=
  e.identifiers.foldl (fun s id => s.setPrimary id false) s

/-- Registers the constraint at `key` as an identifier of its owner, and yields the owner.
Without a wish about `primary`, the first identifier of an entity becomes primary; a new primary
identifier takes the place of the old one. -/
def attachIdentifier (s : Schema) (key : String) (primary : Option Bool) :
    Schema × Option String :=
  match s.uniqueConstraints.find? key with
  | none => (s, none)
  | some c => match s.owner? c with
    | none => (s, none)
    | some owner =>
      let s := s.listIdentifier owner c.id
      match s.entities.find? owner with
      | none => (s, none)
      | some e => match primary with
        | some true => ((s.demoteIdentifiers e).setPrimary key true, some owner)
        | some false => (s, some owner)
        | none =>
          if (s.primaryIdentifier? e).isNone then (s.setPrimary key true, some owner)
          else (s, some owner)

end Schema

end FactModel
