import FactModel.Builder.Argument
import FactModel.Log
import FactModel.Schema.Assignment

/-!
Editing an information schema step by step. A new element without an id or a name of its own gets
one with the next number of its kind. Operations that take ids fail when an id does not resolve.
Arguments are readings: what is wrong with one comes up when the element it belongs to is made.
-/

namespace FactModel

inductive BuilderError where
  | objectNotFound (id schema : String)
  | predicatorNotFound (id schema : String)
  | factTypeNotFound (id schema : String)
  | labelTypeNotFound (id schema : String)
  | constraintNotFound (id schema : String)
  | notEntities (child parent : String)
  | noPredicators
  | missingRole
  | missingCharacter
  | keyNotFound (key : String)
  | argument (e : ArgumentError)
  | assignment (e : AssignmentError)
  | noOperation (name : String)
  | invalid (problems : List Problem)

namespace BuilderError

/-- The problems of an invalid element are listed apart from the message. -/
def message : BuilderError → String
  | objectNotFound id schema => s!"Object '{id}' not found in schema '{schema}'"
  | predicatorNotFound id schema => s!"Predicator '{id}' not found in schema '{schema}'"
  | factTypeNotFound id schema => s!"Fact type '{id}' not found in schema '{schema}'"
  | labelTypeNotFound id schema => s!"Label type '{id}' not found in schema '{schema}'"
  | constraintNotFound id schema => s!"Constraint '{id}' not found in schema '{schema}'"
  | notEntities child parent =>
    s!"Specialization needs two entities, got '{child}' and '{parent}'"
  | noPredicators => "A uniqueness constraint needs at least one predicator"
  | missingRole => "list index out of range"
  | missingCharacter => "string index out of range"
  | keyNotFound key => key
  | argument e => e.message
  | assignment e => e.message
  | noOperation name => s!"'SchemaBuilder' object has no attribute '{name}'"
  | invalid _ => ""

end BuilderError

abbrev NameCounter := OrderedMap Nat

namespace NameCounter

def last (c : NameCounter) (kind : String) : Nat := (c.find? kind).getD 0

def next (c : NameCounter) (kind : String) : Nat := c.last kind + 1

end NameCounter

/-- A schema being edited. The values in `assigned` show in place of fields. -/
structure Builder where
  schema : Schema
  counter : NameCounter
  log : List LogRecord
  assigned : List AssignedValue

/-- An operation changes the builder also when it fails. -/
abbrev Edit (α : Type) := ExceptT BuilderError (StateM Builder) α

namespace Edit

variable {α : Type}

def apply (e : Edit α) (b : Builder) : Except BuilderError α × Builder := e.run.run b

def current : Edit Schema := return (← get).schema

def update (f : Schema → Schema) : Edit Unit := modify fun b => { b with schema := f b.schema }

def logged (message : String) : Edit Unit :=
  modify fun b => { b with log := b.log ++ [⟨.debug, .building, message⟩] }

def check : Reading α → Edit α
  | .ok a => pure a
  | .bad problems => throw (.invalid problems)

def argument : Except ArgumentError α → Edit α
  | .ok a => pure a
  | .error e => throw (.argument e)

def numbered (kind : String) (n : Nat) : String := kind ++ "_" ++ toString n

/-- The first number from `n` on whose id is free, after at most `fuel` that are taken. -/
def freeNumber (taken : List String) (kind : String) : Nat → Nat → Nat
  | 0, n => n
  | fuel + 1, n =>
    if taken.contains (numbered kind n) then freeNumber taken kind fuel (n + 1) else n

def count (kind : String) (n : Nat) : Edit Unit :=
  modify fun b => { b with counter := b.counter.insert kind n }

def newId (kind : String) : Edit String := do
  let b ← get
  let taken := b.schema.ids
  let n := freeNumber taken kind taken.length (b.counter.next kind)
  count kind n
  return numbered kind n

def autoName (label : String) : Edit String := do
  let n := (← get).counter.next label
  count label n
  return label ++ " " ++ toString n

def chooseId (given : Option (Reading String)) (kind : String) : Edit (Reading String) :=
  match given with
  | some id => return id.within (.key "id")
  | none => return .ok (← newId kind)

def chooseName (given : Option (Reading String)) (label : String) : Edit (Reading String) :=
  match given with
  | some name => return name.within (.key "name")
  | none => return .ok (← autoName label)

def nameOr (given : Option (Reading String)) (default : String) : Reading String :=
  match given with
  | some name => name.within (.key "name")
  | none => .ok default

def lookUp (find? : String → Option α) (missing : BuilderError) : GivenId → Edit α
  | .text id => match find? id with
    | some a => return a
    | none => throw missing
  | .other _ => throw missing
  | .compound type _ => throw (.argument (.notKey type))

def requireObject (id : GivenId) : Edit ObjectType := do
  let s ← current
  lookUp s.object? (.objectNotFound id.shown s.name) id

def requirePredicator (id : GivenId) : Edit Predicator := do
  let s ← current
  lookUp s.predicators.find? (.predicatorNotFound id.shown s.name) id

def requirePredicators : List GivenId → Edit Unit
  | [] => return ()
  | id :: rest => do
    let _ ← requirePredicator id
    requirePredicators rest

def requireFactType (id : GivenId) : Edit FactType := do
  let s ← current
  lookUp s.factTypes.find? (.factTypeNotFound id.shown s.name) id

def requireLabelType (id : GivenId) : Edit LabelType := do
  let s ← current
  lookUp s.labelTypes.find? (.labelTypeNotFound id.shown s.name) id

end Edit

/-- A label type beside its id and name. -/
structure LabelFacets where
  dataType : DataType
  enumeration : Option (List Value)
  minValue : Option RangeBound
  maxValue : Option RangeBound
  pattern : Option String

/-- Wishes for the roles of a fact type, by position; without any, roles go by a default. -/
abbrev RoleWishes (α : Type) := Nat → Except BuilderError (Option (Reading α))

namespace RoleWishes

variable {α : Type}

def none : RoleWishes α := fun _ => .ok Option.none

def ofList (wishes : List (Reading α)) : RoleWishes α := fun position =>
  match wishes[position]? with
  | some wish => .ok (some wish)
  | Option.none => .error .missingRole

end RoleWishes

namespace Builder

open Edit

def putEntity (e : Entity) : Edit Unit :=
  update fun s => { s with entities := s.entities.insert e.id e }

def addEntity (name id : Option (Reading String)) : Edit Entity := do
  let id ← chooseId id "entity"
  let name ← chooseName name "Entity"
  let e ← check ((fun id name => ⟨id, name, [], [], none, false⟩) <$> id <*> name)
  putEntity e
  return e

def addLabelType (name id : Option (Reading String)) (facets : Reading LabelFacets) :
    Edit LabelType := do
  let id ← chooseId id "label"
  let name ← chooseName name "Label"
  let make := fun id name (f : LabelFacets) =>
    (⟨id, name, f.dataType, f.enumeration, f.minValue, f.maxValue, f.pattern⟩ : LabelType)
  let l ← check (make <$> id <*> name <*> facets)
  update fun s => { s with labelTypes := s.labelTypes.insert l.id l }
  return l

def addPowerType (element : GivenId) (name id : Option (Reading String)) : Edit PowerType := do
  let _ ← requireObject element
  let id ← chooseId id "power"
  let name ← chooseName name "Power Type"
  let p ← check ((fun id name => (⟨id, name, element.shown⟩ : PowerType)) <$> id <*> name)
  update fun s => { s with powerTypes := s.powerTypes.insert p.id p }
  return p

def addSequenceType (element : GivenId) (name id : Option (Reading String))
    (allowsDuplicates : Reading Bool) : Edit SequenceType := do
  let _ ← requireObject element
  let id ← chooseId id "sequence"
  let name ← chooseName name "Sequence"
  let make := fun id name duplicates =>
    (⟨id, name, element.shown, true, duplicates⟩ : SequenceType)
  let q ← check (make <$> id <*> name <*> allowsDuplicates.within (.key "allows_duplicates"))
  update fun s => { s with sequenceTypes := s.sequenceTypes.insert q.id q }
  return q

def roleWish {α : Type} (wishes : RoleWishes α) (default : α) (position : Nat) :
    Edit (Reading α) :=
  match wishes position with
  | .ok wish => return wish.getD (.ok default)
  | .error e => throw e

/-- Adds the roles of a fact type from a position on, and yields their ids. -/
def addRoles (factType : String) (names : RoleWishes String) (optional : RoleWishes Bool) :
    Nat → List ObjectType → Edit (List String)
  | _, [] => return []
  | position, object :: rest => do
    let name ← roleWish names object.name position
    let id ← newId "role"
    let isOptional ← roleWish optional true position
    let make := fun name isOptional =>
      (⟨id, name, factType, position, object.id, isOptional⟩ : Predicator)
    let p ← check (make <$> name.within (.key "name") <*> isOptional.within (.key "is_optional"))
    update fun s => { s with predicators := s.predicators.insert p.id p }
    let ids ← addRoles factType names optional (position + 1) rest
    return p.id :: ids

def addFactType (objects : List GivenId) (name : Option (Reading String))
    (roleNames : RoleWishes String) (optional : RoleWishes Bool)
    (id : Option (Reading String)) : Edit FactType := do
  let objects ← objects.mapM requireObject
  let id ← chooseId id "fact"
  let name ← chooseName name "Fact Type"
  let f ← check ((fun id name => (⟨id, name, [], false, none⟩ : FactType)) <$> id <*> name)
  let ids ← addRoles f.id roleNames optional 0 objects
  let f := { f with predicators := ids }
  update fun s => { s with factTypes := s.factTypes.insert f.id f }
  logged s!"Added fact type '{f.name}' with arity {f.arity}"
  return f

def specialize (child parent : GivenId) : Edit Entity := do
  let s ← current
  let missing := BuilderError.notEntities child.shown parent.shown
  let e ← lookUp s.entities.find? missing child
  let _ ← lookUp s.entities.find? missing parent
  let e :=
    if e.specializationOf.contains parent.shown then e
    else { e with specializationOf := e.specializationOf ++ [parent.shown] }
  update fun s => { s with entities := s.entities.insert child.shown e }
  return e

def objectify (factType : GivenId) (name id : Option (Reading String)) : Edit Entity := do
  let f ← requireFactType factType
  let name := name.orElse fun _ => if f.name.isEmpty then none else some (.ok f.name)
  let e ← addEntity name id
  let e := { e with objectifiedFactTypeId := some factType.shown }
  putEntity e
  update fun s => { s with factTypes := s.factTypes.modify factType.shown fun f =>
    { f with isObjectified := true, objectifiedAsId := some e.id } }
  return e

/-- Adds a uniqueness constraint as an identifier of the entity that plays its first
predicator. -/
def addUnique (predicators : List GivenId) (name : Option (Reading String))
    (primary : Option Bool) (id : Option (Reading String)) : Edit UniqueConstraint := do
  if predicators.isEmpty then throw .noPredicators
  requirePredicators predicators
  let id ← chooseId id "unique"
  let make := fun id name =>
    (⟨id, name, predicators.map GivenId.shown, false, false⟩ : UniqueConstraint)
  let c ← check (make <$> id <*> nameOr name UniqueConstraint.defaultName)
  update fun s =>
    ({ s with uniqueConstraints := s.uniqueConstraints.insert c.id c }.attachIdentifier
      c.id primary).1
  return ((← current).uniqueConstraints.find? c.id).getD c

def addMandatory (predicator : GivenId) (name : Option (Reading String)) :
    Edit TotalRoleConstraint := do
  let p ← requirePredicator predicator
  update fun s => { s with predicators := s.predicators.modify predicator.shown fun p =>
    { p with isOptional := false } }
  let id ← newId "mandatory"
  let make := fun name => (⟨id, name, predicator.shown, p.objectId⟩ : TotalRoleConstraint)
  let c ← check (make <$> nameOr name TotalRoleConstraint.defaultName)
  update fun s => { s with totalRoleConstraints := s.totalRoleConstraints.insert c.id c }
  return c

def addSetConstraint (kind : Reading SetKind) (source target : List GivenId)
    (name : Option (Reading String)) : Edit SetConstraint := do
  requirePredicators (source ++ target)
  let id ← newId "set"
  let default := match kind with
    | .ok kind => kind.name ++ " Constraint"
    | .bad _ => ""
  let make := fun name kind =>
    (⟨id, name, kind, source.map GivenId.shown, target.map GivenId.shown⟩ : SetConstraint)
  let c ← check (make <$> nameOr name default <*> kind.within (.key "kind"))
  update fun s => { s with setConstraints := s.setConstraints.insert c.id c }
  return c

def addCardinality (predicator : GivenId) (bounds : Reading Bounds)
    (name : Option (Reading String)) : Edit CardinalityConstraint := do
  let _ ← requirePredicator predicator
  let id ← newId "cardinality"
  let make := fun name bounds => (⟨id, name, predicator.shown, bounds⟩ : CardinalityConstraint)
  let c ← check (make <$> nameOr name CardinalityConstraint.defaultName <*> bounds)
  update fun s => { s with cardinalityConstraints := s.cardinalityConstraints.insert c.id c }
  return c

def addFrequency (factType : GivenId) (bounds : Reading Bounds)
    (name : Option (Reading String)) : Edit FrequencyConstraint := do
  let _ ← requireFactType factType
  let id ← newId "frequency"
  let make := fun name bounds => (⟨id, name, factType.shown, bounds⟩ : FrequencyConstraint)
  let c ← check (make <$> nameOr name FrequencyConstraint.defaultName <*> bounds)
  update fun s => { s with frequencyConstraints := s.frequencyConstraints.insert c.id c }
  return c

def addEnumeration (labelType : GivenId) (values : Except ArgumentError (List Value))
    (name : Option (Reading String)) : Edit EnumerationConstraint := do
  let _ ← requireLabelType labelType
  let id ← newId "enumeration"
  let values ← argument values
  let make := fun name => (⟨id, name, labelType.shown, values⟩ : EnumerationConstraint)
  let c ← check (make <$> nameOr name EnumerationConstraint.defaultName)
  update fun s => { s with enumerationConstraints := s.enumerationConstraints.insert c.id c }
  return c

def customName (kind : Reading String) (targets : String) : String :=
  kind.value?.getD "" ++ s!"({targets})"

/-- Adds a custom constraint to what `appliesTo` lists. -/
def addCustom (kind : Reading String) (appliesTo : Value) (name : Option (Reading String))
    (description : Reading String) (parameters : Reading (List (String × Value))) :
    Edit CustomConstraint := do
  let id ← newId "custom"
  let name ← match name with
    | some name => pure name
    | none => pure (Reading.ok (customName kind (← argument appliesTo.joined)))
  let targets ← argument appliesTo.iterated
  let make := fun name kind description appliesTo parameters =>
    (⟨id, name, kind, description, appliesTo, parameters⟩ : CustomConstraint)
  let c ← check (make <$> name.within (.key "name")
    <*> kind.within (.key "kind")
    <*> description.within (.key "description")
    <*> (Value.readTexts (.arr targets)).within (.key "applies_to")
    <*> parameters.within (.key "parameters"))
  update fun s => { s with customConstraints := s.customConstraints.insert c.id c }
  return c

end Builder

namespace Schema

def eraseObject (s : Schema) (id : String) : Schema :=
  { s with
    entities := s.entities.erase id
    labelTypes := s.labelTypes.erase id
    powerTypes := s.powerTypes.erase id
    sequenceTypes := s.sequenceTypes.erase id }

/-- Takes a predicator out of its fact type, whose other roles close the gap. -/
def unlistRole (s : Schema) (p : Predicator) : Schema :=
  match s.factTypes.find? p.factTypeId with
  | some f =>
    if f.predicators.contains p.id then
      let rest := f.predicators.erase p.id
      { s with factTypes := s.factTypes.insert p.factTypeId { f with predicators := rest } }
        |>.setPositions rest
    else s
  | none => s

def eraseFactType (s : Schema) (id : String) (f : FactType) : Schema :=
  { s with
    factTypes := s.factTypes.erase id
    predicators := f.predicators.foldl OrderedMap.erase s.predicators
    entities := s.entities.mapValues fun _ e =>
      if e.objectifiedFactTypeId == some id then { e with objectifiedFactTypeId := none } else e }

def constraintCategory? (s : Schema) (id : String) : Option ConstraintCategory :=
  ConstraintCategory.all.find? fun category => (s.constraintIds category).contains id

def eraseConstraint (s : Schema) (id : String) : ConstraintCategory → Schema
  | .uniqueness => { s with uniqueConstraints := s.uniqueConstraints.erase id }
  | .totalRole => { s with totalRoleConstraints := s.totalRoleConstraints.erase id }
  | .set => { s with setConstraints := s.setConstraints.erase id }
  | .cardinality => { s with cardinalityConstraints := s.cardinalityConstraints.erase id }
  | .frequency => { s with frequencyConstraints := s.frequencyConstraints.erase id }
  | .enumeration => { s with enumerationConstraints := s.enumerationConstraints.erase id }
  | .custom => { s with customConstraints := s.customConstraints.erase id }

def unlistIdentifier (s : Schema) (id : String) : Schema :=
  { s with entities := s.entities.mapValues fun _ e =>
      { e with identifiers := e.identifiers.erase id } }

/-- A predicator without a mandatory constraint is optional. -/
def relaxRole (s : Schema) (predicator : String) : Schema :=
  if s.totalRoleConstraints.values.any fun c => c.predicatorId == predicator then s
  else { s with predicators := s.predicators.modify predicator fun p =>
    { p with isOptional := true } }

end Schema

namespace Builder

open Edit

def removeRoles : List Predicator → Edit Unit
  | [] => return ()
  | p :: rest => do
    if !(← current).predicators.contains p.id then throw (.keyNotFound p.id)
    update fun s => { s with predicators := s.predicators.erase p.id }.unlistRole p
    removeRoles rest

def removeObject (id : GivenId) : Edit Unit := do
  let _ ← requireObject id
  update fun s => s.eraseObject id.shown
  let played := (← current).predicators.values.filter fun p => p.objectId == id.shown
  removeRoles played
  logged s!"Removed object '{id.shown}' and {played.length} predicators"

/-- Removes a fact type with its predicators, and unlinks the entity that stands for it. Nothing
is looked up where there is no fact type. -/
def removeFactType (id : GivenId) : Edit Unit := do
  let s ← current
  if s.factTypes.keys.isEmpty then throw (.factTypeNotFound id.shown s.name)
  let f ← requireFactType id
  update fun s => s.eraseFactType id.shown f

/-- Removes a constraint of any category. An identifier leaves its entity; a role whose last
mandatory constraint goes is optional again. -/
def removeConstraint (id : GivenId) : Edit Unit := do
  let s ← current
  let category ← lookUp s.constraintCategory? (.constraintNotFound id.shown s.name) id
  let mandatory := match category with
    | .totalRole => s.totalRoleConstraints.find? id.shown
    | _ => none
  update fun s => (s.eraseConstraint id.shown category).unlistIdentifier id.shown
  match mandatory with
  | some c => update fun s => s.relaxRole c.predicatorId
  | none => pure ()

end Builder

end FactModel
