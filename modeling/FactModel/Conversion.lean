import FactModel.Graph
import FactModel.Log
import FactModel.Schema.Document

/-!
From a canvas graph to an information schema. Nodes become objects and fact types, predicator
edges the roles of fact types, drawn constraints those of the schema; each element keeps the id
of what it was drawn as. What does not resolve is skipped.
-/

namespace FactModel

/-- A set constraint whose predicators cannot be halved. -/
structure ConversionError where
  constraint : String
  count : Nat

def ConversionError.message (e : ConversionError) : String :=
  s!"Set constraint '{e.constraint}' has {e.count} predicator ids; " ++
    "an even list (source half, then target half) is required"

def dataTypeWords : List (String × DataType) := [
  ("string", .string),
  ("text", .string),
  ("char", .string),
  ("integer", .integer),
  ("int", .integer),
  ("float", .decimal),
  ("double", .decimal),
  ("decimal", .decimal),
  ("boolean", .boolean),
  ("bool", .boolean),
  ("date", .date),
  ("timestamp", .dateTime),
  ("datetime", .dateTime)]

/-- The data type of a canvas type name; a name that is not known means text. -/
def DataType.ofCanvas (name : Option String) : DataType :=
  (dataTypeWords.lookup (Text.lower (name.getD ""))).getD .string

def labelOr (default label : String) : String := if label.isEmpty then default else label

namespace Graph

def nodeKind? (g : Graph) (id : String) : Option NodeKind :=
  (g.nodes.reverse.find? fun n => n.id == id).map (·.kind)

end Graph

namespace Schema

def plainEntity (id name : String) (objectified : Option String) : Entity :=
  ⟨id, name, [], [], objectified, false⟩

def addNode (s : Schema) (n : GraphNode) : Schema :=
  let name := fun default => labelOr default n.label
  match n.kind with
  | .entity =>
    { s with entities := s.entities.insert n.id (plainEntity n.id (name "Unnamed Entity") none) }
  | .labelType =>
    let label : LabelType :=
      ⟨n.id, name "Unnamed Label", DataType.ofCanvas n.dataType, none, none, none, none⟩
    { s with labelTypes := s.labelTypes.insert n.id label }
  | .powerType =>
    let power : PowerType := ⟨n.id, name "Unnamed Power Type", n.memberEntityId.getD ""⟩
    { s with powerTypes := s.powerTypes.insert n.id power }
  | .sequenceType =>
    let sequence : SequenceType :=
      ⟨n.id, name "Unnamed Sequence", n.memberEntityId.getD "", true, false⟩
    { s with sequenceTypes := s.sequenceTypes.insert n.id sequence }
  | .objectified =>
    let entity := plainEntity n.id (name "Unnamed Objectified Fact") n.objectifiedFactId
    { s with entities := s.entities.insert n.id entity }
  | .factType =>
    let fact : FactType := ⟨n.id, name "Unnamed Fact", [], false, none⟩
    { s with factTypes := s.factTypes.insert n.id fact }
  | .other _ => s

def linkObjectified (s : Schema) (n : GraphNode) : Schema :=
  match n.kind, n.objectifiedFactId with
  | .objectified, some fact =>
    if fact.isEmpty then s
    else { s with factTypes := s.factTypes.modify fact fun f =>
        { f with isObjectified := true, objectifiedAsId := some n.id } }
  | _, _ => s

end Schema

/-- A predicator edge with the two ends it connects. -/
structure PlacedEdge where
  edge : GraphEdge
  factType : String
  object : String

/-- Why an edge yields nothing. -/
inductive EdgeGap where
  | noFactType
  | unresolved
  | ignored

/-- Exactly one end of a predicator edge is a fact type. -/
def Graph.ends? (g : Graph) (e : GraphEdge) : Option (String × String) :=
  let isFact := fun id => g.nodeKind? id == some .factType
  match isFact e.source, isFact e.target with
  | true, false => some (e.source, e.target)
  | false, true => some (e.target, e.source)
  | _, _ => none

def Graph.placeEdge (g : Graph) (s : Schema) (e : GraphEdge) : Except EdgeGap PlacedEdge :=
  match g.ends? e with
  | none => .error .noFactType
  | some (fact, object) =>
    if s.factTypes.contains fact && s.hasObject object then .ok ⟨e, fact, object⟩
    else .error .unresolved

def Graph.placedEdges (g : Graph) (s : Schema) : List PlacedEdge :=
  (g.edges.filter fun e => e.kind == .predicator).filterMap fun e => (g.placeEdge s e).toOption

namespace PlacedEdge

def predicator (p : PlacedEdge) : Predicator :=
  ⟨p.edge.id, labelOr Predicator.defaultName p.edge.label, p.factType, 0, p.object, true⟩

/-- Explicit positions come first, in ascending order. -/
def precedes (a b : PlacedEdge) : Bool :=
  match a.edge.position, b.edge.position with
  | some p, some q => p ≤ q
  | some _, none => true
  | none, some _ => false
  | none, none => true

def ordered (edges : List PlacedEdge) (fact : String) : List PlacedEdge :=
  (edges.filter fun p => p.factType == fact).mergeSort precedes

end PlacedEdge

namespace Schema

def addRoles (s : Schema) (edges : List PlacedEdge) (fact : String) : Schema :=
  let ids := (PlacedEdge.ordered edges fact).map (·.edge.id)
  { s with factTypes := s.factTypes.modify fact fun f => { f with predicators := ids } }
    |>.setPositions ids

def addPredicators (s : Schema) (edges : List PlacedEdge) : Schema :=
  let add := fun (m : OrderedMap Predicator) (p : PlacedEdge) => m.insert p.edge.id p.predicator
  let s := { s with predicators := edges.foldl add s.predicators }
  (edges.map (·.factType)).eraseDups.foldl (fun s fact => s.addRoles edges fact) s

def addSpecialization (s : Schema) (e : GraphEdge) : Schema :=
  if e.kind == .specialization then
    { s with entities := s.entities.modify e.source fun child =>
        { child with specializationOf := child.specializationOf ++ [e.target] } }
  else s

end Schema

namespace GraphConstraint

def named (a : GraphConstraint) (default : String) : String := labelOr default (a.name.getD "")

def target? (a : GraphConstraint) : Option String := a.appliesTo.head?

/-- The listed predicators, or what the constraint applies to where none are listed. -/
def uniquePredicators (a : GraphConstraint) : List String :=
  match a.predicatorIds with
  | some (id :: rest) => id :: rest
  | _ => a.appliesTo

def mandatoryPredicator? (a : GraphConstraint) : Option String :=
  match a.target? with
  | some id => if id.isEmpty then (a.predicatorIds.getD []).head? else some id
  | none => (a.predicatorIds.getD []).head?

def setKind? (a : GraphConstraint) : Option SetKind :=
  if a.kind = "subset" then some .subset
  else if a.kind = "equality" then some .equality
  else if a.kind = "exclusion" then some .exclusion
  else none

/-- The predicators to be halved, when neither side is given. -/
def halves? (a : GraphConstraint) : Option (List String) :=
  match a.sourcePredicatorIds, a.targetPredicatorIds with
  | none, none => some (a.predicatorIds.getD [])
  | _, _ => none

/-- The number of predicators of a set constraint that cannot be halved. -/
def unevenCount? (a : GraphConstraint) : Option Nat :=
  match a.setKind?, a.halves? with
  | some _, some ids => if ids.length % 2 = 0 then none else some ids.length
  | _, _ => none

def sides (a : GraphConstraint) : List String × List String :=
  match a.halves? with
  | some ids => (ids.take (ids.length / 2), ids.drop (ids.length / 2))
  | none => (a.sourcePredicatorIds.getD [], a.targetPredicatorIds.getD [])

/-- Kinds that stand for a registered rule. -/
def customKind? (a : GraphConstraint) : Option String :=
  if a.kind = "noEmpty" then some "no_empty" else none

def atLeast (p : ConstraintParameters) : Option Int := p.n.orElse fun _ => p.min

def atMost (p : ConstraintParameters) : Option Int :=
  p.m.orElse fun _ => p.max.bind Limit.toCount?

end GraphConstraint

namespace Schema

def addUnique (s : Schema) (a : GraphConstraint) : Schema :=
  if a.uniquePredicators.isEmpty then s
  else
    let primary := a.isPrimary.getD false
    let c : UniqueConstraint :=
      ⟨a.id, a.named UniqueConstraint.defaultName, a.uniquePredicators, primary, primary⟩
    ({ s with uniqueConstraints := s.uniqueConstraints.insert a.id c }.attachIdentifier
      a.id a.isPrimary).1

def mandatoryRole? (s : Schema) (a : GraphConstraint) : Option Predicator := do
  let id ← a.mandatoryPredicator?
  if id.isEmpty then none else s.predicators.find? id

def addMandatory (s : Schema) (a : GraphConstraint) : Schema :=
  match a.mandatoryPredicator?, s.mandatoryRole? a with
  | some key, some role =>
    let c : TotalRoleConstraint :=
      ⟨a.id, a.named TotalRoleConstraint.defaultName, role.id, role.objectId⟩
    { s with
      predicators := s.predicators.modify key fun p => { p with isOptional := false }
      totalRoleConstraints := s.totalRoleConstraints.insert a.id c }
  | _, _ => s

def addSet (s : Schema) (a : GraphConstraint) (kind : SetKind) : Schema :=
  let c : SetConstraint :=
    ⟨a.id, a.named s!"{a.kind} Constraint", kind, a.sides.1, a.sides.2⟩
  { s with setConstraints := s.setConstraints.insert a.id c }

def addFrequency (s : Schema) (a : GraphConstraint) (target : String) : Schema :=
  let bounds : Bounds := match a.parameters with
    | some p => ⟨p.min, p.max.bind Limit.toCount?⟩
    | none => ⟨none, none⟩
  let c : FrequencyConstraint := ⟨a.id, a.named FrequencyConstraint.defaultName, target, bounds⟩
  { s with frequencyConstraints := s.frequencyConstraints.insert a.id c }

def addEnumeration (s : Schema) (a : GraphConstraint) (target : String) : Schema :=
  let values := (a.parameters.bind (·.values)).getD []
  let c : EnumerationConstraint :=
    ⟨a.id, a.named EnumerationConstraint.defaultName, target, values⟩
  { s with enumerationConstraints := s.enumerationConstraints.insert a.id c }

def addCardinality (s : Schema) (a : GraphConstraint) (target : String) (bounds : Bounds) : Schema :=
  let c : CardinalityConstraint :=
    ⟨a.id, a.named CardinalityConstraint.defaultName, target, bounds⟩
  { s with cardinalityConstraints := s.cardinalityConstraints.insert a.id c }

def addCustom (s : Schema) (a : GraphConstraint) (kind target : String) : Schema :=
  let c : CustomConstraint :=
    ⟨a.id, a.named s!"{kind}({target})", kind, "", a.appliesTo, []⟩
  { s with customConstraints := s.customConstraints.insert a.id c }

/-- Adds a drawn constraint, where its kind is known and its target given. -/
def addConstraint (s : Schema) (a : GraphConstraint) : Schema :=
  if a.kind = "uniqueness" then s.addUnique a
  else if a.kind = "mandatory" then s.addMandatory a
  else match a.setKind?, a.target? with
    | some kind, _ => s.addSet a kind
    | none, none => s
    | none, some target =>
      if a.kind = "frequency" then s.addFrequency a target
      else if a.kind = "enumeration" then s.addEnumeration a target
      else if a.kind = "atLeast" then
        s.addCardinality a target ⟨a.parameters.bind GraphConstraint.atLeast, none⟩
      else if a.kind = "limit" then
        s.addCardinality a target ⟨none, a.parameters.bind GraphConstraint.atMost⟩
      else match a.customKind? with
        | some kind => s.addCustom a kind target
        | none => s

end Schema

structure ConversionOptions where
  name : String
  version : String
  strict : Bool

namespace Graph

def nodeSchema (g : Graph) (o : ConversionOptions) : Schema :=
  let s : Schema := { id := o.name, name := o.name, version := o.version }
  g.nodes.foldl Schema.linkObjectified (g.nodes.foldl Schema.addNode s)

def edgeSchema (g : Graph) (o : ConversionOptions) : Schema :=
  let s := g.nodeSchema o
  g.edges.foldl Schema.addSpecialization (s.addPredicators (g.placedEdges s))

def unevenConstraint? (g : Graph) : Option ConversionError :=
  g.constraints.findSome? fun a => a.unevenCount?.map fun n => ⟨a.id, n⟩

def toSchema (g : Graph) (o : ConversionOptions) : Except ConversionError Schema :=
  match o.strict, g.unevenConstraint? with
  | true, some e => .error e
  | _, _ => .ok (g.constraints.foldl Schema.addConstraint (g.edgeSchema o))

end Graph

namespace Conversion

def note (level : LogLevel) (message : String) : LogRecord := ⟨level, .conversion, message⟩

def nodeNote? (n : GraphNode) : Option LogRecord :=
  match n.kind with
  | .other kind => some (note .debug s!"Skipping node '{n.id}' of unknown kind '{kind}'")
  | _ => none

def edgeNote? (g : Graph) (s : Schema) (e : GraphEdge) : Option LogRecord :=
  match e.kind with
  | .predicator => match g.placeEdge s e with
    | .error .noFactType =>
      some (note .debug s!"Skipping predicator edge '{e.id}': no single fact type endpoint")
    | .error _ => some (note .debug s!"Skipping predicator edge '{e.id}': unresolved endpoint")
    | .ok _ => none
  | .specialization => none
  | .other kind => some (note .debug s!"Ignoring '{kind}' edge '{e.id}'")

def targetedKinds : List String := ["frequency", "enumeration", "atLeast", "limit", "noEmpty"]

def constraintNote? (s : Schema) (a : GraphConstraint) : Option LogRecord :=
  if a.kind = "uniqueness" then
    if a.uniquePredicators.isEmpty then
      some (note .debug s!"Skipping uniqueness '{a.id}': no predicators")
    else none
  else if a.kind = "mandatory" then
    if (s.mandatoryRole? a).isNone then
      some (note .debug s!"Skipping mandatory '{a.id}': predicator not found")
    else none
  else if a.setKind?.isSome then
    a.unevenCount?.map fun n => note .warning (ConversionError.message ⟨a.id, n⟩)
  else if targetedKinds.contains a.kind then none
  else some (note .debug s!"Skipping constraint '{a.id}' of unsupported kind '{a.kind}'")

def summary (s : Schema) : LogRecord :=
  note .info (s!"Converted graph '{s.name}': {s.objects.size} objects, " ++
    s!"{s.factTypes.size} fact types, {s.predicators.size} predicators")

/-- What a conversion logs. A strict conversion stops at the constraint it fails on. -/
def notes (g : Graph) (o : ConversionOptions) : List LogRecord :=
  let s := g.edgeSchema o
  let reached :=
    if o.strict then g.constraints.takeWhile fun a => a.unevenCount?.isNone else g.constraints
  g.nodes.filterMap nodeNote? ++
  g.edges.filterMap (edgeNote? g (g.nodeSchema o)) ++
  reached.filterMap (constraintNote? s) ++
  match g.toSchema o with
  | .ok result => [summary result]
  | .error _ => []

end Conversion

end FactModel
