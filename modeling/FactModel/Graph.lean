import FactModel.KeyStyle

/-!
Canvas graphs: nodes, edges between them and constraints, in the order in which they were drawn.
Kinds that are not known are kept by name.
-/

namespace FactModel

inductive NodeKind where
  | entity
  | factType
  | labelType
  | powerType
  | sequenceType
  | objectified
  | other (name : String)
deriving DecidableEq

namespace NodeKind

def ofName (s : String) : NodeKind :=
  if s = "entity" then entity
  else if s = "factType" then factType
  else if s = "labelType" then labelType
  else if s = "powerType" then powerType
  else if s = "sequenceType" then sequenceType
  else if s = "objectified" then objectified
  else other s

def name : NodeKind → String
  | entity => "entity"
  | factType => "factType"
  | labelType => "labelType"
  | powerType => "powerType"
  | sequenceType => "sequenceType"
  | objectified => "objectified"
  | other s => s

end NodeKind

structure GraphNode where
  id : String
  kind : NodeKind
  label : String
  dataType : Option String
  arity : Option Int
  memberEntityId : Option String
  objectifiedFactId : Option String

inductive EdgeKind where
  | predicator
  | specialization
  | other (name : String)
deriving DecidableEq

namespace EdgeKind

def ofName (s : String) : EdgeKind :=
  if s = "predicator" then predicator
  else if s = "specialization" then specialization
  else other s

def name : EdgeKind → String
  | predicator => "predicator"
  | specialization => "specialization"
  | other s => s

end EdgeKind

structure GraphEdge where
  id : String
  kind : EdgeKind
  source : String
  target : String
  label : String
  position : Option Int

/-- An upper limit; infinity is no limit. -/
inductive Limit where
  | count (n : Int)
  | infinity
deriving DecidableEq

def Limit.toCount? : Limit → Option Int
  | count n => some n
  | infinity => none

structure ConstraintParameters where
  min : Option Int
  max : Option Limit
  values : Option (List Value)
  n : Option Int
  m : Option Int

/-- A constraint drawn on the canvas. -/
structure GraphConstraint where
  id : String
  kind : String
  name : Option String
  appliesTo : List String
  predicatorIds : Option (List String)
  sourcePredicatorIds : Option (List String)
  targetPredicatorIds : Option (List String)
  isPrimary : Option Bool
  parameters : Option ConstraintParameters

structure Graph where
  nodes : List GraphNode
  edges : List GraphEdge
  constraints : List GraphConstraint

def kindSpellings : List String := ["kind", "type"]

open Value

namespace GraphNode

def toValue (style : KeyStyle) (n : GraphNode) : Value := obj [
  ("id", str n.id),
  ("kind", str n.kind.name),
  ("label", str n.label),
  (style.spell "data_type", ofOption str n.dataType),
  ("arity", ofOption int n.arity),
  (style.spell "member_entity_id", ofOption str n.memberEntityId),
  (style.spell "objectified_fact_id", ofOption str n.objectifiedFactId)]

def read : Value → Reading GraphNode := readRecord fun f =>
  GraphNode.mk
  <$> f.required "id" readText
  <*> f.requiredAs kindSpellings (fun v => NodeKind.ofName <$> readText v)
  <*> f.optional "label" "" readText
  <*> f.nullableEither "data_type" readText
  <*> f.nullable "arity" readInt
  <*> f.nullableEither "member_entity_id" readText
  <*> f.nullableEither "objectified_fact_id" readText

end GraphNode

namespace GraphEdge

def toValue (style : KeyStyle) (e : GraphEdge) : Value := obj [
  ("id", str e.id),
  ("kind", str e.kind.name),
  (style.spell "source_node_id", str e.source),
  (style.spell "target_node_id", str e.target),
  ("label", str e.label),
  ("position", ofOption int e.position)]

def read : Value → Reading GraphEdge := readRecord fun f =>
  GraphEdge.mk
  <$> f.required "id" readText
  <*> f.requiredAs kindSpellings (fun v => EdgeKind.ofName <$> readText v)
  <*> f.requiredEither "source_node_id" readText
  <*> f.requiredEither "target_node_id" readText
  <*> f.optional "label" "" readText
  <*> f.nullable "position" readInt

end GraphEdge

namespace Limit

def toValue : Limit → Value
  | count n => int n
  | infinity => str "infinity"

def word? (s : String) : Option Limit := if s = "infinity" then some infinity else none

/-- A count or the word for infinity; what is neither has the problems of both. -/
def read (v : Value) : Reading Limit :=
  match readInt v, readWordOf word? v with
  | .ok n, _ => .ok (count n)
  | _, .ok limit => .ok limit
  | .bad p, .bad q =>
    .bad (p.map (fun x => { x with location := .key "int" :: x.location }) ++
      q.map fun x => { x with location := .key "literal['infinity']" :: x.location })

end Limit

namespace ConstraintParameters

def toValue (p : ConstraintParameters) : Value := obj [
  ("min", ofOption int p.min),
  ("max", ofOption Limit.toValue p.max),
  ("values", ofOption arr p.values),
  ("n", ofOption int p.n),
  ("m", ofOption int p.m)]

def read : Value → Reading ConstraintParameters := readRecord fun f =>
  ConstraintParameters.mk
  <$> f.nullable "min" readInt
  <*> f.nullable "max" Limit.read
  <*> f.nullable "values" (readList readAny)
  <*> f.nullable "n" readInt
  <*> f.nullable "m" readInt

end ConstraintParameters

namespace GraphConstraint

def toValue (style : KeyStyle) (c : GraphConstraint) : Value := obj [
  ("id", str c.id),
  ("kind", str c.kind),
  ("name", ofOption str c.name),
  (style.spell "applies_to", strings c.appliesTo),
  (style.spell "predicator_ids", ofOption strings c.predicatorIds),
  (style.spell "source_predicator_ids", ofOption strings c.sourcePredicatorIds),
  (style.spell "target_predicator_ids", ofOption strings c.targetPredicatorIds),
  (style.spell "is_primary", ofOption bool c.isPrimary),
  ("parameters", ofOption ConstraintParameters.toValue c.parameters)]

def read : Value → Reading GraphConstraint := readRecord fun f =>
  GraphConstraint.mk
  <$> f.required "id" readText
  <*> f.requiredAs kindSpellings readText
  <*> f.nullable "name" readText
  <*> f.optionalEither "applies_to" [] readTexts
  <*> f.nullableEither "predicator_ids" readTexts
  <*> f.nullableEither "source_predicator_ids" readTexts
  <*> f.nullableEither "target_predicator_ids" readTexts
  <*> f.nullableEither "is_primary" readBool
  <*> f.nullable "parameters" ConstraintParameters.read

end GraphConstraint

namespace Graph

def toValue (style : KeyStyle) (g : Graph) : Value := obj [
  ("nodes", arr (g.nodes.map (GraphNode.toValue style))),
  ("edges", arr (g.edges.map (GraphEdge.toValue style))),
  ("constraints", arr (g.constraints.map (GraphConstraint.toValue style)))]

def read : Value → Reading Graph := readRecord fun f =>
  Graph.mk
  <$> f.optional "nodes" [] (readList GraphNode.read)
  <*> f.optional "edges" [] (readList GraphEdge.read)
  <*> f.optional "constraints" [] (readList GraphConstraint.read)

end Graph

end FactModel
