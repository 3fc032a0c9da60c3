import FactModel.OrderedMap
import FactModel.Value

/-!
Constraints of an information schema. Each refers to objects, fact types and predicators by id.
-/

namespace FactModel

/-- The joint values of the predicators differ between tuples. -/
structure UniqueConstraint where
  id : String
  name : String
  predicatorIds : List String
  isPrimary : Bool
  isPreferred : Bool
deriving BEq

/-- Every instance of the object plays the predicator. -/
structure TotalRoleConstraint where
  id : String
  name : String
  predicatorId : String
  objectId : String
deriving BEq

/-- What a set constraint asks of its two value sets; a kind of another name asks nothing. -/
inductive SetKind where
  | subset
  | equality
  | exclusion
  | other (name : String)
deriving DecidableEq

namespace SetKind

def name : SetKind → String
  | subset => "Subset"
  | equality => "Equality"
  | exclusion => "Exclusion"
  | other name => name

def ofName? (s : String) : Option SetKind :=
  if s = "Subset" then some subset
  else if s = "Equality" then some equality
  else if s = "Exclusion" then some exclusion
  else none

end SetKind

structure SetConstraint where
  id : String
  name : String
  kind : SetKind
  sourcePredicatorIds : List String
  targetPredicatorIds : List String
deriving BEq

/-- Least and greatest count, where given. -/
structure Bounds where
  min : Option Int
  max : Option Int
deriving DecidableEq

/-- How often one instance may occur in a predicator. -/
structure CardinalityConstraint where
  id : String
  name : String
  predicatorId : String
  bounds : Bounds
deriving BEq

/-- How many tuples a fact type may have. -/
structure FrequencyConstraint where
  id : String
  name : String
  factTypeId : String
  bounds : Bounds
deriving BEq

/-- A label type restricted to some values. -/
structure EnumerationConstraint where
  id : String
  name : String
  labelTypeId : String
  allowedValues : List Value
deriving BEq

/-- A rule whose meaning is that of the evaluator registered for its kind. -/
structure CustomConstraint where
  id : String
  name : String
  kind : String
  description : String
  appliesTo : List String
  parameters : List (String × Value)
deriving BEq

inductive ConstraintCategory where
  | uniqueness
  | totalRole
  | set
  | cardinality
  | frequency
  | enumeration
  | custom
deriving DecidableEq

namespace ConstraintCategory

/-- In the order in which they are checked. -/
def all : List ConstraintCategory :=
  [uniqueness, totalRole, set, cardinality, frequency, enumeration, custom]

def name : ConstraintCategory → String
  | uniqueness => "Uniqueness"
  | totalRole => "TotalRole"
  | set => "SetConstraint"
  | cardinality => "Cardinality"
  | frequency => "Frequency"
  | enumeration => "Enumeration"
  | custom => "Custom"

end ConstraintCategory

end FactModel
