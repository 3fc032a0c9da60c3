import FactModel.Relational.Name

/-!
Where a fact type goes. An objectified fact type has a table of its own. A binary fact type is
hosted as a column by the entity playing role `p` when the partner role `q` is unique, or when
`p` is unique and `q` is played by something other than an entity. What is left and has more
than one role needs a junction table.
-/

namespace FactModel

namespace Schema

/-- Objectification may be recorded with the fact type or with the entity. -/
def isObjectified (s : Schema) (f : FactType) : Bool :=
  f.isObjectified || s.entities.values.any fun e =>
    match e.objectifiedFactTypeId with
    | some id => id == f.id && s.factTypes.contains id
    | none => false

def isUniqueAlone (s : Schema) (predicator : String) : Bool :=
  s.uniqueConstraints.values.any fun c => c.predicatorIds == [predicator]

def hosts (s : Schema) (p q : Predicator) : Bool :=
  s.entities.contains p.objectId &&
    (s.isUniqueAlone q.id || (s.isUniqueAlone p.id && !s.entities.contains q.objectId))

/-- The two roles of a binary fact type that is no table of its own. -/
def binaryRoles? (s : Schema) (f : FactType) : Option (Predicator × Predicator) :=
  if s.isObjectified f || f.arity != 2 then none
  else match s.roles f with
    | [p, q] => some (p, q)
    | _ => none

/-- The hosting role and its partner; the first role wins when both could host. -/
def hostOf? (s : Schema) (f : FactType) : Option (Predicator × Predicator) :=
  match s.binaryRoles? f with
  | some (p, q) => if s.hosts p q then some (p, q) else if s.hosts q p then some (q, p) else none
  | none => none

/-- Fact types of one id are hosted alike: the first binary one decides. -/
def host? (s : Schema) (f : FactType) : Option (Predicator × Predicator) :=
  (s.factTypes.values.find? fun g => g.id == f.id && (s.binaryRoles? g).isSome).bind s.hostOf?

def needsJunction (s : Schema) (f : FactType) : Bool :=
  let roles := s.roles f
  !s.isObjectified f && f.arity == roles.length && 2 ≤ roles.length &&
    (2 < roles.length || (s.host? f).isNone)

def objectifiedFactTypes (s : Schema) : List FactType :=
  s.factTypes.values.filter s.isObjectified

def junctions (s : Schema) : List FactType := s.factTypes.values.filter s.needsJunction

end Schema

/-- What a predicator contributes to the table of an entity. -/
inductive RoleUse where
  | nothing
  | flag (factType : FactType) (role : Predicator)
  | value (role partner : Predicator) (target : ObjectType)

namespace RoleUse

/-- The entity whose key the role refers to. -/
def entity? : RoleUse → Option Entity
  | value _ _ (.entity e) => some e
  | _ => none

end RoleUse

/-- The use of a predicator by the entity of an id: a flag for a unary fact type, a value where
the entity hosts the fact type through this predicator. -/
def Schema.roleUse (s : Schema) (entity predicator : String) : RoleUse :=
  match s.predicators.find? predicator with
  | none => .nothing
  | some role =>
    if role.objectId != entity then .nothing
    else match s.factTypes.find? role.factTypeId with
      | none => .nothing
      | some f =>
        if s.isObjectified f then .nothing
        else if f.isUnary then .flag f role
        else match s.host? f with
          | none => .nothing
          | some (p, q) =>
            if p.id != role.id then .nothing
            else match s.object? q.objectId with
              | some target => .value role q target
              | none => .nothing

end FactModel
