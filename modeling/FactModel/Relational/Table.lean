import FactModel.Relational.Key

/-!
The tables of a derivation, once the keys of entities are known.
-/

namespace FactModel

/-- A bound as it stands in a check: a whole float is written as an integer. -/
def RangeBound.text : RangeBound → String
  | int n => String.ofList (Value.intText n)
  | float x => String.ofList <| match x.toInt? with
    | some n => Value.intText n
    | none => Value.floatText.text x

namespace LabelType

def rangeTerms (l : LabelType) (column : String) : List String :=
  (l.minValue.map fun x => s!"{column} >= {x.text}").toList ++
  (l.maxValue.map fun x => s!"{column} <= {x.text}").toList

end LabelType

namespace Schema

/-- The value lists that restrict a label: those of its constraints, else its own. -/
def valueLists (s : Schema) (l : LabelType) : List (List Value) :=
  let constrained := s.enumerationConstraints.values.filterMap fun c =>
    if c.labelTypeId == l.id && !c.allowedValues.isEmpty then some c.allowedValues else none
  if constrained.isEmpty then (l.enumeration.filter fun values => !values.isEmpty).toList
  else constrained

def columnLabel? (s : Schema) (c : Column) : Option LabelType :=
  s.labelTypes.find? (c.sourceObjectId.getD "")

end Schema

def Dialect.enumerationTerm (d : Dialect) (column : String) (values : List Value) : String :=
  let list := String.intercalate ", " (values.map (Ddl.literal d.numericBooleans))
  s!"{column} IN ({list})"

def foreignKeyName (table : String) (columns : List String) : String :=
  s!"fk_{table}_" ++ String.intercalate "_" columns

def roleForeignKey (table : String) (columns : List String) (ref : Reference)
    (onDelete : ForeignKeyAction) : ForeignKey :=
  { name := foreignKeyName table columns
    columns := columns
    refTable := ref.table
    refColumns := ref.columns
    onDelete := some onDelete
    onUpdate := some .cascade }

/-- The columns of one role under the names they got in a table. -/
structure RoleGroup where
  predicator : String
  columns : List Column
  reference : Option Reference

namespace RoleGroup

def names (g : RoleGroup) : List String := g.columns.map (·.name)

def foreignKey? (table : String) (onDelete : ForeignKeyAction) (g : RoleGroup) :
    Option ForeignKey :=
  match g.reference with
  | some ref => if g.columns.isEmpty then none else some (roleForeignKey table g.names ref onDelete)
  | none => none

/-- Gives the columns of roles names of their own, one role after the other. -/
def place (used : List String) : List (String × RoleColumns) → List RoleGroup
  | [] => []
  | (predicator, role) :: rest =>
    let names := Name.claimAll used (role.columns.map (·.name))
    let columns := (names.zip role.columns).map fun pair => { pair.2 with name := pair.1 }
    ⟨predicator, columns, role.reference⟩ :: place (names.reverse ++ used) rest

end RoleGroup

/-- A derivation with the keys of all entities. -/
structure TablePlan extends Derivation where
  keys : OrderedMap Key

namespace TablePlan

def key (p : TablePlan) (e : Entity) : Key := (p.keys.find? e.id).getD p.dialect.surrogateKey

def tableName (p : TablePlan) (id : String) : String := (p.tables.find? id).getD ""

/-- Enumeration and range checks of the columns that hold label values. -/
def checksFrom (p : TablePlan) (table : String) (used : List String) : List Column → List Check
  | [] => []
  | column :: rest => match p.schema.columnLabel? column with
    | none => p.checksFrom table used rest
    | some label =>
      let lists := p.schema.valueLists label
      let base := s!"chk_{table}_{column.name}"
      let names := Name.claimAll used (lists.map fun _ => base ++ "_enum")
      let enumerations := (names.zip lists).map fun pair =>
        (⟨pair.1, p.dialect.enumerationTerm column.name pair.2⟩ : Check)
      let terms := label.rangeTerms column.name
      let range : List Check :=
        if terms.isEmpty then [] else [⟨base ++ "_range", String.intercalate " AND " terms⟩]
      enumerations ++ range ++ p.checksFrom table (names.reverse ++ used) rest

def checks (p : TablePlan) (table : String) (columns : List Column) : List Check :=
  p.checksFrom table [] columns

def naturalRoles (p : TablePlan) (e : Entity) : List String :=
  if (p.key e).isNatural then p.keyRoles e else []

def played (p : TablePlan) (e : Entity) : List String :=
  (p.schema.predicators.values.filter fun r => r.objectId == e.id).map (·.id)

def leadColumns (p : TablePlan) (e : Entity) : List Column :=
  let key := p.key e
  match key.origin with
  | .natural => []
  | .inherited _ =>
    let names := Name.claimAll [] (key.columns.map (·.name))
    (names.zip key.columns).map fun pair =>
      { name := pair.1, dataType := pair.2.dataType, nullable := false, primaryKey := true }
  | .surrogate => [p.dialect.surrogateColumn]

/-- Key roles come first, then all other roles in the order of the schema. -/
def entityGroups (p : TablePlan) (e : Entity) : List RoleGroup :=
  let roles := (p.naturalRoles e ++ p.played e).eraseDups
  RoleGroup.place ((p.leadColumns e).map (·.name)) <|
    roles.map fun predicator => (predicator, p.roleColumns p.key e predicator)

def namesOf (groups : List RoleGroup) (predicator : String) : List String :=
  match groups.find? fun g => g.predicator == predicator with
  | some g => g.names
  | none => []

def primaryKeyOf (p : TablePlan) (e : Entity) (groups : List RoleGroup) : List String :=
  let key := p.key e
  match key.origin with
  | .natural => (p.naturalRoles e).flatMap (namesOf groups)
  | .inherited _ => key.columns.map (·.name)
  | .surrogate => [surrogateName]

def primaryKey (p : TablePlan) (e : Entity) : List String := p.primaryKeyOf e (p.entityGroups e)

/-- Key columns of a natural key are marked and not null. -/
def markKey (primaryKey : List String) (columns : List Column) : List Column :=
  columns.map fun c =>
    if primaryKey.contains c.name then { c with primaryKey := true, nullable := false } else c

/-- The columns of the identifiers that are not the key, each list once. -/
def uniqueLists (p : TablePlan) (e : Entity) (groups : List RoleGroup)
    (primaryKey : List String) : List (List String) :=
  let natural := (p.key e).isNatural
  let primary := (p.schema.primaryIdentifier? e).map (·.id)
  (p.schema.identifiersOf e).foldl
    (fun lists c =>
      if natural && primary == some c.id then lists
      else
        let columns := (c.predicatorIds.flatMap (namesOf groups)).eraseDups
        if columns.isEmpty || columns == primaryKey || lists.contains columns then lists
        else lists ++ [columns])
    []

/-- Why an entity has no foreign key to a parent. -/
inductive Mismatch where
  | arity
  | type
deriving DecidableEq

def mismatch? (p : TablePlan) (e parent : Entity) (primaryKey : List String) : Option Mismatch :=
  let columns := (p.key parent).columns
  if columns.length != primaryKey.length then some .arity
  else if columns.map (·.dataType) != (p.key e).columns.map (·.dataType) then some .type
  else none

def specializationKey (p : TablePlan) (table : String) (primaryKey : List String)
    (parent : Entity) : ForeignKey :=
  { name := s!"fk_{table}_{p.tableName parent.id}"
    columns := primaryKey
    refTable := p.tableName parent.id
    refColumns := (p.key parent).columns.map (·.name)
    onDelete := some .cascade
    onUpdate := some .cascade }

def specializationKeys (p : TablePlan) (e : Entity) (primaryKey : List String) :
    List ForeignKey :=
  (e.specializationOf.eraseDups.filterMap p.schema.entities.find?).filterMap fun parent =>
    match p.mismatch? e parent primaryKey with
    | some _ => none
    | none => some (p.specializationKey (p.tableName e.id) primaryKey parent)

def entityTable (p : TablePlan) (e : Entity) : Table :=
  let name := p.tableName e.id
  let groups := p.entityGroups e
  let primaryKey := p.primaryKeyOf e groups
  let columns := p.leadColumns e ++ groups.flatMap (·.columns)
  let columns := if (p.key e).isNatural then markKey primaryKey columns else columns
  { name := name
    kind := .entity
    sourceId := some e.id
    columns := columns
    primaryKey := primaryKey
    uniqueConstraints := p.uniqueLists e groups primaryKey
    foreignKeys := groups.filterMap (RoleGroup.foreignKey? name .restrict) ++
      p.specializationKeys e primaryKey
    checks := p.checks name columns }

def factRoles (p : TablePlan) (f : FactType) : List (Predicator × ObjectType) :=
  (p.schema.roles f).filterMap fun role =>
    (p.schema.object? role.objectId).map fun target => (role, target)

def factGroups (p : TablePlan) (f : FactType) (kind : TableKind) : List RoleGroup :=
  let used := if kind = .junction then [] else [surrogateName]
  RoleGroup.place used <| (p.factRoles f).map fun pair =>
    let nullable := kind != .junction && pair.1.isOptional
    (pair.1.id,
      referenceColumns p.dialect p.tables p.key pair.1.name pair.2 nullable [pair.1.id])

def factTable (p : TablePlan) (kind : TableKind) (f : FactType) : Table :=
  let name := p.tableName f.id
  let groups := p.factGroups f kind
  let roleColumns := groups.flatMap (·.columns)
  let columns :=
    if kind = .junction then roleColumns else p.dialect.surrogateColumn :: roleColumns
  let onDelete := if kind = .junction then .cascade else .restrict
  { name := name
    kind := kind
    sourceId := some f.id
    columns := columns
    primaryKey := if kind = .junction then columns.map (·.name) else [surrogateName]
    uniqueConstraints := []
    foreignKeys := groups.filterMap (RoleGroup.foreignKey? name onDelete)
    checks := p.checks name columns }

def tableList (p : TablePlan) : List Table :=
  p.schema.entities.values.map p.entityTable ++
  p.schema.objectifiedFactTypes.map (p.factTable .objectified) ++
  p.schema.junctions.map (p.factTable .junction)

end TablePlan

def indexName (table : String) (columns : List String) : String :=
  s!"idx_{table}_" ++ String.intercalate "_" columns

/-- One index for each list of columns that is a foreign key of its table. -/
def indexesOf (tables : List Table) : List Index :=
  let keys := tables.flatMap fun t => t.foreignKeys.map fun k => (t.name, k.columns)
  keys.eraseDups.map fun key => ⟨indexName key.1 key.2, key.1, key.2, false⟩

end FactModel
