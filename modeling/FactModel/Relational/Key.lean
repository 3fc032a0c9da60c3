import FactModel.Relational.Placement

/-!
Keys of entity tables. An entity whose primary identifier yields columns has a natural key; one
without takes over the key of its first parent that has one; all others number their rows.
Identification may be cyclic: an entity whose key is asked for while it is being resolved counts
as numbered there.
-/

namespace FactModel

structure KeyColumn where
  name : String
  dataType : String
deriving DecidableEq

inductive KeyOrigin where
  | surrogate
  | natural
  | inherited (parent : String)
deriving DecidableEq

structure Key where
  columns : List KeyColumn
  origin : KeyOrigin
deriving DecidableEq

namespace Key

def isNatural (k : Key) : Bool := k.origin == .natural

/-- Whether the columns stem from an identifier, of the entity or of an ancestor. -/
def isIdentifying (k : Key) : Bool := k.origin != .surrogate

end Key

/-- The columns that refer to another table, and the columns they refer to. -/
structure Reference where
  table : String
  columns : List String
deriving DecidableEq

structure RoleColumns where
  columns : List Column
  reference : Option Reference
deriving DecidableEq

def RoleColumns.empty : RoleColumns := ⟨[], none⟩

def surrogateName : String := "id"

def Dialect.surrogateKey (d : Dialect) : Key :=
  ⟨[⟨surrogateName, d.sqlType .integer⟩], .surrogate⟩

def Dialect.surrogateColumn (d : Dialect) : Column :=
  { name := surrogateName
    dataType := d.autoIncrementType
    nullable := false
    primaryKey := true
    unique := true
    autoIncrement := true }

/-- Columns that hold a reference to an entity, one for each column of its key. -/
def keyColumns (base table : String) (key : Key) (target : String) (nullable : Bool)
    (sources : List String) : List Column :=
  key.columns.map fun c =>
    { name := if key.columns.length == 1 then base else s!"{base}_{c.name}"
      dataType := c.dataType
      nullable := nullable
      references := some ⟨table, c.name⟩
      sourcePredicatorIds := sources
      sourceObjectId := some target }

/-- The type of a column that holds a value of something other than an entity. -/
def ObjectType.columnType : ObjectType → DataType
  | .label l => l.dataType
  | _ => .integer

/-- Columns that hold a value of an object type under the name of a role. -/
def referenceColumns (d : Dialect) (tables : OrderedMap String) (keyOf : Entity → Key)
    (role : String) (target : ObjectType) (nullable : Bool) (sources : List String) :
    RoleColumns :=
  let base := Ddl.identifier role
  match target with
  | .entity e =>
    let key := keyOf e
    let table := (tables.find? e.id).getD ""
    ⟨keyColumns base table key e.id nullable sources,
      some ⟨table, key.columns.map (·.name)⟩⟩
  | target =>
    ⟨[{ name := base
        dataType := d.sqlType target.columnType
        nullable := nullable
        sourcePredicatorIds := sources
        sourceObjectId := some target.id }], none⟩

def RoleUse.columns (d : Dialect) (tables : OrderedMap String) (keyOf : Entity → Key) :
    RoleUse → RoleColumns
  | nothing => .empty
  | flag f role =>
    ⟨[{ name := Ddl.identifier f.name
        dataType := d.sqlType .boolean
        nullable := role.isOptional
        sourcePredicatorIds := [role.id] }], none⟩
  | value role partner target =>
    referenceColumns d tables keyOf partner.name target role.isOptional [role.id, partner.id]

/-- Elements that have tables: entities, objectified fact types and junctions, in this order. -/
def Schema.tableElements (s : Schema) : List (String × String) :=
  s.entities.values.map (fun e => (e.id, e.name)) ++
  s.objectifiedFactTypes.map (fun f => (f.id, f.name)) ++
  s.junctions.map (fun f => (f.id, f.name))

def Schema.tableNames (s : Schema) : OrderedMap String :=
  let names := Name.claimAll [] (s.tableElements.map fun element => Ddl.identifier element.2)
  OrderedMap.ofList ((s.tableElements.map (·.1)).zip names)

/-- The keys known so far, by entity id, and the entities at which a cycle was cut. -/
structure KeyTable where
  known : OrderedMap Key
  cuts : List String

namespace KeyTable

def empty : KeyTable := ⟨∅, []⟩

def learn (t : KeyTable) (id : String) (key : Key) : KeyTable :=
  { t with known := t.known.insert id key }

def cut (t : KeyTable) (id : String) : KeyTable := { t with cuts := t.cuts ++ [id] }

end KeyTable

/-- What the derivation of a schema for one dialect works on. -/
structure Derivation where
  schema : Schema
  dialect : Dialect
  tables : OrderedMap String

namespace Derivation

def ofSchema (s : Schema) (d : Dialect) : Derivation := ⟨s, d, s.tableNames⟩

/-- The predicators of the primary identifier, without repetitions. -/
def keyRoles (d : Derivation) (e : Entity) : List String :=
  match d.schema.primaryIdentifier? e with
  | some c => c.predicatorIds.eraseDups
  | none => []

/-- The parents of an entity that resolve, without repetitions and without itself. -/
def parents (d : Derivation) (e : Entity) : List Entity :=
  (e.specializationOf.eraseDups.filterMap d.schema.entities.find?).filter fun p => p.id != e.id

def roleColumns (d : Derivation) (keyOf : Entity → Key) (e : Entity) (predicator : String) :
    RoleColumns :=
  (d.schema.roleUse e.id predicator).columns d.dialect d.tables keyOf

/-- Names claimed for the columns of the key roles. -/
def naturalColumns (columns : List Column) : List KeyColumn :=
  let names := Name.claimAll [] (columns.map (·.name))
  (names.zip columns).map fun pair => ⟨pair.1, pair.2.dataType⟩

/-- The key of an entity, and what is known of keys after asking. `pending` holds the entities
that are not being resolved. -/
def resolveKey (d : Derivation) (pending : List String) (e : Entity) (known : KeyTable) :
    Key × KeyTable :=
  match known.known.find? e.id with
  | some key => (key, known)
  | none =>
    if _h : e.id ∈ pending then
      let (columns, known) := (d.keyRoles e).foldl
        (fun state predicator =>
          match (d.schema.roleUse e.id predicator).entity? with
          | some target =>
            let (key, known) := d.resolveKey (pending.erase e.id) target state.2
            (state.1 ++ (d.roleColumns (fun _ => key) e predicator).columns, known)
          | none =>
            (state.1 ++ (d.roleColumns (fun _ => d.dialect.surrogateKey) e predicator).columns,
              state.2))
        (([] : List Column), known)
      if columns.isEmpty then
        let (key, known) := (d.parents e).foldl
          (fun state parent =>
            match state.1 with
            | some _ => state
            | none =>
              let (key, known) := d.resolveKey (pending.erase e.id) parent state.2
              (if key.isIdentifying then some ⟨key.columns, .inherited parent.id⟩ else none,
                known))
          ((none : Option Key), known)
        let key := key.getD d.dialect.surrogateKey
        (key, known.learn e.id key)
      else
        let key : Key := ⟨naturalColumns columns, .natural⟩
        (key, known.learn e.id key)
    else (d.dialect.surrogateKey, known.cut e.id)
termination_by pending.length
decreasing_by
  all_goals
    have := List.length_pos_of_mem _h
    rw [List.length_erase_of_mem _h]
    omega

end Derivation

end FactModel
