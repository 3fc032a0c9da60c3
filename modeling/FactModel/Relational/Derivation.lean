import FactModel.Log
import FactModel.Relational.Table

/-!
Deriving a relational schema from an information schema. The derivation asks for keys in a fixed
order, that of the tables and of the references in them; where identification is cyclic this
order decides which key is cut.
-/

namespace FactModel

/-- What the tables of a schema ask for or miss, in order. -/
inductive Demand where
  | key (e : Entity)
  | parent (child parent : Entity)
  | lostParent (child parent : String)
  | lostRole (role table : String)

namespace Derivation

def parentDemand (d : Derivation) (e : Entity) (parent : String) : Demand :=
  match d.schema.entities.find? parent with
  | some p => .parent e p
  | none => .lostParent e.id parent

def entityDemands (d : Derivation) (e : Entity) : List Demand :=
  let targets := d.schema.predicators.values.filterMap fun role =>
    if role.objectId == e.id then (d.schema.roleUse e.id role.id).entity? else none
  .key e :: targets.map .key ++ e.specializationOf.eraseDups.map (d.parentDemand e)

def roleDemand? (d : Derivation) (table : String) (role : Predicator) : Option Demand :=
  match d.schema.object? role.objectId with
  | some (.entity e) => some (.key e)
  | some _ => none
  | none => some (.lostRole role.id table)

def factDemands (d : Derivation) (f : FactType) : List Demand :=
  (d.schema.roles f).filterMap (d.roleDemand? ((d.tables.find? f.id).getD ""))

def demands (d : Derivation) : List Demand :=
  d.schema.entities.values.flatMap d.entityDemands ++
  d.schema.objectifiedFactTypes.flatMap d.factDemands ++
  d.schema.junctions.flatMap d.factDemands

def entityIds (d : Derivation) : List String := (d.schema.entities.values.map (·.id)).eraseDups

def ask (d : Derivation) (e : Entity) (known : KeyTable) : KeyTable :=
  (d.resolveKey d.entityIds e known).2

def meet (d : Derivation) (known : KeyTable) : Demand → KeyTable
  | .key e => d.ask e known
  | .parent _ p => d.ask p known
  | _ => known

def keys (d : Derivation) : OrderedMap Key := (d.demands.foldl d.meet KeyTable.empty).known

def plan (d : Derivation) : TablePlan := { d with keys := d.keys }

/-- Whether the key of an entity stems from an identifier that it does not have itself: it shares
its id with another entity. -/
def isUnidentified (p : TablePlan) (e : Entity) : Bool :=
  (p.key e).isNatural && (p.schema.primaryIdentifier? e).isNone

def unidentified? (d : Derivation) : Option Entity :=
  d.schema.entities.values.find? (isUnidentified d.plan)

def sqlSchema (d : Derivation) : SqlSchema :=
  let tables := d.plan.tableList
  ⟨d.dialect, tables, indexesOf tables⟩

def note (level : LogLevel) (message : String) : LogRecord := ⟨level, .derivation, message⟩

def cutNote (id : String) : LogRecord :=
  note .debug s!"Cyclic identification through '{id}'; using surrogate key"

def demandNotes (p : TablePlan) : Demand → List LogRecord
  | .key _ => []
  | .parent e parent =>
    let pair := s!"'{p.tableName e.id}' to '{p.tableName parent.id}'"
    match p.mismatch? e parent (p.primaryKey e) with
    | some .arity =>
      [note .warning s!"Skipping specialization FK from {pair}: key arity mismatch"]
    | some .type =>
      [note .warning s!"Skipping specialization FK from {pair}: key type mismatch"]
    | none => []
  | .lostParent child parent =>
    [note .debug s!"Skipping specialization of '{child}': parent '{parent}' not found"]
  | .lostRole role table =>
    [note .debug s!"Skipping role '{role}' of '{table}': object not found"]

/-- The cycles that a demand cuts come before what is missing for it. -/
def notesFrom (d : Derivation) (p : TablePlan) (known : KeyTable) : List Demand → List LogRecord
  | [] => []
  | demand :: rest =>
    let next := d.meet { known with cuts := [] } demand
    next.cuts.map cutNote ++ demandNotes p demand ++ d.notesFrom p next rest

def notes (d : Derivation) : List LogRecord :=
  let sql := d.sqlSchema
  d.notesFrom d.plan KeyTable.empty d.demands ++
    [note .info (s!"Generated {sql.tables.length} tables and {sql.indexes.length} indexes " ++
      s!"for schema '{d.schema.name}' ({d.dialect.name})")]

/-- What is asked for until an entity turns out to lack its identifier. -/
def demandsUntil (d : Derivation) (e : Entity) : List Demand :=
  let p := d.plan
  let before := d.schema.entities.values.takeWhile fun other => !isUnidentified p other
  before.flatMap d.entityDemands ++ [.key e]

end Derivation

inductive DerivationError where
  | missingIdentifier
deriving DecidableEq

namespace DerivationError

def message : DerivationError → String
  | missingIdentifier => "'NoneType' object has no attribute 'predicator_ids'"

end DerivationError

namespace Derivation

/-- The relational schema, unless an entity lacks the identifier of its key. -/
def result (d : Derivation) : Except DerivationError SqlSchema :=
  match d.unidentified? with
  | some _ => .error .missingIdentifier
  | none => .ok d.sqlSchema

def trail (d : Derivation) : List LogRecord :=
  match d.unidentified? with
  | some e => d.notesFrom d.plan KeyTable.empty (d.demandsUntil e)
  | none => d.notes

end Derivation

namespace Schema

/-- The tables of an information schema in a dialect. -/
def toSql (s : Schema) (d : Dialect) : SqlSchema := (Derivation.ofSchema s d).sqlSchema

/-- The relational schema of an information schema, unless an entity lacks the identifier of its
key. -/
def relational (s : Schema) (d : Dialect) : Except DerivationError SqlSchema :=
  (Derivation.ofSchema s d).result

end Schema

end FactModel
