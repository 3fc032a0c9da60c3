import FactModel.Log
import FactModel.Relational

/-!
Integrity checks: references of an information schema that do not resolve, and keys of a
relational schema that name what is not there.
-/

namespace FactModel

open Value

inductive SchemaIssue where
  | predicatorObject (predicator object : String)
  | predicatorFactType (predicator factType : String)
  | factPredicatorMissing (factType name predicator : String)
  | factPredicatorForeign (factType name predicator owner : String)
  | constraintReference (constraint : String) (category : ConstraintCategory) (ref : String)
  | identifierForeign (entity name identifier predicator object : String)
  | parentMissing (entity name parent : String)
  | emptySide (constraint : String) (c : SetConstraint)

/-- An issue as it is reported. -/
structure IssueReport where
  stage : String
  code : String
  location : String
  message : String
  details : List (String × Value)

def IssueReport.toValue (r : IssueReport) : Value := obj [
  ("stage", str r.stage),
  ("code", str r.code),
  ("location", str r.location),
  ("message", str r.message),
  ("details", obj r.details)]

def SchemaIssue.report (issue : SchemaIssue) : IssueReport :=
  let make := fun code location message details =>
    (⟨"InformationSchema", code, location, message, details⟩ : IssueReport)
  match issue with
  | predicatorObject p o =>
    make "PRED_OBJECT_MISSING" p s!"Predicator '{p}' is based on unknown object '{o}'"
      [("object_id", str o)]
  | predicatorFactType p f =>
    make "PRED_FACT_TYPE_MISSING" p s!"Predicator '{p}' belongs to unknown fact type '{f}'"
      [("fact_type_id", str f)]
  | factPredicatorMissing f name p =>
    make "FACT_PRED_MISSING" f s!"Fact type '{name}' lists unknown predicator '{p}'"
      [("predicator_id", str p)]
  | factPredicatorForeign f name p owner =>
    make "FACT_PRED_FOREIGN" f
      s!"Fact type '{name}' lists predicator '{p}' of fact type '{owner}'"
      [("predicator_id", str p)]
  | constraintReference c category ref =>
    make "CONSTRAINT_REF_MISSING" c
      s!"{category.name} constraint '{c}' references unknown id '{ref}'"
      [("constraint_type", str category.name), ("ref", str ref)]
  | identifierForeign e name c p o =>
    make "IDENTIFIER_FOREIGN_PRED" e
      s!"Identifier '{c}' of '{name}' uses predicator '{p}' played by '{o}'"
      [("constraint_id", str c), ("predicator_id", str p)]
  | parentMissing e name parent =>
    make "SPECIALIZATION_PARENT_MISSING" e
      s!"Entity '{name}' specializes unknown entity '{parent}'" [("parent_id", str parent)]
  | emptySide key c =>
    make "SET_CONSTRAINT_EMPTY_SIDE" key
      s!"{c.kind.name} constraint '{c.name}' has an empty side"
      [("source", int c.sourcePredicatorIds.length), ("target", int c.targetPredicatorIds.length)]

namespace Schema

def predicatorIssues (s : Schema) (key : String) (p : Predicator) : List SchemaIssue :=
  (if s.hasObject p.objectId then [] else [.predicatorObject key p.objectId]) ++
  (if s.factTypes.contains p.factTypeId then [] else [.predicatorFactType key p.factTypeId])

def roleIssues (s : Schema) (key : String) (f : FactType) (predicator : String) :
    List SchemaIssue :=
  match s.predicators.find? predicator with
  | none => [.factPredicatorMissing key f.name predicator]
  | some p =>
    if p.factTypeId = key then []
    else [.factPredicatorForeign key f.name predicator p.factTypeId]

/-- The ids that a constraint of a category holds, and whether each resolves. -/
def constraintRefs (s : Schema) : ConstraintCategory → List (String × List (String × Bool))
  | .uniqueness => s.uniqueConstraints.entries.map fun (key, c) =>
    (key, c.predicatorIds.map fun id => (id, s.predicators.contains id))
  | .totalRole => s.totalRoleConstraints.entries.map fun (key, c) =>
    (key, [(c.predicatorId, s.predicators.contains c.predicatorId),
      (c.objectId, s.hasObject c.objectId)])
  | .set => s.setConstraints.entries.map fun (key, c) =>
    (key, (c.sourcePredicatorIds ++ c.targetPredicatorIds).map fun id =>
      (id, s.predicators.contains id))
  | .cardinality => s.cardinalityConstraints.entries.map fun (key, c) =>
    (key, [(c.predicatorId, s.predicators.contains c.predicatorId)])
  | .frequency => s.frequencyConstraints.entries.map fun (key, c) =>
    (key, [(c.factTypeId, s.factTypes.contains c.factTypeId)])
  | .enumeration => s.enumerationConstraints.entries.map fun (key, c) =>
    (key, [(c.labelTypeId, s.labelTypes.contains c.labelTypeId)])
  | .custom => s.customConstraints.entries.map fun (key, c) =>
    (key, c.appliesTo.map fun id =>
      (id, s.hasObject id || s.factTypes.contains id || s.predicators.contains id))

def constraintIssues (s : Schema) (category : ConstraintCategory) : List SchemaIssue :=
  (s.constraintRefs category).flatMap fun (key, refs) =>
    refs.filterMap fun (ref, resolves) =>
      if resolves then none else some (.constraintReference key category ref)

def identifierIssues (s : Schema) (key : String) (e : Entity) (c : UniqueConstraint) :
    List SchemaIssue :=
  c.predicatorIds.filterMap fun id => match s.predicators.find? id with
    | some p =>
      if p.objectId = key then none
      else some (.identifierForeign key e.name c.id id p.objectId)
    | none => none

def entityIssues (s : Schema) (key : String) (e : Entity) : List SchemaIssue :=
  (s.identifiersOf e).flatMap (s.identifierIssues key e) ++
  e.specializationOf.filterMap fun parent =>
    if s.entities.contains parent then none else some (.parentMissing key e.name parent)

def setIssues (key : String) (c : SetConstraint) : List SchemaIssue :=
  if c.sourcePredicatorIds.isEmpty || c.targetPredicatorIds.isEmpty then [.emptySide key c]
  else []

/-- Every reference of a schema that does not resolve. -/
def issues (s : Schema) : List SchemaIssue :=
  s.predicators.entries.flatMap (fun (key, p) => s.predicatorIssues key p) ++
  s.factTypes.entries.flatMap (fun (key, f) => f.predicators.flatMap (s.roleIssues key f)) ++
  ConstraintCategory.all.flatMap s.constraintIssues ++
  s.entities.entries.flatMap (fun (key, e) => s.entityIssues key e) ++
  s.setConstraints.entries.flatMap (fun (key, c) => setIssues key c)

end Schema

inductive SqlIssue where
  | missingKey (table : Table)
  | keyColumnMissing (table column : String)
  | refTableMissing (table : String) (key : ForeignKey)
  | columnsMissing (table : String) (key : ForeignKey) (absent : List String)
  | refColumnsMissing (table : String) (key : ForeignKey) (absent : List String)

def foreignKeyLocation (table : String) (key : ForeignKey) : String :=
  s!"{table}." ++ String.intercalate "," key.columns

def SqlIssue.report (issue : SqlIssue) : IssueReport :=
  let make := fun code location message details =>
    (⟨"SqlSchema", code, location, message, details⟩ : IssueReport)
  match issue with
  | missingKey t =>
    make "MISSING_PK" t.name s!"{t.name}: missing primary key"
      [("table", str t.name), ("kind", str t.kind.name)]
  | keyColumnMissing t c =>
    make "PK_COL_MISSING" s!"{t}.{c}" s!"{t}: primary key column '{c}' does not exist"
      [("table", str t), ("column", str c)]
  | refTableMissing t k =>
    make "FK_REF_TABLE_MISSING" (foreignKeyLocation t k)
      s!"{t}: foreign key '{k.name}' references missing table '{k.refTable}'"
      [("table", str t), ("fk", str k.name), ("ref_table", str k.refTable)]
  | columnsMissing t k absent =>
    make "FK_COL_MISSING" (foreignKeyLocation t k)
      s!"{t}: foreign key columns {(strings absent).shown} do not exist"
      [("table", str t), ("columns", strings absent)]
  | refColumnsMissing t k absent =>
    make "FK_REF_COL_MISSING" (foreignKeyLocation t k)
      (s!"{t}: foreign key '{k.name}' references '{k.refTable}' " ++
        s!"columns {(strings absent).shown} which do not exist")
      [("table", str t), ("ref_table", str k.refTable), ("ref_columns", strings absent)]

namespace SqlSchema

/-- Tables by name; of several tables of one name the last counts. -/
def tablesByName (s : SqlSchema) : OrderedMap Table :=
  OrderedMap.ofList (s.tables.map fun t => (t.name, t))

def foreignKeyIssues (tables : OrderedMap Table) (t : Table) (k : ForeignKey) :
    List SqlIssue :=
  match tables.find? k.refTable with
  | none => [.refTableMissing t.name k]
  | some target =>
    let absent := k.columns.filter fun c => !t.columnNames.contains c
    let refAbsent := k.refColumns.filter fun c => !target.columnNames.contains c
    if !absent.isEmpty then [.columnsMissing t.name k absent]
    else if !refAbsent.isEmpty then [.refColumnsMissing t.name k refAbsent]
    else []

def tableIssues (tables : OrderedMap Table) (t : Table) : List SqlIssue :=
  (if t.primaryKey.isEmpty then [.missingKey t] else []) ++
  t.primaryKey.filterMap (fun c =>
    if t.columnNames.contains c then none else some (.keyColumnMissing t.name c)) ++
  t.foreignKeys.flatMap (foreignKeyIssues tables t)

/-- Keys and foreign keys that name what does not exist. -/
def issues (s : SqlSchema) : List SqlIssue :=
  s.tablesByName.values.flatMap (tableIssues s.tablesByName)

end SqlSchema

namespace Integrity

def note (level : LogLevel) (message : String) : LogRecord := ⟨level, .integrity, message⟩

def schemaNote (count : Nat) : LogRecord :=
  if count = 0 then note .info "Schema check passed"
  else note .warning s!"Schema check found {count} issues"

def sqlNote (count : Nat) : LogRecord :=
  if count = 0 then note .info "Relational schema check passed"
  else note .warning s!"Relational schema check found {count} issues"

end Integrity

end FactModel
