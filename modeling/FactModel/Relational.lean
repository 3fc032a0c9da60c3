import FactModel.Dialect
import FactModel.Reading

/-!
Relational schemas: tables with their columns, keys and checks, and indexes.
-/

namespace FactModel

inductive ForeignKeyAction where
  | cascade
  | setNull
  | restrict
  | noAction
deriving DecidableEq

namespace ForeignKeyAction

def all : List ForeignKeyAction := [cascade, setNull, restrict, noAction]

def name : ForeignKeyAction → String
  | cascade => "CASCADE"
  | setNull => "SET NULL"
  | restrict => "RESTRICT"
  | noAction => "NO ACTION"

def ofName? (s : String) : Option ForeignKeyAction := all.find? fun a => a.name = s

end ForeignKeyAction

structure ColumnReference where
  table : String
  column : String
deriving DecidableEq

structure Column where
  name : String
  dataType : String
  nullable : Bool
  primaryKey : Bool := false
  unique : Bool := false
  autoIncrement : Bool := false
  default : Option String := none
  references : Option ColumnReference := none
  sourcePredicatorIds : List String := []
  sourceObjectId : Option String := none
deriving DecidableEq

structure ForeignKey where
  name : String
  columns : List String
  refTable : String
  refColumns : List String
  onDelete : Option ForeignKeyAction
  onUpdate : Option ForeignKeyAction
deriving DecidableEq

structure Check where
  name : String
  expression : String
deriving DecidableEq

inductive TableKind where
  | entity
  | objectified
  | junction
deriving DecidableEq

namespace TableKind

def all : List TableKind := [entity, objectified, junction]

def name : TableKind → String
  | entity => "entity"
  | objectified => "objectified"
  | junction => "junction"

def ofName? (s : String) : Option TableKind := all.find? fun k => k.name = s

end TableKind

structure Table where
  name : String
  kind : TableKind
  sourceId : Option String
  columns : List Column
  primaryKey : List String
  uniqueConstraints : List (List String)
  foreignKeys : List ForeignKey
  checks : List Check
deriving DecidableEq

namespace Table

def column? (t : Table) (name : String) : Option Column := t.columns.find? fun c => c.name = name

def columnNames (t : Table) : List String := t.columns.map (·.name)

end Table

structure Index where
  name : String
  table : String
  columns : List String
  unique : Bool
deriving DecidableEq

structure SqlSchema where
  dialect : Dialect
  tables : List Table
  indexes : List Index
deriving DecidableEq

namespace SqlSchema

def table? (s : SqlSchema) (name : String) : Option Table := s.tables.find? fun t => t.name = name

end SqlSchema

open Value

namespace ColumnReference

def toValue (r : ColumnReference) : Value := obj [("table", str r.table), ("column", str r.column)]

def read : Value → Reading ColumnReference := readRecord fun f =>
  ColumnReference.mk <$> f.required "table" readText <*> f.required "column" readText

end ColumnReference

namespace Column

def toValue (c : Column) : Value := obj [
  ("name", str c.name),
  ("data_type", str c.dataType),
  ("nullable", bool c.nullable),
  ("primary_key", bool c.primaryKey),
  ("unique", bool c.unique),
  ("auto_increment", bool c.autoIncrement),
  ("default", ofOption str c.default),
  ("references", ofOption ColumnReference.toValue c.references),
  ("source_predicator_ids", strings c.sourcePredicatorIds),
  ("source_object_id", ofOption str c.sourceObjectId)]

def read : Value → Reading Column := readRecord fun f =>
  Column.mk
  <$> f.required "name" readText
  <*> f.required "data_type" readText
  <*> f.optional "nullable" true readBool
  <*> f.optional "primary_key" false readBool
  <*> f.optional "unique" false readBool
  <*> f.optional "auto_increment" false readBool
  <*> f.nullable "default" readText
  <*> f.nullable "references" ColumnReference.read
  <*> f.optional "source_predicator_ids" [] readTexts
  <*> f.nullable "source_object_id" readText

end Column

namespace ForeignKey

def toValue (k : ForeignKey) : Value := obj [
  ("name", str k.name),
  ("columns", strings k.columns),
  ("ref_table", str k.refTable),
  ("ref_columns", strings k.refColumns),
  ("on_delete", ofOption (fun a => str a.name) k.onDelete),
  ("on_update", ofOption (fun a => str a.name) k.onUpdate)]

def readAction : Value → Reading ForeignKeyAction := readWordOf ForeignKeyAction.ofName?

def read : Value → Reading ForeignKey := readRecord fun f =>
  ForeignKey.mk
  <$> f.required "name" readText
  <*> f.required "columns" readTexts
  <*> f.required "ref_table" readText
  <*> f.required "ref_columns" readTexts
  <*> f.nullable "on_delete" readAction
  <*> f.nullable "on_update" readAction

end ForeignKey

namespace Check

def toValue (c : Check) : Value := obj [("name", str c.name), ("expression", str c.expression)]

def read : Value → Reading Check := readRecord fun f =>
  Check.mk <$> f.required "name" readText <*> f.required "expression" readText

end Check

namespace Table

def toValue (t : Table) : Value := obj [
  ("name", str t.name),
  ("kind", str t.kind.name),
  ("source_id", ofOption str t.sourceId),
  ("columns", arr (t.columns.map Column.toValue)),
  ("primary_key", strings t.primaryKey),
  ("unique_constraints", arr (t.uniqueConstraints.map strings)),
  ("foreign_keys", arr (t.foreignKeys.map ForeignKey.toValue)),
  ("check_constraints", arr (t.checks.map Check.toValue))]

def read : Value → Reading Table := readRecord fun f =>
  Table.mk
  <$> f.required "name" readText
  <*> f.optional "kind" .entity (readWordOf TableKind.ofName?)
  <*> f.nullable "source_id" readText
  <*> f.optional "columns" [] (readList Column.read)
  <*> f.optional "primary_key" [] readTexts
  <*> f.optional "unique_constraints" [] (readList readTexts)
  <*> f.optional "foreign_keys" [] (readList ForeignKey.read)
  <*> f.optional "check_constraints" [] (readList Check.read)

end Table

namespace Index

def toValue (i : Index) : Value := obj [
  ("name", str i.name),
  ("table", str i.table),
  ("columns", strings i.columns),
  ("unique", bool i.unique)]

def read : Value → Reading Index := readRecord fun f =>
  Index.mk
  <$> f.required "name" readText
  <*> f.required "table" readText
  <*> f.required "columns" readTexts
  <*> f.optional "unique" false readBool

end Index

namespace SqlSchema

def toValue (s : SqlSchema) : Value := obj [
  ("dialect", str s.dialect.name),
  ("tables", arr (s.tables.map Table.toValue)),
  ("indexes", arr (s.indexes.map Index.toValue))]

def read : Value → Reading SqlSchema := readRecord fun f =>
  SqlSchema.mk
  <$> f.required "dialect" (readWordOf Dialect.ofName?)
  <*> f.optional "tables" [] (readList Table.read)
  <*> f.optional "indexes" [] (readList Index.read)

end SqlSchema

end FactModel
