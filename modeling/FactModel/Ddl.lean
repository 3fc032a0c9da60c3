import FactModel.Relational

/-!
The statements that create a relational schema. Every name is written as an identifier of the
characters `a-z`, `0-9` and `_`.
-/

namespace FactModel

namespace Ddl

/-- What the lower case of a character leaves in an identifier. Two characters outside ASCII
have a lower case that begins in ASCII: the Kelvin sign, and the dotted capital I, whose dot
stays behind as a character of its own. -/
def identifierChar (c : Char) : List Char :=
  let lower := c.toLower
  if ('a' ≤ lower && lower ≤ 'z') || Text.isDigit lower || lower = '_' then [lower]
  else if c.toNat = 0x212A then ['k']
  else if c.toNat = 0x130 then ['i', '_']
  else ['_']

/-- A name as an identifier; a blank name is called `unnamed`. -/
def identifier (name : String) : String :=
  match (Text.trim Text.isBlank name.toList).flatMap identifierChar with
  | [] => "unnamed"
  | cs => String.ofList cs

def escapeQuotes (cs : List Char) : List Char :=
  cs.flatMap fun c => if c = '\'' then ['\'', '\''] else [c]

/-- A value in a list of literals. Some dialects write truth values as numbers. -/
def literal (numericBooleans : Bool) : Value → String
  | .null => "NULL"
  | .bool b =>
    if numericBooleans then if b then "1" else "0"
    else if b then "TRUE" else "FALSE"
  | .str s => String.ofList ('\'' :: escapeQuotes s.toList ++ ['\''])
  | v => v.shown

def names (items : List String) : String := String.intercalate ", " (items.map identifier)

def columnLine (c : Column) : String :=
  s!"  {identifier c.name} {c.dataType}" ++
  (if c.nullable then "" else " NOT NULL") ++
  (match c.default with
    | some text => s!" DEFAULT {text}"
    | none => "") ++
  (if c.unique && !c.primaryKey then " UNIQUE" else "")

def actionClause (event : String) : Option ForeignKeyAction → String
  | some action => s!" ON {event} {action.name}"
  | none => ""

def foreignKeyLine (k : ForeignKey) : String :=
  s!"  CONSTRAINT {identifier k.name} FOREIGN KEY ({names k.columns}) " ++
  s!"REFERENCES {identifier k.refTable}({names k.refColumns})" ++
  actionClause "DELETE" k.onDelete ++ actionClause "UPDATE" k.onUpdate

def checkLine (c : Check) : String := s!"  CONSTRAINT {identifier c.name} CHECK ({c.expression})"

def tableLines (t : Table) : List String :=
  t.columns.map columnLine ++
  (if t.primaryKey.isEmpty then [] else [s!"  PRIMARY KEY ({names t.primaryKey})"]) ++
  t.uniqueConstraints.map (fun columns => s!"  UNIQUE ({names columns})") ++
  t.foreignKeys.map foreignKeyLine ++
  t.checks.map checkLine

def createTable (t : Table) : String :=
  s!"CREATE TABLE {identifier t.name} (\n" ++ String.intercalate ",\n" (tableLines t) ++ "\n);"

def createIndex (i : Index) : String :=
  let unique := if i.unique then "UNIQUE " else ""
  s!"CREATE {unique}INDEX {identifier i.name} ON {identifier i.table} ({names i.columns});"

end Ddl

def SqlSchema.ddl (s : SqlSchema) : String :=
  String.intercalate "\n\n" (s.tables.map Ddl.createTable ++ s.indexes.map Ddl.createIndex)

end FactModel
