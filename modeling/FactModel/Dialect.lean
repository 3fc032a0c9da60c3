import FactModel.Schema
import FactModel.Text.Blank

/-!
SQL dialects: their names and their native types.
-/

namespace FactModel

inductive Dialect where
  | postgreSQL
  | mySQL
  | sqlite
  | sqlServer
deriving DecidableEq

namespace Dialect

def all : List Dialect := [postgreSQL, mySQL, sqlite, sqlServer]

def name : Dialect → String
  | postgreSQL => "PostgreSQL"
  | mySQL => "MySQL"
  | sqlite => "SQLite"
  | sqlServer => "SQL Server"

def ofName? (s : String) : Option Dialect := all.find? fun d => d.name = s

def aliases : List (String × Dialect) := [
  ("postgresql", postgreSQL),
  ("postgres", postgreSQL),
  ("pg", postgreSQL),
  ("mysql", mySQL),
  ("sqlite", sqlite),
  ("sqlite3", sqlite),
  ("sql server", sqlServer),
  ("sqlserver", sqlServer),
  ("sql_server", sqlServer),
  ("mssql", sqlServer)]

/-- The dialect of a name or alias, whatever its case and the blanks around it. -/
def resolve? (s : String) : Option Dialect :=
  aliases.lookup (Text.lower (Text.strip s))

def unsupportedMessage (s : String) : String :=
  s!"Unsupported SQL dialect '{s}'. Supported dialects: " ++
    String.intercalate ", " (all.map name)

def sqlType : Dialect → DataType → String
  | postgreSQL, .integer => "INTEGER"
  | postgreSQL, .decimal => "NUMERIC(10,2)"
  | postgreSQL, .boolean => "BOOLEAN"
  | postgreSQL, .date => "DATE"
  | postgreSQL, .dateTime => "TIMESTAMP"
  | postgreSQL, _ => "VARCHAR(255)"
  | mySQL, .integer => "INT"
  | mySQL, .decimal => "DECIMAL(10,2)"
  | mySQL, .boolean => "BOOLEAN"
  | mySQL, .date => "DATE"
  | mySQL, .dateTime => "DATETIME"
  | mySQL, _ => "VARCHAR(255)"
  | sqlite, .integer => "INTEGER"
  | sqlite, .decimal => "REAL"
  | sqlite, .boolean => "INTEGER"
  | sqlite, _ => "TEXT"
  | sqlServer, .integer => "INT"
  | sqlServer, .decimal => "DECIMAL(10,2)"
  | sqlServer, .boolean => "BIT"
  | sqlServer, .date => "DATE"
  | sqlServer, .dateTime => "DATETIME2"
  | sqlServer, _ => "NVARCHAR(255)"

def autoIncrementType : Dialect → String
  | postgreSQL => "SERIAL"
  | mySQL => "INT AUTO_INCREMENT"
  | sqlite => "INTEGER"
  | sqlServer => "INT IDENTITY(1,1)"

def numericBooleans : Dialect → Bool
  | sqlServer => true
  | sqlite => true
  | _ => false

end Dialect

end FactModel
