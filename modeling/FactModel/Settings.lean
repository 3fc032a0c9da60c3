import FactModel.FileTree
import FactModel.Log
import FactModel.Reading
import FactModel.Settings.Dotenv

/-!
Settings: what is given directly comes before environment variables, and these before the
variables of the nearest file of variables.
-/

namespace FactModel

structure Settings where
  defaultSchemaName : String
  schemaVersion : String
  strictConversion : Bool
  defaultDialect : String
  logLevel : String
  logFile : Option String

namespace Settings

def fieldNames : List String :=
  ["default_schema_name", "schema_version", "strict_conversion", "default_dialect", "log_level",
    "log_file"]

def variableStart : String := "mathgraph_"

def valueIn? (env : Environment) (field : String) : Option String :=
  (env.reverse.find? fun pair => Text.lower pair.1 == variableStart ++ field).map (·.2)

def givenFor? (given : Fields) (field : String) : Option Value :=
  (given.reverse.find? fun pair => Text.lower pair.1 == field).map (·.2)

def fields (env : Environment) (given : Fields) : Fields :=
  fieldNames.filterMap fun field =>
    (givenFor? given field).orElse (fun _ => (valueIn? env field).map .str)
      |>.map fun value => (field, value)

open Value

def readPath : Value → Reading String
  | str s => .ok (Path.normalize s)
  | _ => .fail .pathType

def read (f : Fields) : Reading Settings :=
  Settings.mk
  <$> f.optional "default_schema_name" "Untitled Schema" readText
  <*> f.optional "schema_version" "1.0.0" readText
  <*> f.optional "strict_conversion" false readBool
  <*> f.optional "default_dialect" "PostgreSQL" readText
  <*> f.optional "log_level" "INFO" readText
  <*> f.nullable "log_file" readPath

def toValue (s : Settings) : Value := obj [
  ("default_schema_name", str s.defaultSchemaName),
  ("schema_version", str s.schemaVersion),
  ("strict_conversion", bool s.strictConversion),
  ("default_dialect", str s.defaultDialect),
  ("log_level", str s.logLevel),
  ("log_file", ofOption str s.logFile)]

def searchHeight : Nat := 3

def variableFile (up : Nat) : String := String.join (List.replicate up "../") ++ ".env"

/-- The content of the nearest file of variables. A directory of this name counts as empty. -/
def variableText (t : FileTree) : String :=
  let texts := (List.range (searchHeight + 1)).findSome? fun up =>
    match t.place (variableFile up) with
    | .file _ text => some text
    | .directory _ => some ""
    | _ => none
  texts.getD ""

end Settings

inductive SettingsError where
  | variable (e : VariableError)
  | invalid (problems : List Problem)
  | file (e : FileError)

namespace Settings

/-- The settings of an environment where the files of a tree lie, and what is given directly. -/
def load (env : Environment) (t : FileTree) (given : Fields) : Except SettingsError Settings :=
  match Dotenv.load env (variableText t) with
  | .error e => .error (.variable e)
  | .ok env => match read (fields env given) with
    | .ok s => .ok s
    | .bad problems => .error (.invalid problems)

def prepare (s : Settings) (t : FileTree) : Except SettingsError FileTree :=
  match s.logFile with
  | some path => (t.makeDirectory (Path.parent path)).mapError .file
  | none => .ok t

end Settings

end FactModel
