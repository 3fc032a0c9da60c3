import FactModel.Conversion
import FactModel.Csv.Population
import FactModel.Document
import FactModel.Integrity
import FactModel.Relational.Derivation
import FactModel.Settings
import FactModel.Validation

/-!
The command line as a function of the files that it reads: what it prints, what it writes, and
its exit code.
-/

namespace FactModel

inductive Command where
  | convert (graph out : String) (name : Option String) (strict : Bool)
  | validate (schema population : String) (graph : Bool) (report : Option String)
  | sql (schema : String) (dialect out : Option String) (graph : Bool)
  | check (schema : String) (graph : Bool) (dialect : Option String)
  | dialects

namespace Command

/-- The options of a command: flags, options with a value, and one-letter names of the latter. -/
structure OptionNames where
  flags : List String
  valued : List String
  short : List (Char × String)

/-- What stands on a command line. -/
structure Arguments where
  positional : List String
  flags : List String
  values : List (String × String)

namespace Arguments

def empty : Arguments := ⟨[], [], []⟩

def addPositional (a : Arguments) (word : String) : Arguments :=
  { a with positional := a.positional ++ [word] }

def addFlag (a : Arguments) (flag : String) : Arguments := { a with flags := flag :: a.flags }

def addValue (a : Arguments) (option value : String) : Arguments :=
  { a with values := (option, value) :: a.values }

def has (a : Arguments) (flag : String) : Bool := a.flags.contains flag

def value? (a : Arguments) (option : String) : Option String := a.values.lookup option

end Arguments

/-- Options may stand anywhere before a double dash; the value of one may be attached to it. The
last value of an option counts. -/
def scan (names : OptionNames) (a : Arguments) : List String → Option Arguments
  | [] => some a
  | "--" :: rest => some (rest.foldl Arguments.addPositional a)
  | word :: rest =>
    match word.toList with
    | '-' :: '-' :: long =>
      let (name, attached) := long.span (· != '=')
      let option := String.ofList name
      match attached with
      | _ :: value =>
        if names.valued.contains option then
          scan names (a.addValue option (String.ofList value)) rest
        else none
      | [] =>
        if names.flags.contains option then scan names (a.addFlag option) rest
        else if names.valued.contains option then
          match rest with
          | value :: rest => scan names (a.addValue option value) rest
          | [] => none
        else none
    | '-' :: letter :: attached =>
      match names.short.lookup letter with
      | none => none
      | some option =>
        if !attached.isEmpty then scan names (a.addValue option (String.ofList attached)) rest
        else match rest with
          | value :: rest => scan names (a.addValue option value) rest
          | [] => none
    | _ => scan names (a.addPositional word) rest

def ofWords : List String → Option Command
  | "convert" :: rest => do
    let a ← scan ⟨["strict"], ["name"], []⟩ .empty rest
    match a.positional with
    | [graph, out] =>
      some (convert (Path.normalize graph) (Path.normalize out) (a.value? "name")
        (a.has "strict"))
    | _ => none
  | "validate" :: rest => do
    let a ← scan ⟨["graph"], ["out-report"], []⟩ .empty rest
    match a.positional with
    | [schema, population] =>
      some (validate (Path.normalize schema) (Path.normalize population) (a.has "graph")
        ((a.value? "out-report").map Path.normalize))
    | _ => none
  | "sql" :: rest => do
    let a ← scan ⟨["graph"], ["dialect", "out"], [('d', "dialect"), ('o', "out")]⟩ .empty rest
    match a.positional with
    | [schema] =>
      some (sql (Path.normalize schema) (a.value? "dialect")
        ((a.value? "out").map Path.normalize) (a.has "graph"))
    | _ => none
  | "check" :: rest => do
    let a ← scan ⟨["graph"], ["dialect"], [('d', "dialect")]⟩ .empty rest
    match a.positional with
    | [schema] =>
      some (check (Path.normalize schema) (a.has "graph") (a.value? "dialect"))
    | _ => none
  | "dialects" :: rest => do
    let a ← scan ⟨[], [], []⟩ .empty rest
    if a.positional.isEmpty then some dialects else none
  | _ => none

/-- The command of a command line; a double dash may stand before it. -/
def parse : List String → Option Command
  | "--" :: words => ofWords words
  | words => ofWords words

def paths : Command → List String
  | convert graph out .. => [graph, out]
  | validate schema population _ report => [schema, population] ++ report.toList
  | sql schema _ out _ => schema :: out.toList
  | check schema .. => [schema]
  | dialects => []

def tablePaths (s : Schema) (directory : String) : List String :=
  let objects := s.objects.keys ++ s.totalRoleConstraints.values.map (·.objectId) ++
    s.customConstraints.values.flatMap (·.appliesTo)
  let facts := s.factTypes.keys ++ s.factTypes.values.map (·.id)
  let path := fun folder id => Path.join directory s!"{folder}/{id}{CsvTable.extension}"
  (objects.map (path "objects") ++ facts.map (path "facts")).eraseDups

/-- Why a command gives up. -/
inductive Failure where
  | document (kind : DocumentKind) (path : String) (e : LoadError)
  | conversion (e : ConversionError)
  | population (e : PopulationError)
  | dialect (name : String)
  | file (e : FileError)

namespace Failure

def isReported : Failure → Bool
  | population (.file _) => false
  | file _ => false
  | _ => true

def message (details : List Problem → String) : Failure → String
  | document kind path (.invalid problems) =>
    s!"{(LoadError.invalid problems).message kind path}: {details problems}"
  | document kind path e => e.message kind path
  | conversion e => e.message
  | population e => e.message
  | dialect name => Dialect.unsupportedMessage name
  | file e => e.message

end Failure

/-- What ends a command without an outcome. -/
inductive Abort where
  | failure (f : Failure)
  | settings (e : SettingsError)
  | level (e : LogLevelError)
  | derivation (e : DerivationError)
  | evaluation (e : EvaluationError)

/-- The outcome of a command: what it prints in order, and the files after it. -/
structure Result where
  exitCode : Nat
  output : List String
  errors : List String
  files : FileTree

namespace Result

def lines (items : List String) : String := String.join (items.map (· ++ "\n"))

def stdout (r : Result) : String := lines r.output

def stderr (r : Result) : String := lines r.errors

end Result

def load {α : Type} (files : FileTree) (kind : DocumentKind) (read : Value → Reading α)
    (path : String) : Except Failure α := do
  let content ← (files.read path).mapError .file
  (loadDocument read content).mapError (.document kind path)

def options (settings : Settings) (name : Option String) (strict : Option Bool) :
    ConversionOptions :=
  { name := labelOr settings.defaultSchemaName (name.getD "")
    version := settings.schemaVersion
    strict := strict.getD settings.strictConversion }

def convertGraph (g : Graph) (o : ConversionOptions) : Except Failure Schema :=
  match g.toSchema o with
  | .ok s => .ok s
  | .error e => .error (.conversion e)

def loadSchema (settings : Settings) (files : FileTree) (path : String) (graph : Bool) :
    Except Failure Schema := do
  if graph then convertGraph (← load files .graph Graph.read path) (options settings none none)
  else load files .schema Schema.read path

def loadPopulation (files : FileTree) (path schemaId : String) : Except Failure Population :=
  if files.isDirectory path then
    match Population.ofDirectory files path (some schemaId) with
    | .ok p => .ok p
    | .error e => .error (.population e)
  else load files .population Population.read path

def resolveDialect (settings : Settings) (dialect : Option String) : Except Failure Dialect :=
  let name := labelOr settings.defaultDialect (dialect.getD "")
  match Dialect.resolve? name with
  | some d => .ok d
  | none => .error (.dialect name)

def violationLine (v : Violation) : String :=
  s!"  [{v.severity.name}] {v.constraintType} {v.constraintId}: {v.message}"

def issueLine (r : IssueReport) : String := s!"  [{r.code}] {r.location}: {r.message}"

def flagText (b : Bool) : String := (Value.bool b).shown

section Run

variable (details : List Problem → String) (settings : Settings) (files : FileTree)

def giveUp (output : List String) (f : Failure) : Except Abort Result :=
  if f.isReported then .ok ⟨1, output, [s!"Error: {f.message details}"], files⟩
  else .error (.failure f)

def save (path text : String) : Except Abort FileTree :=
  (files.save path text).mapError fun e => .failure (.file e)

def derive (s : Schema) (d : Dialect) : Except Abort SqlSchema :=
  (s.relational d).mapError .derivation

def runConvert (graph out : String) (name : Option String) (strict : Bool) :
    Except Abort Result :=
  let started := [s!"Loading graph from {graph}"]
  let wish := if strict then some true else none
  match load files .graph Graph.read graph >>= fun g =>
      convertGraph g (options settings name wish) with
  | .error f => giveUp details files started f
  | .ok s => do
    let output := started ++ [
      s!"Writing schema to {out}",
      s!"✓ Complete! Schema written to {out}",
      s!"  Objects: {s.objects.size}",
      s!"  Fact types: {s.factTypes.size}"]
    return ⟨0, output, [], ← save files out s.toValue.saved⟩

def validationOutput (report : ValidationReport) (out : Option String) : List String :=
  (out.map fun path => s!"Writing report to {path}").toList ++
    report.violations.map violationLine ++ [
      s!"  Valid: {flagText report.isValid}",
      s!"  Violations: {report.violations.length}"]

def runValidate (schema population : String) (graph : Bool) (out : Option String) :
    Except Abort Result :=
  let started := [s!"Loading schema from {schema}"]
  match loadSchema settings files schema graph with
  | .error f => giveUp details files started f
  | .ok s =>
    let started := started ++ [s!"Loading population from {population}"]
    match loadPopulation files population s.id with
    | .error f => giveUp details files started f
    | .ok p => do
      let report ← (FactModel.validate Registry.standard s p).mapError .evaluation
      let output := started ++ "Running validation..." :: validationOutput report out
      let exitCode := if report.isValid then 0 else 1
      match out with
      | none => return ⟨exitCode, output, [], files⟩
      | some path => return ⟨exitCode, output, [], ← save files path report.toValue.saved⟩

def runSql (schema : String) (dialect out : Option String) (graph : Bool) :
    Except Abort Result :=
  let read := do
    let d ← resolveDialect settings dialect
    return (d, ← loadSchema settings files schema graph)
  match read with
  | .error f => giveUp details files [] f
  | .ok (d, s) => do
    let ddl := (← derive s d).ddl
    match out with
    | none => return ⟨0, [ddl], [], files⟩
    | some path =>
      return ⟨0, [s!"✓ Complete! {d.name} DDL written to {path}"], [],
        ← save files path (ddl ++ "\n")⟩

def runCheck (schema : String) (graph : Bool) (dialect : Option String) : Except Abort Result :=
  let read := do
    let s ← loadSchema settings files schema graph
    return (s, ← resolveDialect settings dialect)
  match read with
  | .error f => giveUp details files [] f
  | .ok (s, d) => do
    let sql ← derive s d
    let issues := s.issues.map SchemaIssue.report ++ sql.issues.map SqlIssue.report
    if issues.isEmpty then return ⟨0, ["✓ No issues found"], [], files⟩
    else return ⟨1, issues.map issueLine, [s!"Found {issues.length} issues"], files⟩

def runDialects : Except Abort Result := do
  let default ← (resolveDialect settings (some settings.defaultDialect)).mapError .failure
  let names := Dialect.all.map fun d =>
    if d = default then d.name ++ " (default)" else d.name
  return ⟨0, names, [], files⟩

def runCommand : Command → Except Abort Result
  | convert graph out name strict => runConvert details settings files graph out name strict
  | validate schema population graph out =>
    runValidate details settings files schema population graph out
  | sql schema dialect out graph => runSql details settings files schema dialect out graph
  | check schema graph dialect => runCheck details settings files schema graph dialect
  | dialects => runDialects settings files

def openLog : Except Abort FileTree := do
  let _ ← (LogLevel.ofName settings.logLevel).mapError Abort.level
  match settings.logFile with
  | none => return files
  | some path => (files.openFile (Path.collapse path)).mapError fun e => .failure (.file e)

end Run

/-- Runs a command where the files of a tree lie; listing the dialects keeps no log. A NUL in a
path is refused before anything else. -/
def run (details : List Problem → String) (env : Environment) (files : FileTree) (c : Command) :
    Except Abort Result := do
  if c.paths.any FileTree.hasNull then throw (.failure (.file .nullCharacter))
  let settings ← (Settings.load env files []).mapError Abort.settings
  let files ← (settings.prepare files).mapError Abort.settings
  match c with
  | dialects => runDialects settings files
  | c => runCommand details settings (← openLog settings files) c

end Command

end FactModel
