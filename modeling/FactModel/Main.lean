import FactModel.Command

/-!
The program: reads the files of a command, runs it, writes its files and prints its outcome.
-/

open FactModel

def settingVariables : List String :=
  Settings.fieldNames.map fun field => (Settings.variableStart ++ field).map Char.toUpper

def readEnvironment : IO Environment := do
  let found ← settingVariables.mapM fun name => do
    return (← IO.getEnv name).map fun value => (name, value)
  return found.filterMap id

/-- The number of the error of reading a directory as a file. -/
def directoryErrorCode : UInt32 := 21

def observe (t : FileTree) (path : String) : IO FileTree := do
  try
    return t.addFile (Path.collapse path) (← IO.FS.readFile path)
  catch e =>
    match e with
    | .inappropriateType _ code _ =>
      return if code = directoryErrorCode then t.addDirectory (Path.collapse path) else t
    | _ => return t

def observeAll (t : FileTree) (paths : List String) : IO FileTree :=
  (paths.flatMap fun path => Path.ancestors path ++ [path]).eraseDups.foldlM observe t

/-- The files that a command looks at: those it names, the log file, and the tables of a
population that is a directory. -/
def readTree (env : Environment) (command : Command) : IO FileTree := do
  let variableFiles := (List.range (Settings.searchHeight + 1)).map Settings.variableFile
  let t ← observeAll .empty (variableFiles ++ command.paths)
  match Settings.load env t [] with
  | .error _ => return t
  | .ok settings =>
    let t ← observeAll t settings.logFile.toList
    match command with
    | .validate schema population graph _ =>
      match t.isDirectory population, Command.loadSchema settings t schema graph with
      | true, .ok s => observeAll t (Command.tablePaths s population)
      | _, _ => return t
    | _ => return t

def writeTree (t old : FileTree) : IO Unit := do
  for path in t.madeSince old do
    IO.FS.createDirAll path
  for (path, text) in t.since old do
    IO.FS.writeFile path text

def problemText (p : Problem) : String :=
  let steps := p.location.map fun step => match step with
    | .key name => name
    | .index n => toString n
  String.intercalate "." steps ++ ": " ++ p.kind.code

def problemTexts (problems : List Problem) : String :=
  String.intercalate "; " (problems.map problemText)

def abortText : Command.Abort → String
  | .failure f => f.message problemTexts
  | .settings (.variable e) => e.message
  | .settings (.invalid problems) => problemTexts problems
  | .settings (.file e) => e.message
  | .level e => e.message
  | .derivation e => e.message
  | .evaluation (.raised message) => message
  | .evaluation (.malformed problems) => problemTexts problems

def usage : String := "Usage: [convert | validate | sql | check | dialects] ..."

def main (args : List String) : IO UInt32 := do
  let stderr ← IO.getStderr
  match Command.parse args with
  | none =>
    stderr.putStrLn usage
    return 2
  | some command =>
    let env ← readEnvironment
    let tree ← readTree env command
    match command.run problemTexts env tree with
    | .error abort =>
      stderr.putStrLn (abortText abort)
      return 1
    | .ok result =>
      writeTree result.files tree
      IO.print result.stdout
      stderr.putStr result.stderr
      return UInt32.ofNat result.exitCode
