import FactModel.Csv.Column
import FactModel.FileTree
import FactModel.Log
import FactModel.Population

/-!
Populations in a directory of tables: `objects` holds a table for each object, with its instances
in the first column, `facts` a table for each fact type, with a column for each predicator.
-/

namespace FactModel

inductive PopulationError where
  | notFound (directory : String)
  | table (e : CsvError)
  | file (e : FileError)

def PopulationError.message : PopulationError → String
  | notFound directory => s!"Population directory not found: {directory}"
  | table e => e.message
  | file e => e.message

namespace CsvTable

def extension : String := ".csv"

def loadFile (t : FileTree) (path : String) : Except PopulationError CsvTable := do
  let text ← (t.read path).mapError .file
  (parse (text.getD "")).mapError .table

def load (t : FileTree) (directory : String) : Except PopulationError (List (String × CsvTable)) :=
  ((t.children directory).filter fun path => path.endsWith extension).mapM fun path =>
    return (Path.stem path, ← loadFile t path)

end CsvTable

namespace Population

def addObjectTable (p : Population) (object : String) (t : CsvTable) : Population :=
  ((t.column 0).filterMap id).foldl (fun p v => p.addInstance object v) p

def addFactTable (p : Population) (fact : String) (t : CsvTable) : Population :=
  let p := { p with facts := p.facts.insert fact ((p.tuples? fact).getD []) }
  t.records.foldl (fun p record => p.addTuple fact (OrderedMap.ofList record)) p

def ofDirectory (t : FileTree) (directory : String) (schemaId : Option String) :
    Except PopulationError Population := do
  let objects ← CsvTable.load t (Path.join directory "objects")
  let facts ← CsvTable.load t (Path.join directory "facts")
  let p := objects.foldl (fun p pair => p.addObjectTable pair.1 pair.2) ⟨schemaId, ∅, ∅⟩
  return facts.foldl (fun p pair => p.addFactTable pair.1 pair.2) p

def loadedNote (p : Population) (directory : String) : LogRecord :=
  ⟨.info, .loading, s!"Loaded population from {directory}: {p.objects.size} objects, " ++
    s!"{p.facts.size} fact types"⟩

end Population

end FactModel
