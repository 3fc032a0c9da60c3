import FactModel.Graph
import FactModel.Population
import FactModel.Schema.Document

/-!
Stored documents: what may be wrong with one, and the messages that say so.
-/

namespace FactModel

inductive DocumentKind where
  | schema
  | population
  | graph
deriving DecidableEq

namespace DocumentKind

def title : DocumentKind → String
  | schema => "Schema"
  | population => "Population"
  | graph => "Graph"

def noun : DocumentKind → String
  | schema => "schema"
  | population => "population"
  | graph => "graph"

end DocumentKind

inductive LoadError where
  | notFound
  | empty
  | invalid (problems : List Problem)

namespace LoadError

/-- The problems of an invalid document are listed apart from the message. -/
def message (kind : DocumentKind) (path : String) : LoadError → String
  | notFound => s!"{kind.title} file not found: {path}"
  | empty =>
    s!"{kind.title} file is empty or corrupted: {path}. " ++
      "The file exists but contains no valid JSON data."
  | invalid _ => s!"Failed to load {kind.noun} from {path}"

end LoadError

/-- Reads a document from the content of a file, if there is one. Blanks around it are dropped. -/
def loadDocument {α : Type} (read : Value → Reading α) (content : Option String) :
    Except LoadError α :=
  match content with
  | none => .error .notFound
  | some text =>
    let text := Text.strip text
    if text.isEmpty then .error .empty
    else match Reading.ofDocument read text with
      | .ok a => .ok a
      | .bad problems => .error (.invalid problems)

end FactModel
