/-!
Slash-separated paths.
-/

namespace FactModel

namespace Path

/-- The parts of a path between slashes, without empty parts and dots. -/
def parts (path : String) : List String :=
  (path.splitOn "/").filter fun part => part != "" && part != "."

/-- Where a path starts: nothing, one slash, or the two that are told from more. -/
def root (path : String) : String :=
  match path.toList.takeWhile (· == '/') with
  | [] => ""
  | ['/', '/'] => "//"
  | _ => "/"

def isAbsolute (path : String) : Bool := root path != ""

def ofParts (root : String) (parts : List String) : String :=
  if root == "" && parts.isEmpty then "." else root ++ String.intercalate "/" parts

def normalize (path : String) : String := ofParts (root path) (parts path)

def join (left right : String) : String :=
  if isAbsolute right then normalize right else normalize (left ++ "/" ++ right)

def parent (path : String) : String := ofParts (root path) (parts path).dropLast

def name (path : String) : String := (parts path).getLastD ""

/-- The directory that a path starts from: the root, or where the program is. -/
def start (path : String) : String := ofParts (root path) []

/-- One part further; `..` goes up, also from where the program is. -/
def step (path part : String) : String :=
  let parts := parts path
  let up := part == ".." && !(parts.all (· == ".."))
  if up then ofParts (root path) parts.dropLast
  else if part == ".." && isAbsolute path then path
  else ofParts (root path) (parts ++ [part])

/-- The path with every step upwards taken off, whatever lies on it. -/
def collapse (path : String) : String := (parts path).foldl step (start path)

/-- All directories above a path, from the outermost inwards. -/
def ancestors (path : String) : List String :=
  let parts := parts path
  (List.range (parts.length - 1)).map fun n => ofParts (root path) (parts.take (n + 1))

/-- The name of a file without its last suffix; a name that starts with its only dot has none. -/
def stem (path : String) : String :=
  let cs := (name path).toList
  let tail := cs.reverse.takeWhile (· != '.')
  let front := cs.take (cs.length - tail.length - 1)
  if front.isEmpty || tail.isEmpty then name path else String.ofList front

end Path

end FactModel
