import FactModel.OrderedMap
import FactModel.Path
import FactModel.Text.Quoted

/-!
A tree of files: what a path leads to, and how files and directories are added. A path is followed
step by step, so that every directory on its way has to exist.
-/

namespace FactModel

inductive FileError where
  | notFound (path : String)
  | fileExists (path : String)
  | notDirectory (path : String)
  | isDirectory (path : String)
  | nullCharacter

namespace FileError

def numbered (code : Nat) (text path : String) : String :=
  s!"[Errno {code}] {text}: {Text.quoted path}"

def message : FileError → String
  | notFound path => numbered 2 "No such file or directory" path
  | fileExists path => numbered 17 "File exists" path
  | notDirectory path => numbered 20 "Not a directory" path
  | isDirectory path => numbered 21 "Is a directory" path
  | nullCharacter => "embedded null byte"

end FileError

/-- Files by path, with their texts. Directories are those above the files and those made. -/
structure FileTree where
  files : OrderedMap String
  made : List String

/-- What a path leads to. -/
inductive Place where
  | file (path text : String)
  | directory (path : String)
  | absent (path : String)
  | unreachable
  | blocked
deriving DecidableEq

namespace FileTree

def ofFiles (files : List (String × String)) : FileTree :=
  ⟨OrderedMap.ofList (files.map fun pair => (Path.normalize pair.1, pair.2)), []⟩

def empty : FileTree := ofFiles []

def hasNull (path : String) : Bool := path.toList.contains (Char.ofNat 0)

/-- Whether a path without steps upwards inside it is a directory. -/
def hasDirectory (t : FileTree) (path : String) : Bool :=
  (Path.parts path).all (· == "..") || t.made.contains path ||
    t.files.keys.any fun file => (Path.ancestors file).contains path

def at? (t : FileTree) (path : String) : Place :=
  match t.files.find? path with
  | some text => .file path text
  | none => if t.hasDirectory path then .directory path else .absent path

def follow (t : FileTree) (place : Place) (part : String) : Place :=
  match place with
  | .directory path => t.at? (Path.step path part)
  | .absent _ => .unreachable
  | .file .. => .blocked
  | place => place

def place (t : FileTree) (path : String) : Place :=
  (Path.parts path).foldl t.follow (.directory (Path.start path))

def isDirectory (t : FileTree) (path : String) : Bool :=
  match t.place path with
  | .directory _ => true
  | _ => false

def read (t : FileTree) (path : String) : Except FileError (Option String) :=
  match t.place path with
  | .file _ text => .ok (some text)
  | .directory _ => .error (.isDirectory path)
  | _ => .ok none

def children (t : FileTree) (directory : String) : List String :=
  match t.place directory with
  | .directory found =>
    let paths := t.files.keys.flatMap fun file => Path.ancestors file ++ [file]
    let below := (paths ++ t.made).eraseDups.filter fun path => Path.parent path == found
    (below.map fun path => Path.join directory (Path.name path)).mergeSort
      fun a b => decide (a ≤ b)
  | _ => []

def addFile (t : FileTree) (path text : String) : FileTree :=
  { t with files := t.files.insert path text }

def addDirectory (t : FileTree) (path : String) : FileTree := { t with made := t.made ++ [path] }

/-- Makes a directory where its own directory exists; one that exists already is kept. -/
def makeLast (t : FileTree) (path : String) : Except FileError FileTree :=
  match t.place path with
  | .directory _ => .ok t
  | .file .. => .error (.fileExists path)
  | .absent found => .ok (t.addDirectory found)
  | .blocked => .error (.notDirectory path)
  | .unreachable => .error (.notFound path)

/-- Makes a directory and those above it that are missing. `parts` is its path, with the last
part first. -/
def makeUpwards (t : FileTree) (root : String) : List String → Except FileError FileTree
  | [] => .ok t
  | last :: parts =>
    let path := Path.ofParts root (last :: parts).reverse
    match t.place path with
    | .unreachable => do (← t.makeUpwards root parts).makeLast path
    | _ => t.makeLast path

def makeDirectory (t : FileTree) (path : String) : Except FileError FileTree :=
  if hasNull path then .error .nullCharacter
  else t.makeUpwards (Path.root path) (Path.parts path).reverse

def write (t : FileTree) (path text : String) : Except FileError FileTree :=
  if hasNull path then .error .nullCharacter
  else match t.place path with
  | .file found _ => .ok (t.addFile found text)
  | .absent found => .ok (t.addFile found text)
  | .directory _ => .error (.isDirectory path)
  | .blocked => .error (.notDirectory path)
  | .unreachable => .error (.notFound path)

/-- Opens a file to add to it; one that is missing is made. -/
def openFile (t : FileTree) (path : String) : Except FileError FileTree :=
  match t.place path with
  | .file .. => .ok t
  | _ => t.write path ""

def save (t : FileTree) (path text : String) : Except FileError FileTree := do
  (← t.makeDirectory (Path.parent path)).write path text

def since (t old : FileTree) : List (String × String) :=
  t.files.entries.filter fun pair => old.files.find? pair.1 != some pair.2

def madeSince (t old : FileTree) : List String :=
  (t.made.filter fun path => !old.made.contains path).mergeSort fun a b => decide (a ≤ b)

end FileTree

end FactModel
