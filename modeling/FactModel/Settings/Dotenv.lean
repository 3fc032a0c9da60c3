import FactModel.OrderedMap
import FactModel.Text.Blank

/-!
Files of environment variables: one assignment a line, with comments, quotes and references to
variables.
-/

namespace FactModel

/-- Environment variables; a later entry of a name overrides an earlier one. -/
abbrev Environment := List (String × String)

namespace Environment

def get? (env : Environment) (name : String) : Option String :=
  (env.reverse.find? fun pair => pair.1 == name).map (·.2)

end Environment

/-- Why a variable cannot be set. -/
inductive VariableError where
  | name
  | nullCharacter

namespace VariableError

def message : VariableError → String
  | name => "illegal environment variable name"
  | nullCharacter => "embedded null byte"

end VariableError

namespace Dotenv

open Text

def unifyLineEnds : List Char → List Char
  | '\r' :: '\n' :: rest => '\n' :: unifyLineEnds rest
  | c :: rest => (if c = '\r' then '\n' else c) :: unifyLineEnds rest
  | [] => []

def isLineEnd (c : Char) : Bool := c == '\n' || c == '\r'

def isInline (c : Char) : Bool := isBlank c && !isLineEnd c

def skipInline (cs : List Char) : List Char := cs.dropWhile isInline

def skipLine (cs : List Char) : List Char :=
  match cs.dropWhile fun c => !isLineEnd c with
  | '\r' :: '\n' :: rest => rest
  | _ :: rest => rest
  | [] => []

def dropExport (cs : List Char) : List Char :=
  let word := "export".toList
  if word.isPrefixOf cs then
    let rest := cs.drop word.length
    if (rest.head?.map isInline).getD false then skipInline rest else cs
  else cs

def isBareKey (c : Char) : Bool := c != '=' && c != '#' && !isBlank c

def readKey (cs : List Char) : Option (String × List Char) :=
  match cs with
  | '\'' :: rest =>
    match rest.span (· != '\'') with
    | ([], _) => none
    | (key, '\'' :: rest) => some (String.ofList key, rest)
    | _ => none
  | cs => match cs.span isBareKey with
    | ([], _) => none
    | (key, rest) => some (String.ofList key, rest)

/-- The characters up to the closing quote. A backslash takes the next character along, which is
no line end. -/
def readQuoted (mark : Char) : List Char → Option (List Char × List Char)
  | [] => none
  | '\\' :: c :: rest =>
    if isLineEnd c then none
    else (readQuoted mark rest).map fun (cs, rest) => ('\\' :: c :: cs, rest)
  | c :: rest =>
    if c = mark then some ([], rest)
    else (readQuoted mark rest).map fun (cs, rest) => (c :: cs, rest)

def escape? (mark c : Char) : Option Char :=
  if c = '\\' then some '\\'
  else if c = '\'' then some '\''
  else if mark = '\'' then none
  else if c = '"' then some '"'
  else if c = 'a' then some (Char.ofNat 7)
  else if c = 'b' then some (Char.ofNat 8)
  else if c = 'f' then some (Char.ofNat 12)
  else if c = 'n' then some '\n'
  else if c = 'r' then some '\r'
  else if c = 't' then some '\t'
  else if c = 'v' then some (Char.ofNat 11)
  else none

def unescape (mark : Char) : List Char → List Char
  | '\\' :: c :: rest => match escape? mark c with
    | some e => e :: unescape mark rest
    | none => '\\' :: unescape mark (c :: rest)
  | c :: rest => c :: unescape mark rest
  | [] => []

/-- Drops a comment and the blanks before it; at the start none are needed. -/
def dropComment (atStart : Bool) (blanks : List Char) : List Char → List Char
  | [] => blanks.reverse
  | c :: rest =>
    if c = '#' && (atStart || !blanks.isEmpty) then []
    else if isBlank c then dropComment atStart (c :: blanks) rest
    else blanks.reverse ++ c :: dropComment false [] rest

def readBare (cs : List Char) : List Char × List Char :=
  let (part, rest) := cs.span fun c => !isLineEnd c
  (((dropComment true [] part).reverse.dropWhile isBlank).reverse, rest)

def readValue (cs : List Char) : Option (List Char × List Char) :=
  match cs with
  | '\'' :: rest => (readQuoted '\'' rest).map fun (v, rest) => (unescape '\'' v, rest)
  | '"' :: rest => (readQuoted '"' rest).map fun (v, rest) => (unescape '"' v, rest)
  | cs => some (readBare cs)

def atLineEnd (cs : List Char) : Bool :=
  match skipInline cs with
  | [] => true
  | c :: _ => c == '#' || isLineEnd c

/-- What a line binds a name to; a name alone is bound to nothing. -/
abbrev Binding := String × Option (List Char)

/-- One binding and what follows its line; a line that is none gives none. -/
def readBinding (cs : List Char) : Option Binding × List Char :=
  match readKey (dropExport cs) with
  | none => (none, skipLine cs)
  | some (key, rest) =>
    let finish := fun (value : Option (List Char)) (rest : List Char) =>
      if atLineEnd rest then (some (key, value), skipLine rest) else (none, skipLine rest)
    match skipInline rest with
    | '=' :: rest => match readValue (skipInline rest) with
      | some (value, rest) => finish (some value) rest
      | none => (none, skipLine rest)
    | rest => finish none rest

def readBindings : Nat → List Char → List Binding
  | 0, _ => []
  | fuel + 1, cs => match cs.dropWhile isBlank with
    | [] => []
    | cs =>
      let (binding, rest) := readBinding cs
      binding.toList ++ readBindings fuel rest

/-- A reference to a variable, with what stands for it when it is not set. -/
structure VariableUse where
  name : List Char
  default : List Char

def readUse : List Char → Option (VariableUse × List Char)
  | '$' :: '\x7b' :: rest =>
    match rest.span fun c => c != '\x7d' && c != ':' with
    | (name, '\x7d' :: rest) => some (⟨name, []⟩, rest)
    | (name, ':' :: '-' :: rest) => match rest.span (· != '\x7d') with
      | (default, _ :: rest) => some (⟨name, default⟩, rest)
      | _ => none
    | _ => none
  | _ => none

def expand (value : VariableUse → List Char) : Nat → List Char → List Char
  | 0, cs => cs
  | _, [] => []
  | fuel + 1, c :: rest => match readUse (c :: rest) with
    | some (use, rest) => value use ++ expand value fuel rest
    | none => c :: expand value fuel rest

/-- The variables of a file; a name that is bound to nothing has no value. -/
abbrev Definitions := OrderedMap (Option String)

/-- The value of a variable. The environment has precedence, and a name bound to nothing is
empty. -/
def Definitions.value (defined : Definitions) (env : Environment) (use : VariableUse) :
    List Char :=
  let name := String.ofList use.name
  match env.get? name, defined.find? name with
  | some value, _ => value.toList
  | none, some value => (value.getD "").toList
  | none, none => use.default

def definitions (env : Environment) (text : String) : Definitions :=
  let cs := unifyLineEnds text.toList
  (readBindings (cs.length + 1) cs).foldl
    (fun (defined : Definitions) (name, value) =>
      defined.insert name <| value.map fun cs =>
        String.ofList (expand (defined.value env) (cs.length + 1) cs))
    ∅

def hasNull (text : String) : Bool := text.toList.contains (Char.ofNat 0)

def setUnlessSet (env : Environment) (name value : String) : Except VariableError Environment :=
  if (env.get? name).isSome then .ok env
  else if hasNull name || hasNull value then .error .nullCharacter
  else if name.toList.contains '=' then .error .name
  else .ok (env ++ [(name, value)])

def load (env : Environment) (text : String) : Except VariableError Environment :=
  (definitions env text).entries.foldlM
    (fun extended (name, value) => match value with
      | some value => setUnlessSet extended name value
      | none => .ok extended)
    env

end Dotenv

end FactModel
