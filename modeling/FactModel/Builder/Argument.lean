import FactModel.Reading
import FactModel.Value.Loose

/-!
Arguments of operations as callers give them, and what may be wrong with them apart from the
elements that they describe.
-/

namespace FactModel

/-- An id as a caller gives it. Only a text names an element, and what has members cannot even be
looked up. -/
inductive GivenId where
  | text (s : String)
  | other (shown : String)
  | compound (type shown : String)

namespace GivenId

def ofValue : Value → GivenId
  | .str s => .text s
  | .arr items => .compound (Value.arr items).typeName (Value.arr items).shown
  | .obj fields => .compound (Value.obj fields).typeName (Value.obj fields).shown
  | v => .other v.shown

def shown : GivenId → String
  | text s => s
  | other shown => shown
  | compound _ shown => shown

end GivenId

inductive ArgumentError where
  | notKey (type : String)
  | notIterable (type : String)
  | notSpread (type : String)
  | notIndexed (type : String)
  | notJoined
  | notText (position : Nat) (type : String)
  | missing (operation : String) (names : List String)
  | unexpected (operation name : String)

namespace ArgumentError

def listing : List String → String
  | [] => ""
  | [name] => s!"'{name}'"
  | [first, last] => s!"'{first}' and '{last}'"
  | names =>
    let quoted := names.map fun name => s!"'{name}'"
    String.intercalate ", " quoted.dropLast ++ ", and " ++ quoted.getLastD ""

def message : ArgumentError → String
  | notKey type => s!"unhashable type: '{type}'"
  | notIterable type => s!"'{type}' object is not iterable"
  | notSpread type => s!"Value after * must be an iterable, not {type}"
  | notIndexed type => s!"'{type}' object is not subscriptable"
  | notJoined => "can only join an iterable"
  | notText position type =>
    s!"sequence item {position}: expected str instance, {type} found"
  | missing operation names =>
    let noun := if names.length = 1 then "argument" else "arguments"
    s!"SchemaBuilder.{operation}() missing {names.length} required positional {noun}: " ++
      listing names
  | unexpected operation name =>
    s!"SchemaBuilder.{operation}() got an unexpected keyword argument '{name}'"

end ArgumentError

namespace Value

def iterated (v : Value) : Except ArgumentError (List Value) :=
  match v.members? with
  | some members => .ok members
  | none => .error (.notIterable v.typeName)

def spread (v : Value) : Except ArgumentError (List Value) :=
  v.iterated.mapError fun _ => .notSpread v.typeName

def checkTexts : Nat → List Value → Except ArgumentError (List String)
  | _, [] => .ok []
  | position, str s :: rest => return s :: (← checkTexts (position + 1) rest)
  | position, v :: _ => .error (.notText position v.typeName)

def joined (v : Value) : Except ArgumentError String := do
  match v.members? with
  | some members => return String.intercalate ", " (← checkTexts 0 members)
  | none => .error .notJoined

end Value

end FactModel
