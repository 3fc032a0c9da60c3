import FactModel.Value

/-!
Values taken loosely: as a truth value, as a text, as a list of members.
-/

namespace FactModel

namespace Value

/-- Whether a value counts as false: nothing, zero, or without members. -/
def isEmpty : Value → Bool
  | null => true
  | bool b => !b
  | int n => n == 0
  | float x => x.mantissa == 0
  | str s => s.isEmpty
  | arr items => items.isEmpty
  | obj fields => fields.isEmpty

def plain : Value → String
  | str s => s
  | v => v.shown

/-- The members of a list, the characters of a text, the keys of an object; other values have
none. -/
def members? : Value → Option (List Value)
  | arr items => some items
  | str s => some (s.toList.map fun c => str (String.singleton c))
  | obj fields => some (fields.map fun pair => str pair.1)
  | _ => none

def members (v : Value) : List Value := v.members?.getD []

def typeName : Value → String
  | null => "NoneType"
  | bool _ => "bool"
  | int _ => "int"
  | float _ => "float"
  | str _ => "str"
  | arr _ => "list"
  | obj _ => "dict"

end Value

end FactModel
