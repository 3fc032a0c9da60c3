import FactModel.Reading

/-!
Documents whose keys are spelled with capitals or with underscores.
-/

namespace FactModel

/-- How the keys of a document are spelled. -/
inductive KeyStyle where
  | camel
  | snake
deriving DecidableEq

namespace KeyStyle

/-- Joins words at underscores, with a capital for each word but the first. -/
def camelChars : List Char → List Char
  | '_' :: c :: rest => c.toUpper :: camelChars rest
  | c :: rest => c :: camelChars rest
  | [] => []

def camelCase (s : String) : String := String.ofList (camelChars s.toList)

def spell : KeyStyle → String → String
  | camel, name => camelCase name
  | snake, name => name

end KeyStyle

def spellings (name : String) : List String := [KeyStyle.camelCase name, name]

namespace Fields

variable {α : Type}

def requiredEither (f : Fields) (name : String) (read : Value → Reading α) : Reading α :=
  f.requiredAs (spellings name) read

def optionalEither (f : Fields) (name : String) (default : α) (read : Value → Reading α) :
    Reading α := f.optionalAs (spellings name) default read

def nullableEither (f : Fields) (name : String) (read : Value → Reading α) :
    Reading (Option α) := f.optionalEither name none (Value.readNullable read)

end Fields

end FactModel
