import FactModel.Builder.Request
import FactModel.Relational.Derivation
import FactModel.Validation

/-!
Sessions of a builder: operations by name, and assignments that bypass them. An assigned value
shows as it was given until an operation writes its field.
-/

namespace FactModel

/-- What an assigned value cannot be used for. -/
inductive AssignedError where
  | compared (above : Bool) (type : String)
  | trimmed (type : String)
  | invalid (problems : List Problem)
  | notNumber (text : String)
  | notWhole (text : String)
  | notNumeric (type : String)
  | notListed (type : String)
  | notCounted (type : String)

namespace AssignedError

def message : AssignedError → String
  | compared above type =>
    let sign := if above then ">" else "<"
    s!"'{sign}' not supported between instances of 'int' and '{type}'"
  | trimmed type => s!"'{type}' object has no attribute 'strip'"
  | invalid _ => ""
  | notNumber text => s!"could not convert string to float: {Text.quoted text}"
  | notWhole text => s!"invalid literal for int() with base 10: {Text.quoted text}"
  | notNumeric type => s!"float() argument must be a string or a real number, not '{type}'"
  | notListed type => s!"'{type}' object is not iterable"
  | notCounted type => s!"object of type '{type}' has no len()"

end AssignedError

namespace Schema

def hasMapping (s : Schema) (name : String) : Bool := (s.mappings.lookup name).isSome

/-- The value of the field that was assigned to, as the schema has it. -/
def fieldOf? (s : Schema) (a : AssignedValue) : Option Value :=
  ((s.mappings.lookup a.mapping).bind fun elements => elements.lookup a.key).bind
    (Value.field? a.field)

end Schema

namespace Builder

def objectsName : String := "objects"

def assigned? (b : Builder) (mapping key field : String) : Option Value :=
  (b.assigned.find? fun a => a.mapping == mapping && a.key == key && a.field == field).map
    (·.value)

def overlay (b : Builder) (mapping key : String) (v : Value) : Value :=
  b.assigned.foldl
    (fun v a => if a.mapping == mapping && a.key == key then v.withField a.field a.value else v)
    v

/-- The elements as they show: with assigned values as they were given. -/
def mappings (b : Builder) : List (String × List (String × Value)) :=
  b.schema.mappings.map fun (name, elements) =>
    (name, elements.map fun (key, v) => (key, b.overlay name key v))

def assign (b : Builder) (mapping : String) (key : GivenId) (field : String) (v : Value) :
    Except BuilderError Builder :=
  if !(b.schema.hasMapping mapping || mapping == objectsName) then
    .error (.assignment (.noMapping mapping))
  else match key with
    | .compound type _ => .error (.argument (.notKey type))
    | .other shown => .error (.keyNotFound shown)
    | .text key =>
      let home := if mapping == objectsName then b.schema.objectMapping? key else some mapping
      match home with
      | none => .error (.keyNotFound key)
      | some home => do
        let s ← (b.schema.assign home key field v).mapError .assignment
        let others := b.assigned.filter fun a =>
          !(a.mapping == home && a.key == key && a.field == field)
        return { b with schema := s, assigned := others ++ [⟨home, key, field, v⟩] }

/-- The builder after an operation, without the assigned values of elements that were made and of
fields that were written. -/
def keepAssigned (before after : Builder) (made : Option (String × String)) : Builder :=
  { after with assigned := after.assigned.filter fun a =>
      made != some (a.mapping, a.key) &&
        before.schema.fieldOf? a == after.schema.fieldOf? a }

def result (b : Builder) (f : Fields) (op : Operation) (v : Value) : Value :=
  match op with
  | .specialize => b.overlay "entities" (f.text "child_id") v
  | _ => v

def run (b : Builder) (name : String) (f : Fields) : Except BuilderError Value × Builder :=
  match Operation.ofName? name with
  | none => (.error (.noOperation name), b)
  | some op => match op.checkArguments name f with
    | .error e => (.error (.argument e), b)
    | .ok () =>
      match (perform f op).apply b with
      | (.error e, after) => (.error e, keepAssigned b after none)
      | (.ok v, after) =>
        let id := ((v.field? "id").map Value.plain).getD ""
        let after := keepAssigned b after (op.mapping?.map fun mapping => (mapping, id))
        (.ok (after.result f op v), after)

def boundsMapping : ConstraintCategory → String
  | .cardinality => "cardinality_constraints"
  | _ => "frequency_constraints"

/-- Bounds are written as they were assigned. -/
def boundWriting (b : Builder) : Validation.BoundWriting := fun category id above bound =>
  match b.assigned? (boundsMapping category) id (Validation.boundName above) with
  | some v => v.plain
  | none => Validation.BoundWriting.plain category id above bound

def isComparable : Value → Bool
  | .null => true
  | .bool _ => true
  | .int _ => true
  | .float _ => true
  | _ => false

/-- The bound of a constraint with which no count can be compared. -/
def incomparable? (b : Builder) (category : ConstraintCategory) (id : String) :
    Option AssignedError :=
  [false, true].findSome? fun above =>
    match b.assigned? (boundsMapping category) id (Validation.boundName above) with
    | some v => if isComparable v then none else some (.compared above v.typeName)
    | none => none

/-- The first constraint whose counts cannot be compared with its bounds. -/
def checkBounds (b : Builder) (p : Population) : Except AssignedError Unit :=
  let s := b.schema
  let counted := s.cardinalityConstraints.entries.filter fun (_, c) =>
    match s.resolveRole? c.predicatorId with
    | some (role, f) => !(roleValues ((p.tuples? f.id).getD []) role.id).isEmpty
    | none => false
  let resolved := s.frequencyConstraints.entries.filter fun (_, c) =>
    s.factTypes.contains c.factTypeId
  let found := (counted.findSome? fun (id, _) => b.incomparable? .cardinality id).orElse fun _ =>
    resolved.findSome? fun (id, _) => b.incomparable? .frequency id
  match found with
  | some e => .error e
  | none => .ok ()

/-- Whether a text is a float, and if it is a whole one, also an integer. -/
def checkNumber (s : String) : Except AssignedError Unit :=
  match Value.floatOfText? s with
  | none => .error (.notNumber s)
  | some x =>
    if x.toInt?.isSome && (Value.wholeOfText? s).isNone then .error (.notWhole s)
    else .ok ()

/-- The fields that list elements which every check and every table looks up. -/
def referenceFields : List String := ["predicators", "identifiers", "specialization_of"]

/-- The first value that lists no elements where references are checked. -/
def checkReferences (b : Builder) : Except AssignedError Unit :=
  let fields := "predicator_ids" :: "applies_to" :: referenceFields
  match b.assigned.find? fun a => fields.contains a.field && a.value.members?.isNone with
  | some a => .error (.notListed a.value.typeName)
  | none => .ok ()

def checkUse (field : String) (v : Value) : Except AssignedError Unit :=
  match field, v with
  | "name", .str _ => .ok ()
  | "name", v => if v.isEmpty then .ok () else .error (.trimmed v.typeName)
  | "is_optional", v => match v.readBool with
    | .ok _ => .ok ()
    | .bad problems => .error (.invalid (problems.map fun p => ⟨[.key "nullable"], p.kind⟩))
  | "min_value", v | "max_value", v => match v with
    | .null => .ok ()
    | .str s => checkNumber s
    | .arr _ | .obj _ => .error (.notNumeric v.typeName)
    | _ => .ok ()
  | "enumeration", v | "allowed_values", v =>
    if v.isEmpty || v.members?.isSome then .ok () else .error (.notListed v.typeName)
  | "predicator_ids", v => if v.members?.isSome then .ok () else .error (.notCounted v.typeName)
  | field, v =>
    if referenceFields.contains field && v.members?.isNone then .error (.notListed v.typeName)
    else .ok ()

/-- Two values of a field that tables tell apart, if they are made of it. -/
def samples (field : String) : Value × Value :=
  match field with
  | "name" => (.str "a", .str "b")
  | "is_optional" => (.bool false, .bool true)
  | "enumeration" | "allowed_values" => (.arr [.int 0], .arr [.int 1])
  | _ => (.int 0, .int 1)

/-- Whether tables are made of a field. Lists of elements are always looked through. -/
def isUsed (s : Schema) (d : Dialect) (a : AssignedValue) : Bool :=
  if a.field == "predicator_ids" || referenceFields.contains a.field then true else
  let tables := fun (v : Value) =>
    ((s.assign a.mapping a.key a.field v).toOption.bind fun s => (s.relational d).toOption).map
      fun tables => tables.toValue.dump
  let (first, second) := samples a.field
  tables first != tables second

/-- The value that tables are made of: truth values may be written as texts, and an empty name is
none. -/
def usedValue (a : AssignedValue) : Option Value :=
  match a.field with
  | "is_optional" => a.value.readBool.value?.map .bool
  | "name" => if a.value.isEmpty then some .null else none
  | _ => none

/-- The schema that tables are made of, unless an assigned value does not serve for them. -/
def tableSchema (b : Builder) (d : Dialect) : Except AssignedError Schema := do
  let s := b.assigned.foldl
    (fun s a => match usedValue a with
      | some v => ((s.assign a.mapping a.key a.field v).toOption).getD s
      | none => s)
    b.schema
  b.assigned.forM fun a => match checkUse a.field a.value with
    | .ok () => .ok ()
    | .error e => if isUsed s d a then .error e else .ok ()
  return s

end Builder

end FactModel
