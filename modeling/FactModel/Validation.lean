import FactModel.KeyStyle
import FactModel.Log
import FactModel.Population
import FactModel.Schema

/-!
Checking a population against the constraints of a schema. A constraint whose ids do not resolve
in the schema or the population is skipped.
-/

namespace FactModel

inductive Severity where
  | error
  | warning
deriving DecidableEq

namespace Severity

def name : Severity → String
  | error => "Error"
  | warning => "Warning"

def ofName? (s : String) : Option Severity :=
  if s = "Error" then some error else if s = "Warning" then some warning else none

end Severity

structure Violation where
  constraintId : String
  constraintType : String
  severity : Severity
  message : String
  affectedObjects : List String
  affectedFacts : Option (List Tuple)

namespace Schema

/-- The predicator of an id and its fact type. The empty id resolves to nothing. -/
def resolveRole? (s : Schema) (id : String) : Option (Predicator × FactType) := do
  if id.isEmpty then none
  let p ← s.predicators.find? id
  let f ← s.factTypes.find? p.factTypeId
  some (p, f)

end Schema

def roleValues (tuples : List Tuple) (predicator : String) : List Value :=
  tuples.filterMap fun t => t.filled? predicator

namespace Validation

def violation (category : ConstraintCategory) (id message : String) (objects : List String)
    (facts : List Tuple) : Violation :=
  ⟨id, category.name, .error, message, objects, some facts⟩

def tupleKey (roles : List String) (t : Tuple) : List String :=
  roles.map fun role => (t.role role).encode

/-- The tuples whose key is that of an earlier tuple, or among `seen`. -/
def repeats (roles : List String) (seen : List (List String)) : List Tuple → List Tuple
  | [] => []
  | t :: rest =>
    let key := tupleKey roles t
    if seen.contains key then t :: repeats roles seen rest
    else repeats roles (key :: seen) rest

def uniqueness (s : Schema) (p : Population) (id : String) (c : UniqueConstraint) :
    List Violation :=
  match c.predicatorIds.head?.bind s.resolveRole? with
  | none => []
  | some (_, f) => match p.tuples? f.id with
    | none => []
    | some tuples => (repeats c.predicatorIds [] tuples).map fun t =>
        violation .uniqueness id s!"Uniqueness constraint violated: {c.name}" [f.id] [t]

def encodings (values : List Value) : List String := values.map Value.encode

def absentFrom (values others : List Value) : List Value :=
  let known := encodings others
  values.filter fun v => !known.contains v.encode

def presentIn (values others : List Value) : List Value :=
  let known := encodings others
  values.filter fun v => known.contains v.encode

def totalRole (s : Schema) (p : Population) (id : String) (c : TotalRoleConstraint) :
    List Violation :=
  match s.resolveRole? c.predicatorId with
  | none => []
  | some (_, f) => match p.instances? c.objectId, p.tuples? f.id with
    | some instances, some tuples =>
      (absentFrom instances (roleValues tuples c.predicatorId)).map fun v =>
        violation .totalRole id
          (s!"Total role constraint violated - mandatory participation required: " ++
            s!"{c.name} (instance: {v.shown})") [c.objectId] []
    | _, _ => []

/-- The filled values of the predicators that resolve, each once. -/
def reachable (s : Schema) (p : Population) (predicators : List String) : List Value :=
  Population.distinct <| predicators.flatMap fun id => match s.resolveRole? id with
    | none => []
    | some (_, f) => roleValues ((p.tuples? f.id).getD []) id

def setMessage? (c : SetConstraint) (source target : List Value) : Option String :=
  match c.kind with
  | .subset => (absentFrom source target).head?.map fun v =>
      s!"Subset constraint violated: {c.name} (value: {v.shown})"
  | .equality =>
    if source.length != target.length || !(absentFrom source target).isEmpty then
      some s!"Equality constraint violated: {c.name}"
    else none
  | .exclusion =>
    (presentIn source target).head?.map fun v =>
      s!"Exclusion constraint violated: {c.name} (value: {v.shown})"
  | .other _ => none

def setConstraint (s : Schema) (p : Population) (id : String) (c : SetConstraint) :
    List Violation :=
  let source := reachable s p c.sourcePredicatorIds
  let target := reachable s p c.targetPredicatorIds
  match setMessage? c source target with
  | none => []
  | some message =>
    let affected := match c.kind with
      | .subset => c.sourcePredicatorIds
      | _ => c.sourcePredicatorIds ++ c.targetPredicatorIds
    [violation .set id message affected []]

/-- How often each value occurs, by its encoding, in the order of first occurrence. -/
def tally (values : List Value) : List (String × Nat) :=
  let keys := encodings values
  keys.eraseDups.map fun key => (key, keys.count key)

/-- How messages write a bound of a constraint: by its category and id, and whether it is the
greatest count. -/
abbrev BoundWriting := ConstraintCategory → String → Bool → Int → String

def BoundWriting.plain : BoundWriting := fun _ _ _ bound => String.ofList (Value.intText bound)

def boundViolations (bounds : Bounds) (count : Nat) (make : Bool → Int → Violation) :
    List Violation :=
  (match bounds.min with
    | some least => if (count : Int) < least then [make false least] else []
    | none => []) ++
  (match bounds.max with
    | some most => if most < (count : Int) then [make true most] else []
    | none => [])

def boundMessage (above : Bool) (subject : String) : String :=
  if above then s!"Maximum {subject} constraint violated"
  else s!"Minimum {subject} constraint violated"

def boundName (above : Bool) : String := if above then "max" else "min"

def cardinality (write : BoundWriting) (s : Schema) (p : Population) (id : String)
    (c : CardinalityConstraint) : List Violation :=
  match s.resolveRole? c.predicatorId with
  | none => []
  | some (role, f) => match p.tuples? f.id with
    | none => []
    | some tuples => (tally (roleValues tuples role.id)).flatMap fun (key, count) =>
        boundViolations c.bounds count fun above bound =>
          violation .cardinality id
            (boundMessage above "cardinality" ++ s!": {c.name} " ++
              s!"(instance: {key}, {boundName above}: " ++
              s!"{write .cardinality id above bound}, actual: {count})")
            [role.objectId] []

def frequency (write : BoundWriting) (s : Schema) (p : Population) (id : String)
    (c : FrequencyConstraint) : List Violation :=
  if s.factTypes.contains c.factTypeId then
    let count := ((p.tuples? c.factTypeId).getD []).length
    boundViolations c.bounds count fun above bound =>
      violation .frequency id
        (boundMessage above "frequency" ++ s!": {c.name} " ++
          s!"({boundName above}: {write .frequency id above bound}, actual: {count})")
        [c.factTypeId] []
  else []

def enumeration (s : Schema) (p : Population) (id : String) (c : EnumerationConstraint) :
    List Violation :=
  if s.hasObject c.labelTypeId then
    (absentFrom ((p.instances? c.labelTypeId).getD []) c.allowedValues).map fun v =>
      violation .enumeration id
        s!"Value not in allowed enumeration: {c.name} (value: {v.shown})" [c.labelTypeId] []
  else []

end Validation

/-- Why an evaluator of custom constraints gave no verdict. -/
inductive EvaluationError where
  | raised (message : String)
  | malformed (problems : List Problem)

abbrev Evaluator :=
  CustomConstraint → Schema → Population → Except EvaluationError (List Violation)

/-- Evaluators by the kind of custom constraint that they judge. -/
abbrev Registry := OrderedMap Evaluator

namespace Registry

/-- Every object that the constraint applies to has an instance. -/
def noEmpty : Evaluator := fun c _ p =>
  .ok <| c.appliesTo.filterMap fun id =>
    match p.instances? id with
    | some (_ :: _) => none
    | _ => some ⟨c.id, ConstraintCategory.custom.name, .error,
        s!"Object population must not be empty: {c.name}", [id], none⟩

def standard : Registry := OrderedMap.ofList [("no_empty", noEmpty)]

/-- The kinds in ascending order. -/
def kinds (r : Registry) : List String := r.keys.mergeSort fun a b => decide (a ≤ b)

def missingMessage (r : Registry) (kind : String) : String :=
  s!"Custom constraint '{kind}' not found. Available custom constraints: " ++
    String.intercalate ", " r.kinds

def registeredNote (kind : String) : LogRecord :=
  ⟨.debug, .registry, s!"Registered custom constraint evaluator: {kind}"⟩

end Registry

namespace Validation

def custom (r : Registry) (s : Schema) (p : Population) (c : CustomConstraint) :
    Except EvaluationError (List Violation) :=
  match r.find? c.kind with
  | some evaluator => evaluator c s p
  | none => .ok []

/-- The violations of the constraints that are built in, category by category. -/
def builtIn (write : BoundWriting) (s : Schema) (p : Population) : List Violation :=
  s.uniqueConstraints.entries.flatMap (fun (id, c) => uniqueness s p id c) ++
  s.totalRoleConstraints.entries.flatMap (fun (id, c) => totalRole s p id c) ++
  s.setConstraints.entries.flatMap (fun (id, c) => setConstraint s p id c) ++
  s.cardinalityConstraints.entries.flatMap (fun (id, c) => cardinality write s p id c) ++
  s.frequencyConstraints.entries.flatMap (fun (id, c) => frequency write s p id c) ++
  s.enumerationConstraints.entries.flatMap (fun (id, c) => enumeration s p id c)

def violations (write : BoundWriting) (r : Registry) (s : Schema) (p : Population) :
    Except EvaluationError (List Violation) := do
  let judged ← s.customConstraints.values.mapM (custom r s p)
  return builtIn write s p ++ judged.flatten

end Validation

/-- A population is valid unless a violation is an error. -/
structure ValidationReport where
  violations : List Violation

namespace ValidationReport

def isValid (r : ValidationReport) : Bool := !r.violations.any fun v => v.severity == .error

def ofType (r : ValidationReport) (constraintType : String) : List Violation :=
  r.violations.filter fun v => v.constraintType == constraintType

end ValidationReport

/-- A validation whose messages write bounds in their own way. -/
def validateWriting (write : Validation.BoundWriting) (r : Registry) (s : Schema)
    (p : Population) : Except EvaluationError ValidationReport :=
  (Validation.violations write r s p).map ValidationReport.mk

def validate (r : Registry) (s : Schema) (p : Population) :
    Except EvaluationError ValidationReport :=
  validateWriting .plain r s p

namespace Validation

def note (level : LogLevel) (message : String) : LogRecord := ⟨level, .validation, message⟩

def skipNote? (r : Registry) (c : CustomConstraint) : Option LogRecord :=
  if r.contains c.kind then none
  else some (note .warning s!"Skipping custom constraint '{c.id}': no evaluator for '{c.kind}'")

def notes (r : Registry) (s : Schema) (p : Population) : List LogRecord :=
  let judged := s.customConstraints.values.takeWhile fun c => (custom r s p c).isOk
  judged.filterMap (skipNote? r) ++
  match violations .plain r s p with
  | .ok [] => [note .info "Population validation passed"]
  | .ok found => [note .warning s!"Population validation found {found.length} violations"]
  | .error _ => []

end Validation

open Value

namespace Violation

def factsValue (facts : Option (List Tuple)) : Value :=
  ofOption (fun facts => arr (facts.map Tuple.toValue)) facts

def toValue (v : Violation) : Value := obj [
  ("constraintId", str v.constraintId),
  ("constraintType", str v.constraintType),
  ("severity", str v.severity.name),
  ("message", str v.message),
  ("affectedObjects", strings v.affectedObjects),
  ("affectedFacts", factsValue v.affectedFacts)]

/-- A violation of a custom constraint, from a document in either spelling. -/
def read (c : CustomConstraint) : Value → Reading Violation := readRecord fun f =>
  Violation.mk
  <$> f.optionalEither "constraint_id" c.id readText
  <*> f.optionalEither "constraint_type" ConstraintCategory.custom.name readText
  <*> f.optional "severity" .error (readWordOf Severity.ofName?)
  <*> f.required "message" readText
  <*> f.optionalEither "affected_objects" [] readTexts
  <*> f.nullableEither "affected_facts" (readList (readMap readAny))

end Violation

def ValidationReport.toValue (r : ValidationReport) : Value := obj [
  ("isValid", bool r.isValid),
  ("violations", arr (r.violations.map Violation.toValue))]

end FactModel
