import FactModel.Proofs.Schema.Keyed

/-!
What the check of a schema reports: exactly the references that do not resolve, the roles that two
elements place differently, and set constraints with an empty side.
-/

namespace FactModel

/-- What a constraint refers to, and as what. -/
inductive ElementRef where
  | predicator (id : String)
  | object (id : String)
  | factType (id : String)
  | labelType (id : String)
  | element (id : String)

namespace ElementRef

def id : ElementRef → String
  | predicator id => id
  | object id => id
  | factType id => id
  | labelType id => id
  | element id => id

def resolves (s : Schema) : ElementRef → Bool
  | predicator id => s.predicators.contains id
  | object id => s.hasObject id
  | factType id => s.factTypes.contains id
  | labelType id => s.labelTypes.contains id
  | element id => s.hasObject id || s.factTypes.contains id || s.predicators.contains id

end ElementRef

namespace Schema

def references (s : Schema) : ConstraintCategory → List (String × List ElementRef)
  | .uniqueness => s.uniqueConstraints.entries.map fun (key, c) =>
    (key, c.predicatorIds.map .predicator)
  | .totalRole => s.totalRoleConstraints.entries.map fun (key, c) =>
    (key, [.predicator c.predicatorId, .object c.objectId])
  | .set => s.setConstraints.entries.map fun (key, c) =>
    (key, (c.sourcePredicatorIds ++ c.targetPredicatorIds).map .predicator)
  | .cardinality => s.cardinalityConstraints.entries.map fun (key, c) =>
    (key, [.predicator c.predicatorId])
  | .frequency => s.frequencyConstraints.entries.map fun (key, c) => (key, [.factType c.factTypeId])
  | .enumeration => s.enumerationConstraints.entries.map fun (key, c) =>
    (key, [.labelType c.labelTypeId])
  | .custom => s.customConstraints.entries.map fun (key, c) => (key, c.appliesTo.map .element)

/-- A constraint of a category has a reference. -/
def Refers (s : Schema) (category : ConstraintCategory) (key : String) (r : ElementRef) : Prop :=
  ∃ refs, (key, refs) ∈ s.references category ∧ r ∈ refs

theorem constraintRefs_eq (s : Schema) (category : ConstraintCategory) :
    s.constraintRefs category = (s.references category).map fun (key, refs) =>
      (key, refs.map fun r => (r.id, r.resolves s)) := by
  cases category <;>
    simp only [constraintRefs, references, List.map_map, Function.comp_def] <;> rfl

/-- What is wrong in a schema, by what is reported about it. -/
inductive Defect (s : Schema) : SchemaIssue → Prop
  | predicatorObject {key : String} {r : Predicator} (role : s.predicators.find? key = some r)
      (missing : s.hasObject r.objectId = false) : Defect s (.predicatorObject key r.objectId)
  | predicatorFactType {key : String} {r : Predicator} (role : s.predicators.find? key = some r)
      (missing : r.factTypeId ∉ s.factTypes.keys) :
      Defect s (.predicatorFactType key r.factTypeId)
  | factPredicatorMissing {key id : String} {f : FactType} (fact : s.factTypes.find? key = some f)
      (listed : id ∈ f.predicators) (missing : s.predicators.find? id = none) :
      Defect s (.factPredicatorMissing key f.name id)
  | factPredicatorForeign {key id : String} {f : FactType} {r : Predicator}
      (fact : s.factTypes.find? key = some f) (listed : id ∈ f.predicators)
      (role : s.predicators.find? id = some r) (foreign : r.factTypeId ≠ key) :
      Defect s (.factPredicatorForeign key f.name id r.factTypeId)
  | constraintReference {category : ConstraintCategory} {key : String} {r : ElementRef}
      (refers : s.Refers category key r) (missing : r.resolves s = false) :
      Defect s (.constraintReference key category r.id)
  | identifierForeign {key id role : String} {e : Entity} {c : UniqueConstraint} {r : Predicator}
      (entity : s.entities.find? key = some e) (identifier : id ∈ e.identifiers)
      (unique : s.uniqueConstraints.find? id = some c) (listed : role ∈ c.predicatorIds)
      (found : s.predicators.find? role = some r) (foreign : r.objectId ≠ key) :
      Defect s (.identifierForeign key e.name c.id role r.objectId)
  | parentMissing {key parent : String} {e : Entity} (entity : s.entities.find? key = some e)
      (listed : parent ∈ e.specializationOf) (missing : parent ∉ s.entities.keys) :
      Defect s (.parentMissing key e.name parent)
  | emptySide {key : String} {c : SetConstraint} (set : s.setConstraints.find? key = some c)
      (empty : c.sourcePredicatorIds = [] ∨ c.targetPredicatorIds = []) :
      Defect s (.emptySide key c)

variable {s : Schema} {issue : SchemaIssue}

theorem mem_predicatorIssues {key : String} {r : Predicator} : issue ∈ s.predicatorIssues key r ↔
    (issue = .predicatorObject key r.objectId ∧ s.hasObject r.objectId = false) ∨
      issue = .predicatorFactType key r.factTypeId ∧ r.factTypeId ∉ s.factTypes.keys := by
  rw [predicatorIssues, List.mem_append, ← OrderedMap.contains_iff]
  cases s.hasObject r.objectId <;> cases s.factTypes.contains r.factTypeId <;> simp

theorem mem_roleIssues {key id : String} {f : FactType} : issue ∈ s.roleIssues key f id ↔
    (issue = .factPredicatorMissing key f.name id ∧ s.predicators.find? id = none) ∨
      ∃ r, s.predicators.find? id = some r ∧ r.factTypeId ≠ key ∧
        issue = .factPredicatorForeign key f.name id r.factTypeId := by
  unfold roleIssues
  cases s.predicators.find? id with
  | none => simp
  | some r => by_cases own : r.factTypeId = key <;> simp [own]

theorem mem_constraintIssues {category : ConstraintCategory} :
    issue ∈ s.constraintIssues category ↔ ∃ key r, s.Refers category key r ∧
      r.resolves s = false ∧ issue = .constraintReference key category r.id := by
  rw [constraintIssues, constraintRefs_eq, List.mem_flatMap]
  constructor
  · rintro ⟨_, held, reported⟩
    obtain ⟨⟨key, refs⟩, listed, rfl⟩ := List.mem_map.mp held
    obtain ⟨_, member, unresolved⟩ := List.mem_filterMap.mp reported
    obtain ⟨r, inside, rfl⟩ := List.mem_map.mp member
    cases missing : r.resolves s with
    | true => simp [missing] at unresolved
    | false =>
      simp only [missing, Bool.false_eq_true, if_false, Option.some.injEq] at unresolved
      exact ⟨key, r, ⟨refs, listed, inside⟩, missing, unresolved.symm⟩
  · rintro ⟨key, r, ⟨refs, listed, inside⟩, missing, rfl⟩
    refine ⟨_, List.mem_map.mpr ⟨(key, refs), listed, rfl⟩, ?_⟩
    refine List.mem_filterMap.mpr ⟨_, List.mem_map.mpr ⟨r, inside, rfl⟩, ?_⟩
    simp [missing]

theorem mem_identifierIssues {key : String} {e : Entity} {c : UniqueConstraint} :
    issue ∈ s.identifierIssues key e c ↔ ∃ role ∈ c.predicatorIds, ∃ r,
      s.predicators.find? role = some r ∧ r.objectId ≠ key ∧
        issue = .identifierForeign key e.name c.id role r.objectId := by
  rw [identifierIssues, List.mem_filterMap]
  refine exists_congr fun role => and_congr_right fun _ => ?_
  cases s.predicators.find? role with
  | none => simp
  | some r =>
    by_cases own : r.objectId = key
    · simp [own]
    · simp only [own, if_false, Option.some.injEq, exists_eq_left', ne_eq, not_false_eq_true,
        true_and]
      exact eq_comm

theorem mem_entityIssues {key : String} {e : Entity} : issue ∈ s.entityIssues key e ↔
    (∃ id ∈ e.identifiers, ∃ c, s.uniqueConstraints.find? id = some c ∧
      issue ∈ s.identifierIssues key e c) ∨
    ∃ parent ∈ e.specializationOf, parent ∉ s.entities.keys ∧
      issue = .parentMissing key e.name parent := by
  rw [entityIssues, List.mem_append, List.mem_flatMap, List.mem_filterMap, identifiersOf]
  refine or_congr ?_ (exists_congr fun parent => and_congr_right fun _ => ?_)
  · simp only [List.mem_filterMap]
    constructor
    · rintro ⟨c, ⟨id, listed, found⟩, reported⟩
      exact ⟨id, listed, c, found, reported⟩
    · rintro ⟨id, listed, c, found, reported⟩
      exact ⟨c, ⟨id, listed, found⟩, reported⟩
  · rw [← OrderedMap.contains_iff]
    cases s.entities.contains parent <;> simp [eq_comm]

/-- The check reports what is wrong, and nothing else. -/
theorem mem_issues_iff : issue ∈ s.issues ↔ s.Defect issue := by
  simp only [issues, List.mem_append, List.mem_flatMap, Prod.exists, ← OrderedMap.find?_eq_some_iff]
  constructor
  · rintro ((((⟨key, r, role, reported⟩ | ⟨key, f, fact, id, listed, reported⟩) |
      ⟨category, _, reported⟩) | ⟨key, e, entity, reported⟩) | ⟨key, c, set, reported⟩)
    · rcases mem_predicatorIssues.mp reported with ⟨rfl, missing⟩ | ⟨rfl, missing⟩
      · exact .predicatorObject role missing
      · exact .predicatorFactType role missing
    · rcases mem_roleIssues.mp reported with ⟨rfl, missing⟩ | ⟨r, role, foreign, rfl⟩
      · exact .factPredicatorMissing fact listed missing
      · exact .factPredicatorForeign fact listed role foreign
    · obtain ⟨key, r, refers, missing, rfl⟩ := mem_constraintIssues.mp reported
      exact .constraintReference refers missing
    · rcases mem_entityIssues.mp reported with
        ⟨id, identifier, c, unique, reported⟩ | ⟨parent, listed, missing, rfl⟩
      · obtain ⟨role, listed, r, found, foreign, rfl⟩ := mem_identifierIssues.mp reported
        exact .identifierForeign entity identifier unique listed found foreign
      · exact .parentMissing entity listed missing
    · unfold setIssues at reported
      split at reported
      · rename_i empty
        rw [List.mem_singleton] at reported
        subst reported
        exact .emptySide set (by simpa using empty)
      · cases reported
  · intro defect
    cases defect with
    | predicatorObject role missing =>
      exact .inl (.inl (.inl (.inl ⟨_, _, role, mem_predicatorIssues.mpr (.inl ⟨rfl, missing⟩)⟩)))
    | predicatorFactType role missing =>
      exact .inl (.inl (.inl (.inl ⟨_, _, role, mem_predicatorIssues.mpr (.inr ⟨rfl, missing⟩)⟩)))
    | factPredicatorMissing fact listed missing =>
      refine .inl (.inl (.inl (.inr ⟨_, _, fact, _, listed, ?_⟩)))
      exact mem_roleIssues.mpr (.inl ⟨rfl, missing⟩)
    | factPredicatorForeign fact listed role foreign =>
      refine .inl (.inl (.inl (.inr ⟨_, _, fact, _, listed, ?_⟩)))
      exact mem_roleIssues.mpr (.inr ⟨_, role, foreign, rfl⟩)
    | @constraintReference category key r refers missing =>
      refine .inl (.inl (.inr ⟨category, by cases category <;> decide, ?_⟩))
      exact mem_constraintIssues.mpr ⟨key, r, refers, missing, rfl⟩
    | identifierForeign entity identifier unique listed found foreign =>
      refine .inl (.inr ⟨_, _, entity, mem_entityIssues.mpr (.inl ⟨_, identifier, _, unique, ?_⟩)⟩)
      exact mem_identifierIssues.mpr ⟨_, listed, _, found, foreign, rfl⟩
    | parentMissing entity listed missing =>
      exact .inl (.inr ⟨_, _, entity, mem_entityIssues.mpr (.inr ⟨_, listed, missing, rfl⟩)⟩)
    | emptySide set empty =>
      refine .inr ⟨_, _, set, ?_⟩
      simp [setIssues, empty]

theorem not_defect (clean : s.issues = []) (issue : SchemaIssue) : ¬ s.Defect issue := by
  intro defect
  have reported := mem_issues_iff.mpr defect
  rw [clean] at reported
  cases reported

end Schema

end FactModel
