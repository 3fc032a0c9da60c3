import FactModel.Proofs.Lists
import FactModel.Proofs.Schema.Keyed
import FactModel.Proofs.Validation.Satisfaction

/-!
Which constraint a violation belongs to, and what is reported about constraints whose references
do not resolve. A check looks at some of the references only: where these do not resolve, it is
skipped.
-/

namespace FactModel

/-- A constraint of one of the categories that are built in. -/
inductive BuiltInConstraint where
  | uniqueness (c : UniqueConstraint)
  | totalRole (c : TotalRoleConstraint)
  | set (c : SetConstraint)
  | cardinality (c : CardinalityConstraint)
  | frequency (c : FrequencyConstraint)
  | enumeration (c : EnumerationConstraint)

namespace BuiltInConstraint

open Validation

def category : BuiltInConstraint → ConstraintCategory
  | uniqueness _ => .uniqueness
  | totalRole _ => .totalRole
  | set _ => .set
  | cardinality _ => .cardinality
  | frequency _ => .frequency
  | enumeration _ => .enumeration

/-- The schema has the constraint under an id. -/
def At (s : Schema) (id : String) : BuiltInConstraint → Prop
  | uniqueness c => s.uniqueConstraints.find? id = some c
  | totalRole c => s.totalRoleConstraints.find? id = some c
  | set c => s.setConstraints.find? id = some c
  | cardinality c => s.cardinalityConstraints.find? id = some c
  | frequency c => s.frequencyConstraints.find? id = some c
  | enumeration c => s.enumerationConstraints.find? id = some c

def Holds (s : Schema) (p : Population) : BuiltInConstraint → Prop
  | uniqueness c => UniquenessHolds s p c
  | totalRole c => TotalRoleHolds s p c
  | set c => SetHolds s p c
  | cardinality c => CardinalityHolds s p c
  | frequency c => FrequencyHolds s p c
  | enumeration c => EnumerationHolds s p c

def check (write : BoundWriting) (s : Schema) (p : Population) (id : String) :
    BuiltInConstraint → List Violation
  | uniqueness c => Validation.uniqueness s p id c
  | totalRole c => Validation.totalRole s p id c
  | set c => Validation.setConstraint s p id c
  | cardinality c => Validation.cardinality write s p id c
  | frequency c => Validation.frequency write s p id c
  | enumeration c => Validation.enumeration s p id c

/-! References of a constraint -/

def predicatorIds : BuiltInConstraint → List String
  | uniqueness c => c.predicatorIds
  | totalRole c => [c.predicatorId]
  | set c => c.sourcePredicatorIds ++ c.targetPredicatorIds
  | cardinality c => [c.predicatorId]
  | frequency _ => []
  | enumeration _ => []

def factTypeIds : BuiltInConstraint → List String
  | frequency c => [c.factTypeId]
  | _ => []

def objectIds : BuiltInConstraint → List String
  | totalRole c => [c.objectId]
  | enumeration c => [c.labelTypeId]
  | _ => []

/-- A reference of the constraint is the id of nothing in the schema. -/
def Dangles (s : Schema) (c : BuiltInConstraint) : Prop :=
  (∃ id ∈ c.predicatorIds, s.predicators.find? id = none) ∨
  (∃ id ∈ c.factTypeIds, s.factTypes.find? id = none) ∨
  ∃ id ∈ c.objectIds, s.object? id = none

/-- None of the predicators leads to a fact type. -/
def NoneResolves (s : Schema) (ids : List String) : Prop := ∀ id ∈ ids, s.resolveRole? id = none

/-- The references that the check decides by do not resolve: the first predicator of a uniqueness
constraint, the predicator of a total role, and a whole side of a set constraint, for an equality
both sides. -/
def Undecided (s : Schema) : BuiltInConstraint → Prop
  | uniqueness c => ∀ first, c.predicatorIds.head? = some first → s.resolveRole? first = none
  | totalRole c => s.resolveRole? c.predicatorId = none
  | set c => match c.kind with
    | .subset => NoneResolves s c.sourcePredicatorIds
    | .equality => NoneResolves s (c.sourcePredicatorIds ++ c.targetPredicatorIds)
    | .exclusion =>
      NoneResolves s c.sourcePredicatorIds ∨ NoneResolves s c.targetPredicatorIds
    | .other _ => True
  | cardinality c => s.resolveRole? c.predicatorId = none
  | frequency c => s.factTypes.find? c.factTypeId = none
  | enumeration c => s.object? c.labelTypeId = none

variable {s : Schema} {p : Population} {id : String} {c : BuiltInConstraint}

theorem check_eq_nil_iff (write : BoundWriting) (id : String) :
    c.check write s p id = [] ↔ c.Holds s p := by
  cases c with
  | uniqueness c => exact uniqueness_eq_nil_iff s p id c
  | totalRole c => exact totalRole_eq_nil_iff s p id c
  | set c => exact setConstraint_eq_nil_iff s p id c
  | cardinality c => exact cardinality_eq_nil_iff write s p id c
  | frequency c => exact frequency_eq_nil_iff write s p id c
  | enumeration c => exact enumeration_eq_nil_iff s p id c

theorem resolveRole?_of_dangling {predicator : String}
    (dangling : s.predicators.find? predicator = none) :
    s.resolveRole? predicator = none := by
  unfold Schema.resolveRole?
  by_cases empty : predicator.isEmpty = true
  · simp [empty]
  · simp [empty, dangling]

/-- Where a check looks at all the references, one that dangles leaves it undecided. -/
theorem undecided_of_dangles (dangles : c.Dangles s)
    (single : c.category = .cardinality ∨ c.category = .frequency ∨ c.category = .enumeration) :
    c.Undecided s := by
  cases c with
  | cardinality c =>
    simp only [Dangles, predicatorIds, factTypeIds, objectIds, List.mem_singleton,
      exists_eq_left, List.not_mem_nil, false_and, exists_false, or_false] at dangles
    exact resolveRole?_of_dangling dangles
  | frequency c =>
    simp only [Dangles, predicatorIds, factTypeIds, objectIds, List.mem_singleton,
      exists_eq_left, List.not_mem_nil, false_and, exists_false, or_false, false_or] at dangles
    exact dangles
  | enumeration c =>
    simp only [Dangles, predicatorIds, factTypeIds, objectIds, List.mem_singleton,
      exists_eq_left, List.not_mem_nil, false_and, exists_false, false_or] at dangles
    exact dangles
  | _ => simp [category] at single

theorem reachableCodes_of_noneResolves {ids : List String} (none : NoneResolves s ids) :
    reachableCodes s p ids = ∅ := by
  refine Set.eq_empty_of_forall_notMem ?_
  rintro code ⟨id, listed, role, f, resolved, _⟩
  rw [none id listed] at resolved
  cases resolved

/-- An undecided constraint counts as one that holds. -/
theorem holds_of_undecided (undecided : c.Undecided s) : c.Holds s p := by
  cases c with
  | uniqueness c =>
    intro first listed role f resolved
    rw [undecided first listed] at resolved
    cases resolved
  | totalRole c =>
    intro role f resolved
    rw [show s.resolveRole? c.predicatorId = none from undecided] at resolved
    cases resolved
  | set c =>
    unfold Undecided at undecided
    show SetHolds s p c
    unfold SetHolds
    cases kind : c.kind with
    | subset =>
      simp only [kind] at undecided ⊢
      rw [reachableCodes_of_noneResolves undecided]
      exact Set.empty_subset _
    | equality =>
      simp only [kind] at undecided ⊢
      have sides := List.forall_mem_append.mp undecided
      rw [reachableCodes_of_noneResolves sides.1, reachableCodes_of_noneResolves sides.2]
    | exclusion =>
      simp only [kind] at undecided ⊢
      rcases undecided with source | target
      · rw [reachableCodes_of_noneResolves source]
        exact Set.empty_disjoint _
      · rw [reachableCodes_of_noneResolves target]
        exact Set.disjoint_empty _
    | other name => trivial
  | cardinality c =>
    intro role f resolved
    rw [show s.resolveRole? c.predicatorId = none from undecided] at resolved
    cases resolved
  | frequency c =>
    intro held
    rw [OrderedMap.contains_eq_isSome,
      show s.factTypes.find? c.factTypeId = none from undecided] at held
    cases held
  | enumeration c =>
    intro held
    rw [← Schema.object?_isSome_iff, show s.object? c.labelTypeId = none from undecided] at held
    cases held

/-! Whose violations they are -/

theorem exists_of_mem_boundViolations {bounds : Bounds} {count : Nat}
    {make : Bool → Int → Violation} {v : Violation}
    (found : v ∈ boundViolations bounds count make) : ∃ above bound, v = make above bound := by
  unfold boundViolations at found
  rcases List.mem_append.mp found with below | above
  · split at below
    · split at below
      · exact ⟨false, _, List.mem_singleton.mp below⟩
      · cases below
    · cases below
  · split at above
    · split at above
      · exact ⟨true, _, List.mem_singleton.mp above⟩
      · cases above
    · cases above

/-- Whatever a check finds is an error under the id and the category of its constraint. -/
theorem eq_violation_of_mem_check {write : BoundWriting} {v : Violation}
    (found : v ∈ c.check write s p id) :
    ∃ message objects facts, v = violation c.category id message objects facts := by
  cases c with
  | uniqueness c =>
    simp only [check, Validation.uniqueness] at found
    split at found
    · cases found
    · split at found
      · cases found
      · obtain ⟨t, _, rfl⟩ := List.mem_map.mp found
        exact ⟨_, _, _, rfl⟩
  | totalRole c =>
    simp only [check, Validation.totalRole] at found
    split at found
    · cases found
    · split at found
      · obtain ⟨value, _, rfl⟩ := List.mem_map.mp found
        exact ⟨_, _, _, rfl⟩
      · cases found
  | set c =>
    simp only [check, setConstraint] at found
    split at found
    · cases found
    · rw [List.mem_singleton.mp found]
      exact ⟨_, _, _, rfl⟩
  | cardinality c =>
    simp only [check, Validation.cardinality] at found
    split at found
    · cases found
    · split at found
      · cases found
      · obtain ⟨_, _, found⟩ := List.mem_flatMap.mp found
        obtain ⟨above, bound, rfl⟩ := exists_of_mem_boundViolations found
        exact ⟨_, _, _, rfl⟩
  | frequency c =>
    simp only [check, Validation.frequency] at found
    split at found
    · obtain ⟨above, bound, rfl⟩ := exists_of_mem_boundViolations found
      exact ⟨_, _, _, rfl⟩
    · cases found
  | enumeration c =>
    simp only [check, Validation.enumeration] at found
    split at found
    · obtain ⟨value, _, rfl⟩ := List.mem_map.mp found
      exact ⟨_, _, _, rfl⟩
    · cases found

theorem constraintId_of_mem_check {write : BoundWriting} {v : Violation}
    (found : v ∈ c.check write s p id) : v.constraintId = id := by
  obtain ⟨_, _, _, rfl⟩ := eq_violation_of_mem_check found
  rfl

theorem mem_entries_iff {α : Type} {m : OrderedMap α} {check : String → α → List Violation}
    {v : Violation} :
    v ∈ m.entries.flatMap (fun (id, c) => check id c) ↔
      ∃ id c, m.find? id = some c ∧ v ∈ check id c := by
  simp only [List.mem_flatMap, Prod.exists, OrderedMap.find?_eq_some_iff]

/-- A violation is found by the check of a constraint at some id. -/
theorem mem_builtIn_iff (write : BoundWriting) (v : Violation) :
    v ∈ builtIn write s p ↔
      ∃ (id : String) (c : BuiltInConstraint), c.At s id ∧ v ∈ c.check write s p id := by
  simp only [builtIn, List.mem_append, mem_entries_iff]
  constructor
  · rintro (((((⟨id, c, held, found⟩ | ⟨id, c, held, found⟩) | ⟨id, c, held, found⟩) |
      ⟨id, c, held, found⟩) | ⟨id, c, held, found⟩) | ⟨id, c, held, found⟩)
    · exact ⟨id, .uniqueness c, held, found⟩
    · exact ⟨id, .totalRole c, held, found⟩
    · exact ⟨id, .set c, held, found⟩
    · exact ⟨id, .cardinality c, held, found⟩
    · exact ⟨id, .frequency c, held, found⟩
    · exact ⟨id, .enumeration c, held, found⟩
  · rintro ⟨id, c, held, found⟩
    cases c with
    | uniqueness c => exact .inl (.inl (.inl (.inl (.inl ⟨id, c, held, found⟩))))
    | totalRole c => exact .inl (.inl (.inl (.inl (.inr ⟨id, c, held, found⟩))))
    | set c => exact .inl (.inl (.inl (.inr ⟨id, c, held, found⟩)))
    | cardinality c => exact .inl (.inl (.inr ⟨id, c, held, found⟩))
    | frequency c => exact .inl (.inr ⟨id, c, held, found⟩)
    | enumeration c => exact .inr ⟨id, c, held, found⟩

theorem mem_constraintIds (held : c.At s id) : id ∈ s.constraintIds c.category := by
  cases c <;> exact OrderedMap.mem_keys_of_find? held

theorem eq_of_at {other : BuiltInConstraint} (here : c.At s id) (there : other.At s id)
    (same : other.category = c.category) : other = c := by
  cases c <;> cases other <;>
    first
    | exact congrArg _ (Option.some.inj (there.symm.trans here))
    | exact nomatch same

theorem reported_builtIn_iff (write : BoundWriting) (held : c.At s id)
    (alone : ∀ category, category ≠ c.category → id ∉ s.constraintIds category) :
    (∃ v ∈ builtIn write s p, v.constraintId = id) ↔ ¬ c.Holds s p := by
  rw [← check_eq_nil_iff write id]
  constructor
  · rintro ⟨v, member, rfl⟩ silent
    obtain ⟨other, d, there, found⟩ := (mem_builtIn_iff write v).mp member
    obtain rfl := constraintId_of_mem_check found
    have same : d.category = c.category := by
      by_contra apart
      exact alone d.category apart (mem_constraintIds there)
    rw [eq_of_at held there same, silent] at found
    cases found
  · intro loud
    obtain ⟨v, found⟩ := List.exists_mem_of_ne_nil _ loud
    exact ⟨v, (mem_builtIn_iff write v).mpr ⟨id, c, held, found⟩, constraintId_of_mem_check found⟩

/-- What a validation reports: what the built-in checks find, and what evaluators report. -/
theorem mem_violations_iff {r : Registry} {report : ValidationReport}
    (validated : validate r s p = .ok report)
    (others : ∀ d ∈ s.customConstraints.values, ∀ found, custom r s p d = .ok found →
      ∀ v ∈ found, v.constraintId ≠ id) {v : Violation} (mine : v.constraintId = id) :
    v ∈ report.violations ↔ v ∈ builtIn .plain s p := by
  obtain ⟨judged, run, rfl⟩ := validateWriting_eq_ok_iff.mp validated
  refine List.mem_append.trans (or_iff_left fun foreign => ?_)
  obtain ⟨verdict, listed, member⟩ := List.mem_flatten.mp foreign
  obtain ⟨d, held, result⟩ := exists_of_mem_mapM run listed
  exact others d held verdict result v member mine

/-- A constraint is reported exactly if it does not hold, and one that is undecided is not
reported. Where a check looks at all the references of a constraint, it is enough that one of
them dangles. Evaluators of custom constraints are taken to report under other ids. -/
theorem reported_iff_not_holds {r : Registry} {report : ValidationReport}
    (validated : validate r s p = .ok report) (held : c.At s id)
    (alone : ∀ category, category ≠ c.category → id ∉ s.constraintIds category)
    (others : ∀ d ∈ s.customConstraints.values, ∀ found, custom r s p d = .ok found →
      ∀ v ∈ found, v.constraintId ≠ id) :
    ((∃ v ∈ report.violations, v.constraintId = id) ↔ ¬ c.Holds s p) ∧
    (c.Undecided s → ∀ v ∈ report.violations, v.constraintId ≠ id) ∧
    (c.Dangles s → c.category = .cardinality ∨ c.category = .frequency ∨
      c.category = .enumeration → ∀ v ∈ report.violations, v.constraintId ≠ id) := by
  have reported : (∃ v ∈ report.violations, v.constraintId = id) ↔ ¬ c.Holds s p := by
    rw [← reported_builtIn_iff .plain held alone]
    constructor
    · rintro ⟨v, member, mine⟩
      exact ⟨v, (mem_violations_iff validated others mine).mp member, mine⟩
    · rintro ⟨v, member, mine⟩
      exact ⟨v, (mem_violations_iff validated others mine).mpr member, mine⟩
  have skipped : c.Undecided s → ∀ v ∈ report.violations, v.constraintId ≠ id :=
    fun undecided v member mine => reported.mp ⟨v, member, mine⟩ (holds_of_undecided undecided)
  exact ⟨reported, skipped, fun dangles single => skipped (undecided_of_dangles dangles single)⟩

/-- Owners of cars, where owner and an unknown predicator together are a key. -/
def unknownKey : UniqueConstraint := ⟨"key", "key", ["owner", "ghost"], false, false⟩

def unknownKeyOwners : Schema :=
  { carOwners with uniqueConstraints := .ofList [("key", unknownKey)] }

/-- Two cars of one owner. -/
def sharedOwner : Population :=
  { schemaId := none
    objects := ∅
    facts := .ofList [("owns", [
      .ofList [("owner", .str "a"), ("owned", .int 1)],
      .ofList [("owner", .str "a"), ("owned", .int 2)]])] }

theorem validate_unknownKey : validate .standard unknownKeyOwners sharedOwner =
    .ok ⟨builtIn .plain unknownKeyOwners sharedOwner⟩ := rfl

theorem alone_unknownKey (category : ConstraintCategory)
    (other : category ≠ (uniqueness unknownKey).category) :
    "key" ∉ unknownKeyOwners.constraintIds category := by
  cases category with
  | uniqueness => exact absurd rfl other
  | _ => exact List.not_mem_nil

theorem reported_unknownKey :
    ∃ v ∈ builtIn .plain unknownKeyOwners sharedOwner, v.constraintId = "key" := by
  have ids : (builtIn .plain unknownKeyOwners sharedOwner).map (·.constraintId) = ["key"] := by
    decide +kernel
  apply List.mem_map.mp
  rw [ids]
  exact List.mem_singleton_self _

/-- The key is checked by its first predicator, and does not hold. -/
theorem not_holds_unknownKey : ¬ (uniqueness unknownKey).Holds unknownKeyOwners sharedOwner := by
  have reported := reported_iff_not_holds validate_unknownKey
    (show (uniqueness unknownKey).At unknownKeyOwners "key" from rfl) alone_unknownKey
    fun _ none => nomatch none
  exact reported.1.mp reported_unknownKey

/-- A constraint with a reference that does not resolve may be reported nevertheless. -/
theorem not_every_dangling_skipped :
    ¬ ∀ (r : Registry) (s : Schema) (p : Population) (report : ValidationReport) (id : String)
      (c : BuiltInConstraint), validate r s p = .ok report → c.At s id →
      (∀ category, category ≠ c.category → id ∉ s.constraintIds category) →
      (∀ d ∈ s.customConstraints.values, ∀ found, custom r s p d = .ok found →
        ∀ v ∈ found, v.constraintId ≠ id) →
      c.Dangles s → ∀ v ∈ report.violations, v.constraintId ≠ id := by
  intro claim
  have dangles : (uniqueness unknownKey).Dangles unknownKeyOwners :=
    .inl ⟨"ghost", List.mem_cons_of_mem _ List.mem_cons_self, rfl⟩
  have silent := claim _ _ _ _ "key" (uniqueness unknownKey) validate_unknownKey rfl
    alone_unknownKey (fun _ none => nomatch none) dangles
  obtain ⟨v, member, mine⟩ := reported_unknownKey
  exact silent v member mine

end BuiltInConstraint

end FactModel
