import FactModel.Validation
import Mathlib.Data.List.Perm.Subperm
import Mathlib.Data.Set.BooleanAlgebra
import Mathlib.Data.Set.Disjoint
import Mathlib.Order.CompletePartialOrder

/-!
What it means that a population satisfies a schema, constraint by constraint, and that a
validation finds an error exactly when it does not. Values count as equal when their encodings
are.
-/

namespace FactModel

def Bounds.Admit (b : Bounds) (count : Nat) : Prop :=
  (∀ least, b.min = some least → least ≤ count) ∧ (∀ most, b.max = some most → (count : Int) ≤ most)

namespace Validation

/-- Two tuples with equal values in all of the roles; an unfilled role counts as null. -/
def Agree (roles : List String) (t u : Tuple) : Prop :=
  ∀ role ∈ roles, (t.role role).encode = (u.role role).encode

/-- The encodings of the filled values of a role. -/
def filledCodes (tuples : List Tuple) (role : String) : Set String :=
  {code | ∃ t ∈ tuples, ∃ v, t.filled? role = some v ∧ v.encode = code}

/-- How many tuples fill a role with a value of this encoding. -/
def occurrences (tuples : List Tuple) (role code : String) : Nat :=
  tuples.countP fun t => (t.filled? role).map Value.encode == some code

/-- The encodings of the filled values of those predicators in a list that resolve. -/
def reachableCodes (s : Schema) (p : Population) (predicators : List String) : Set String :=
  {code | ∃ id ∈ predicators, ∃ role f, s.resolveRole? id = some (role, f) ∧
    code ∈ filledCodes ((p.tuples? f.id).getD []) id}

def UniquenessHolds (s : Schema) (p : Population) (c : UniqueConstraint) : Prop :=
  ∀ first, c.predicatorIds.head? = some first →
    ∀ role f, s.resolveRole? first = some (role, f) →
    ∀ tuples, p.tuples? f.id = some tuples →
    ∀ (i j : Nat) (t u : Tuple), i ≠ j → tuples[i]? = some t → tuples[j]? = some u →
      ¬ Agree c.predicatorIds t u

def TotalRoleHolds (s : Schema) (p : Population) (c : TotalRoleConstraint) : Prop :=
  ∀ role f, s.resolveRole? c.predicatorId = some (role, f) →
    ∀ instances, p.instances? c.objectId = some instances →
    ∀ tuples, p.tuples? f.id = some tuples →
    ∀ v ∈ instances, v.encode ∈ filledCodes tuples c.predicatorId

def SetHolds (s : Schema) (p : Population) (c : SetConstraint) : Prop :=
  let source := reachableCodes s p c.sourcePredicatorIds
  let target := reachableCodes s p c.targetPredicatorIds
  match c.kind with
  | .subset => source ⊆ target
  | .equality => source = target
  | .exclusion => Disjoint source target
  | .other _ => True

def CardinalityHolds (s : Schema) (p : Population) (c : CardinalityConstraint) : Prop :=
  ∀ role f, s.resolveRole? c.predicatorId = some (role, f) →
    ∀ tuples, p.tuples? f.id = some tuples →
    ∀ code ∈ filledCodes tuples role.id, c.bounds.Admit (occurrences tuples role.id code)

def FrequencyHolds (s : Schema) (p : Population) (c : FrequencyConstraint) : Prop :=
  s.factTypes.contains c.factTypeId = true →
    c.bounds.Admit ((p.tuples? c.factTypeId).getD []).length

def EnumerationHolds (s : Schema) (p : Population) (c : EnumerationConstraint) : Prop :=
  s.hasObject c.labelTypeId = true →
    ∀ instances, p.instances? c.labelTypeId = some instances →
    ∀ v ∈ instances, ∃ allowed ∈ c.allowedValues, allowed.encode = v.encode

/-- Every constraint of the built-in categories holds. -/
structure Satisfies (s : Schema) (p : Population) : Prop where
  uniqueness : ∀ c ∈ s.uniqueConstraints.values, UniquenessHolds s p c
  totalRoles : ∀ c ∈ s.totalRoleConstraints.values, TotalRoleHolds s p c
  sets : ∀ c ∈ s.setConstraints.values, SetHolds s p c
  cardinality : ∀ c ∈ s.cardinalityConstraints.values, CardinalityHolds s p c
  frequency : ∀ c ∈ s.frequencyConstraints.values, FrequencyHolds s p c
  enumerations : ∀ c ∈ s.enumerationConstraints.values, EnumerationHolds s p c

/-! Tuples that repeat a key -/

theorem tupleKey_eq_iff (roles : List String) (t u : Tuple) :
    tupleKey roles t = tupleKey roles u ↔ Agree roles t u := List.map_inj_left

/-- The keys in `seen` are those of the tuples that went before. -/
theorem repeats_eq_nil_iff (roles : List String) (seen : List (List String))
    (tuples : List Tuple) :
    repeats roles seen tuples = [] ↔
      (∀ t ∈ tuples, tupleKey roles t ∉ seen) ∧
      tuples.Pairwise fun t u => tupleKey roles t ≠ tupleKey roles u := by
  induction tuples generalizing seen with
  | nil => simp [repeats]
  | cons t rest ih =>
    by_cases known : tupleKey roles t ∈ seen
    · simp [repeats, known]
    · have step : repeats roles seen (t :: rest) =
          repeats roles (tupleKey roles t :: seen) rest := by simp [repeats, known]
      rw [step, ih, List.pairwise_cons, List.forall_mem_cons]
      simp only [List.mem_cons, not_or]
      constructor
      · rintro ⟨fresh, apart⟩
        refine ⟨⟨known, fun u member => (fresh u member).2⟩, ?_, apart⟩
        exact fun u member => Ne.symm (fresh u member).1
      · rintro ⟨⟨_, fresh⟩, first, apart⟩
        exact ⟨fun u member => ⟨Ne.symm (first u member), fresh u member⟩, apart⟩

theorem pairwise_disagree_iff (roles : List String) (tuples : List Tuple) :
    (tuples.Pairwise fun t u => tupleKey roles t ≠ tupleKey roles u) ↔
      ∀ (i j : Nat) (t u : Tuple), i ≠ j → tuples[i]? = some t → tuples[j]? = some u →
        ¬ Agree roles t u := by
  rw [List.pairwise_iff_getElem]
  constructor
  · intro apart i j t u distinct ht hu agree
    obtain ⟨hi, rfl⟩ := List.getElem?_eq_some_iff.mp ht
    obtain ⟨hj, rfl⟩ := List.getElem?_eq_some_iff.mp hu
    rw [← tupleKey_eq_iff] at agree
    rcases Nat.lt_or_gt_of_ne distinct with less | less
    · exact apart i j hi hj less agree
    · exact apart j i hj hi less agree.symm
  · intro apart i j hi hj less same
    refine apart i j _ _ (Nat.ne_of_lt less) (List.getElem?_eq_getElem hi)
      (List.getElem?_eq_getElem hj) ?_
    exact (tupleKey_eq_iff _ _ _).mp same

theorem uniqueness_eq_nil_iff (s : Schema) (p : Population) (id : String) (c : UniqueConstraint) :
    uniqueness s p id c = [] ↔ UniquenessHolds s p c := by
  unfold uniqueness UniquenessHolds
  cases listed : c.predicatorIds.head? with
  | none => simp
  | some first =>
    cases resolved : s.resolveRole? first with
    | none => simp [resolved]
    | some found =>
      obtain ⟨role, f⟩ := found
      cases populated : p.tuples? f.id with
      | none => simp [resolved, populated]
      | some tuples =>
        have scanned := repeats_eq_nil_iff c.predicatorIds [] tuples
        have apart := pairwise_disagree_iff c.predicatorIds tuples
        simp [resolved, populated, scanned, apart]

/-! Values that are equal to values of a list -/

theorem mem_encodings {values : List Value} {code : String} :
    code ∈ encodings values ↔ ∃ v ∈ values, v.encode = code := List.mem_map

theorem absentFrom_eq_nil_iff (values others : List Value) :
    absentFrom values others = [] ↔ ∀ v ∈ values, v.encode ∈ encodings others := by
  simp [absentFrom, List.filter_eq_nil_iff]

theorem presentIn_eq_nil_iff (values others : List Value) :
    presentIn values others = [] ↔ ∀ v ∈ values, v.encode ∉ encodings others := by
  simp [presentIn, List.filter_eq_nil_iff]

theorem mem_encodings_roleValues (tuples : List Tuple) (role code : String) :
    code ∈ encodings (roleValues tuples role) ↔ code ∈ filledCodes tuples role := by
  simp only [mem_encodings, roleValues, List.mem_filterMap, filledCodes, Set.mem_ofPred_eq]
  constructor
  · rintro ⟨v, ⟨t, member, filled⟩, same⟩
    exact ⟨t, member, v, filled, same⟩
  · rintro ⟨t, member, v, filled, same⟩
    exact ⟨v, ⟨t, member, filled⟩, same⟩

theorem totalRole_eq_nil_iff (s : Schema) (p : Population) (id : String)
    (c : TotalRoleConstraint) : totalRole s p id c = [] ↔ TotalRoleHolds s p c := by
  unfold totalRole TotalRoleHolds
  cases resolved : s.resolveRole? c.predicatorId with
  | none => simp
  | some found =>
    obtain ⟨role, f⟩ := found
    cases instances : p.instances? c.objectId with
    | none => simp
    | some values =>
      cases populated : p.tuples? f.id with
      | none => simp [populated]
      | some tuples => simp [populated, absentFrom_eq_nil_iff, mem_encodings_roleValues]

theorem enumeration_eq_nil_iff (s : Schema) (p : Population) (id : String)
    (c : EnumerationConstraint) : enumeration s p id c = [] ↔ EnumerationHolds s p c := by
  unfold enumeration EnumerationHolds
  cases known : s.hasObject c.labelTypeId with
  | false => simp
  | true =>
    cases instances : p.instances? c.labelTypeId with
    | none => simp [absentFrom]
    | some values => simp [absentFrom_eq_nil_iff, mem_encodings]

/-! Value sets of predicators -/

theorem mem_encodings_distinctFrom (seen : List String) (values : List Value) (code : String) :
    code ∈ encodings (Population.distinctFrom seen values) ↔
      code ∈ encodings values ∧ code ∉ seen := by
  induction values generalizing seen with
  | nil => simp [Population.distinctFrom, encodings]
  | cons v rest ih =>
    simp only [encodings] at ih
    by_cases known : v.encode ∈ seen
    · simp only [Population.distinctFrom, List.contains_eq_mem, known, decide_true, if_true,
        encodings, ih, List.map_cons, List.mem_cons]
      constructor
      · rintro ⟨member, fresh⟩
        exact ⟨.inr member, fresh⟩
      · rintro ⟨rfl | member, fresh⟩
        · exact absurd known fresh
        · exact ⟨member, fresh⟩
    · simp only [Population.distinctFrom, List.contains_eq_mem, known, decide_false,
        Bool.false_eq_true, if_false, encodings, List.map_cons, List.mem_cons, ih, not_or]
      by_cases same : code = v.encode
      · subst same
        simp [known]
      · simp [same]

theorem nodup_encodings_distinctFrom (seen : List String) (values : List Value) :
    (encodings (Population.distinctFrom seen values)).Nodup := by
  induction values generalizing seen with
  | nil => exact List.nodup_nil
  | cons v rest ih =>
    unfold Population.distinctFrom
    split
    · exact ih seen
    · have fresh := mem_encodings_distinctFrom (v.encode :: seen) rest v.encode
      refine List.nodup_cons.mpr ⟨?_, ih _⟩
      intro member
      exact (fresh.mp member).2 List.mem_cons_self

theorem mem_encodings_distinct (values : List Value) (code : String) :
    code ∈ encodings (Population.distinct values) ↔ code ∈ encodings values := by
  simp [Population.distinct, mem_encodings_distinctFrom]

theorem mem_encodings_reachable (s : Schema) (p : Population) (predicators : List String)
    (code : String) :
    code ∈ encodings (reachable s p predicators) ↔ code ∈ reachableCodes s p predicators := by
  rw [reachable, mem_encodings_distinct, encodings, List.map_flatMap, List.mem_flatMap,
    reachableCodes, Set.mem_ofPred_eq]
  refine exists_congr fun id => and_congr_right fun _ => ?_
  cases resolved : s.resolveRole? id with
  | none => simp
  | some found =>
    have filled := mem_encodings_roleValues ((p.tuples? found.2.id).getD []) id code
    constructor
    · intro member
      exact ⟨found.1, found.2, rfl, filled.mp member⟩
    · rintro ⟨_, _, ⟨⟩, member⟩
      exact filled.mpr member

/-- Of two lists without repetitions, a part of the other of the same size is all of it. -/
theorem subset_and_length_iff {a b : List String} (ha : a.Nodup) (hb : b.Nodup) :
    (a.length = b.length ∧ a ⊆ b) ↔ ∀ x, x ∈ a ↔ x ∈ b := by
  constructor
  · rintro ⟨length, subset⟩ x
    have all := (List.subperm_of_subset ha subset).perm_of_length_le (Nat.le_of_eq length.symm)
    exact all.mem_iff
  · intro same
    have all := (List.perm_ext_iff_of_nodup ha hb).mpr same
    exact ⟨all.length_eq, fun x member => (same x).mp member⟩

theorem setMessage_eq_none_iff (c : SetConstraint) (source target : List Value)
    (hs : (encodings source).Nodup) (ht : (encodings target).Nodup) :
    setMessage? c source target = none ↔
      match c.kind with
      | .subset => ∀ code ∈ encodings source, code ∈ encodings target
      | .equality => ∀ code, code ∈ encodings source ↔ code ∈ encodings target
      | .exclusion => ∀ code ∈ encodings source, code ∉ encodings target
      | .other _ => True := by
  have every : ∀ P : String → Prop,
      (∀ code ∈ encodings source, P code) ↔ ∀ v ∈ source, P v.encode := by
    intro P
    simp [encodings]
  unfold setMessage?
  cases c.kind with
  | subset => simp only [Option.map_eq_none_iff, List.head?_eq_none_iff, absentFrom_eq_nil_iff, every]
  | equality =>
    have sizes : source.length = target.length ↔
        (encodings source).length = (encodings target).length := by simp [encodings]
    have within : (absentFrom source target).isEmpty = true ↔
        encodings source ⊆ encodings target := by
      rw [List.isEmpty_iff, absentFrom_eq_nil_iff]
      exact (every _).symm
    simp only [← subset_and_length_iff hs ht, ← sizes, ← within, ite_eq_right_iff, reduceCtorEq,
      imp_false, Bool.or_eq_true, bne_iff_ne, Bool.not_eq_true', not_or, Decidable.not_not,
      Bool.not_eq_false]
  | exclusion => simp only [Option.map_eq_none_iff, List.head?_eq_none_iff, presentIn_eq_nil_iff, every]
  | other name => simp

theorem setConstraint_eq_nil_iff (s : Schema) (p : Population) (id : String) (c : SetConstraint) :
    setConstraint s p id c = [] ↔ SetHolds s p c := by
  have silent : setConstraint s p id c = [] ↔
      setMessage? c (reachable s p c.sourcePredicatorIds) (reachable s p c.targetPredicatorIds) =
        none := by
    unfold setConstraint
    dsimp only
    split <;> simp_all
  have once : ∀ predicators, (encodings (reachable s p predicators)).Nodup :=
    fun predicators => nodup_encodings_distinctFrom [] _
  rw [silent, setMessage_eq_none_iff c _ _ (once _) (once _)]
  unfold SetHolds
  simp only [mem_encodings_reachable]
  cases c.kind with
  | subset => exact Iff.rfl
  | equality => exact Set.ext_iff.symm
  | exclusion => exact Set.disjoint_left.symm
  | other name => exact Iff.rfl

/-! Counts within bounds -/

theorem boundViolations_eq_nil_iff (bounds : Bounds) (count : Nat)
    (make : Bool → Int → Violation) :
    boundViolations bounds count make = [] ↔ bounds.Admit count := by
  unfold boundViolations Bounds.Admit
  cases bounds.min <;> cases bounds.max <;> simp

theorem count_encodings_roleValues (tuples : List Tuple) (role code : String) :
    (encodings (roleValues tuples role)).count code = occurrences tuples role code := by
  simp only [encodings, roleValues, List.count, List.countP_map, List.countP_filterMap, occurrences]
  refine List.countP_congr fun t _ => ?_
  cases t.filled? role <;> simp

theorem cardinality_eq_nil_iff (write : BoundWriting) (s : Schema) (p : Population) (id : String)
    (c : CardinalityConstraint) : cardinality write s p id c = [] ↔ CardinalityHolds s p c := by
  unfold cardinality CardinalityHolds
  cases resolved : s.resolveRole? c.predicatorId with
  | none => simp
  | some found =>
    obtain ⟨role, f⟩ := found
    cases populated : p.tuples? f.id with
    | none => simp [populated]
    | some tuples =>
      simp [populated, tally, boundViolations_eq_nil_iff, List.mem_eraseDups,
        mem_encodings_roleValues, count_encodings_roleValues]

theorem frequency_eq_nil_iff (write : BoundWriting) (s : Schema) (p : Population) (id : String)
    (c : FrequencyConstraint) : frequency write s p id c = [] ↔ FrequencyHolds s p c := by
  unfold frequency FrequencyHolds
  split <;> simp_all [boundViolations_eq_nil_iff]

/-! The verdict -/

theorem severity_of_mem_boundViolations {bounds : Bounds} {count : Nat}
    {make : Bool → Int → Violation} {v : Violation}
    (made : ∀ above bound, (make above bound).severity = .error)
    (found : v ∈ boundViolations bounds count make) : v.severity = .error := by
  unfold boundViolations at found
  cases bounds.min <;> cases bounds.max <;> grind

theorem severity_of_mem_builtIn (write : BoundWriting) (s : Schema) (p : Population)
    (v : Violation) (member : v ∈ builtIn write s p) : v.severity = .error := by
  simp only [builtIn, List.mem_append, List.mem_flatMap] at member
  rcases member with ((((⟨_, _, found⟩ | ⟨_, _, found⟩) | ⟨_, _, found⟩) | ⟨_, _, found⟩) |
    ⟨_, _, found⟩) | ⟨_, _, found⟩
  · unfold uniqueness at found
    grind [violation]
  · unfold totalRole at found
    grind [violation]
  · unfold setConstraint at found
    grind [violation]
  · unfold cardinality at found
    split at found
    · cases found
    · split at found
      · cases found
      · obtain ⟨_, _, found⟩ := List.mem_flatMap.mp found
        exact severity_of_mem_boundViolations (fun _ _ => rfl) found
  · unfold frequency at found
    split at found
    · exact severity_of_mem_boundViolations (fun _ _ => rfl) found
    · cases found
  · unfold enumeration at found
    grind [violation]

theorem flatMap_check_eq_nil_iff {α : Type} (m : OrderedMap α)
    {check : String → α → List Violation} {holds : α → Prop}
    (same : ∀ id c, check id c = [] ↔ holds c) :
    (m.entries.flatMap fun (id, c) => check id c) = [] ↔ ∀ c ∈ m.values, holds c := by
  simp only [List.flatMap_eq_nil_iff, OrderedMap.values, List.forall_mem_map, same]

theorem builtIn_eq_nil_iff (write : BoundWriting) (s : Schema) (p : Population) :
    builtIn write s p = [] ↔ Satisfies s p := by
  simp only [builtIn, List.append_eq_nil_iff,
    flatMap_check_eq_nil_iff _ (uniqueness_eq_nil_iff s p),
    flatMap_check_eq_nil_iff _ (totalRole_eq_nil_iff s p),
    flatMap_check_eq_nil_iff _ (setConstraint_eq_nil_iff s p),
    flatMap_check_eq_nil_iff _ (cardinality_eq_nil_iff write s p),
    flatMap_check_eq_nil_iff _ (frequency_eq_nil_iff write s p),
    flatMap_check_eq_nil_iff _ (enumeration_eq_nil_iff s p)]
  constructor
  · rintro ⟨⟨⟨⟨⟨unique, total⟩, sets⟩, cardinal⟩, frequent⟩, enumerated⟩
    exact ⟨unique, total, sets, cardinal, frequent, enumerated⟩
  · rintro ⟨unique, total, sets, cardinal, frequent, enumerated⟩
    exact ⟨⟨⟨⟨⟨unique, total⟩, sets⟩, cardinal⟩, frequent⟩, enumerated⟩

/-- A validation reports what the built-in checks find and then what the evaluators report. -/
theorem validateWriting_eq_ok_iff {write : BoundWriting} {r : Registry} {s : Schema}
    {p : Population} {report : ValidationReport} : validateWriting write r s p = .ok report ↔
      ∃ judged, s.customConstraints.values.mapM (custom r s p) = .ok judged ∧
        report = ⟨builtIn write s p ++ judged.flatten⟩ := by
  unfold validateWriting violations
  cases s.customConstraints.values.mapM (custom r s p) with
  | error e => exact ⟨nofun, fun ⟨_, run, _⟩ => nomatch run⟩
  | ok judged =>
    constructor
    · intro validated
      exact ⟨judged, rfl, (Except.ok.inj validated).symm⟩
    · rintro ⟨_, run, rfl⟩
      rw [Except.ok.inj run]
      rfl

theorem validate_of_no_custom {s : Schema} (r : Registry) (p : Population)
    (plain : s.customConstraints = ∅) : validate r s p = .ok ⟨builtIn .plain s p⟩ := by
  refine validateWriting_eq_ok_iff.mpr ⟨[], by rw [plain]; rfl, ?_⟩
  rw [List.flatten_nil, List.append_nil]

/-- Without custom constraints a validation gives a report, and the report calls a population
valid exactly when it satisfies the schema. -/
theorem isValid_iff_satisfies (r : Registry) (s : Schema) (p : Population)
    (plain : s.customConstraints = ∅) :
    ∃ report, validate r s p = .ok report ∧ (report.isValid = true ↔ Satisfies s p) := by
  refine ⟨_, validate_of_no_custom r p plain, ?_⟩
  rw [← builtIn_eq_nil_iff .plain s p]
  have errors := severity_of_mem_builtIn .plain s p
  cases found : builtIn .plain s p with
  | nil => simp [ValidationReport.isValid]
  | cons v rest =>
    have first := errors v (by rw [found]; exact List.mem_cons_self)
    simp [ValidationReport.isValid, first]

/-- Cars with owners, where no car has two. -/
def carOwners : Schema :=
  { id := "owners", name := "Owners", version := "1"
    entities := .ofList [("car", ⟨"car", "Car", [], [], none, false⟩)]
    factTypes := .ofList [("owns", ⟨"owns", "owns", ["owner", "owned"], false, none⟩)]
    predicators := .ofList [
      ("owner", ⟨"owner", "owner", "owns", 0, "car", true⟩),
      ("owned", ⟨"owned", "owned", "owns", 1, "car", true⟩)]
    uniqueConstraints := .ofList [("one", ⟨"one", "one", ["owned"], false, false⟩)] }

/-- Two owners of the car `1`, which is written as an integer and as a float. -/
def sharedCar : Population :=
  { schemaId := none
    objects := ∅
    facts := .ofList [("owns", [
      .ofList [("owner", .str "a"), ("owned", .int 1)],
      .ofList [("owner", .str "b"), ("owned", .float ⟨0x3FF0000000000000⟩)]])] }

/-- The second tuple repeats the key of the first, so that the population is not valid. -/
theorem isValid_sharedCar :
    carOwners.customConstraints = ∅ ∧
    ∃ report, validate .standard carOwners sharedCar = .ok report ∧
      report.isValid = false ∧ ¬ Satisfies carOwners sharedCar := by
  refine ⟨rfl, ?_⟩
  obtain ⟨report, validated, verdict⟩ := isValid_iff_satisfies .standard carOwners sharedCar rfl
  have broken : ¬ Satisfies carOwners sharedCar := by
    intro holds
    refine holds.uniqueness ⟨"one", "one", ["owned"], false, false⟩ List.mem_cons_self
      "owned" rfl _ _ rfl _ rfl 0 1 _ _ Nat.zero_ne_one rfl rfl ?_
    intro role member
    rw [List.mem_singleton] at member
    subst role
    decide +kernel
  refine ⟨report, validated, ?_, broken⟩
  rw [Bool.eq_false_iff]
  exact fun valid => broken (verdict.mp valid)

end Validation

end FactModel
