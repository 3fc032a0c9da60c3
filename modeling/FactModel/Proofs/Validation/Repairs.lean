import FactModel.Proofs.Positions
import FactModel.Proofs.Validation.Rearranged

/-!
What a violated uniqueness constraint reports is a least repair. Without the reported tuples the
constraint holds and no key is lost, and no fewer tuples can be taken away to that end.
-/

namespace FactModel

/-- The population without the tuples at some places, given by fact type and position. -/
def Population.without (p : Population) (places : List (String × Nat)) : Population :=
  { p with facts := p.facts.mapValues fun id => itemsAt fun i => !places.contains (id, i) }

theorem Population.tuples?_without (p : Population) (places : List (String × Nat)) (id : String) :
    (p.without places).tuples? id =
      (p.tuples? id).map (itemsAt fun i => !places.contains (id, i)) :=
  OrderedMap.find?_mapValues p.facts _ id

theorem ConstraintCategory.name_injective : Function.Injective ConstraintCategory.name := by
  intro category other
  cases category <;> cases other <;> simp [name]

namespace Validation

variable {s : Schema} {p : Population} {id : String} {c : UniqueConstraint} {f : FactType}
  {tuples : List Tuple}

instance (roles : List String) (t u : Tuple) : Decidable (Agree roles t u) :=
  inferInstanceAs (Decidable (∀ role ∈ roles, (t.role role).encode = (u.role role).encode))

/-- Where the tuples of a fact type agree with an earlier one. -/
def repeatPlaces (factType : String) (roles : List String) (tuples : List Tuple) :
    List (String × Nat) :=
  ((List.range tuples.length).filter (repeatsAt (Agree roles) tuples)).map fun i => (factType, i)

/-- A uniqueness constraint is evaluated on the tuples of the fact type of its first predicator. -/
def EvaluatedOn (s : Schema) (p : Population) (c : UniqueConstraint) (f : FactType)
    (tuples : List Tuple) : Prop :=
  (∃ first role, c.predicatorIds.head? = some first ∧ s.resolveRole? first = some (role, f)) ∧
    p.tuples? f.id = some tuples

/-- What the built-in checks report about the uniqueness constraint of an id. A validation reports
these violations before those that evaluators of custom constraints may give the same id. -/
def uniquenessReports (write : BoundWriting) (s : Schema) (p : Population) (id : String) :
    List Violation :=
  (builtIn write s p).filter fun v =>
    v.constraintType == ConstraintCategory.uniqueness.name && v.constraintId == id

/-! Tuples by position -/

/-- The scan finds a tuple at the end if its key was seen or is that of a tuple before. -/
theorem repeats_concat (roles : List String) (seen : List (List String)) (tuples : List Tuple)
    (t : Tuple) :
    repeats roles seen (tuples ++ [t]) = repeats roles seen tuples ++
      if tupleKey roles t ∈ seen ∨ tupleKey roles t ∈ tuples.map (tupleKey roles) then [t]
      else [] := by
  induction tuples generalizing seen with
  | nil => by_cases known : tupleKey roles t ∈ seen <;> simp [repeats, known]
  | cons u rest ih =>
    by_cases known : tupleKey roles u ∈ seen
    · simp only [List.cons_append, repeats, List.contains_eq_mem, known, decide_true, if_true, ih,
        List.map_cons]
      rw [if_congr (mem_or_mem_cons_of_mem known) rfl rfl]
    · simp only [List.cons_append, repeats, List.contains_eq_mem, known, decide_false,
        Bool.false_eq_true, if_false, ih, List.map_cons]
      rw [if_congr mem_cons_or_mem rfl rfl]

/-- The scan finds the tuples that agree with an earlier one. -/
theorem repeats_eq_itemsAt (roles : List String) (tuples : List Tuple) :
    repeats roles [] tuples = itemsAt (repeatsAt (Agree roles) tuples) tuples := by
  induction tuples using List.reverseRecOn with
  | nil => rfl
  | append_singleton tuples t ih =>
    have known : tupleKey roles t ∈ tuples.map (tupleKey roles) ↔
        tuples.any (fun u => Agree roles t u) = true := by
      simp only [List.mem_map, List.any_eq_true, decide_eq_true_eq, ← tupleKey_eq_iff]
      exact exists_congr fun u => and_congr_right fun _ => eq_comm
    rw [repeats_concat, itemsAt_concat, repeatsAt_concat, ih,
      itemsAt_congr fun i less => repeatsAt_of_lt _ t less]
    simp only [List.not_mem_nil, false_or, known]

theorem contains_repeatPlaces (factType : String) (roles : List String) {tuples : List Tuple}
    {i : Nat} (less : i < tuples.length) :
    (repeatPlaces factType roles tuples).contains (factType, i) =
      repeatsAt (Agree roles) tuples i := by
  rw [Bool.eq_iff_iff]
  simp [repeatPlaces, less]

/-- Without the repeats, the first tuple of each key is left. -/
theorem itemsAt_repeatPlaces (factType : String) (roles : List String) (tuples : List Tuple) :
    itemsAt (fun i => !(repeatPlaces factType roles tuples).contains (factType, i)) tuples =
      firsts (Agree roles) tuples :=
  itemsAt_congr fun _ less => congrArg Bool.not (contains_repeatPlaces factType roles less)

theorem map_firsts_tupleKey (roles : List String) (tuples : List Tuple) :
    (firsts (Agree roles) tuples).map (tupleKey roles) =
      (tuples.map (tupleKey roles)).eraseDups :=
  map_firsts (fun t u => (tupleKey_eq_iff roles t u).symm) tuples

theorem exists_firsts_of_mem {roles : List String} {t : Tuple} (member : t ∈ tuples) :
    ∃ u ∈ firsts (Agree roles) tuples, Agree roles t u := by
  have occurs : tupleKey roles t ∈ (tuples.map (tupleKey roles)).eraseDups :=
    List.mem_eraseDups.mpr (List.mem_map_of_mem member)
  rw [← map_firsts_tupleKey] at occurs
  obtain ⟨u, inside, same⟩ := List.mem_map.mp occurs
  exact ⟨u, inside, (tupleKey_eq_iff roles t u).mp same.symm⟩

theorem length_repeatPlaces (factType : String) (roles : List String) (tuples : List Tuple) :
    (repeatPlaces factType roles tuples).length = (repeats roles [] tuples).length := by
  rw [repeats_eq_itemsAt, length_itemsAt, repeatPlaces, List.length_map]

theorem length_le_without (places : List (String × Nat)) (factType : String)
    (tuples : List Tuple) :
    tuples.length ≤
      (itemsAt (fun i => !places.contains (factType, i)) tuples).length + places.length := by
  let positions := places.filterMap fun place =>
    if place.1 = factType then some place.2 else none
  have here : ∀ i, places.contains (factType, i) = positions.contains i := by
    intro i
    rw [Bool.eq_iff_iff]
    simp [positions]
  have fewer : positions.length ≤ places.length := List.length_filterMap_le _ _
  have most := length_le_itemsAt positions tuples
  simp only [here]
  omega

/-! What is reported -/

theorem constraintType_of_mem_check {write : BoundWriting} {c : BuiltInConstraint} {v : Violation}
    (found : v ∈ c.check write s p id) : v.constraintType = c.category.name := by
  obtain ⟨_, _, _, rfl⟩ := BuiltInConstraint.eq_violation_of_mem_check found
  rfl

/-- The constraints of another category report nothing of the uniqueness constraints. -/
theorem filter_check_eq_nil {α : Type} (write : BoundWriting) (s : Schema) (p : Population)
    (id : String) (m : OrderedMap α) (make : α → BuiltInConstraint)
    (other : ∀ value, (make value).category ≠ .uniqueness) :
    (m.entries.flatMap fun (key, value) => (make value).check write s p key).filter
      (fun v => v.constraintType == ConstraintCategory.uniqueness.name && v.constraintId == id) =
        [] := by
  refine List.filter_eq_nil_iff.mpr fun v found => ?_
  obtain ⟨⟨key, value⟩, _, member⟩ := List.mem_flatMap.mp found
  have apart : (make value).category.name ≠ ConstraintCategory.uniqueness.name :=
    fun same => other value (ConstraintCategory.name_injective same)
  simp [constraintType_of_mem_check member, apart]

theorem filter_uniqueness_eq (write : BoundWriting) (p : Population)
    (held : s.uniqueConstraints.find? id = some c) :
    (s.uniqueConstraints.entries.flatMap fun (key, c) =>
        (BuiltInConstraint.uniqueness c).check write s p key).filter
      (fun v => v.constraintType == ConstraintCategory.uniqueness.name && v.constraintId == id) =
        uniqueness s p id c := by
  have listed : (id, c) ∈ s.uniqueConstraints.entries :=
    (OrderedMap.find?_eq_some_iff _ _ _).mp held
  rw [List.filter_flatMap, flatMap_of_nodup_map s.uniqueConstraints.nodup listed]
  · refine List.filter_eq_self.mpr fun v found => ?_
    have type := constraintType_of_mem_check found
    have mine := BuiltInConstraint.constraintId_of_mem_check found
    simp [type, mine, BuiltInConstraint.category]
  · rintro ⟨key, other⟩ _ apart
    refine List.filter_eq_nil_iff.mpr fun v found => ?_
    have mine := BuiltInConstraint.constraintId_of_mem_check found
    have different : v.constraintId ≠ id := mine ▸ apart
    simp [different]

theorem uniquenessReports_eq (write : BoundWriting)
    (held : s.uniqueConstraints.find? id = some c) :
    uniquenessReports write s p id = uniqueness s p id c := by
  have own := filter_uniqueness_eq write p held
  have total := filter_check_eq_nil write s p id s.totalRoleConstraints .totalRole fun _ => nofun
  have sets := filter_check_eq_nil write s p id s.setConstraints .set fun _ => nofun
  have cardinal :=
    filter_check_eq_nil write s p id s.cardinalityConstraints .cardinality fun _ => nofun
  have frequent := filter_check_eq_nil write s p id s.frequencyConstraints .frequency fun _ => nofun
  have enumerated :=
    filter_check_eq_nil write s p id s.enumerationConstraints .enumeration fun _ => nofun
  simp only [BuiltInConstraint.check] at own total sets cardinal frequent enumerated
  simp only [uniquenessReports, builtIn, List.filter_append, own, total, sets, cardinal, frequent,
    enumerated, List.append_nil]

theorem uniquenessReports_prefix {write : BoundWriting} {r : Registry} {report : ValidationReport}
    (validated : validateWriting write r s p = .ok report) (id : String) :
    uniquenessReports write s p id <+:
      (report.ofType ConstraintCategory.uniqueness.name).filter fun v => v.constraintId == id := by
  obtain ⟨judged, _, rfl⟩ := validateWriting_eq_ok_iff.mp validated
  have both : ∀ v : Violation, (v.constraintId == id &&
      v.constraintType == ConstraintCategory.uniqueness.name) =
        (v.constraintType == ConstraintCategory.uniqueness.name && v.constraintId == id) :=
    fun _ => Bool.and_comm ..
  simp only [ValidationReport.ofType, List.filter_filter, both, List.filter_append]
  exact List.prefix_append _ _

theorem uniqueness_of_evaluated (evaluated : EvaluatedOn s p c f tuples) :
    uniqueness s p id c = (repeats c.predicatorIds [] tuples).map fun t =>
      violation .uniqueness id s!"Uniqueness constraint violated: {c.name}" [f.id] [t] := by
  obtain ⟨⟨first, role, listed, resolved⟩, populated⟩ := evaluated
  simp [uniqueness, listed, resolved, populated]

theorem EvaluatedOn.without (evaluated : EvaluatedOn s p c f tuples)
    (places : List (String × Nat)) :
    EvaluatedOn s (p.without places) c f
      (itemsAt (fun i => !places.contains (f.id, i)) tuples) :=
  ⟨evaluated.1, by rw [Population.tuples?_without, evaluated.2, Option.map_some]⟩

theorem repeats_eq_nil_iff_nodup (roles : List String) (tuples : List Tuple) :
    repeats roles [] tuples = [] ↔ (tuples.map (tupleKey roles)).Nodup := by
  rw [repeats_eq_nil_iff, List.Nodup, List.pairwise_map]
  simp

theorem uniquenessReports_without_eq_nil_iff (write : BoundWriting)
    (held : s.uniqueConstraints.find? id = some c) (evaluated : EvaluatedOn s p c f tuples)
    (places : List (String × Nat)) :
    uniquenessReports write s (p.without places) id = [] ↔
      ((itemsAt (fun i => !places.contains (f.id, i)) tuples).map
        (tupleKey c.predicatorIds)).Nodup := by
  rw [uniquenessReports_eq write held, uniqueness_of_evaluated (evaluated.without places),
    List.map_eq_nil_iff, repeats_eq_nil_iff_nodup]

/-- Tuples with keys of their own are no more than there are keys. -/
theorem length_repeats_le (roles : List String) {kept : List Tuple} (within : kept ⊆ tuples)
    (distinct : (kept.map (tupleKey roles)).Nodup) :
    kept.length + (repeats roles [] tuples).length ≤ tuples.length := by
  have counted := length_repeats roles [] tuples
  have keys : (kept.map (tupleKey roles)).toFinset ⊆ (tuples.map (tupleKey roles)).toFinset :=
    fun key listed =>
      List.mem_toFinset.mpr (List.map_subset _ within (List.mem_toFinset.mp listed))
  have fewer := Finset.card_le_card keys
  rw [List.toFinset_card_of_nodup distinct, List.length_map] at fewer
  simp only [List.toFinset_nil, Finset.sdiff_empty] at counted
  omega

/-- A uniqueness constraint reports, in order, the tuples that agree with an earlier one, and a
validation begins with these reports. Without the tuples it reports nothing, and every key still
occurs; whatever else is taken away so that it reports nothing is no less. -/
theorem least_repair_reported (write : BoundWriting) (held : s.uniqueConstraints.find? id = some c)
    (evaluated : EvaluatedOn s p c f tuples) :
    let reports := uniquenessReports write s p id
    let places := repeatPlaces f.id c.predicatorIds tuples
    reports.map (·.affectedFacts) =
        (itemsAt (repeatsAt (Agree c.predicatorIds) tuples) tuples).map (fun t => some [t]) ∧
      places.length = reports.length ∧
      uniquenessReports write s (p.without places) id = [] ∧
      (∃ kept, (p.without places).tuples? f.id = some kept ∧
        ∀ t ∈ tuples, ∃ u ∈ kept, Agree c.predicatorIds t u) ∧
      (∀ others, uniquenessReports write s (p.without others) id = [] →
        reports.length ≤ others.length) ∧
      ∀ r report, validateWriting write r s p = .ok report →
        reports <+: (report.ofType ConstraintCategory.uniqueness.name).filter
          fun v => v.constraintId == id := by
  intro reports places
  have found : reports = (repeats c.predicatorIds [] tuples).map fun t =>
      violation .uniqueness id s!"Uniqueness constraint violated: {c.name}" [f.id] [t] :=
    (uniquenessReports_eq write held).trans (uniqueness_of_evaluated evaluated)
  have silent := uniquenessReports_without_eq_nil_iff write held evaluated
  refine ⟨?_, ?_, ?_, ⟨_, (evaluated.without places).2, ?_⟩, ?_,
    fun _ _ validated => uniquenessReports_prefix validated id⟩
  · rw [found, List.map_map, repeats_eq_itemsAt]
    rfl
  · rw [length_repeatPlaces, found, List.length_map]
  · rw [silent, itemsAt_repeatPlaces, map_firsts_tupleKey]
    exact nodup_eraseDups _
  · intro t member
    rw [itemsAt_repeatPlaces]
    exact exists_firsts_of_mem member
  · intro others none
    have distinct := (silent others).mp none
    have fewer := length_repeats_le c.predicatorIds (itemsAt_subset _ tuples) distinct
    have most := length_le_without others f.id tuples
    rw [found, List.length_map]
    omega

def recordedCars : List Tuple := [
  ownedBy (.str "a") (.int 1), ownedBy (.str "b") firstCar,
  .ofList [("owner", .str "c")], ownedBy (.str "d") .null]

/-- The car `1` has two owners, and two owners have no car. -/
theorem least_repair_recordedCars :
    let owns : FactType := ⟨"owns", "owns", ["owner", "owned"], false, none⟩
    let one : UniqueConstraint := ⟨"one", "one", ["owned"], false, false⟩
    let p := fleet [] [] recordedCars []
    carOwners.uniqueConstraints.find? "one" = some one ∧
      EvaluatedOn carOwners p one owns recordedCars ∧
      (uniquenessReports .plain carOwners p "one").map (·.affectedFacts) =
        [some [ownedBy (.str "b") firstCar], some [ownedBy (.str "d") .null]] ∧
      uniquenessReports .plain carOwners (p.without [("owns", 1), ("owns", 3)]) "one" = [] ∧
      (∀ others, uniquenessReports .plain carOwners (p.without others) "one" = [] →
        2 ≤ others.length) ∧
      ∃ report, validate .standard carOwners p = .ok report ∧
        uniquenessReports .plain carOwners p "one" <+:
          (report.ofType "Uniqueness").filter fun v => v.constraintId == "one" := by
  intro owns one p
  have held : carOwners.uniqueConstraints.find? "one" = some one := rfl
  have evaluated : EvaluatedOn carOwners p one owns recordedCars :=
    ⟨⟨"owned", _, rfl, rfl⟩, rfl⟩
  have places : repeatPlaces "owns" ["owned"] recordedCars = [("owns", 1), ("owns", 3)] := by
    decide +kernel
  have repeated : itemsAt (repeatsAt (Agree ["owned"]) recordedCars) recordedCars =
      [ownedBy (.str "b") firstCar, ownedBy (.str "d") .null] := by
    have chosen : ∀ i < recordedCars.length,
        repeatsAt (Agree ["owned"]) recordedCars i = [1, 3].contains i := by decide +kernel
    rw [itemsAt_congr chosen]
    rfl
  obtain ⟨affected, size, clean, _, least, first⟩ := least_repair_reported .plain held evaluated
  rw [places] at size clean
  rw [repeated] at affected
  have validated := validate_of_no_custom (s := carOwners) .standard p rfl
  refine ⟨held, evaluated, affected, clean, fun others none => ?_, _, validated,
    first .standard _ validated⟩
  exact Nat.le_trans (Nat.le_of_eq size) (least others none)

end Validation

end FactModel
