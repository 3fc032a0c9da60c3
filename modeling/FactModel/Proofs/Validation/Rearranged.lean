import FactModel.Proofs.Lists
import FactModel.Proofs.Validation.Unresolved
import FactModel.Proofs.Value.Encodings
import Mathlib.Data.Finset.Card

/-!
What a validation counts does not depend on the order of a population, nor on which of several
values of one encoding it holds. A first tuple or value that a check stops at may be another one,
but each check comes down to counts of encodings.
-/

namespace FactModel

/-- In any order, and with items of the same code in place of each other. -/
def Reordered {α β : Type} (code : α → β) (items others : List α) : Prop :=
  ∃ permuted, items.Perm permuted ∧ List.Forall₂ (fun a b => code a = code b) permuted others

/-- The encodings of the values by role. -/
def Tuple.codes (t : Tuple) : String → Option String := fun role =>
  (t.find? role).map Value.encode

/-- The instances of each object and the tuples of each fact type in another order, with values
replaced by others of the same encoding. -/
structure Population.Rearranged (p q : Population) : Prop where
  objects : ∀ id, Option.Rel (Reordered Value.encode) (p.instances? id) (q.instances? id)
  facts : ∀ id, Option.Rel (Reordered Tuple.codes) (p.tuples? id) (q.tuples? id)

namespace Reordered

variable {α β γ : Type} {code : α → β} {items others : List α}

theorem nil : Reordered code [] [] := ⟨[], .refl _, .nil⟩

theorem perm_map (reordered : Reordered code items others) {f : α → γ}
    (byCode : ∀ a b, code a = code b → f a = f b) : (items.map f).Perm (others.map f) := by
  obtain ⟨permuted, perm, alike⟩ := reordered
  have values : permuted.map f = others.map f :=
    map_eq_map_of_forall₂ (alike.imp fun a b same => byCode a b same)
  exact values ▸ perm.map f

theorem length_eq (reordered : Reordered code items others) : items.length = others.length := by
  obtain ⟨permuted, perm, alike⟩ := reordered
  rw [perm.length_eq, alike.length_eq]

theorem of_rel_getD {items others : Option (List α)}
    (related : Option.Rel (Reordered code) items others) :
    Reordered code (items.getD []) (others.getD []) := by
  cases related with
  | none => exact nil
  | some reordered => exact reordered

end Reordered

namespace Tuple

theorem encode_role (t : Tuple) (role : String) :
    (t.role role).encode = (t.codes role).getD Value.null.encode := by
  unfold Tuple.role codes
  cases t.find? role <;> rfl

theorem encode_filled? (t : Tuple) (role : String) :
    (t.filled? role).map Value.encode =
      (t.codes role).filter fun code => code != Value.null.encode := by
  unfold filled? codes
  cases held : t.find? role with
  | none => rfl
  | some v =>
    by_cases empty : v = .null
    · subst empty
      simp [Option.filter]
    · have filled : v.encode ≠ Value.null.encode := fun same =>
        empty ((Value.encode_eq_null_iff v).mp same)
      cases v with
      | null => exact absurd rfl empty
      | _ => simp [Option.filter, filled]

end Tuple

namespace Validation

variable {s : Schema} {p q : Population} {ts us : List Tuple} {vs ws : List Value}

theorem perm_tupleKeys (reordered : Reordered Tuple.codes ts us) (roles : List String) :
    (ts.map (tupleKey roles)).Perm (us.map (tupleKey roles)) := by
  refine reordered.perm_map fun t u same => ?_
  simp only [tupleKey, Tuple.encode_role, same]

theorem perm_encodings (reordered : Reordered Value.encode vs ws) :
    (encodings vs).Perm (encodings ws) := reordered.perm_map fun _ _ same => same

theorem encodings_roleValues (tuples : List Tuple) (role : String) :
    encodings (roleValues tuples role) =
      (tuples.map fun t => (t.filled? role).map Value.encode).filterMap id := by
  simp only [encodings, roleValues, List.map_filterMap, List.filterMap_map, Function.comp_def, id]

theorem perm_encodings_roleValues (reordered : Reordered Tuple.codes ts us) (role : String) :
    (encodings (roleValues ts role)).Perm (encodings (roleValues us role)) := by
  rw [encodings_roleValues, encodings_roleValues]
  refine (reordered.perm_map fun t u same => ?_).filterMap id
  rw [Tuple.encode_filled?, Tuple.encode_filled?, same]

/-! Sizes of what the checks find -/

/-- Of the tuples of one key all but one are repetitions, whichever comes first. -/
theorem length_repeats (roles : List String) (seen : List (List String)) (tuples : List Tuple) :
    (repeats roles seen tuples).length +
      ((tuples.map (tupleKey roles)).toFinset \ seen.toFinset).card = tuples.length := by
  induction tuples generalizing seen with
  | nil => simp [repeats]
  | cons t rest ih =>
    by_cases known : tupleKey roles t ∈ seen
    · have step : repeats roles seen (t :: rest) = t :: repeats roles seen rest := by
        simp [repeats, known]
      have keys : insert (tupleKey roles t) (rest.map (tupleKey roles)).toFinset \ seen.toFinset =
          (rest.map (tupleKey roles)).toFinset \ seen.toFinset :=
        Finset.insert_sdiff_of_mem _ (List.mem_toFinset.mpr known)
      rw [step, List.map_cons, List.toFinset_cons, keys, List.length_cons, List.length_cons,
        ← ih seen]
      omega
    · have step : repeats roles seen (t :: rest) =
          repeats roles (tupleKey roles t :: seen) rest := by simp [repeats, known]
      have keys : insert (tupleKey roles t) (rest.map (tupleKey roles)).toFinset \ seen.toFinset =
          insert (tupleKey roles t)
            ((rest.map (tupleKey roles)).toFinset \ (tupleKey roles t :: seen).toFinset) := by
        ext key
        by_cases same : key = tupleKey roles t
        · simp [same, known]
        · simp [same]
      have fresh : tupleKey roles t ∉
          (rest.map (tupleKey roles)).toFinset \ (tupleKey roles t :: seen).toFinset := by simp
      rw [step, List.map_cons, List.toFinset_cons, keys, Finset.card_insert_of_notMem fresh,
        List.length_cons, ← ih (tupleKey roles t :: seen)]
      omega

theorem length_absentFrom (values others : List Value) :
    (absentFrom values others).length =
      (encodings values).countP fun code => !(encodings others).contains code := by
  rw [absentFrom, ← List.countP_eq_length_filter, encodings.eq_def values, List.countP_map]
  rfl

theorem length_absentFrom_eq {others known : List Value}
    (values : (encodings vs).Perm (encodings ws))
    (same : ∀ code, code ∈ encodings others ↔ code ∈ encodings known) :
    (absentFrom vs others).length = (absentFrom ws known).length := by
  rw [length_absentFrom, length_absentFrom, values.countP_eq]
  refine List.countP_congr fun code _ => ?_
  simp [same code]

/-- How many of the bounds a count breaks. -/
def breaches (bounds : Bounds) (count : Nat) : Nat :=
  (boundViolations bounds count fun _ _ => violation .frequency "" "" [] []).length

theorem length_boundViolations (bounds : Bounds) (count : Nat) (make : Bool → Int → Violation) :
    (boundViolations bounds count make).length = breaches bounds count := by
  unfold breaches boundViolations
  cases bounds.min <;> cases bounds.max <;> simp only [List.length_append] <;>
    (repeat' split) <;> rfl

theorem perm_eraseDups {codes others : List String} (perm : codes.Perm others) :
    codes.eraseDups.Perm others.eraseDups := by
  refine (List.perm_ext_iff_of_nodup (nodup_eraseDups _) (nodup_eraseDups _)).mpr fun code => ?_
  rw [List.mem_eraseDups, List.mem_eraseDups, perm.mem_iff]

theorem perm_tally (perm : (encodings vs).Perm (encodings ws)) : (tally vs).Perm (tally ws) := by
  unfold tally
  have counts : (fun key => (key, (encodings vs).count key)) =
      fun key => (key, (encodings ws).count key) := funext fun key => by rw [perm.count_eq]
  dsimp only
  rw [counts]
  exact (perm_eraseDups perm).map _

theorem reachableCodes_eq (rearranged : p.Rearranged q) (predicators : List String) :
    reachableCodes s p predicators = reachableCodes s q predicators := by
  have filled : ∀ (f : FactType) (id : String),
      filledCodes ((p.tuples? f.id).getD []) id = filledCodes ((q.tuples? f.id).getD []) id := by
    intro f id
    ext code
    have perm := perm_encodings_roleValues (.of_rel_getD (rearranged.facts f.id)) id
    rw [← mem_encodings_roleValues, ← mem_encodings_roleValues, perm.mem_iff]
  simp only [reachableCodes, filled]

theorem length_setConstraint_le (s : Schema) (p : Population) (id : String) (c : SetConstraint) :
    (setConstraint s p id c).length ≤ 1 := by
  unfold setConstraint
  dsimp only
  split
  · exact Nat.zero_le 1
  · exact Nat.le_refl 1

/-! The checks, one by one -/

theorem length_uniqueness (rearranged : p.Rearranged q) (id : String) (c : UniqueConstraint) :
    (uniqueness s p id c).length = (uniqueness s q id c).length := by
  unfold uniqueness
  cases c.predicatorIds.head?.bind s.resolveRole? with
  | none => rfl
  | some found =>
    obtain ⟨role, f⟩ := found
    dsimp only
    have related := rearranged.facts f.id
    generalize p.tuples? f.id = ts, q.tuples? f.id = us at related ⊢
    cases related with
    | none => rfl
    | @some ts us reordered =>
      have here := length_repeats c.predicatorIds [] ts
      have there := length_repeats c.predicatorIds [] us
      rw [List.toFinset_eq_of_perm _ _ (perm_tupleKeys reordered _), reordered.length_eq,
        ← there] at here
      simpa using here

theorem length_totalRole (rearranged : p.Rearranged q) (id : String) (c : TotalRoleConstraint) :
    (totalRole s p id c).length = (totalRole s q id c).length := by
  unfold totalRole
  cases s.resolveRole? c.predicatorId with
  | none => rfl
  | some found =>
    obtain ⟨role, f⟩ := found
    dsimp only
    have held := rearranged.objects c.objectId
    have related := rearranged.facts f.id
    generalize p.instances? c.objectId = vs, q.instances? c.objectId = ws at held ⊢
    generalize p.tuples? f.id = ts, q.tuples? f.id = us at related ⊢
    cases held with
    | none => rfl
    | some instances =>
      cases related with
      | none => rfl
      | some tuples =>
        rw [List.length_map, List.length_map]
        exact length_absentFrom_eq (perm_encodings instances) fun code =>
          (perm_encodings_roleValues tuples c.predicatorId).mem_iff

/-- Which value is named may change, but not whether one is. -/
theorem length_setConstraint (rearranged : p.Rearranged q) (id : String) (c : SetConstraint) :
    (setConstraint s p id c).length = (setConstraint s q id c).length := by
  have verdict : setConstraint s p id c = [] ↔ setConstraint s q id c = [] := by
    rw [setConstraint_eq_nil_iff, setConstraint_eq_nil_iff]
    simp only [SetHolds, reachableCodes_eq rearranged]
  have here := length_setConstraint_le s p id c
  have there := length_setConstraint_le s q id c
  rw [← List.length_eq_zero_iff, ← List.length_eq_zero_iff] at verdict
  omega

theorem length_cardinality (rearranged : p.Rearranged q) (write : BoundWriting) (id : String)
    (c : CardinalityConstraint) :
    (cardinality write s p id c).length = (cardinality write s q id c).length := by
  unfold cardinality
  cases s.resolveRole? c.predicatorId with
  | none => rfl
  | some found =>
    obtain ⟨role, f⟩ := found
    dsimp only
    have related := rearranged.facts f.id
    generalize p.tuples? f.id = ts, q.tuples? f.id = us at related ⊢
    cases related with
    | none => rfl
    | some reordered =>
      simp only [List.length_flatMap, length_boundViolations]
      have perm := perm_tally (perm_encodings_roleValues reordered role.id)
      exact (perm.map fun pair => breaches c.bounds pair.2).sum_nat

theorem frequency_eq (rearranged : p.Rearranged q) (write : BoundWriting) (id : String)
    (c : FrequencyConstraint) : frequency write s p id c = frequency write s q id c := by
  have tuples := Reordered.of_rel_getD (rearranged.facts c.factTypeId)
  simp only [frequency, tuples.length_eq]

theorem length_enumeration (rearranged : p.Rearranged q) (id : String)
    (c : EnumerationConstraint) :
    (enumeration s p id c).length = (enumeration s q id c).length := by
  have instances := Reordered.of_rel_getD (rearranged.objects c.labelTypeId)
  unfold enumeration
  split
  · rw [List.length_map, List.length_map]
    exact length_absentFrom_eq (perm_encodings instances) fun _ => Iff.rfl
  · rfl

end Validation

namespace BuiltInConstraint

open Validation

variable {s : Schema} {p q : Population}

/-- A check finds as many violations as in the other order. -/
theorem length_check (rearranged : p.Rearranged q) (write : BoundWriting) (id : String)
    (c : BuiltInConstraint) : (c.check write s p id).length = (c.check write s q id).length := by
  cases c with
  | uniqueness c => exact length_uniqueness rearranged id c
  | totalRole c => exact length_totalRole rearranged id c
  | set c => exact length_setConstraint rearranged id c
  | cardinality c => exact length_cardinality rearranged write id c
  | frequency c => exact congrArg List.length (frequency_eq rearranged write id c)
  | enumeration c => exact length_enumeration rearranged id c

theorem constraintIds_check (write : BoundWriting) (s : Schema) (p : Population) (id : String)
    (c : BuiltInConstraint) :
    (c.check write s p id).map (·.constraintId) = List.replicate (c.check write s p id).length id :=
  List.map_eq_replicate_iff.mpr fun _ found => constraintId_of_mem_check found

end BuiltInConstraint

namespace Validation

variable {s : Schema} {p q : Population}

theorem constraintIds_builtIn (rearranged : p.Rearranged q) (write : BoundWriting) :
    (builtIn write s p).map (·.constraintId) = (builtIn write s q).map (·.constraintId) := by
  have same : ∀ (id : String) (c : BuiltInConstraint), (c.check write s p id).map
      (·.constraintId) = (c.check write s q id).map (·.constraintId) := by
    intro id c
    rw [c.constraintIds_check, c.constraintIds_check, c.length_check rearranged]
  simp only [builtIn, List.map_append, List.map_flatMap]
  have unique := fun id c => same id (.uniqueness c)
  have total := fun id c => same id (.totalRole c)
  have sets := fun id c => same id (.set c)
  have cardinal := fun id c => same id (.cardinality c)
  have frequent := fun id c => same id (.frequency c)
  have enumerated := fun id c => same id (.enumeration c)
  simp only [BuiltInConstraint.check] at unique total sets cardinal frequent enumerated
  simp only [unique, total, sets, cardinal, frequent, enumerated]

theorem isValid_iff_no_ids (p : Population) :
    (⟨builtIn .plain s p⟩ : ValidationReport).isValid =
      ((builtIn .plain s p).map (·.constraintId)).isEmpty := by
  have errors := severity_of_mem_builtIn .plain s p
  cases found : builtIn .plain s p with
  | nil => rfl
  | cons v rest =>
    have first := errors v (by rw [found]; exact List.mem_cons_self)
    simp [ValidationReport.isValid, first]

/-- The violations of each constraint are as many, and the verdict is the same. -/
theorem counts_of_rearranged (r : Registry) (plain : s.customConstraints = ∅)
    (rearranged : p.Rearranged q) :
    ∃ first second, validate r s p = .ok first ∧ validate r s q = .ok second ∧
      (∀ id, first.violations.countP (·.constraintId == id) =
        second.violations.countP (·.constraintId == id)) ∧
      first.isValid = second.isValid := by
  have ids := constraintIds_builtIn (s := s) rearranged .plain
  refine ⟨_, _, validate_of_no_custom r p plain, validate_of_no_custom r q plain, ?_, ?_⟩
  · intro id
    have counts := congrArg (List.count id) ids
    simpa only [List.count, List.countP_map, Function.comp_def] using counts
  · rw [isValid_iff_no_ids, isValid_iff_no_ids, ids]

/-- Cars that are all owned, by one owner each, in one tuple at most, and then covered as well; and
grades of two kinds. -/
def gradedCars : Schema :=
  { carOwners with
    labelTypes := .ofList [("grade", ⟨"grade", "Grade", .string, none, none, none, none⟩)]
    factTypes := carOwners.factTypes.insert "covers" ⟨"covers", "covers", ["covered"], false, none⟩
    predicators := carOwners.predicators.insert "covered"
      ⟨"covered", "covered", "covers", 0, "car", true⟩
    totalRoleConstraints := .ofList [("sold", ⟨"sold", "sold", "owned", "car"⟩)]
    setConstraints := .ofList [("safe", ⟨"safe", "safe", .subset, ["owned"], ["covered"]⟩)]
    cardinalityConstraints := .ofList [("few", ⟨"few", "few", "owned", ⟨none, some 1⟩⟩)]
    frequencyConstraints := .ofList [("rare", ⟨"rare", "rare", "owns", ⟨none, some 1⟩⟩)]
    enumerationConstraints := .ofList [("known", ⟨"known", "known", "grade", [.int 1, .int 2]⟩)] }

def fleet (grades cars : List Value) (owners covers : List Tuple) : Population :=
  ⟨none, .ofList [("grade", grades), ("car", cars)], .ofList [("owns", owners), ("covers", covers)]⟩

def ownedBy (owner car : Value) : Tuple := .ofList [("owner", owner), ("owned", car)]

theorem rel_find?_insert {α : Type} {R : α → α → Prop} {m n : OrderedMap α}
    (held : ∀ other, Option.Rel R (m.find? other) (n.find? other)) {a b : α} (related : R a b)
    (key other : String) :
    Option.Rel R ((m.insert key a).find? other) ((n.insert key b).find? other) := by
  rw [OrderedMap.find?_insert, OrderedMap.find?_insert]
  split
  · exact .some related
  · exact held other

theorem codes_ownedBy {owner another car other : Value} (owners : owner.encode = another.encode)
    (cars : car.encode = other.encode) :
    (ownedBy owner car).codes = (ownedBy another other).codes := by
  have distinct : ∀ a b : Value, ([("owner", a), ("owned", b)].map Prod.fst).Nodup := by simp
  funext role
  simp only [Tuple.codes, ownedBy, OrderedMap.find?_ofList (distinct _ _), lookup_pair_cons]
  split
  · exact congrArg some owners
  · split
    · exact congrArg some cars
    · rfl

/-- The car `1`, written as a float. -/
def firstCar : Value := .float ⟨0x3FF0000000000000⟩

theorem encode_firstCar : firstCar.encode = (Value.int 1).encode := by decide +kernel

def tenant : Value := .obj [("name", .str "a"), ("age", .int 1)]

/-- Keys in another order, and a float for an integer. -/
def sameTenant : Value := .obj [("age", firstCar), ("name", .str "a")]

theorem encode_tenant : tenant.encode = sameTenant.encode := by
  have whole : (⟨0x3FF0000000000000⟩ : Binary64).toInt? = some 1 := by decide +kernel
  simp [tenant, sameTenant, firstCar, Value.encode, Value.canonical, Value.canonicalFields, whole,
    Value.dump, Value.dumpFields, Value.sortPairs, List.mergeSort]

/-- Either tuple repeats the key of the other, `3` is not owned and `1` not covered, and `x` is no
grade: one violation of each constraint in both orders. -/
theorem counts_of_rearranged_gradedCars :
    let covers : List Tuple := [.ofList [("covered", .int 3)]]
    let first := fleet [.int 2, .str "x"] [.int 1, .int 3]
      [ownedBy tenant (.int 1), ownedBy (.str "b") firstCar] covers
    let second := fleet [.str "x", .int 2] [.int 3, firstCar]
      [ownedBy (.str "b") firstCar, ownedBy sameTenant firstCar] covers
    gradedCars.customConstraints = ∅ ∧ first.Rearranged second ∧
    ∃ here there, validate .standard gradedCars first = .ok here ∧
      validate .standard gradedCars second = .ok there ∧
      (∀ id ∈ ["one", "sold", "safe", "few", "rare", "known"],
        here.violations.countP (·.constraintId == id) = 1 ∧
          there.violations.countP (·.constraintId == id) = 1) ∧
      here.isValid = false ∧ there.isValid = false := by
  intro covers first second
  have sameOwner := codes_ownedBy encode_tenant encode_firstCar.symm
  have rearranged : first.Rearranged second :=
    { objects := rel_find?_insert (R := Reordered Value.encode)
        (rel_find?_insert (fun _ => .none) ⟨_, .swap _ _ _, .cons rfl (.cons rfl .nil)⟩ "grade")
        ⟨_, .swap _ _ _, .cons rfl (.cons encode_firstCar.symm .nil)⟩ "car"
      facts := rel_find?_insert (R := Reordered Tuple.codes)
        (rel_find?_insert (fun _ => .none)
          ⟨_, .swap _ _ _, .cons rfl (.cons sameOwner .nil)⟩ "owns")
        ⟨_, .refl _, .cons rfl .nil⟩ "covers" }
  obtain ⟨here, there, validated, revalidated, counts, verdict⟩ :=
    counts_of_rearranged .standard (s := gradedCars) rfl rearranged
  have found := validate_of_no_custom (s := gradedCars) .standard first rfl
  obtain rfl : _ = here := Except.ok.inj (found.symm.trans validated)
  have once : ∀ id ∈ ["one", "sold", "safe", "few", "rare", "known"],
      (builtIn .plain gradedCars first).countP (·.constraintId == id) = 1 := by decide +kernel
  have invalid : (⟨builtIn .plain gradedCars first⟩ : ValidationReport).isValid = false := by
    decide +kernel
  refine ⟨rfl, rearranged, _, there, found, revalidated, ?_, invalid, verdict.symm.trans invalid⟩
  exact fun id listed => ⟨once id listed, (counts id).symm.trans (once id listed)⟩

end Validation

end FactModel
