import FactModel.Integrity
import FactModel.Proofs.Maps

/-!
Schemas whose mappings are keyed by the ids of their elements, and what a lookup by id yields in
them.
-/

namespace FactModel

namespace Schema

/-- Every mapping is keyed by the ids of its elements. -/
structure Keyed (s : Schema) : Prop where
  entities : s.entities.KeyedBy Entity.id
  labelTypes : s.labelTypes.KeyedBy LabelType.id
  powerTypes : s.powerTypes.KeyedBy PowerType.id
  sequenceTypes : s.sequenceTypes.KeyedBy SequenceType.id
  factTypes : s.factTypes.KeyedBy FactType.id
  predicators : s.predicators.KeyedBy Predicator.id
  uniqueConstraints : s.uniqueConstraints.KeyedBy UniqueConstraint.id
  totalRoleConstraints : s.totalRoleConstraints.KeyedBy TotalRoleConstraint.id
  setConstraints : s.setConstraints.KeyedBy SetConstraint.id
  cardinalityConstraints : s.cardinalityConstraints.KeyedBy CardinalityConstraint.id
  frequencyConstraints : s.frequencyConstraints.KeyedBy FrequencyConstraint.id
  enumerationConstraints : s.enumerationConstraints.KeyedBy EnumerationConstraint.id
  customConstraints : s.customConstraints.KeyedBy CustomConstraint.id

/-- No id stands for an entity and for a fact type. -/
def TableIdsApart (s : Schema) : Prop := ∀ id ∈ s.entities.keys, id ∉ s.factTypes.keys

instance (s : Schema) : Decidable s.TableIdsApart :=
  inferInstanceAs (Decidable (∀ id ∈ s.entities.keys, id ∉ s.factTypes.keys))

variable {s : Schema}

theorem object?_eq_some (id : String) (o : ObjectType) (found : s.object? id = some o) :
    (∃ e, s.entities.find? id = some e ∧ o = .entity e) ∨
    s.entities.find? id = none ∧ ∀ e, o ≠ .entity e := by
  unfold object? at found
  cases entity : s.entities.find? id with
  | some e =>
    simp only [entity, Option.map_some, Option.orElse_some, Option.some.injEq] at found
    exact .inl ⟨e, rfl, found.symm⟩
  | none =>
    refine .inr ⟨rfl, ?_⟩
    rintro e rfl
    cases label : s.labelTypes.find? id <;> cases power : s.powerTypes.find? id <;>
      cases sequence : s.sequenceTypes.find? id <;>
      simp [Option.orElse, entity, label, power, sequence] at found

theorem object?_isSome_iff (id : String) : (s.object? id).isSome = s.hasObject id := by
  unfold object? hasObject OrderedMap.contains
  cases s.entities.find? id <;> cases s.labelTypes.find? id <;> cases s.powerTypes.find? id <;>
    cases s.sequenceTypes.find? id <;> rfl

theorem entity_of_object? (keyed : s.Keyed) {id : String} {e : Entity}
    (found : s.object? id = some (.entity e)) : e ∈ s.entities.values ∧ e.id = id := by
  rcases object?_eq_some id _ found with ⟨e', entity, same⟩ | ⟨_, other⟩
  · cases same
    exact ⟨OrderedMap.mem_values_of_find? entity, keyed.entities.id_of_find? entity⟩
  · exact absurd rfl (other e)

theorem mem_roles_iff (f : FactType) (r : Predicator) :
    r ∈ s.roles f ↔ ∃ id ∈ f.predicators, s.predicators.find? id = some r := List.mem_filterMap

theorem Keyed.id_mem_predicators (keyed : s.Keyed) {f : FactType} {r : Predicator}
    (member : r ∈ s.roles f) : r.id ∈ f.predicators ∧ s.predicators.find? r.id = some r := by
  obtain ⟨id, listed, found⟩ := (mem_roles_iff f r).mp member
  rw [keyed.predicators.id_of_find? found]
  exact ⟨listed, found⟩

theorem mem_keys_of_factType (keyed : s.Keyed) {f : FactType} (member : f ∈ s.factTypes.values) :
    f.id ∈ s.factTypes.keys := OrderedMap.mem_keys_of_find? (keyed.factTypes.find?_id member)

theorem mem_keys_of_entity (keyed : s.Keyed) {e : Entity} (member : e ∈ s.entities.values) :
    e.id ∈ s.entities.keys := OrderedMap.mem_keys_of_find? (keyed.entities.find?_id member)

theorem resolved_of_issues_eq_nil (clean : s.issues = []) {r : Predicator}
    (member : r ∈ s.predicators.values) : (s.object? r.objectId).isSome = true := by
  obtain ⟨pair, held, rfl⟩ := List.mem_map.mp member
  simp only [issues, List.append_eq_nil_iff, List.flatMap_eq_nil_iff] at clean
  have silent := clean.1.1.1.1 pair held
  rw [object?_isSome_iff]
  unfold predicatorIssues at silent
  split at silent
  · assumption
  · cases silent

end Schema

end FactModel
