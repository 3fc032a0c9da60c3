import FactModel.Proofs.Document.Elements

/-!
A schema is read as it was written, mapping by mapping.
-/

namespace FactModel

open Value

namespace Schema

/-- A schema whose label types and set constraints hold what they are declared to hold. -/
structure Typed (s : Schema) : Prop where
  labelTypes : ∀ l ∈ s.labelTypes.values, l.Typed
  setConstraints : ∀ c ∈ s.setConstraints.values, ∀ name, c.kind ≠ .other name

variable {s : Schema}

/-- What a mapping of a schema holds is part of its document. -/
theorem keysApart_of_mapping {name : String} {α : Type} {m : OrderedMap α} {write : α → Value}
    (apart : s.toValue.KeysApart)
    (mapping : (name, (m.mapValues fun _ a => write a).entries) ∈ s.mappings) :
    ∀ a ∈ m.values, (write a).KeysApart := by
  intro a member
  obtain ⟨⟨key, _⟩, held, rfl⟩ := List.mem_map.mp member
  have outer : (obj (m.mapValues fun _ a => write a).entries).KeysApart :=
    apart.field (List.mem_append_right _ (List.mem_map.mpr ⟨_, mapping, rfl⟩))
  exact outer.field (List.mem_map.mpr ⟨_, held, rfl⟩)

theorem read_toValue (typed : s.Typed) (apart : s.toValue.KeysApart) :
    Schema.read s.toValue = .ok s := by
  have labelsApart : ∀ l ∈ s.labelTypes.values, l.toValue.KeysApart :=
    keysApart_of_mapping apart (show ("label_types", _) ∈ _ by simp [mappings])
  have enumerationsApart : ∀ c ∈ s.enumerationConstraints.values, c.toValue.KeysApart :=
    keysApart_of_mapping apart (show ("enumeration_constraints", _) ∈ _ by simp [mappings])
  have customsApart : ∀ c ∈ s.customConstraints.values, c.toValue.KeysApart :=
    keysApart_of_mapping apart (show ("custom_constraints", _) ∈ _ by simp [mappings])
  have labels := readMap_mapValues (m := s.labelTypes) fun l member =>
    LabelType.read_toValue (typed.labelTypes l member) (labelsApart l member)
  have sets := readMap_mapValues (m := s.setConstraints) fun c member =>
    SetConstraint.read_toValue (typed.setConstraints c member)
  have enumerations := readMap_mapValues (m := s.enumerationConstraints) fun c member =>
    EnumerationConstraint.read_toValue (enumerationsApart c member)
  have customs := readMap_mapValues (m := s.customConstraints) fun c member =>
    CustomConstraint.read_toValue (customsApart c member)
  have entities := readMap_mapValues (m := s.entities) fun e _ => Entity.read_toValue e
  have powers := readMap_mapValues (m := s.powerTypes) fun p _ => PowerType.read_toValue p
  have sequences := readMap_mapValues (m := s.sequenceTypes) fun q _ => SequenceType.read_toValue q
  have factTypes := readMap_mapValues (m := s.factTypes) fun f _ => FactType.read_toValue f
  have predicators := readMap_mapValues (m := s.predicators) fun p _ => Predicator.read_toValue p
  have uniques := readMap_mapValues (m := s.uniqueConstraints) fun c _ =>
    UniqueConstraint.read_toValue c
  have totals := readMap_mapValues (m := s.totalRoleConstraints) fun c _ =>
    TotalRoleConstraint.read_toValue c
  have cardinalities := readMap_mapValues (m := s.cardinalityConstraints) fun c _ =>
    CardinalityConstraint.read_toValue c
  have frequencies := readMap_mapValues (m := s.frequencyConstraints) fun c _ =>
    FrequencyConstraint.read_toValue c
  simp [read, toValue, header, mappings, lookup_pair_cons, labels, sets, enumerations, customs,
    entities, powers, sequences, factTypes, predicators, uniques, totals, cardinalities,
    frequencies]

end Schema

end FactModel
