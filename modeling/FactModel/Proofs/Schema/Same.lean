import FactModel.Conversion
import FactModel.Proofs.Maps

/-!
Schemas that are the same up to the order of their elements: every lookup yields the same. What
is drawn on top of them is the same again.
-/

namespace FactModel

namespace OrderedMap

variable {α β : Type} {m n : OrderedMap α}

/-- Equal as maps. -/
def Same (m n : OrderedMap α) : Prop := ∀ key, m.find? key = n.find? key

theorem Same.refl (m : OrderedMap α) : m.Same m := fun _ => rfl

theorem Same.contains (same : m.Same n) (key : String) : m.contains key = n.contains key :=
  congrArg Option.isSome (same key)

theorem Same.insert (same : m.Same n) (key : String) (value : α) :
    (m.insert key value).Same (n.insert key value) := fun other => by
  rw [find?_insert, find?_insert, same]

theorem Same.mapValues (same : m.Same n) (f : String → α → β) :
    (m.mapValues f).Same (n.mapValues f) := fun other => by
  rw [find?_mapValues, find?_mapValues, same]

theorem Same.modify (same : m.Same n) (key : String) (f : α → α) :
    (m.modify key f).Same (n.modify key f) := same.mapValues _

end OrderedMap

namespace Schema

/-- Equal up to the order of elements. -/
structure Same (s t : Schema) : Prop where
  id : s.id = t.id
  name : s.name = t.name
  version : s.version = t.version
  entities : s.entities.Same t.entities
  labelTypes : s.labelTypes.Same t.labelTypes
  powerTypes : s.powerTypes.Same t.powerTypes
  sequenceTypes : s.sequenceTypes.Same t.sequenceTypes
  factTypes : s.factTypes.Same t.factTypes
  predicators : s.predicators.Same t.predicators
  uniqueConstraints : s.uniqueConstraints.Same t.uniqueConstraints
  totalRoleConstraints : s.totalRoleConstraints.Same t.totalRoleConstraints
  setConstraints : s.setConstraints.Same t.setConstraints
  cardinalityConstraints : s.cardinalityConstraints.Same t.cardinalityConstraints
  frequencyConstraints : s.frequencyConstraints.Same t.frequencyConstraints
  enumerationConstraints : s.enumerationConstraints.Same t.enumerationConstraints
  customConstraints : s.customConstraints.Same t.customConstraints

namespace Same

variable {s t : Schema}

theorem foldl {ι : Type} {f : Schema → ι → Schema}
    (step : ∀ {s t : Schema} i, s.Same t → (f s i).Same (f t i)) (same : s.Same t)
    (items : List ι) : (items.foldl f s).Same (items.foldl f t) := by
  induction items generalizing s t with
  | nil => exact same
  | cons i rest ih => exact ih (step i same)

theorem hasObject (same : s.Same t) (id : String) : s.hasObject id = t.hasObject id := by
  simp only [Schema.hasObject, same.entities.contains, same.labelTypes.contains,
    same.powerTypes.contains, same.sequenceTypes.contains]

/-! Identifiers -/

theorem owner? (same : s.Same t) (c : UniqueConstraint) : s.owner? c = t.owner? c := by
  unfold Schema.owner?
  simp only [same.entities.contains, same.predicators _]

theorem primaryIdentifier? (same : s.Same t) (e : Entity) :
    s.primaryIdentifier? e = t.primaryIdentifier? e := by
  have found : s.uniqueConstraints.find? = t.uniqueConstraints.find? :=
    funext same.uniqueConstraints
  rw [Schema.primaryIdentifier?, Schema.primaryIdentifier?, identifiersOf, identifiersOf, found]

theorem setPrimary (same : s.Same t) (key : String) (primary : Bool) :
    (s.setPrimary key primary).Same (t.setPrimary key primary) :=
  { same with uniqueConstraints := same.uniqueConstraints.modify _ _ }

theorem listIdentifier (same : s.Same t) (entity constraint : String) :
    (s.listIdentifier entity constraint).Same (t.listIdentifier entity constraint) :=
  { same with entities := same.entities.modify _ _ }

theorem demoteIdentifiers (same : s.Same t) (e : Entity) :
    (s.demoteIdentifiers e).Same (t.demoteIdentifiers e) :=
  foldl (fun id same => same.setPrimary id false) same e.identifiers

theorem attachIdentifier (same : s.Same t) (key : String) (primary : Option Bool) :
    (s.attachIdentifier key primary).1.Same (t.attachIdentifier key primary).1 := by
  unfold Schema.attachIdentifier
  rw [← same.uniqueConstraints key]
  split
  · exact same
  · rename_i c _
    rw [← same.owner? c]
    split
    · exact same
    · rename_i owner _
      have listed := same.listIdentifier owner c.id
      dsimp only
      rw [← listed.entities owner]
      split
      · exact listed
      · rename_i e _
        split
        · exact (listed.demoteIdentifiers e).setPrimary key true
        · exact listed
        · rw [← listed.primaryIdentifier? e]
          split
          · exact listed.setPrimary key true
          · exact listed

/-! What is drawn -/

theorem addSpecialization (same : s.Same t) (e : GraphEdge) :
    (s.addSpecialization e).Same (t.addSpecialization e) := by
  unfold Schema.addSpecialization
  split
  · exact { same with entities := same.entities.modify _ _ }
  · exact same

theorem addUnique (same : s.Same t) (a : GraphConstraint) :
    (s.addUnique a).Same (t.addUnique a) := by
  unfold Schema.addUnique
  split
  · exact same
  · refine attachIdentifier ?_ a.id a.isPrimary
    exact { same with uniqueConstraints := same.uniqueConstraints.insert _ _ }

theorem addMandatory (same : s.Same t) (a : GraphConstraint) :
    (s.addMandatory a).Same (t.addMandatory a) := by
  have role : s.mandatoryRole? a = t.mandatoryRole? a := by
    unfold Schema.mandatoryRole?
    simp only [same.predicators _]
  unfold Schema.addMandatory
  rw [← role]
  split
  · exact { same with
      predicators := same.predicators.modify _ _
      totalRoleConstraints := same.totalRoleConstraints.insert _ _ }
  · exact same

theorem addConstraint (same : s.Same t) (a : GraphConstraint) :
    (s.addConstraint a).Same (t.addConstraint a) := by
  unfold Schema.addConstraint
  split
  · exact same.addUnique a
  split
  · exact same.addMandatory a
  split
  · exact { same with setConstraints := same.setConstraints.insert _ _ }
  · exact same
  split
  · exact { same with frequencyConstraints := same.frequencyConstraints.insert _ _ }
  split
  · exact { same with enumerationConstraints := same.enumerationConstraints.insert _ _ }
  split
  · exact { same with cardinalityConstraints := same.cardinalityConstraints.insert _ _ }
  split
  · exact { same with cardinalityConstraints := same.cardinalityConstraints.insert _ _ }
  split
  · exact { same with customConstraints := same.customConstraints.insert _ _ }
  · exact same

end Same

end Schema

end FactModel
