import FactModel.Proofs.Builder.KeyedRuns
import FactModel.Proofs.Schema.Identification

/-!
Fact types list each of their roles once and entities each of their identifiers once, whatever is
requested of a builder.
-/

namespace FactModel

namespace Schema

structure Tidy (s : Schema) : Prop where
  roles : ∀ id f, s.factTypes.find? id = some f → f.predicators.Nodup
  identifiers : ∀ id e, s.entities.find? id = some e → e.identifiers.Nodup

variable {s t : Schema}

theorem entities_attachIdentifier (s : Schema) (key : String) (primary : Option Bool) :
    (s.attachIdentifier key primary).1.entities = s.entities ∨
    ∃ owner c, s.uniqueConstraints.find? key = some c ∧
      (s.attachIdentifier key primary).1.entities = (s.listIdentifier owner c.id).entities := by
  unfold attachIdentifier
  split
  · exact .inl rfl
  · rename_i c held
    split
    · exact .inl rfl
    · rename_i owner _
      right
      refine ⟨owner, c, held, ?_⟩
      dsimp only
      split
      · rfl
      · rename_i e _
        split
        · rw [demoteIdentifiers_eq]
          rfl
        · rfl
        · split <;> rfl

namespace Tidy

theorem of_empty (id name version : String) :
    Tidy { id := id, name := name, version := version } where
  roles _ _ found := nomatch found
  identifiers _ _ found := nomatch found

theorem of_same (tidy : s.Tidy) (facts : t.factTypes = s.factTypes)
    (entities : t.entities = s.entities) : t.Tidy :=
  ⟨facts ▸ tidy.roles, entities ▸ tidy.identifiers⟩

theorem insertEntity (tidy : s.Tidy) (id : String) {e : Entity} (distinct : e.identifiers.Nodup) :
    Tidy { s with entities := s.entities.insert id e } where
  roles := tidy.roles
  identifiers other d found := by
    rcases OrderedMap.find?_insert_eq_some.mp found with ⟨_, rfl⟩ | ⟨_, old⟩
    · exact distinct
    · exact tidy.identifiers other d old

theorem mapEntities (tidy : s.Tidy) {change : String → Entity → Entity}
    (kept : ∀ id e, e.identifiers.Nodup → (change id e).identifiers.Nodup) :
    Tidy { s with entities := s.entities.mapValues change } where
  roles := tidy.roles
  identifiers id d found := by
    rw [OrderedMap.find?_mapValues] at found
    obtain ⟨e, old, rfl⟩ := Option.map_eq_some_iff.mp found
    exact kept id e (tidy.identifiers id e old)

theorem listIdentifier (tidy : s.Tidy) (owner constraint : String) :
    (s.listIdentifier owner constraint).Tidy := by
  refine tidy.mapEntities fun id e distinct => ?_
  by_cases owns : id = owner
  · by_cases listed : e.identifiers.contains constraint = true
    · simpa only [owns, listed, if_true] using distinct
    · have fresh : constraint ∉ e.identifiers := by simpa using listed
      simp only [owns, listed, if_true]
      rw [if_neg Bool.false_ne_true, List.nodup_append]
      refine ⟨distinct, List.nodup_singleton _, fun held old constraint' new => ?_⟩
      rw [List.mem_singleton.mp new]
      exact fun same => fresh (same ▸ old)
  · simpa only [owns, if_false] using distinct

theorem attachIdentifier (tidy : s.Tidy) (key : String) (primary : Option Bool) :
    (s.attachIdentifier key primary).1.Tidy := by
  have facts := (Relinked.attachIdentifier s key primary).factTypes
  rcases entities_attachIdentifier s key primary with same | ⟨owner, c, _, listed⟩
  · exact tidy.of_same facts same
  · exact (tidy.listIdentifier owner c.id).of_same facts listed

theorem unlistIdentifier (tidy : s.Tidy) (id : String) : (s.unlistIdentifier id).Tidy :=
  tidy.mapEntities fun _ _ distinct => distinct.erase id

theorem putRoles (tidy : s.Tidy) (roles : List Predicator) : (s.putRoles roles).Tidy := by
  rw [putRoles_eq]
  exact tidy.of_same rfl rfl

theorem addFactType (tidy : s.Tidy) (id name : String) {roles : List Predicator}
    (distinct : (roles.map (·.id)).Nodup) :
    Tidy { s.putRoles roles with
      factTypes := s.factTypes.insert id ⟨id, name, roles.map (·.id), false, none⟩ } where
  roles other f found := by
    rcases OrderedMap.find?_insert_eq_some.mp found with ⟨_, rfl⟩ | ⟨_, old⟩
    · exact distinct
    · exact tidy.roles other f old
  identifiers := (tidy.putRoles roles).identifiers

theorem objectifyAs (tidy : s.Tidy) (factType : String) {e : Entity}
    (distinct : e.identifiers.Nodup) : (s.objectifyAs factType e).Tidy where
  roles id f found := by
    have same := OrderedMap.map_find?_modify (g := FactType.predicators) s.factTypes factType id
      (f := fun f => { f with isObjectified := true, objectifiedAsId := some e.id }) fun _ => rfl
    obtain ⟨g, old, equal⟩ := Option.map_eq_some_iff.mp
      (same.symm.trans (congrArg (Option.map FactType.predicators) found))
    rw [← equal]
    exact tidy.roles id g old
  identifiers := (tidy.insertEntity e.id (e := { e with objectifiedFactTypeId := some factType })
    distinct).identifiers

theorem withoutObject (tidy : s.Tidy) (id : String) : (s.withoutObject id).Tidy := by
  constructor
  · intro key f found
    rw [Schema.withoutObject, find?_dropRoles] at found
    obtain ⟨g, old, rfl⟩ := Option.map_eq_some_iff.mp found
    exact (tidy.roles key g old).diff
  · intro key e found
    obtain ⟨_, _, same⟩ := dropRoles_eq (s.eraseObject id) (s.played id)
    rw [Schema.withoutObject, same] at found
    obtain ⟨_, old⟩ := OrderedMap.find?_erase_eq_some.mp found
    exact tidy.identifiers key e old

theorem eraseFactType (tidy : s.Tidy) (id : String) (f : FactType) :
    (s.eraseFactType id f).Tidy := by
  constructor
  · intro key g found
    obtain ⟨_, old⟩ := OrderedMap.find?_erase_eq_some.mp found
    exact tidy.roles key g old
  · refine (tidy.mapEntities fun _ e distinct => ?_).identifiers
    split
    · exact distinct
    · exact distinct

theorem relaxRole (tidy : s.Tidy) (id : String) : (s.relaxRole id).Tidy := by
  unfold Schema.relaxRole
  split
  · exact tidy
  · exact tidy.of_same rfl rfl

theorem withoutConstraint (tidy : s.Tidy) (id : String) (category : ConstraintCategory) :
    (s.withoutConstraint id category).Tidy := by
  have erased : (s.eraseConstraint id category).Tidy := by
    cases category <;> exact tidy.of_same rfl rfl
  have unlisted := erased.unlistIdentifier id
  unfold Schema.withoutConstraint
  split
  · exact unlisted.relaxRole _
  · exact unlisted

end Tidy

end Schema

open Schema

variable {s t : Schema} {given : Option (Reading String)}

theorem Change.tidy (change : Change given s t) (tidy : s.Tidy) : t.Tidy := by
  cases change with
  | entity id => exact tidy.insertEntity id List.nodup_nil
  | factType id name ids objects roles picked found new =>
    exact tidy.addFactType id name new.distinct
  | specialization child parent e parents found =>
    exact tidy.insertEntity child (tidy.identifiers child e found)
  | objectification factType => exact tidy.objectifyAs factType List.nodup_nil
  | uniqueness c primary =>
    have added : Tidy { s with uniqueConstraints := s.uniqueConstraints.insert c.id c } :=
      tidy.of_same rfl rfl
    exact added.attachIdentifier c.id primary
  | objectRemoval id => exact tidy.withoutObject id
  | factTypeRemoval id f => exact tidy.eraseFactType id f
  | constraintRemoval id category => exact tidy.withoutConstraint id category
  | _ => exact tidy.of_same rfl rfl

theorem Operation.Failure.tidy {f : Fields} {op : Operation} {error : BuilderError}
    (failure : op.Failure f s error t) (tidy : s.Tidy) : t.Tidy := by
  cases failure with
  | unchanged => exact tidy
  | roles halted =>
    obtain ⟨_, _, _, roles⟩ := halted
    exact tidy.putRoles roles
  | mandatory => exact tidy.of_same rfl rfl

theorem Schema.Tidy.run {b after : Builder} {name : String} {f : Fields}
    {outcome : Except BuilderError Value} (tidy : b.schema.Tidy) (keyed : b.schema.Keyed)
    (run : b.run name f = (outcome, after)) : after.schema.Tidy := by
  cases outcome with
  | ok v => exact (Builder.change_of_run keyed.predicators run).tidy tidy
  | error error =>
    rcases Builder.failure_of_run keyed.predicators run with same | ⟨op, _, _, failure⟩
    · exact same ▸ tidy
    · exact failure.tidy tidy

theorem Builder.tidy_of_reached {b after : Builder} {id name version : String}
    (start : b.schema = { id := id, name := name, version := version })
    (reached : b.Reached after) : after.schema.Tidy := by
  induction reached with
  | start =>
    rw [start]
    exact .of_empty id name version
  | request before run ih => exact ih.run (keyed_of_reached start before) run

end FactModel
