import FactModel.Proofs.Builder.Requests

/-!
Every mapping stays keyed by the ids of its elements, whatever is requested of a builder.
-/

namespace FactModel

namespace Schema

variable {s : Schema}

theorem Relinked.unlistIdentifier (s : Schema) (id : String) :
    s.Relinked (s.unlistIdentifier id) := of_entities s fun _ _ => rfl

namespace Keyed

theorem putRoles (keyed : s.Keyed) (roles : List Predicator) : (s.putRoles roles).Keyed := by
  rw [putRoles_eq]
  have predicators := keyed_putRoles keyed.predicators roles
  rw [putRoles_eq] at predicators
  exact { keyed with predicators }

theorem relaxRole (keyed : s.Keyed) (id : String) : (s.relaxRole id).Keyed := by
  unfold Schema.relaxRole
  split
  · exact keyed
  · exact { keyed with predicators := keyed.predicators.modify id fun _ => rfl }

theorem eraseObject (keyed : s.Keyed) (id : String) : (s.eraseObject id).Keyed :=
  { keyed with
    entities := keyed.entities.erase id
    labelTypes := keyed.labelTypes.erase id
    powerTypes := keyed.powerTypes.erase id
    sequenceTypes := keyed.sequenceTypes.erase id }

theorem dropRole (keyed : s.Keyed) (r : Predicator) : (s.dropRole r).Keyed := by
  have erased : Keyed { s with predicators := s.predicators.erase r.id } :=
    { keyed with predicators := keyed.predicators.erase r.id }
  rw [Schema.dropRole]
  rcases unlistRole_cases { s with predicators := s.predicators.erase r.id } r with
    ⟨f, found, _, dropped⟩ | dropped
  · have same := keyed.factTypes.id_of_find? found
    rw [dropped, ← same]
    exact { erased with
      factTypes := keyed.factTypes.insert { f with predicators := f.predicators.erase r.id }
      predicators := keyed_placeFrom erased.predicators _ 0 }
  · rw [dropped]
    exact erased

theorem dropRoles (keyed : s.Keyed) (roles : List Predicator) : (s.dropRoles roles).Keyed := by
  induction roles generalizing s with
  | nil => exact keyed
  | cons r rest ih => exact ih (keyed.dropRole r)

theorem eraseFactType (keyed : s.Keyed) (id : String) (f : FactType) :
    (s.eraseFactType id f).Keyed := by
  have predicators := keyed.predicators.foldl_erase f.predicators
  refine { keyed with factTypes := keyed.factTypes.erase id, predicators, entities := ?_ }
  refine keyed.entities.mapValues fun key e => ?_
  split <;> rfl

theorem eraseConstraint (keyed : s.Keyed) (id : String) (category : ConstraintCategory) :
    (s.eraseConstraint id category).Keyed := by
  cases category with
  | uniqueness =>
    exact { keyed with uniqueConstraints := keyed.uniqueConstraints.erase id }
  | totalRole =>
    exact { keyed with totalRoleConstraints := keyed.totalRoleConstraints.erase id }
  | set => exact { keyed with setConstraints := keyed.setConstraints.erase id }
  | cardinality =>
    exact { keyed with cardinalityConstraints := keyed.cardinalityConstraints.erase id }
  | frequency =>
    exact { keyed with frequencyConstraints := keyed.frequencyConstraints.erase id }
  | enumeration =>
    exact { keyed with enumerationConstraints := keyed.enumerationConstraints.erase id }
  | custom => exact { keyed with customConstraints := keyed.customConstraints.erase id }

theorem withoutConstraint (keyed : s.Keyed) (id : String) (category : ConstraintCategory) :
    (s.withoutConstraint id category).Keyed := by
  have erased := keyed.eraseConstraint id category
  have unlisted := (Relinked.unlistIdentifier _ id).keyed erased
  unfold Schema.withoutConstraint
  split
  · exact unlisted.relaxRole _
  · exact unlisted

end Keyed

end Schema

open Schema

variable {s t : Schema} {given : Option (Reading String)}

theorem Change.keyed (change : Change given s t) (keyed : s.Keyed) : t.Keyed := by
  cases change with
  | nothing => exact keyed
  | entity id name =>
    exact { keyed with entities := keyed.entities.insert ⟨id, name, [], [], none, false⟩ }
  | labelType l => exact { keyed with labelTypes := keyed.labelTypes.insert l }
  | powerType p => exact { keyed with powerTypes := keyed.powerTypes.insert p }
  | sequenceType q => exact { keyed with sequenceTypes := keyed.sequenceTypes.insert q }
  | factType id name ids objects roles picked found new =>
    exact { keyed.putRoles roles with
      factTypes := keyed.factTypes.insert ⟨id, name, roles.map (·.id), false, none⟩ }
  | specialization child parent e parents found =>
    obtain rfl := keyed.entities.id_of_find? found
    exact { keyed with entities := keyed.entities.insert { e with specializationOf := parents } }
  | objectification factType id name =>
    exact { keyed with
      entities := keyed.entities.insert ⟨id, name, [], [], some factType, false⟩
      factTypes := keyed.factTypes.modify factType fun _ => rfl }
  | uniqueness c primary =>
    refine (Relinked.attachIdentifier _ c.id primary).keyed ?_
    exact { keyed with uniqueConstraints := keyed.uniqueConstraints.insert c }
  | totalRole c =>
    exact { keyed with
      predicators := keyed.predicators.modify _ fun _ => rfl
      totalRoleConstraints := keyed.totalRoleConstraints.insert c }
  | set c => exact { keyed with setConstraints := keyed.setConstraints.insert c }
  | cardinality c =>
    exact { keyed with cardinalityConstraints := keyed.cardinalityConstraints.insert c }
  | frequency c =>
    exact { keyed with frequencyConstraints := keyed.frequencyConstraints.insert c }
  | enumeration c =>
    exact { keyed with enumerationConstraints := keyed.enumerationConstraints.insert c }
  | custom c => exact { keyed with customConstraints := keyed.customConstraints.insert c }
  | objectRemoval id => exact (keyed.eraseObject id).dropRoles _
  | factTypeRemoval id f => exact keyed.eraseFactType id f
  | constraintRemoval id category => exact keyed.withoutConstraint id category

theorem Operation.Failure.keyed {f : Fields} {op : Operation} {error : BuilderError}
    (failure : op.Failure f s error t) (keyed : s.Keyed) : t.Keyed := by
  cases failure with
  | unchanged => exact keyed
  | roles halted =>
    obtain ⟨_, _, _, roles⟩ := halted
    exact keyed.putRoles roles
  | mandatory id =>
    exact { keyed with predicators := keyed.predicators.modify id fun _ => rfl }

theorem Schema.Keyed.run {b after : Builder} {name : String} {f : Fields}
    {outcome : Except BuilderError Value} (keyed : b.schema.Keyed)
    (run : b.run name f = (outcome, after)) : after.schema.Keyed := by
  cases outcome with
  | ok v => exact (Builder.change_of_run keyed.predicators run).keyed keyed
  | error error =>
    rcases Builder.failure_of_run keyed.predicators run with same | ⟨op, _, _, failure⟩
    · exact same ▸ keyed
    · exact failure.keyed keyed

namespace Builder

/-- Requests one after the other, whether they succeed or fail. -/
inductive Reached (b : Builder) : Builder → Prop
  | start : Reached b b
  | request {before after : Builder} {name : String} {f : Fields}
      {outcome : Except BuilderError Value} (reached : Reached b before)
      (run : before.run name f = (outcome, after)) : Reached b after

theorem keyed_of_reached {b after : Builder} {id name version : String}
    (start : b.schema = { id := id, name := name, version := version })
    (reached : b.Reached after) : after.schema.Keyed := by
  induction reached with
  | start =>
    rw [start]
    exact .of_empty id name version
  | request _ run ih => exact ih.run run

/-- The builder after some requests, each a name with its arguments. -/
def runAll (b : Builder) (requests : List (String × Fields)) : Builder :=
  requests.foldl (fun b request => (b.run request.1 request.2).2) b

theorem Reached.runAll {b before : Builder} (reached : b.Reached before)
    (requests : List (String × Fields)) : b.Reached (before.runAll requests) := by
  induction requests generalizing before with
  | nil => exact reached
  | cons request rest ih => exact ih (reached.request rfl)

end Builder

end FactModel
