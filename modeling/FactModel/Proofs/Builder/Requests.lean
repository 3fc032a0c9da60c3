import FactModel.Builder.Assigned
import FactModel.Proofs.Builder.Changes

/-!
Requests to a builder: one that succeeds changes the schema as its operation does, and one that
fails leaves it alone, but for roles that were made before the failure.
-/

namespace FactModel

open Schema

namespace Operation

/-- The objects that play the roles of a new fact type. -/
def players (f : Fields) : Operation → List GivenId
  | addFactType => ((f.get "object_ids").members?.getD []).map GivenId.ofValue
  | addUnaryFactType => [f.id "object_id"]
  | addBinaryFactType => [f.id "first_object_id", f.id "second_object_id"]
  | _ => []

def roleNames (f : Fields) : Operation → RoleWishes String
  | addFactType => f.wishes "role_names" Value.readText
  | addUnaryFactType => .ofList [(f.get "name").readText]
  | addBinaryFactType =>
    .ofList [f.textOr "first_role" "source", f.textOr "second_role" "target"]
  | _ => .none

def roleOptions (f : Fields) : Operation → RoleWishes Bool
  | addFactType => f.wishes "optional" Value.readBool
  | _ => .none

/-- The category of the constraints that an operation adds. -/
def adds? : Operation → Option ConstraintCategory
  | addUnique => some .uniqueness
  | addMandatory => some .totalRole
  | addSetConstraint => some .set
  | addCardinality => some .cardinality
  | addFrequency => some .frequency
  | addEnumeration => some .enumeration
  | addCustom => some .custom
  | _ => none

/-- What is left of a schema when an operation fails. -/
inductive Failure (f : Fields) (op : Operation) (s : Schema) (error : BuilderError) :
    Schema → Prop
  | unchanged : Failure f op s error s
  | roles {t : Schema}
      (halted : Halted (op.roleNames f) (op.roleOptions f) (op.players f) s error t) :
      Failure f op s error t
  | mandatory (id : String) (ps : List Problem) (operation : op = addMandatory)
      (badName : f.given? "name" = some (.bad ps)) :
      Failure f op s error
        { s with predicators := s.predicators.modify id fun r => { r with isOptional := false } }

/-- What is new among the roles and fact types of a schema after an operation: roles that are
optional as wished, and fact types with given ids or with numbers. -/
structure Brings (f : Fields) (op : Operation) (s t : Schema) : Prop where
  roles : ∀ key r, t.predicators.find? key = some r →
    key ∈ s.predicators.keys ∨ OptedBy (op.roleOptions f) r
  factTypes : ∀ key ∈ t.factTypes.keys, key ∈ s.factTypes.keys ∨
    (op = addFactType ∧ f.given? "id" = some (.ok key)) ∨ ∃ n, key = Edit.numbered "fact" n

namespace Brings

variable {f : Fields} {op : Operation} {s t : Schema}

theorem of_subset (roles : t.predicators.keys ⊆ s.predicators.keys)
    (factTypes : t.factTypes.keys ⊆ s.factTypes.keys) : op.Brings f s t :=
  ⟨fun _ _ found => .inl (roles (OrderedMap.mem_keys_of_find? found)),
    fun _ held => .inl (factTypes held)⟩

theorem of_keys (roles : t.predicators.keys = s.predicators.keys)
    (factTypes : t.factTypes.keys = s.factTypes.keys) : op.Brings f s t :=
  of_subset (roles ▸ List.Subset.refl _) (factTypes ▸ List.Subset.refl _)

theorem of_same (roles : t.predicators = s.predicators) (factTypes : t.factTypes = s.factTypes) :
    op.Brings f s t := of_keys (congrArg _ roles) (congrArg _ factTypes)

theorem of_added {given : Option (Reading String)} {primary : Option Bool}
    {category : ConstraintCategory} {id : String} (added : Added given primary s category id t) :
    op.Brings f s t := by
  cases added with
  | uniqueness c =>
    have relinked := Relinked.attachIdentifier
      { s with uniqueConstraints := s.uniqueConstraints.insert c.id c } c.id primary
    exact .of_same relinked.predicators relinked.factTypes
  | totalRole c => exact .of_keys (OrderedMap.keys_modify ..) rfl
  | _ => exact .of_same rfl rfl

theorem withoutObject (s : Schema) (id : String) : op.Brings f s (s.withoutObject id) :=
  of_subset (predicators_withoutObject s id) (factTypes_withoutObject s id)

theorem eraseFactType (s : Schema) (id : String) (g : FactType) :
    op.Brings f s (s.eraseFactType id g) :=
  of_subset (predicators_eraseFactType s id g) (OrderedMap.keys_erase_subset ..)

theorem withoutConstraint (s : Schema) (id : String) (category : ConstraintCategory) :
    op.Brings f s (s.withoutConstraint id category) := by
  refine of_keys (keys_withoutConstraint s id category) ?_
  obtain ⟨_, _, eq⟩ := withoutConstraint_eq s id category
  rw [eq]
  cases category <;> rfl

end Brings

end Operation

namespace Builder

open Edit Operation

variable {s : Schema} {f : Fields}

theorem yields_givenIds {v : Except ArgumentError (List Value)}
    {done : List GivenId → Schema → Prop} {failed : BuilderError → Schema → Prop}
    (read : ∀ items, v = .ok items → done (items.map GivenId.ofValue) s)
    (bad : ∀ error, failed error s) : (givenIds v).Yields s done failed :=
  yields_bind (yields_argument (fun items here => yields_pure (read items here)) fun _ _ => bad _)

theorem members_of_iterated {v : Value} {items : List Value} (read : v.iterated = .ok items) :
    v.members? = some items := by
  unfold Value.iterated at read
  cases members : v.members? with
  | some found =>
    rw [members] at read
    cases read
    rfl
  | none =>
    rw [members] at read
    cases read

/-- The operations that add fact types differ in where the roles and the id are taken from. -/
theorem yields_factType {op : Operation} {ids : List GivenId} {name : Option (Reading String)}
    {names : RoleWishes String} {optional : RoleWishes Bool} {id : Option (Reading String)}
    (players : ids = op.players f) (roleNames : names = op.roleNames f)
    (roleOptions : optional = op.roleOptions f)
    (picks : ∀ key, Picked id s key → Picked (f.given? "id") s key)
    (numbers : ∀ key, GivenOrNumbered id "fact" key →
      (op = .addFactType ∧ f.given? "id" = some (.ok key)) ∨ ∃ n, key = numbered "fact" n) :
    (addFactType ids name names optional id >>= fun g => pure g.toValue).Yields s
      (fun _ t => Change (f.given? "id") s t ∧ op.Brings f s t)
      fun error t => op.Failure f s error t ∧ op.Brings f s t := by
  subst players roleNames roleOptions
  have opts : ∀ roles, (∀ r ∈ roles, OptedBy (op.roleOptions f) r) → ∀ key r,
      (s.putRoles roles).predicators.find? key = some r →
        key ∈ s.predicators.keys ∨ OptedBy (op.roleOptions f) r := by
    intro roles opted key r found
    rcases find?_putRoles_cases found with made | old
    · exact .inr (opted r made)
    · exact .inl (OrderedMap.mem_keys_of_find? old)
  refine yields_bind (yields_addFactType ?_ (fun _ => ⟨.unchanged, .of_same rfl rfl⟩) ?_)
  · intro key name objects roles g picked numbered found new opted
    refine yields_pure ⟨.factType key name _ objects roles (picks key picked) found new,
      opts roles opted, fun other held => ?_⟩
    rcases OrderedMap.mem_keys_insert.mp held with old | rfl
    · exact .inl old
    · exact .inr (numbers other numbered)
  · intro error roles halted opted
    refine ⟨.roles halted, opts roles opted, fun key held => .inl ?_⟩
    rwa [putRoles_eq] at held

/-- An operation that adds a constraint yields it, under the id that it has got. -/
theorem yields_added {op : Operation} {category : ConstraintCategory}
    (adds : op.adds? = some category) {done : Value → Schema → Prop}
    {failed : BuilderError → Schema → Prop}
    (added : ∀ v id t, v.field? "id" = some (.str id) →
      Added (f.given? "id") (f.wish? "is_primary") s category id t → done v t)
    (unchanged : ∀ error, failed error s)
    (badName : ∀ error role ps, op = .addMandatory → f.given? "name" = some (.bad ps) →
      failed error (s.setOptional role false)) : (perform f op).Yields s done failed := by
  cases op with
  | addUnique =>
    cases adds
    have attached : ∀ ids,
        (addUnique ids (f.given? "name") (f.wish? "is_primary") (f.given? "id") >>=
          fun c => pure c.toValue).Yields s done failed := by
      intro ids
      refine yields_bind
        (yields_addUnique (fun c t listed roles picked unranked made => ?_) unchanged)
      apply yields_pure
      have held := (OrderedMap.find?_insert s.uniqueConstraints c.id c.id c).trans (if_pos rfl)
      obtain ⟨d, found, own⟩ := (Relinked.attachIdentifier
        { s with uniqueConstraints := s.uniqueConstraints.insert c.id c } c.id
          (f.wish? "is_primary")).exists_uniqueConstraint held
      rw [made, found, Option.getD_some]
      apply added d.toValue c.id
      · exact congrArg (fun id => some (Value.str id)) own
      · exact .uniqueness c listed roles picked unranked
    by_cases none : (f.get "predicator_ids").isEmpty = true
    · simp only [perform, none, if_true]
      exact yields_bind (yields_pure (attached []))
    · simp only [perform, none]
      exact yields_bind (yields_givenIds (fun _ _ => attached _) unchanged)
  | addMandatory =>
    cases adds
    refine yields_bind (yields_addMandatory (fun c r found player fresh => yields_pure ?_)
      unchanged fun error ps => badName error _ ps rfl)
    exact added _ c.id _ rfl (.totalRole c r found player fresh)
  | addSetConstraint =>
    cases adds
    refine yields_bind (yields_givenIds (fun _ _ => ?_) unchanged)
    refine yields_bind (yields_givenIds (fun _ _ => ?_) unchanged)
    refine yields_bind (yields_addSetConstraint (fun c roles fresh => yields_pure ?_) unchanged)
    exact added _ c.id _ rfl (.set c roles fresh)
  | addCardinality =>
    cases adds
    refine yields_bind (yields_addCardinality (fun c role fresh => yields_pure ?_) unchanged)
    exact added _ c.id _ rfl (.cardinality c role fresh)
  | addFrequency =>
    cases adds
    refine yields_bind (yields_addFrequency (fun c factType fresh => yields_pure ?_) unchanged)
    exact added _ c.id _ rfl (.frequency c factType fresh)
  | addEnumeration =>
    cases adds
    refine yields_bind (yields_addEnumeration (fun c label fresh => yields_pure ?_) unchanged)
    exact added _ c.id _ rfl (.enumeration c label fresh)
  | addCustom =>
    cases adds
    refine yields_bind (yields_addCustom (fun c fresh => yields_pure ?_) unchanged)
    exact added _ c.id _ rfl (.custom c fresh)
  | _ => cases adds

/-- What an operation makes of a schema, and what is left where it fails. -/
theorem yields_perform (keyed : s.predicators.KeyedBy Predicator.id) (op : Operation) :
    (perform f op).Yields s (fun _ t => Change (f.given? "id") s t ∧ op.Brings f s t)
      fun error t => op.Failure f s error t ∧ op.Brings f s t := by
  have unchanged : ∀ error, op.Failure f s error s ∧ op.Brings f s s :=
    fun _ => ⟨.unchanged, .of_same rfl rfl⟩
  cases op with
  | addEntity =>
    refine yields_bind (yields_addEntity (fun key name picked => yields_pure ?_) unchanged)
    exact ⟨.entity key name picked, .of_same rfl rfl⟩
  | addLabelType =>
    refine yields_bind (yields_addLabelType (fun l picked => yields_pure ?_) unchanged)
    exact ⟨.labelType l picked, .of_same rfl rfl⟩
  | addPowerType =>
    refine yields_bind (yields_addPowerType (fun p element picked => yields_pure ?_) unchanged)
    exact ⟨.powerType p element picked, .of_same rfl rfl⟩
  | addSequenceType =>
    refine yields_bind (yields_addSequenceType (fun q element picked => yields_pure ?_) unchanged)
    exact ⟨.sequenceType q element picked, .of_same rfl rfl⟩
  | addFactType =>
    refine yields_bind (yields_givenIds (fun items read => ?_) unchanged)
    have players : players f .addFactType = items.map GivenId.ofValue := by
      simp only [Operation.players, members_of_iterated read, Option.getD_some]
    refine yields_factType players.symm rfl rfl (fun _ picked => picked) fun key numbered => ?_
    exact numbered.imp_left fun given => ⟨rfl, given⟩
  | addUnaryFactType =>
    exact yields_factType rfl rfl rfl (fun _ picked => picked.of_none) fun _ numbered =>
      .inr (numbered.resolve_left nofun)
  | addBinaryFactType =>
    exact yields_factType rfl rfl rfl (fun _ picked => picked.of_none) fun _ numbered =>
      .inr (numbered.resolve_left nofun)
  | specialize =>
    refine yields_bind (yields_specialize (fun e parents found above listed => ?_) unchanged)
    exact yields_pure ⟨.specialization _ _ e parents found above listed, .of_same rfl rfl⟩
  | objectify =>
    refine yields_bind (yields_objectify (fun e key name held picked => ?_) unchanged)
    refine yields_pure ⟨.objectification _ key name held picked, .of_keys rfl ?_⟩
    exact OrderedMap.keys_modify ..
  | addUnique | addMandatory | addSetConstraint | addCardinality | addFrequency | addEnumeration
  | addCustom =>
    refine yields_added rfl (fun v id t _ added => ?_) unchanged
      fun error role ps operation bad => ?_
    · exact ⟨added.change, .of_added added⟩
    · exact ⟨.mandatory role ps operation bad, .of_keys (OrderedMap.keys_modify ..) rfl⟩
  | removeObject =>
    refine yields_bind
      ((yields_removeObject keyed).imp ?_ fun error _ same => same ▸ unchanged error)
    rintro _ _ ⟨found, rfl⟩
    exact yields_pure ⟨.objectRemoval _ found, .withoutObject s _⟩
  | removeFactType =>
    refine yields_bind (yields_removeFactType.imp ?_ fun error _ same => same ▸ unchanged error)
    rintro _ _ ⟨factType, found, rfl⟩
    exact yields_pure ⟨.factTypeRemoval _ factType found, .eraseFactType s _ factType⟩
  | removeConstraint =>
    refine yields_bind (yields_removeConstraint (fun category found => yields_pure ?_)
      fun error _ => unchanged error)
    exact ⟨.constraintRemoval _ category found, .withoutConstraint s _ category⟩
  | build => exact yields_pure ⟨.nothing, .of_same rfl rfl⟩

variable {b after : Builder} {name : String}

theorem outcome_of_run {outcome : Except BuilderError Value}
    (run : b.run name f = (outcome, after)) :
    ((∃ error, outcome = .error error) ∧ after = b) ∨
    ∃ op done, Operation.ofName? name = some op ∧ op.checkArguments name f = .ok () ∧
      after.schema = done.schema ∧
      ((∃ w, outcome = .ok (after.result f op w) ∧ (perform f op).apply b = (.ok w, done)) ∨
        ∃ error, outcome = .error error ∧ (perform f op).apply b = (.error error, done)) := by
  unfold Builder.run at run
  split at run
  · cases run
    exact .inl ⟨⟨_, rfl⟩, rfl⟩
  · rename_i op named
    split at run
    · cases run
      exact .inl ⟨⟨_, rfl⟩, rfl⟩
    · rename_i checked
      right
      split at run
      · rename_i error done performed
        cases run
        exact ⟨op, done, named, checked, rfl, .inr ⟨error, rfl, performed⟩⟩
      · rename_i w done performed
        cases run
        exact ⟨op, done, named, checked, rfl, .inl ⟨w, rfl, performed⟩⟩

/-- A request that succeeds changes the schema as its operation does. -/
theorem change_of_run (keyed : b.schema.predicators.KeyedBy Predicator.id) {v : Value}
    (run : b.run name f = (.ok v, after)) : Change (f.given? "id") b.schema after.schema := by
  rcases outcome_of_run run with ⟨⟨error, failed⟩, _⟩ | ⟨op, done, _, _, same, outcome⟩
  · cases failed
  · rcases outcome with ⟨w, _, performed⟩ | ⟨error, failed, _⟩
    · rw [same]
      exact ((yields_perform keyed op).of_ok rfl performed).1
    · cases failed

/-- Whether a request succeeds or fails, nothing is new but what its operation brings. -/
theorem brings_of_run (keyed : b.schema.predicators.KeyedBy Predicator.id)
    {outcome : Except BuilderError Value} (run : b.run name f = (outcome, after)) :
    after.schema = b.schema ∨
      ∃ op, Operation.ofName? name = some op ∧ op.Brings f b.schema after.schema := by
  rcases outcome_of_run run with ⟨_, rfl⟩ | ⟨op, done, named, _, same, outcome⟩
  · exact .inl rfl
  · refine .inr ⟨op, named, ?_⟩
    rw [same]
    rcases outcome with ⟨w, _, performed⟩ | ⟨error, _, performed⟩
    · exact ((yields_perform keyed op).of_ok rfl performed).2
    · exact ((yields_perform keyed op).of_error rfl performed).2

/-- A request that fails changes nothing, or leaves what its operation leaves. -/
theorem failure_of_run (keyed : b.schema.predicators.KeyedBy Predicator.id)
    {error : BuilderError} (run : b.run name f = (.error error, after)) :
    after.schema = b.schema ∨
      ∃ op, Operation.ofName? name = some op ∧ op.checkArguments name f = .ok () ∧
        op.Failure f b.schema error after.schema := by
  rcases outcome_of_run run with ⟨_, rfl⟩ | ⟨op, done, named, checked, same, outcome⟩
  · exact .inl rfl
  · rcases outcome with ⟨_, succeeded, _⟩ | ⟨_, failed, performed⟩
    · cases succeeded
    · cases failed
      refine .inr ⟨op, named, checked, ?_⟩
      rw [same]
      exact ((yields_perform keyed op).of_error rfl performed).1

end Builder

end FactModel
