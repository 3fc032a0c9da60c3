import FactModel.Proofs.Builder.Edit
import FactModel.Proofs.Builder.Roles

/-!
What each operation of a builder makes of a schema, with what it has looked up there.
-/

namespace FactModel

namespace Reading

variable {α β : Type}

theorem map_eq_ok {f : α → β} {r : Reading α} {b : β} (read : f <$> r = .ok b) :
    ∃ a, r = .ok a ∧ f a = b := by
  cases r with
  | ok a =>
    cases read
    exact ⟨a, rfl, rfl⟩
  | bad problems => cases read

theorem seq_eq_ok {f : Reading (α → β)} {r : Reading α} {b : β} (read : f <*> r = .ok b) :
    ∃ g a, f = .ok g ∧ r = .ok a ∧ g a = b := by
  cases f with
  | ok g =>
    cases r with
    | ok a =>
      cases read
      exact ⟨g, a, rfl, rfl, rfl⟩
    | bad problems => cases read
  | bad problems => cases r <;> cases read

theorem seq_eq_bad {f : Reading (α → β)} {r : Reading α} {problems : List Problem}
    (read : f <*> r = .bad problems) : (∃ ps, f = .bad ps) ∨ ∃ ps, r = .bad ps := by
  cases f with
  | bad ps => exact .inl ⟨ps, rfl⟩
  | ok g =>
    cases r with
    | bad ps => exact .inr ⟨ps, rfl⟩
    | ok a => cases read

theorem within_eq_bad {step : PathStep} {r : Reading α} {problems : List Problem}
    (read : r.within step = .bad problems) : ∃ ps, r = .bad ps := by
  cases r with
  | ok a => cases read
  | bad ps => exact ⟨ps, rfl⟩

theorem within_eq_ok {step : PathStep} {r : Reading α} {a : α} (read : r.within step = .ok a) :
    r = .ok a := by
  cases r with
  | ok a => exact read
  | bad ps => cases read

theorem map_eq_bad {f : α → β} {r : Reading α} {problems : List Problem}
    (read : f <$> r = .bad problems) : ∃ ps, r = .bad ps := by
  cases r with
  | ok a => cases read
  | bad ps => exact ⟨ps, rfl⟩

end Reading

namespace Schema

/-- The roles that an object plays. -/
def played (s : Schema) (object : String) : List Predicator :=
  s.predicators.values.filter fun r => r.objectId == object

def withoutObject (s : Schema) (id : String) : Schema := (s.eraseObject id).dropRoles (s.played id)

def withoutConstraint (s : Schema) (id : String) (category : ConstraintCategory) : Schema :=
  let erased := (s.eraseConstraint id category).unlistIdentifier id
  match category, s.totalRoleConstraints.find? id with
  | .totalRole, some c => erased.relaxRole c.predicatorId
  | _, _ => erased

/-- Nothing but the constraint, its place among identifiers, and what is optional changes. -/
theorem withoutConstraint_eq (s : Schema) (id : String) (category : ConstraintCategory) :
    ∃ held, (∀ key, (held.find? key).map side = (s.predicators.find? key).map side) ∧
      s.withoutConstraint id category =
        { (s.eraseConstraint id category).unlistIdentifier id with predicators := held } := by
  have kept : ((s.eraseConstraint id category).unlistIdentifier id).predicators =
      s.predicators := by cases category <;> rfl
  unfold withoutConstraint
  split
  · rename_i c _
    unfold relaxRole
    dsimp only
    split
    · exact ⟨s.predicators, fun _ => rfl, rfl⟩
    · refine ⟨_, fun key => ?_, rfl⟩
      exact OrderedMap.map_find?_modify s.predicators c.predicatorId key fun _ => rfl
  · refine ⟨s.predicators, fun _ => rfl, ?_⟩
    rw [← kept]

theorem keys_withoutConstraint (s : Schema) (id : String) (category : ConstraintCategory) :
    (s.withoutConstraint id category).predicators.keys = s.predicators.keys := by
  have kept : ((s.eraseConstraint id category).unlistIdentifier id).predicators =
      s.predicators := by cases category <;> rfl
  unfold withoutConstraint
  split
  · exact (keys_relaxRole ..).trans (congrArg _ kept)
  · exact congrArg _ kept

theorem predicators_withoutObject (s : Schema) (id : String) :
    (s.withoutObject id).predicators.keys ⊆ s.predicators.keys := by
  intro key held
  obtain ⟨r, found⟩ := OrderedMap.exists_find?_of_mem_keys held
  have sides := side_dropRoles (s.eraseObject id) (s.played id) key
  rw [← withoutObject, found] at sides
  split at sides
  · cases sides
  · obtain ⟨q, old, _⟩ := Option.map_eq_some_iff.mp sides.symm
    exact OrderedMap.mem_keys_of_find? old

theorem factTypes_withoutObject (s : Schema) (id : String) :
    (s.withoutObject id).factTypes.keys ⊆ s.factTypes.keys := by
  intro key held
  obtain ⟨f, found⟩ := OrderedMap.exists_find?_of_mem_keys held
  rw [withoutObject, find?_dropRoles] at found
  obtain ⟨g, old, _⟩ := Option.map_eq_some_iff.mp found
  exact OrderedMap.mem_keys_of_find? old

theorem predicators_eraseFactType (s : Schema) (id : String) (f : FactType) :
    (s.eraseFactType id f).predicators.keys ⊆ s.predicators.keys := by
  intro key held
  obtain ⟨r, found⟩ := OrderedMap.exists_find?_of_mem_keys held
  rw [eraseFactType, OrderedMap.find?_foldl_erase] at found
  split at found
  · cases found
  · exact OrderedMap.mem_keys_of_find? found

def setOptional (s : Schema) (role : String) (isOptional : Bool) : Schema :=
  { s with predicators := s.predicators.modify role fun r => { r with isOptional := isOptional } }

/-- The schema with one mandatory constraint more, whose role is not optional. -/
def putMandatory (s : Schema) (c : TotalRoleConstraint) : Schema :=
  { s.setOptional c.predicatorId false with
    totalRoleConstraints := s.totalRoleConstraints.insert c.id c }

def objectifyAs (s : Schema) (factType : String) (e : Entity) : Schema :=
  { s with
    entities := s.entities.insert e.id { e with objectifiedFactTypeId := some factType }
    factTypes := s.factTypes.modify factType fun f =>
      { f with isObjectified := true, objectifiedAsId := some e.id } }

end Schema

open Schema Edit

/-- What an operation makes of a schema. A new element has the id that is given for it, or one
that no element has. -/
inductive Change (given : Option (Reading String)) (s : Schema) : Schema → Prop
  | nothing : Change given s s
  | entity (id name : String) (picked : Picked given s id) :
      Change given s
        { s with entities := s.entities.insert id ⟨id, name, [], [], none, false⟩ }
  | labelType (l : LabelType) (picked : Picked given s l.id) :
      Change given s { s with labelTypes := s.labelTypes.insert l.id l }
  | powerType (p : PowerType) (element : (s.object? p.elementTypeId).isSome)
      (picked : Picked given s p.id) :
      Change given s { s with powerTypes := s.powerTypes.insert p.id p }
  | sequenceType (q : SequenceType) (element : (s.object? q.elementTypeId).isSome)
      (picked : Picked given s q.id) :
      Change given s { s with sequenceTypes := s.sequenceTypes.insert q.id q }
  | factType (id name : String) (ids : List GivenId) (objects : List ObjectType)
      (roles : List Predicator) (picked : Picked given s id)
      (found : List.Forall₂ (fun id o => s.object? id.shown = some o) ids objects)
      (new : NewRoles id s 0 objects roles) :
      Change given s
        { s.putRoles roles with
          factTypes := s.factTypes.insert id ⟨id, name, roles.map (·.id), false, none⟩ }
  | specialization (child parent : String) (e : Entity) (parents : List String)
      (found : s.entities.find? child = some e) (above : (s.entities.find? parent).isSome)
      (listed : parents = e.specializationOf ∨ parents = e.specializationOf ++ [parent]) :
      Change given s
        { s with entities := s.entities.insert child { e with specializationOf := parents } }
  | objectification (factType : String) (id name : String)
      (found : (s.factTypes.find? factType).isSome) (picked : Picked given s id) :
      Change given s (s.objectifyAs factType ⟨id, name, [], [], none, false⟩)
  | uniqueness (c : UniqueConstraint) (primary : Option Bool) (some_role : c.predicatorIds ≠ [])
      (roles : ∀ id ∈ c.predicatorIds, (s.predicators.find? id).isSome)
      (picked : Picked given s c.id) (unranked : c.isPrimary = false ∧ c.isPreferred = false) :
      Change given s
        ({ s with uniqueConstraints := s.uniqueConstraints.insert c.id c }.attachIdentifier
          c.id primary).1
  | totalRole (c : TotalRoleConstraint) (r : Predicator)
      (found : s.predicators.find? c.predicatorId = some r) (player : c.objectId = r.objectId)
      (fresh : c.id ∉ s.ids) :
      Change given s
        { s with
          predicators := s.predicators.modify c.predicatorId fun r =>
            { r with isOptional := false }
          totalRoleConstraints := s.totalRoleConstraints.insert c.id c }
  | set (c : SetConstraint)
      (roles : ∀ id ∈ c.sourcePredicatorIds ++ c.targetPredicatorIds,
        (s.predicators.find? id).isSome)
      (fresh : c.id ∉ s.ids) :
      Change given s { s with setConstraints := s.setConstraints.insert c.id c }
  | cardinality (c : CardinalityConstraint) (role : (s.predicators.find? c.predicatorId).isSome)
      (fresh : c.id ∉ s.ids) :
      Change given s
        { s with cardinalityConstraints := s.cardinalityConstraints.insert c.id c }
  | frequency (c : FrequencyConstraint) (factType : (s.factTypes.find? c.factTypeId).isSome)
      (fresh : c.id ∉ s.ids) :
      Change given s { s with frequencyConstraints := s.frequencyConstraints.insert c.id c }
  | enumeration (c : EnumerationConstraint)
      (label : (s.labelTypes.find? c.labelTypeId).isSome) (fresh : c.id ∉ s.ids) :
      Change given s
        { s with enumerationConstraints := s.enumerationConstraints.insert c.id c }
  | custom (c : CustomConstraint) (fresh : c.id ∉ s.ids) :
      Change given s { s with customConstraints := s.customConstraints.insert c.id c }
  | objectRemoval (id : String) (found : (s.object? id).isSome) :
      Change given s (s.withoutObject id)
  | factTypeRemoval (id : String) (f : FactType) (found : s.factTypes.find? id = some f) :
      Change given s (s.eraseFactType id f)
  | constraintRemoval (id : String) (category : ConstraintCategory)
      (found : s.constraintCategory? id = some category) :
      Change given s (s.withoutConstraint id category)

/-- A constraint comes into a schema under its id. -/
inductive Added (given : Option (Reading String)) (primary : Option Bool) (s : Schema) :
    ConstraintCategory → String → Schema → Prop
  | uniqueness (c : UniqueConstraint) (some_role : c.predicatorIds ≠ [])
      (roles : ∀ id ∈ c.predicatorIds, (s.predicators.find? id).isSome)
      (picked : Picked given s c.id) (unranked : c.isPrimary = false ∧ c.isPreferred = false) :
      Added given primary s .uniqueness c.id
        ({ s with uniqueConstraints := s.uniqueConstraints.insert c.id c }.attachIdentifier
          c.id primary).1
  | totalRole (c : TotalRoleConstraint) (r : Predicator)
      (found : s.predicators.find? c.predicatorId = some r) (player : c.objectId = r.objectId)
      (fresh : c.id ∉ s.ids) : Added given primary s .totalRole c.id (s.putMandatory c)
  | set (c : SetConstraint)
      (roles : ∀ id ∈ c.sourcePredicatorIds ++ c.targetPredicatorIds,
        (s.predicators.find? id).isSome)
      (fresh : c.id ∉ s.ids) :
      Added given primary s .set c.id { s with setConstraints := s.setConstraints.insert c.id c }
  | cardinality (c : CardinalityConstraint) (role : (s.predicators.find? c.predicatorId).isSome)
      (fresh : c.id ∉ s.ids) :
      Added given primary s .cardinality c.id
        { s with cardinalityConstraints := s.cardinalityConstraints.insert c.id c }
  | frequency (c : FrequencyConstraint) (factType : (s.factTypes.find? c.factTypeId).isSome)
      (fresh : c.id ∉ s.ids) :
      Added given primary s .frequency c.id
        { s with frequencyConstraints := s.frequencyConstraints.insert c.id c }
  | enumeration (c : EnumerationConstraint)
      (label : (s.labelTypes.find? c.labelTypeId).isSome) (fresh : c.id ∉ s.ids) :
      Added given primary s .enumeration c.id
        { s with enumerationConstraints := s.enumerationConstraints.insert c.id c }
  | custom (c : CustomConstraint) (fresh : c.id ∉ s.ids) :
      Added given primary s .custom c.id
        { s with customConstraints := s.customConstraints.insert c.id c }

theorem Added.change {given : Option (Reading String)} {primary : Option Bool} {s t : Schema}
    {category : ConstraintCategory} {id : String} (added : Added given primary s category id t) :
    Change given s t := by
  cases added with
  | uniqueness c some_role roles picked unranked =>
    exact .uniqueness c primary some_role roles picked unranked
  | totalRole c r found player fresh => exact .totalRole c r found player fresh
  | set c roles fresh => exact .set c roles fresh
  | cardinality c role fresh => exact .cardinality c role fresh
  | frequency c factType fresh => exact .frequency c factType fresh
  | enumeration c label fresh => exact .enumeration c label fresh
  | custom c fresh => exact .custom c fresh

/-- A role that stays keeps its fact type and its player. -/
theorem Change.side_eq {given : Option (Reading String)} {s t : Schema} (change : Change given s t)
    {role : String} (held : role ∈ s.predicators.keys) {r : Predicator}
    (found : t.predicators.find? role = some r) :
    (s.predicators.find? role).map side = some (side r) := by
  have stays : (t.predicators.find? role).map side = (s.predicators.find? role).map side →
      (s.predicators.find? role).map side = some (side r) := fun same => by rw [← same, found]; rfl
  apply stays
  cases change with
  | factType id name ids objects roles picked there new =>
    obtain ⟨q, before⟩ := OrderedMap.exists_find?_of_mem_keys held
    exact congrArg (Option.map side) ((new.find?_putRoles_iff.mpr (.inr before)).trans before.symm)
  | uniqueness c primary =>
    rw [(Relinked.attachIdentifier _ c.id primary).predicators]
  | totalRole c =>
    exact OrderedMap.map_find?_modify s.predicators c.predicatorId role fun _ => rfl
  | objectRemoval id =>
    have sides := side_dropRoles (s.eraseObject id) (s.played id) role
    rw [← withoutObject] at sides
    split at sides
    · rw [found] at sides
      cases sides
    · exact sides
  | factTypeRemoval id f =>
    rw [eraseFactType, OrderedMap.find?_foldl_erase] at found ⊢
    split at found
    · cases found
    · rename_i kept
      rw [if_neg kept]
  | constraintRemoval id category =>
    obtain ⟨_, sides, same⟩ := withoutConstraint_eq s id category
    rw [same]
    exact sides role
  | _ => rfl

/-- The wishes for the roles of a fact type do not yield the role at a position. -/
inductive Blocked (names : RoleWishes String) (optional : RoleWishes Bool) (position : Nat) :
    BuilderError → Prop
  | name {error : BuilderError} (none : names position = .error error) :
      Blocked names optional position error
  | isOptional {error : BuilderError} (none : optional position = .error error) :
      Blocked names optional position error
  | badName {ps problems : List Problem} (bad : names position = .ok (some (.bad ps))) :
      Blocked names optional position (.invalid problems)
  | badOptional {ps problems : List Problem} (bad : optional position = .ok (some (.bad ps))) :
      Blocked names optional position (.invalid problems)

/-- A role is optional as wished for a position, or by default. -/
def OptedBy (optional : RoleWishes Bool) (r : Predicator) : Prop :=
  ∃ position wish, optional position = .ok wish ∧ wish.getD (.ok true) = .ok r.isOptional

/-- There is a wish for a position, or no wishes at all. -/
def Supplied {α : Type} (wishes : RoleWishes α) (position : Nat) : Prop :=
  ∃ wish, wishes position = .ok wish

/-- A fact type that fails has left the roles before the one that its wishes do not yield. -/
inductive Halted (names : RoleWishes String) (optional : RoleWishes Bool) (ids : List GivenId)
    (s : Schema) (error : BuilderError) : Schema → Prop
  | at (factType : String) (objects front : List ObjectType) (roles : List Predicator)
      (found : List.Forall₂ (fun id o => s.object? id.shown = some o) ids objects)
      (before : front <+: objects) (left : front.length < objects.length)
      (new : NewRoles factType s 0 front roles)
      (supplied : ∀ i < front.length, Supplied names i ∧ Supplied optional i)
      (blocked : Blocked names optional front.length error) :
      Halted names optional ids s error (s.putRoles roles)

namespace Builder

variable {s : Schema} {failed : BuilderError → Schema → Prop}

theorem yields_addEntity {name id : Option (Reading String)} {done : Entity → Schema → Prop}
    (added : ∀ key name, Picked id s key →
      done ⟨key, name, [], [], none, false⟩
        { s with entities := s.entities.insert key ⟨key, name, [], [], none, false⟩ })
    (unchanged : ∀ error, failed error s) : (addEntity name id).Yields s done failed := by
  refine yields_bind (yields_chooseId fun key picked => ?_)
  refine yields_bind (yields_chooseName fun name => ?_)
  refine yields_bind (yields_check (fun e read => ?_) fun _ _ => unchanged _)
  obtain ⟨make, name, first, rfl, rfl⟩ := Reading.seq_eq_ok read
  obtain ⟨key, rfl, rfl⟩ := Reading.map_eq_ok first
  exact yields_bind (yields_update (yields_pure (added key name (picked key rfl).1)))

theorem yields_addLabelType {name id : Option (Reading String)} {facets : Reading LabelFacets}
    {done : LabelType → Schema → Prop}
    (added : ∀ l, Picked id s l.id → done l { s with labelTypes := s.labelTypes.insert l.id l })
    (unchanged : ∀ error, failed error s) :
    (addLabelType name id facets).Yields s done failed := by
  refine yields_bind (yields_chooseId fun key picked => ?_)
  refine yields_bind (yields_chooseName fun name => ?_)
  refine yields_bind (yields_check (fun l read => ?_) fun _ _ => unchanged _)
  obtain ⟨withFacets, facets, rest, rfl, rfl⟩ := Reading.seq_eq_ok read
  obtain ⟨make, name, first, rfl, rfl⟩ := Reading.seq_eq_ok rest
  obtain ⟨key, rfl, rfl⟩ := Reading.map_eq_ok first
  exact yields_bind (yields_update (yields_pure (added _ (picked key rfl).1)))

theorem yields_addPowerType {element : GivenId} {name id : Option (Reading String)}
    {done : PowerType → Schema → Prop}
    (added : ∀ p, (s.object? p.elementTypeId).isSome → Picked id s p.id →
      done p { s with powerTypes := s.powerTypes.insert p.id p })
    (unchanged : ∀ error, failed error s) :
    (addPowerType element name id).Yields s done failed := by
  refine yields_bind (yields_requireObject (fun o found => ?_) unchanged)
  refine yields_bind (yields_chooseId fun key picked => ?_)
  refine yields_bind (yields_chooseName fun name => ?_)
  refine yields_bind (yields_check (fun p read => ?_) fun _ _ => unchanged _)
  obtain ⟨make, name, first, rfl, rfl⟩ := Reading.seq_eq_ok read
  obtain ⟨key, rfl, rfl⟩ := Reading.map_eq_ok first
  have element : (s.object? element.shown).isSome := found ▸ rfl
  exact yields_bind (yields_update (yields_pure (added _ element (picked key rfl).1)))

theorem yields_addSequenceType {element : GivenId} {name id : Option (Reading String)}
    {duplicates : Reading Bool} {done : SequenceType → Schema → Prop}
    (added : ∀ q, (s.object? q.elementTypeId).isSome → Picked id s q.id →
      done q { s with sequenceTypes := s.sequenceTypes.insert q.id q })
    (unchanged : ∀ error, failed error s) :
    (addSequenceType element name id duplicates).Yields s done failed := by
  refine yields_bind (yields_requireObject (fun o found => ?_) unchanged)
  refine yields_bind (yields_chooseId fun key picked => ?_)
  refine yields_bind (yields_chooseName fun name => ?_)
  refine yields_bind (yields_check (fun q read => ?_) fun _ _ => unchanged _)
  obtain ⟨withName, duplicates, rest, _, rfl⟩ := Reading.seq_eq_ok read
  obtain ⟨make, name, first, rfl, rfl⟩ := Reading.seq_eq_ok rest
  obtain ⟨key, rfl, rfl⟩ := Reading.map_eq_ok first
  have element : (s.object? element.shown).isSome := found ▸ rfl
  exact yields_bind (yields_update (yields_pure (added _ element (picked key rfl).1)))

theorem yields_requireObjects {ids : List GivenId} {done : List ObjectType → Schema → Prop}
    (found : ∀ objects, List.Forall₂ (fun id o => s.object? id.shown = some o) ids objects →
      done objects s)
    (absent : ∀ error, failed error s) : (ids.mapM requireObject).Yields s done failed := by
  induction ids generalizing done with
  | nil =>
    rw [List.mapM_nil]
    exact yields_pure (found [] .nil)
  | cons id rest ih =>
    rw [List.mapM_cons]
    refine yields_bind (yields_requireObject (fun o here => ?_) absent)
    exact yields_bind (ih fun others there => yields_pure (found _ (.cons here there)))

theorem yields_roleWish {α : Type} {wishes : RoleWishes α} {default : α} {position : Nat}
    {done : Reading α → Schema → Prop}
    (wished : ∀ wish, wishes position = .ok wish → done (wish.getD (.ok default)) s)
    (none : ∀ error, wishes position = .error error → failed error s) :
    (roleWish wishes default position).Yields s done failed := by
  unfold roleWish
  cases wish : wishes position with
  | error error => exact yields_throw (none error wish)
  | ok given => exact yields_pure (wished given wish)

theorem wish_eq_bad {α : Type} {wish : Option (Reading α)} {default : α} {ps : List Problem}
    (bad : wish.getD (.ok default) = .bad ps) : wish = some (.bad ps) := by
  cases wish with
  | some r => exact congrArg some bad
  | none => cases bad

theorem yields_addRoles {factType : String} {names : RoleWishes String}
    {optional : RoleWishes Bool} {position : Nat} {objects : List ObjectType}
    {done : List String → Schema → Prop}
    (added : ∀ roles, NewRoles factType s position objects roles →
      (∀ r ∈ roles, OptedBy optional r) → done (roles.map (·.id)) (s.putRoles roles))
    (halted : ∀ error front roles, front <+: objects → front.length < objects.length →
      NewRoles factType s position front roles → (∀ r ∈ roles, OptedBy optional r) →
      (∀ i < front.length, Supplied names (position + i) ∧ Supplied optional (position + i)) →
      Blocked names optional (position + front.length) error → failed error (s.putRoles roles)) :
    (addRoles factType names optional position objects).Yields s done failed := by
  induction objects generalizing s position done with
  | nil => exact yields_pure (added [] (.none s position) nofun)
  | cons object rest ih =>
    have atOnce : ∀ error, Blocked names optional position error → failed error s :=
      fun error blocked => halted error [] [] List.nil_prefix (Nat.succ_pos _)
        (.none s position) nofun (fun _ before => nomatch before) blocked
    refine yields_bind (yields_roleWish (fun name named => ?_) fun error none =>
      atOnce error (.name none))
    refine yields_bind (yields_newId fun n fresh => ?_)
    refine yields_bind (yields_roleWish (fun isOptional wished => ?_) fun error none =>
      atOnce error (.isOptional none))
    refine yields_bind (yields_check (fun r read => ?_) fun problems bad => ?_)
    · obtain ⟨make, b, first, opted, rfl⟩ := Reading.seq_eq_ok read
      obtain ⟨a, _, rfl⟩ := Reading.map_eq_ok first
      have here : OptedBy optional ⟨numbered "role" n, a, factType, position, object.id, b⟩ :=
        ⟨position, isOptional, wished, Reading.within_eq_ok opted⟩
      refine yields_bind (yields_update (yields_bind (ih (fun roles new opted => ?_) ?_)))
      · exact yields_pure (added (_ :: roles) (.more rfl rfl rfl fresh new)
          (List.forall_mem_cons.mpr ⟨here, opted⟩))
      · intro error front roles before left new opted supplied blocked
        refine halted error (object :: front) (_ :: roles) ?_ (Nat.succ_lt_succ left)
          (.more rfl rfl rfl fresh new) (List.forall_mem_cons.mpr ⟨here, opted⟩) ?_ ?_
        · exact List.cons_prefix_cons.mpr ⟨rfl, before⟩
        · rintro (_ | i) inside
          · exact ⟨⟨name, named⟩, ⟨isOptional, wished⟩⟩
          · rw [Nat.add_comm i 1, ← Nat.add_assoc]
            exact supplied i (Nat.lt_of_succ_lt_succ inside)
        · rwa [List.length_cons, Nat.add_comm front.length 1, ← Nat.add_assoc]
    · rcases Reading.seq_eq_bad bad with ⟨ps, bad⟩ | ⟨ps, bad⟩
      · obtain ⟨ps, bad⟩ := Reading.map_eq_bad bad
        obtain ⟨ps, bad⟩ := Reading.within_eq_bad bad
        exact atOnce _ (.badName (named.trans (congrArg _ (wish_eq_bad bad))))
      · obtain ⟨ps, bad⟩ := Reading.within_eq_bad bad
        exact atOnce _ (.badOptional (wished.trans (congrArg _ (wish_eq_bad bad))))

theorem yields_addFactType {ids : List GivenId} {name : Option (Reading String)}
    {names : RoleWishes String} {optional : RoleWishes Bool} {id : Option (Reading String)}
    {done : FactType → Schema → Prop}
    (added : ∀ key name objects roles f, Picked id s key → GivenOrNumbered id "fact" key →
      List.Forall₂ (fun id o => s.object? id.shown = some o) ids objects →
      NewRoles key s 0 objects roles → (∀ r ∈ roles, OptedBy optional r) →
      done f { s.putRoles roles with
        factTypes := s.factTypes.insert key ⟨key, name, roles.map (·.id), false, none⟩ })
    (unchanged : ∀ error, failed error s)
    (halted : ∀ error roles, Halted names optional ids s error (s.putRoles roles) →
      (∀ r ∈ roles, OptedBy optional r) → failed error (s.putRoles roles)) :
    (addFactType ids name names optional id).Yields s done failed := by
  refine yields_bind (yields_requireObjects (fun objects found => ?_) unchanged)
  refine yields_bind (yields_chooseId fun key picked => ?_)
  refine yields_bind (yields_chooseName fun name => ?_)
  refine yields_bind (yields_check (fun f read => ?_) fun _ _ => unchanged _)
  obtain ⟨make, name, first, rfl, rfl⟩ := Reading.seq_eq_ok read
  obtain ⟨key, rfl, rfl⟩ := Reading.map_eq_ok first
  obtain ⟨picked, numbered⟩ := picked key rfl
  refine yields_bind (yields_addRoles (fun roles new opted => ?_) ?_)
  · refine yields_bind (yields_update (yields_bind (yields_logged (yields_pure ?_))))
    have made := added key name objects roles
      ⟨key, name, roles.map (·.id), false, none⟩ picked numbered found new opted
    rw [putRoles_eq] at made ⊢
    exact made
  · intro error front roles before left new opted supplied blocked
    simp only [Nat.zero_add] at supplied blocked
    exact halted error roles (.at key objects front roles found before left new supplied blocked)
      opted

theorem yields_specialize {child parent : GivenId} {done : Entity → Schema → Prop}
    (changed : ∀ e parents, s.entities.find? child.shown = some e →
      (s.entities.find? parent.shown).isSome →
      (parents = e.specializationOf ∨ parents = e.specializationOf ++ [parent.shown]) →
      done { e with specializationOf := parents }
        { s with
          entities := s.entities.insert child.shown { e with specializationOf := parents } })
    (unchanged : ∀ error, failed error s) : (specialize child parent).Yields s done failed := by
  refine yields_bind (yields_current ?_)
  refine yields_bind (yields_lookUp (fun e found => ?_) unchanged)
  refine yields_bind (yields_lookUp (fun above held => ?_) unchanged)
  refine yields_bind (yields_update (yields_pure ?_))
  have parentHeld : (s.entities.find? parent.shown).isSome := held ▸ rfl
  by_cases known : e.specializationOf.contains parent.shown
  · simp only [known, if_true]
    exact changed e _ found parentHeld (.inl rfl)
  · simp only [known]
    exact changed e _ found parentHeld (.inr rfl)

theorem yields_objectify {factType : GivenId} {name id : Option (Reading String)}
    {done : Entity → Schema → Prop}
    (added : ∀ e key name, (s.factTypes.find? factType.shown).isSome → Picked id s key →
      done e (s.objectifyAs factType.shown ⟨key, name, [], [], none, false⟩))
    (unchanged : ∀ error, failed error s) : (objectify factType name id).Yields s done failed := by
  refine yields_bind (yields_requireFactType (fun f found => ?_) unchanged)
  refine yields_bind (yields_addEntity (fun key name picked => ?_) unchanged)
  refine yields_bind (yields_update (yields_bind (yields_update (yields_pure ?_))))
  have held : (s.factTypes.find? factType.shown).isSome := found ▸ rfl
  have made := added ⟨key, name, [], [], some factType.shown, false⟩ key name held picked
  simp only [objectifyAs] at made
  rw [OrderedMap.insert_insert]
  exact made

theorem yields_requireEach {ids : List GivenId} {done : Unit → Schema → Prop}
    (found : (∀ id ∈ ids.map GivenId.shown, (s.predicators.find? id).isSome) → done () s)
    (absent : ∀ error, failed error s) : (requirePredicators ids).Yields s done failed := by
  refine yields_requirePredicators (fun held => found fun id listed => ?_) absent
  obtain ⟨given, member, rfl⟩ := List.mem_map.mp listed
  obtain ⟨r, here⟩ := held given member
  exact here ▸ rfl

theorem yields_addUnique {ids : List GivenId} {name : Option (Reading String)}
    {primary : Option Bool} {id : Option (Reading String)}
    {done : UniqueConstraint → Schema → Prop}
    (added : ∀ c t, c.predicatorIds ≠ [] →
      (∀ id ∈ c.predicatorIds, (s.predicators.find? id).isSome) → Picked id s c.id →
      c.isPrimary = false ∧ c.isPreferred = false →
      t = ({ s with uniqueConstraints := s.uniqueConstraints.insert c.id c }.attachIdentifier
        c.id primary).1 →
      done ((t.uniqueConstraints.find? c.id).getD c) t)
    (unchanged : ∀ error, failed error s) :
    (addUnique ids name primary id).Yields s done failed := by
  unfold addUnique
  by_cases none : ids.isEmpty = true
  · rw [if_pos none]
    exact yields_throw (unchanged _)
  rw [if_neg none]
  refine yields_bind (yields_requireEach (fun roles => ?_) unchanged)
  refine yields_bind (yields_chooseId fun key picked => ?_)
  refine yields_bind (yields_check (fun c read => ?_) fun _ _ => unchanged _)
  obtain ⟨make, name, first, _, rfl⟩ := Reading.seq_eq_ok read
  obtain ⟨key, rfl, rfl⟩ := Reading.map_eq_ok first
  refine yields_bind (yields_update (yields_bind (yields_current (yields_pure ?_))))
  have some_role : ids.map GivenId.shown ≠ [] := by simpa using none
  exact added _ _ some_role roles (picked key rfl).1 ⟨rfl, rfl⟩ rfl

theorem ids_relaxed (key : String) (f : Predicator → Predicator) :
    ({ s with predicators := s.predicators.modify key f } : Schema).ids = s.ids := by
  simp only [Schema.ids, OrderedMap.keys_modify]
  rfl

theorem yields_addMandatory {id : GivenId} {name : Option (Reading String)}
    {done : TotalRoleConstraint → Schema → Prop}
    (added : ∀ c r, s.predicators.find? c.predicatorId = some r → c.objectId = r.objectId →
      c.id ∉ s.ids → done c
        { s with
          predicators := s.predicators.modify c.predicatorId fun r =>
            { r with isOptional := false }
          totalRoleConstraints := s.totalRoleConstraints.insert c.id c })
    (unchanged : ∀ error, failed error s)
    (badName : ∀ error ps, name = some (.bad ps) → failed error
      { s with predicators := s.predicators.modify id.shown fun r =>
          { r with isOptional := false } }) :
    (addMandatory id name).Yields s done failed := by
  refine yields_bind (yields_requirePredicator (fun r found => ?_) unchanged)
  refine yields_bind (yields_update (yields_bind (yields_newId fun n fresh => ?_)))
  rw [ids_relaxed] at fresh
  refine yields_bind (yields_check (fun c read => ?_) fun problems bad => ?_)
  · obtain ⟨name, _, rfl⟩ := Reading.map_eq_ok read
    exact yields_bind (yields_update (yields_pure (added _ r found rfl fresh)))
  · obtain ⟨ps, bad⟩ := Reading.map_eq_bad bad
    cases name with
    | none => cases bad
    | some r =>
      obtain ⟨ps, rfl⟩ := Reading.within_eq_bad bad
      exact badName _ ps rfl

theorem yields_addSetConstraint {kind : Reading SetKind} {source target : List GivenId}
    {name : Option (Reading String)} {done : SetConstraint → Schema → Prop}
    (added : ∀ c, (∀ id ∈ c.sourcePredicatorIds ++ c.targetPredicatorIds,
        (s.predicators.find? id).isSome) → c.id ∉ s.ids →
      done c { s with setConstraints := s.setConstraints.insert c.id c })
    (unchanged : ∀ error, failed error s) :
    (addSetConstraint kind source target name).Yields s done failed := by
  refine yields_bind (yields_requireEach (fun roles => ?_) unchanged)
  refine yields_bind (yields_newId fun n fresh => ?_)
  refine yields_bind (yields_check (fun c read => ?_) fun _ _ => unchanged _)
  obtain ⟨make, kind, first, _, rfl⟩ := Reading.seq_eq_ok read
  obtain ⟨name, _, rfl⟩ := Reading.map_eq_ok first
  rw [List.map_append] at roles
  exact yields_bind (yields_update (yields_pure (added _ roles fresh)))

theorem yields_addCardinality {id : GivenId} {bounds : Reading Bounds}
    {name : Option (Reading String)} {done : CardinalityConstraint → Schema → Prop}
    (added : ∀ c, (s.predicators.find? c.predicatorId).isSome → c.id ∉ s.ids →
      done c { s with cardinalityConstraints := s.cardinalityConstraints.insert c.id c })
    (unchanged : ∀ error, failed error s) :
    (addCardinality id bounds name).Yields s done failed := by
  refine yields_bind (yields_requirePredicator (fun r found => ?_) unchanged)
  refine yields_bind (yields_newId fun n fresh => ?_)
  refine yields_bind (yields_check (fun c read => ?_) fun _ _ => unchanged _)
  obtain ⟨make, bounds, first, _, rfl⟩ := Reading.seq_eq_ok read
  obtain ⟨name, _, rfl⟩ := Reading.map_eq_ok first
  have role : (s.predicators.find? id.shown).isSome := found ▸ rfl
  exact yields_bind (yields_update (yields_pure (added _ role fresh)))

theorem yields_addFrequency {id : GivenId} {bounds : Reading Bounds}
    {name : Option (Reading String)} {done : FrequencyConstraint → Schema → Prop}
    (added : ∀ c, (s.factTypes.find? c.factTypeId).isSome → c.id ∉ s.ids →
      done c { s with frequencyConstraints := s.frequencyConstraints.insert c.id c })
    (unchanged : ∀ error, failed error s) :
    (addFrequency id bounds name).Yields s done failed := by
  refine yields_bind (yields_requireFactType (fun f found => ?_) unchanged)
  refine yields_bind (yields_newId fun n fresh => ?_)
  refine yields_bind (yields_check (fun c read => ?_) fun _ _ => unchanged _)
  obtain ⟨make, bounds, first, _, rfl⟩ := Reading.seq_eq_ok read
  obtain ⟨name, _, rfl⟩ := Reading.map_eq_ok first
  have factType : (s.factTypes.find? id.shown).isSome := found ▸ rfl
  exact yields_bind (yields_update (yields_pure (added _ factType fresh)))

theorem yields_addEnumeration {id : GivenId} {values : Except ArgumentError (List Value)}
    {name : Option (Reading String)} {done : EnumerationConstraint → Schema → Prop}
    (added : ∀ c, (s.labelTypes.find? c.labelTypeId).isSome → c.id ∉ s.ids →
      done c { s with enumerationConstraints := s.enumerationConstraints.insert c.id c })
    (unchanged : ∀ error, failed error s) :
    (addEnumeration id values name).Yields s done failed := by
  refine yields_bind (yields_requireLabelType (fun l found => ?_) unchanged)
  refine yields_bind (yields_newId fun n fresh => ?_)
  refine yields_bind (yields_argument (fun values _ => ?_) fun _ _ => unchanged _)
  refine yields_bind (yields_check (fun c read => ?_) fun _ _ => unchanged _)
  obtain ⟨name, _, rfl⟩ := Reading.map_eq_ok read
  have label : (s.labelTypes.find? id.shown).isSome := found ▸ rfl
  exact yields_bind (yields_update (yields_pure (added _ label fresh)))

theorem id_of_customConstraint {key : String} {name kind description : Reading String}
    {targets : Reading (List String)} {parameters : Reading (List (String × Value))}
    {c : CustomConstraint}
    (read : (fun name kind description targets parameters =>
        (⟨key, name, kind, description, targets, parameters⟩ : CustomConstraint)) <$> name
      <*> kind <*> description <*> targets <*> parameters = .ok c) : c.id = key := by
  obtain ⟨_, _, withTargets, _, rfl⟩ := Reading.seq_eq_ok read
  obtain ⟨_, _, withDescription, _, rfl⟩ := Reading.seq_eq_ok withTargets
  obtain ⟨_, _, withKind, _, rfl⟩ := Reading.seq_eq_ok withDescription
  obtain ⟨_, _, withName, _, rfl⟩ := Reading.seq_eq_ok withKind
  obtain ⟨_, _, rfl⟩ := Reading.map_eq_ok withName
  rfl

theorem yields_addCustom {kind description : Reading String} {appliesTo : Value}
    {name : Option (Reading String)} {parameters : Reading (List (String × Value))}
    {done : CustomConstraint → Schema → Prop}
    (added : ∀ c, c.id ∉ s.ids →
      done c { s with customConstraints := s.customConstraints.insert c.id c })
    (unchanged : ∀ error, failed error s) :
    (addCustom kind appliesTo name description parameters).Yields s done failed := by
  refine yields_bind (yields_newId fun n fresh => ?_)
  cases name with
  | some name =>
    refine yields_bind (yields_pure ?_)
    refine yields_bind (yields_argument (fun targets _ => ?_) fun _ _ => unchanged _)
    refine yields_bind (yields_check (fun c read => ?_) fun _ _ => unchanged _)
    have unused : c.id ∉ s.ids := id_of_customConstraint read ▸ fresh
    exact yields_bind (yields_update (yields_pure (added c unused)))
  | none =>
    refine yields_bind (yields_argument (fun joined _ => ?_) fun _ _ => unchanged _)
    refine yields_bind (yields_pure ?_)
    refine yields_bind (yields_argument (fun targets _ => ?_) fun _ _ => unchanged _)
    refine yields_bind (yields_check (fun c read => ?_) fun _ _ => unchanged _)
    have unused : c.id ∉ s.ids := id_of_customConstraint read ▸ fresh
    exact yields_bind (yields_update (yields_pure (added c unused)))

theorem yields_removeRoles {roles : List Predicator}
    (held : ∀ r ∈ roles, r.id ∈ s.predicators.keys) (distinct : (roles.map (·.id)).Nodup)
    {done : Unit → Schema → Prop}
    (dropped : done () (s.dropRoles roles)) : (removeRoles roles).Yields s done failed := by
  induction roles generalizing s with
  | nil => exact yields_pure dropped
  | cons r rest ih =>
    rw [List.forall_mem_cons] at held
    rw [List.map_cons, List.nodup_cons] at distinct
    have here : s.predicators.contains r.id = true := (s.predicators.contains_iff _).mpr held.1
    refine yields_bind (yields_current ?_)
    simp only [here, Bool.not_true, Bool.false_eq_true, if_false]
    refine yields_bind (yields_update ?_)
    refine ih ?_ distinct.2 dropped
    intro other later
    have apart : other.id ≠ r.id := fun same => distinct.1 (same ▸ List.mem_map_of_mem later)
    show other.id ∈ (s.dropRole r).predicators.keys
    rw [keys_dropRole]
    exact OrderedMap.mem_keys_erase.mpr ⟨held.2 other later, apart⟩

theorem yields_removeObject {id : GivenId} (keyed : s.predicators.KeyedBy Predicator.id) :
    (removeObject id).Yields s
      (fun _ t => (s.object? id.shown).isSome ∧ t = s.withoutObject id.shown)
      fun _ t => t = s := by
  refine yields_bind (yields_requireObject (fun o found => ?_) fun _ => rfl)
  refine yields_bind (yields_update (yields_bind (yields_current ?_)))
  have listed : ∀ r ∈ s.played id.shown, r ∈ s.predicators.values :=
    fun r member => List.mem_of_mem_filter member
  have held : ∀ r ∈ s.played id.shown, r.id ∈ s.predicators.keys := fun r member =>
    OrderedMap.mem_keys_of_find? (keyed.find?_id (listed r member))
  have distinct : ((s.played id.shown).map (·.id)).Nodup :=
    keyed.nodup_ids.sublist (List.Sublist.map _ List.filter_sublist)
  have object : (s.object? id.shown).isSome := found ▸ rfl
  refine yields_bind (yields_removeRoles (s := s.eraseObject id.shown) held distinct ?_)
  exact yields_logged ⟨object, rfl⟩

theorem yields_removeFactType {id : GivenId} :
    (removeFactType id).Yields s
      (fun _ t => ∃ f, s.factTypes.find? id.shown = some f ∧ t = s.eraseFactType id.shown f)
      fun _ t => t = s := by
  refine yields_bind (yields_current ?_)
  by_cases none : s.factTypes.keys.isEmpty = true
  · simp only [none, if_true]
    exact yields_bind (yields_throw rfl)
  · simp only [none]
    refine yields_bind (yields_requireFactType (fun f found => ?_) fun _ => rfl)
    exact yields_update ⟨f, found, rfl⟩

theorem yields_removeConstraint {id : GivenId} {done : Unit → Schema → Prop}
    (removed : ∀ category, s.constraintCategory? id.shown = some category →
      done () (s.withoutConstraint id.shown category))
    (absent : ∀ error, (∀ key, id = .text key → s.constraintCategory? key = none) →
      failed error s) : (removeConstraint id).Yields s done failed := by
  refine yields_bind (yields_current ?_)
  refine yields_bind (yields_lookUpText (fun category found => ?_) absent)
  refine yields_bind (yields_update ?_)
  have made := removed category found
  cases category with
  | totalRole =>
    cases held : s.totalRoleConstraints.find? id.shown with
    | some c =>
      simp only [withoutConstraint, held] at made
      exact yields_update made
    | none =>
      simp only [withoutConstraint, held] at made
      exact yields_pure made
  | _ => exact yields_pure made

end Builder

end FactModel
