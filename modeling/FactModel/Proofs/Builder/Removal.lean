import FactModel.Proofs.Builder.Tidy
import FactModel.Proofs.Schema.Losses

/-!
Removals. Of a schema without issues the check reports, once something is removed, exactly the
constraints, children and roles that still refer to what is gone.
-/

namespace FactModel

inductive Removal where
  | object (id : String)
  | factType (id : String)
  | constraint (id : String)

namespace Removal

/-- An object goes with the roles that it plays, a fact type with the roles that it lists. -/
def loss (s : Schema) : Removal → Loss
  | object id => ⟨[id], [], (s.played id).map (·.id)⟩
  | factType id => ⟨[], [id], ((s.factTypes.find? id).map (·.predicators)).getD []⟩
  | constraint _ => ⟨[], [], []⟩

/-- The element is gone, and links to it are cut: its roles, the objectification of a fact type,
and an identifier of entities. A fact type keeps the link to the entity that stands for it. -/
def Unlinked (s t : Schema) : Removal → Prop
  | object id =>
    t.hasObject id = false ∧ (∀ r ∈ t.predicators.values, r.objectId ≠ id) ∧
      ∀ key, (t.factTypes.find? key).map (·.objectifiedAsId) =
        (s.factTypes.find? key).map (·.objectifiedAsId)
  | factType id =>
    id ∉ t.factTypes.keys ∧ ∀ e ∈ t.entities.values, e.objectifiedFactTypeId ≠ some id
  | constraint id =>
    (∀ category, s.constraintCategory? id = some category → id ∉ t.constraintIds category) ∧
      ∀ e ∈ t.entities.values, id ∉ e.identifiers

/-- The roles that go with what was removed are gone from the schema and from its fact types. -/
structure Gone (s t : Schema) (removal : Removal) : Prop where
  unlinked : removal.Unlinked s t
  roles : ∀ role ∈ (removal.loss s).predicators, role ∉ t.predicators.keys
  lists : ∀ f ∈ t.factTypes.values, ∀ role ∈ (removal.loss s).predicators, role ∉ f.predicators

/-- What a removal makes of a schema. -/
inductive Removed (s : Schema) : Removal → Schema → Prop
  | object (id : String) (found : (s.object? id).isSome) :
      Removed s (.object id) (s.withoutObject id)
  | factType (id : String) (f : FactType) (found : s.factTypes.find? id = some f) :
      Removed s (.factType id) (s.eraseFactType id f)
  | constraint (id : String) (category : ConstraintCategory)
      (found : s.constraintCategory? id = some category) :
      Removed s (.constraint id) (s.withoutConstraint id category)

end Removal

/-- What an operation removes, by the id among its arguments. -/
def Operation.removal? (f : Fields) : Operation → Option Removal
  | removeObject => some (.object (f.id "object_id").shown)
  | removeFactType => some (.factType (f.id "fact_type_id").shown)
  | removeConstraint => some (.constraint (f.id "constraint_id").shown)
  | _ => none

namespace Schema

variable {s : Schema} {id : String}

/-! An object that goes -/

theorem references_withoutObject (s : Schema) (id : String) :
    (s.withoutObject id).references = s.references := by
  obtain ⟨_, _, same⟩ := dropRoles_eq (s.eraseObject id) (s.played id)
  rw [withoutObject, same]
  funext category
  cases category <;> rfl

theorem mem_played_iff (keyed : s.Keyed) {key : String} {r : Predicator}
    (found : s.predicators.find? key = some r) :
    key ∈ (s.played id).map (·.id) ↔ r.objectId = id := by
  constructor
  · intro member
    obtain ⟨q, plays, rfl⟩ := List.mem_map.mp member
    obtain ⟨held, player⟩ := List.mem_filter.mp plays
    rw [keyed.predicators.find?_id held, Option.some.injEq] at found
    exact found ▸ eq_of_beq player
  · intro player
    have plays : r ∈ s.played id :=
      List.mem_filter.mpr ⟨OrderedMap.mem_values_of_find? found, beq_iff_eq.mpr player⟩
    exact List.mem_map.mpr ⟨r, plays, keyed.predicators.id_of_find? found⟩

theorem hasObject_withoutObject (s : Schema) (id key : String) :
    (s.withoutObject id).hasObject key = true ↔ s.hasObject key = true ∧ key ≠ id := by
  rw [← object?_isSome_iff, withoutObject, object?_dropRoles, object?_isSome_iff]
  by_cases same : key = id
  · simp [hasObject, eraseObject, OrderedMap.contains, OrderedMap.find?_erase, same]
  · simp [hasObject, eraseObject, OrderedMap.contains, OrderedMap.find?_erase, same]

/-- A role that leaves with its player is listed by its own fact type only. -/
theorem not_mem_of_played (keyed : s.Keyed) (tidy : s.Tidy) (clean : s.issues = [])
    {key role : String} {f g : FactType} (fact : s.factTypes.find? key = some g)
    (after : (s.withoutObject id).factTypes.find? key = some f) (listed : role ∈ f.predicators) :
    role ∈ g.predicators ∧ role ∉ (s.played id).map (·.id) := by
  rw [withoutObject, find?_dropRoles] at after
  replace after : (s.factTypes.find? key).map _ = some f := after
  rw [fact, Option.map_some, Option.some.injEq] at after
  subst after
  obtain ⟨before, stays⟩ := (tidy.roles key g fact).mem_sdiff_iff.mp listed
  refine ⟨before, fun member => stays ?_⟩
  obtain ⟨r, plays, rfl⟩ := List.mem_map.mp member
  have found := keyed.predicators.find?_id (List.mem_of_mem_filter plays)
  have owner : r.factTypeId = key := by
    by_contra foreign
    exact not_defect clean _ (.factPredicatorForeign fact before found foreign)
  exact List.mem_map.mpr ⟨r, List.mem_filter.mpr ⟨plays, by simpa using owner⟩, rfl⟩

theorem without_object (keyed : s.Keyed) (tidy : s.Tidy) (clean : s.issues = []) (id : String) :
    s.Without (s.withoutObject id) ((Removal.object id).loss s) := by
  have refers := references_withoutObject s id
  obtain ⟨facts, held, same⟩ := dropRoles_eq (s.eraseObject id) (s.played id)
  have eq : s.withoutObject id =
      { s.eraseObject id with factTypes := facts, predicators := held } := same
  constructor
  case objects =>
    intro key
    simpa [Removal.loss] using hasObject_withoutObject s id key
  case labelTypes =>
    intro key
    rw [eq]
    simpa [Removal.loss, eraseObject] using OrderedMap.mem_keys_erase
  case factTypes =>
    intro key
    rw [← OrderedMap.find?_isSome_iff, withoutObject, find?_dropRoles, Option.isSome_map,
      OrderedMap.find?_isSome_iff]
    simp [Removal.loss, eraseObject]
  case sides =>
    exact side_dropRoles (s.eraseObject id) (s.played id)
  case played =>
    intro key r found player
    exact (mem_played_iff keyed found).mpr (List.mem_singleton.mp player)
  case lists =>
    intro key f after
    have before := after
    rw [withoutObject, find?_dropRoles] at before
    obtain ⟨g, fact, _⟩ := Option.map_eq_some_iff.mp before
    exact ⟨g, fact, fun role => not_mem_of_played keyed tidy clean fact after⟩
  case entities =>
    intro key
    rw [eq]
    simpa [Removal.loss, eraseObject] using OrderedMap.mem_keys_erase
  case links =>
    intro key e found
    rw [eq] at found
    obtain ⟨_, old⟩ := OrderedMap.find?_erase_eq_some.mp found
    exact ⟨e, old, rfl, rfl, List.Subset.refl _⟩
  case uniques =>
    intro key c found
    rwa [eq] at found
  case sets =>
    intro key c found
    rwa [eq] at found
  case refers =>
    intro category key r held
    rwa [Refers, refers] at held
  case refersBack =>
    intro category key r held _ _
    rwa [Refers, refers]

/-! A fact type that goes -/

theorem without_factType (clean : s.issues = []) {f : FactType}
    (found : s.factTypes.find? id = some f) :
    s.Without (s.eraseFactType id f) ((Removal.factType id).loss s) := by
  have listed : ((Removal.factType id).loss s).predicators = f.predicators := by
    simp [Removal.loss, found]
  constructor
  case objects =>
    intro key
    simp [Removal.loss, hasObject, eraseFactType, OrderedMap.contains, OrderedMap.find?_mapValues]
  case labelTypes =>
    intro key
    simp [Removal.loss, eraseFactType]
  case factTypes =>
    intro key
    simpa [Removal.loss, eraseFactType] using OrderedMap.mem_keys_erase
  case sides =>
    intro key
    rw [listed, eraseFactType, OrderedMap.find?_foldl_erase]
    split <;> rfl
  case played =>
    intro key r _ player
    cases player
  case lists =>
    intro key g after
    obtain ⟨other, before⟩ := OrderedMap.find?_erase_eq_some.mp after
    refine ⟨g, before, fun role member => ⟨member, fun removed => ?_⟩⟩
    rw [listed] at removed
    cases held : s.predicators.find? role with
    | none => exact not_defect clean _ (.factPredicatorMissing before member held)
    | some r =>
      -- the role would be one of both fact types
      have foreign : r.factTypeId ≠ key ∨ r.factTypeId ≠ id := by
        by_cases own : r.factTypeId = key
        · exact .inr fun same => other (own.symm.trans same)
        · exact .inl own
      rcases foreign with foreign | foreign
      · exact not_defect clean _ (.factPredicatorForeign before member held foreign)
      · exact not_defect clean _ (.factPredicatorForeign found removed held foreign)
  case entities =>
    intro key
    simp [Removal.loss, eraseFactType]
  case links =>
    intro key e after
    rw [eraseFactType, OrderedMap.find?_mapValues] at after
    obtain ⟨d, before, rfl⟩ := Option.map_eq_some_iff.mp after
    refine ⟨d, before, ?_⟩
    split
    · exact ⟨rfl, rfl, List.Subset.refl _⟩
    · exact ⟨rfl, rfl, List.Subset.refl _⟩
  case uniques =>
    exact fun _ _ after => after
  case sets =>
    exact fun _ _ after => after
  case refers =>
    intro category key r held
    cases category <;> exact held
  case refersBack =>
    intro category key r held _ _
    cases category <;> exact held

/-! A constraint that goes -/

theorem refers_of_eraseConstraint (s : Schema) (id : String) (category : ConstraintCategory)
    {other : ConstraintCategory} {key : String} {r : ElementRef}
    (refers : (s.eraseConstraint id category).Refers other key r) : s.Refers other key r := by
  obtain ⟨refs, member, listed⟩ := refers
  refine ⟨refs, ?_, listed⟩
  have kept : ∀ {α : Type} (m : OrderedMap α) (make : String × α → String × List ElementRef),
      (key, refs) ∈ (m.erase id).entries.map make → (key, refs) ∈ m.entries.map make :=
    fun m make held => List.map_subset make (List.filter_subset_self _) held
  cases category <;> cases other <;> first | exact member | exact kept _ _ member

theorem find?_entities_withoutConstraint (s : Schema) (id : String)
    (category : ConstraintCategory) (key : String) :
    (s.withoutConstraint id category).entities.find? key =
      (s.entities.find? key).map fun e => { e with identifiers := e.identifiers.erase id } := by
  obtain ⟨_, _, eq⟩ := withoutConstraint_eq s id category
  have kept : (s.eraseConstraint id category).entities = s.entities := by cases category <;> rfl
  rw [eq, ← kept]
  exact OrderedMap.find?_mapValues ..

theorem without_constraint (id : String) (category : ConstraintCategory) :
    s.Without (s.withoutConstraint id category) ((Removal.constraint id).loss s) := by
  obtain ⟨held, sides, eq⟩ := withoutConstraint_eq s id category
  rw [eq]
  constructor
  case objects =>
    intro key
    cases category <;> simp [Removal.loss, hasObject, unlistIdentifier, eraseConstraint,
      OrderedMap.contains, OrderedMap.find?_mapValues]
  case labelTypes =>
    intro key
    cases category <;> simp [Removal.loss, unlistIdentifier, eraseConstraint]
  case factTypes =>
    intro key
    cases category <;> simp [Removal.loss, unlistIdentifier, eraseConstraint]
  case sides =>
    intro key
    simpa [Removal.loss] using sides key
  case played =>
    intro key r _ player
    cases player
  case lists =>
    intro key f found
    refine ⟨f, ?_, fun role member => ⟨member, List.not_mem_nil⟩⟩
    cases category <;> exact found
  case entities =>
    intro key
    cases category <;> simp [Removal.loss, unlistIdentifier, eraseConstraint]
  case links =>
    intro key e found
    rw [← eq, find?_entities_withoutConstraint] at found
    obtain ⟨d, before, rfl⟩ := Option.map_eq_some_iff.mp found
    exact ⟨d, before, rfl, rfl, List.erase_subset⟩
  case uniques =>
    intro key c found
    cases category with
    | uniqueness => exact (OrderedMap.find?_erase_eq_some.mp found).2
    | _ => exact found
  case sets =>
    intro key c found
    cases category with
    | set => exact (OrderedMap.find?_erase_eq_some.mp found).2
    | _ => exact found
  case refers =>
    intro other key r refers
    refine refers_of_eraseConstraint s id category ?_
    cases category <;> cases other <;> exact refers
  case refersBack =>
    intro other key r _ resolved taken
    exact absurd taken (Loss.not_takes_of_nothing resolved)

end Schema

open Schema

namespace Removal.Removed

variable {s t : Schema} {removal : Removal}

theorem without (removed : Removed s removal t) (keyed : s.Keyed) (tidy : s.Tidy)
    (clean : s.issues = []) : s.Without t (removal.loss s) := by
  cases removed with
  | object id => exact without_object keyed tidy clean id
  | factType id f found => exact without_factType clean found
  | constraint id category => exact without_constraint id category

theorem unlinked_object {id : String}
    (without : s.Without (s.withoutObject id) ((Removal.object id).loss s)) :
    (Removal.object id).Unlinked s (s.withoutObject id) := by
  refine ⟨?_, ?_, ?_⟩
  · apply eq_false_of_ne_true
    exact fun held => ((without.objects id).mp held).2 (List.mem_singleton.mpr rfl)
  · intro r member player
    obtain ⟨key, found⟩ := OrderedMap.exists_find?_of_mem_values member
    obtain ⟨stays, q, before, _, same⟩ := without.role found
    exact stays (without.played key q before (List.mem_singleton.mpr (same.trans player)))
  · intro key
    rw [withoutObject, find?_dropRoles, Option.map_map]
    rfl

theorem unlinked_factType (s : Schema) (id : String) (f : FactType) :
    (Removal.factType id).Unlinked s (s.eraseFactType id f) := by
  constructor
  · exact fun held => (OrderedMap.mem_keys_erase.mp held).2 rfl
  · intro e member
    obtain ⟨key, found⟩ := OrderedMap.exists_find?_of_mem_values member
    rw [eraseFactType, OrderedMap.find?_mapValues] at found
    obtain ⟨d, _, rfl⟩ := Option.map_eq_some_iff.mp found
    split
    · exact (Option.some_ne_none id).symm
    · rename_i other
      simpa using other

theorem unlinked_constraint (tidy : s.Tidy) {id : String} {category : ConstraintCategory}
    (found : s.constraintCategory? id = some category) :
    (Removal.constraint id).Unlinked s (s.withoutConstraint id category) := by
  constructor
  · intro category' found'
    rw [found, Option.some.injEq] at found'
    subst found'
    obtain ⟨_, _, eq⟩ := withoutConstraint_eq s id category
    rw [eq]
    cases category <;> exact fun held => (OrderedMap.mem_keys_erase.mp held).2 rfl
  · intro e member
    obtain ⟨key, found⟩ := OrderedMap.exists_find?_of_mem_values member
    rw [find?_entities_withoutConstraint] at found
    obtain ⟨d, before, rfl⟩ := Option.map_eq_some_iff.mp found
    exact (tidy.identifiers key d before).not_mem_erase

theorem unlinked (removed : Removed s removal t) (without : s.Without t (removal.loss s))
    (tidy : s.Tidy) : removal.Unlinked s t := by
  cases removed with
  | object id => exact unlinked_object without
  | factType id f => exact unlinked_factType s id f
  | constraint id category found => exact unlinked_constraint tidy found

theorem gone (removed : Removed s removal t) (keyed : s.Keyed) (tidy : s.Tidy)
    (clean : s.issues = []) : removal.Gone s t := by
  have without := removed.without keyed tidy clean
  refine ⟨removed.unlinked without tidy, ?_, ?_⟩
  · exact fun role lost held => ((without.predicators role).mp held).2 lost
  · intro f member role lost listed
    obtain ⟨key, found⟩ := OrderedMap.exists_find?_of_mem_values member
    obtain ⟨_, _, lists⟩ := without.lists key f found
    exact (lists role listed).2 lost

end Removal.Removed

namespace Builder

open Edit Removal

variable {b after : Builder} {f : Fields} {op : Operation} {removal : Removal}

theorem yields_removal {s : Schema} (keyed : s.predicators.KeyedBy Predicator.id)
    (removes : op.removal? f = some removal) :
    (perform f op).Yields s (fun _ t => Removed s removal t) fun _ t => t = s := by
  cases op with
  | removeObject =>
    cases removes
    refine yields_bind ((yields_removeObject keyed).imp ?_ fun _ _ same => same)
    rintro _ _ ⟨found, rfl⟩
    exact yields_pure (.object _ found)
  | removeFactType =>
    cases removes
    refine yields_bind (yields_removeFactType.imp ?_ fun _ _ same => same)
    rintro _ _ ⟨factType, found, rfl⟩
    exact yields_pure (.factType _ factType found)
  | removeConstraint =>
    cases removes
    refine yields_bind (yields_removeConstraint (fun category found => ?_) fun _ _ => rfl)
    exact yields_pure (.constraint _ category found)
  | _ => cases removes

theorem removed_of_run (keyed : b.schema.predicators.KeyedBy Predicator.id) {name : String}
    (named : Operation.ofName? name = some op) (removes : op.removal? f = some removal) {v : Value}
    (run : b.run name f = (.ok v, after)) : Removed b.schema removal after.schema := by
  rcases outcome_of_run run with ⟨⟨_, failed⟩, _⟩ | ⟨op', done, named', _, same, outcome⟩
  · cases failed
  · rw [named, Option.some.injEq] at named'
    subst named'
    rcases outcome with ⟨w, _, performed⟩ | ⟨_, failed, _⟩
    · rw [same]
      exact (yields_removal keyed removes).of_ok rfl performed
    · cases failed

/-- A removal takes out the element and the roles that go with it. What the check then reports of
a schema that had no issues are the references that are left to them: those of constraints, and
those of children to a parent and of unlisted roles to a fact type. Nothing refers to a constraint
that was removed. -/
theorem issues_of_removal {before : Builder} {id title version : String}
    (start : b.schema = { id := id, name := title, version := version })
    (reached : b.Reached before) (clean : before.schema.issues = []) {name : String}
    (named : Operation.ofName? name = some op) (removes : op.removal? f = some removal) {v : Value}
    (run : before.run name f = (.ok v, after)) :
    removal.Gone before.schema after.schema ∧
    (∀ issue, issue ∈ after.schema.issues ↔
      before.schema.Dangling (removal.loss before.schema) issue) ∧
    (op = .removeConstraint → after.schema.issues = []) := by
  have keyed := keyed_of_reached start reached
  have tidy := tidy_of_reached start reached
  have removed := removed_of_run keyed.predicators named removes run
  have reported : ∀ issue, issue ∈ after.schema.issues ↔
      before.schema.Dangling (removal.loss before.schema) issue :=
    fun _ => (removed.without keyed tidy clean).mem_issues clean
  refine ⟨removed.gone keyed tidy clean, reported, ?_⟩
  rintro rfl
  cases removes
  rw [List.eq_nil_iff_forall_not_mem]
  exact fun issue here => not_dangling_of_nothing clean issue ((reported issue).mp here)

/-- A person has to smoke, and a student is a person. -/
def smokers : Builder :=
  runAll ⟨{ id := "smokers", name := "smokers", version := "1.0" }, ∅, [], []⟩ [
    ("add_entity", [("name", .str "Person")]),
    ("add_entity", [("name", .str "Student")]),
    ("specialize", [("child_id", .str "entity_2"), ("parent_id", .str "entity_1")]),
    ("add_unary_fact_type", [("object_id", .str "entity_1"), ("name", .str "smokes")]),
    ("add_mandatory", [("predicator_id", .str "role_1")])]

def dropPerson : Fields := [("object_id", .str "entity_1")]

theorem run_dropPerson : smokers.run "remove_object" dropPerson =
    (.ok .null, (smokers.run "remove_object" dropPerson).2) := rfl

theorem issues_smokers : smokers.schema.issues = [] := rfl

theorem refers_smokers :
    smokers.schema.Refers .totalRole "mandatory_1" (.predicator "role_1") :=
  ⟨_, List.mem_singleton.mpr rfl, List.mem_cons_self⟩

/-- The mandatory constraint still refers to the role that went with its player. -/
theorem issues_of_removal_person :
    smokers.schema.issues = [] ∧
    (Removal.object "entity_1").Gone smokers.schema
      (smokers.run "remove_object" dropPerson).2.schema ∧
    .constraintReference "mandatory_1" .totalRole "role_1" ∈
      (smokers.run "remove_object" dropPerson).2.schema.issues := by
  obtain ⟨gone, reported, _⟩ := issues_of_removal rfl (Reached.start.runAll _) issues_smokers rfl
    rfl run_dropPerson
  refine ⟨issues_smokers, gone, (reported _).mpr ?_⟩
  exact .constraint refers_smokers (List.mem_singleton.mpr rfl)

theorem not_every_removal_clean :
    ¬ ∀ (b before after : Builder) (id title version : String)
      (_ : b.schema = { id := id, name := title, version := version }) (_ : b.Reached before)
      (_ : before.schema.issues = []) (name : String) (op : Operation)
      (_ : Operation.ofName? name = some op) (f : Fields) (removal : Removal)
      (_ : op.removal? f = some removal) (v : Value) (_ : before.run name f = (.ok v, after)),
      after.schema.issues = [] := by
  intro claim
  have clean := claim _ _ _ _ _ _ rfl (Reached.start.runAll _) issues_smokers _ _ rfl _ _ rfl _
    run_dropPerson
  have reported : (smokers.run "remove_object" dropPerson).2.schema.issues.length = 3 := by
    decide +kernel
  rw [clean] at reported
  cases reported

end Builder

end FactModel
