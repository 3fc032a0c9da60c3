import FactModel.Proofs.Builder.Atomicity
import FactModel.Proofs.Builder.Removal
import FactModel.Proofs.Builder.RoleNumbers

/-!
Roles that are optional while a schema is edited. A role under a mandatory constraint is not
optional, and where nobody says so when roles are made, all other roles are.
-/

namespace FactModel

namespace Schema

variable {s t : Schema}

/-- A mandatory constraint refers to the role. -/
def Mandates (s : Schema) (role : String) : Prop :=
  ∃ c ∈ s.totalRoleConstraints.values, c.predicatorId = role

theorem mandates_iff {role : String} : s.Mandates role ↔
    ∃ id c, s.totalRoleConstraints.find? id = some c ∧ c.predicatorId = role := by
  constructor
  · rintro ⟨c, member, refers⟩
    obtain ⟨id, found⟩ := OrderedMap.exists_find?_of_mem_values member
    exact ⟨id, c, found, refers⟩
  · rintro ⟨id, c, found, refers⟩
    exact ⟨c, OrderedMap.mem_values_of_find? found, refers⟩

theorem mandates_of_same (same : t.totalRoleConstraints = s.totalRoleConstraints) (role : String) :
    t.Mandates role ↔ s.Mandates role := by
  unfold Mandates
  rw [same]

theorem mandates_insert {c : TotalRoleConstraint} (fresh : c.id ∉ s.ids)
    (made : t.totalRoleConstraints = s.totalRoleConstraints.insert c.id c) (role : String) :
    t.Mandates role ↔ c.predicatorId = role ∨ s.Mandates role := by
  have unused : ∀ d, s.totalRoleConstraints.find? c.id ≠ some d := fun d found =>
    not_mem_constraintIds fresh .totalRole (OrderedMap.mem_keys_of_find? found)
  simp only [mandates_iff, made, OrderedMap.find?_insert_eq_some]
  constructor
  · rintro ⟨id, d, ⟨rfl, rfl⟩ | ⟨_, found⟩, refers⟩
    · exact .inl refers
    · exact .inr ⟨id, d, found, refers⟩
  · rintro (refers | ⟨id, d, found, refers⟩)
    · exact ⟨c.id, c, .inl ⟨rfl, rfl⟩, refers⟩
    · refine ⟨id, d, .inr ⟨?_, found⟩, refers⟩
      rintro rfl
      exact unused d found

/-- A constraint that goes takes its role with it, unless another one refers to the role. -/
theorem mandates_erase {id : String} {c : TotalRoleConstraint}
    (found : s.totalRoleConstraints.find? id = some c)
    (made : t.totalRoleConstraints = s.totalRoleConstraints.erase id) (role : String) :
    s.Mandates role ↔ c.predicatorId = role ∨ t.Mandates role := by
  simp only [mandates_iff, made, OrderedMap.find?_erase_eq_some]
  constructor
  · rintro ⟨other, d, held, refers⟩
    by_cases same : other = id
    · subst same
      obtain rfl := Option.some.inj (found.symm.trans held)
      exact .inl refers
    · exact .inr ⟨other, d, ⟨same, held⟩, refers⟩
  · rintro (refers | ⟨other, d, ⟨_, held⟩, refers⟩)
    · exact ⟨id, c, found, refers⟩
    · exact ⟨other, d, held, refers⟩

/-- Where the flag of a role comes from: the role has kept it, it is new, or it has been settled by
whether a mandatory constraint refers to it. -/
inductive Flagged (s t : Schema) (role : String) (isOptional : Bool) : Prop
  | kept (q : Predicator) (before : s.predicators.find? role = some q)
      (same : isOptional = q.isOptional) (mandates : t.Mandates role ↔ s.Mandates role)
  | new (absent : s.predicators.find? role = none) (mandates : t.Mandates role ↔ s.Mandates role)
  | settled (optional : isOptional = true ↔ ¬ t.Mandates role)

theorem Flagged.of_same {role : String} {r : Predicator} (found : t.predicators.find? role = some r)
    (roles : t.predicators = s.predicators)
    (totals : t.totalRoleConstraints = s.totalRoleConstraints) : s.Flagged t role r.isOptional :=
  .kept r (roles ▸ found) rfl (mandates_of_same totals role)

theorem flagged_putRoles {factType : String} {objects : List ObjectType} {roles : List Predicator}
    (new : NewRoles factType s 0 objects roles) {role : String} {r : Predicator}
    (found : (s.putRoles roles).predicators.find? role = some r)
    (totals : t.totalRoleConstraints = s.totalRoleConstraints) :
    s.Flagged t role r.isOptional := by
  rcases new.find?_putRoles_iff.mp found with ⟨made, rfl⟩ | old
  · exact .new (new.not_mem_predicators made) (mandates_of_same totals _)
  · exact .kept r old rfl (mandates_of_same totals role)

theorem flagged_relaxRole {id : String} {c : TotalRoleConstraint}
    (found : s.totalRoleConstraints.find? id = some c) (roles : t.predicators = s.predicators)
    (erased : t.totalRoleConstraints = s.totalRoleConstraints.erase id) {role : String}
    {r : Predicator} (held : (t.relaxRole c.predicatorId).predicators.find? role = some r) :
    s.Flagged (t.relaxRole c.predicatorId) role r.isOptional := by
  have mandates := mandates_erase found erased
  unfold relaxRole at held ⊢
  by_cases others :
      (t.totalRoleConstraints.values.any fun d => d.predicatorId == c.predicatorId) = true
  · have still : t.Mandates c.predicatorId := by simpa [Mandates] using others
    rw [if_pos others] at held ⊢
    refine .kept r (roles ▸ held) rfl ?_
    rw [mandates role]
    exact (or_iff_right_of_imp fun same => same ▸ still).symm
  · have free : ¬ t.Mandates c.predicatorId := by simpa [Mandates] using others
    rw [if_neg others] at held ⊢
    have same := mandates_of_same (s := t) (t := { t with
      predicators := t.predicators.modify c.predicatorId fun r => { r with isOptional := true } })
      rfl role
    rw [OrderedMap.find?_modify] at held
    by_cases own : role = c.predicatorId
    · subst own
      rw [if_pos rfl] at held
      obtain ⟨q, _, rfl⟩ := Option.map_eq_some_iff.mp held
      exact .settled (iff_of_true rfl (mt same.mp free))
    · rw [if_neg own] at held
      refine .kept r (roles ▸ held) rfl ?_
      rw [same, mandates role]
      exact (or_iff_right (Ne.symm own)).symm

theorem flagged_withoutConstraint {id : String} {category : ConstraintCategory}
    (found : s.constraintCategory? id = some category) {role : String} {r : Predicator}
    (held : (s.withoutConstraint id category).predicators.find? role = some r) :
    s.Flagged (s.withoutConstraint id category) role r.isOptional := by
  cases category with
  | totalRole =>
    have listed : id ∈ s.constraintIds .totalRole := by simpa using List.find?_some found
    obtain ⟨c, there⟩ := OrderedMap.exists_find?_of_mem_keys listed
    simp only [withoutConstraint, there] at held ⊢
    exact flagged_relaxRole (t := (s.eraseConstraint id .totalRole).unlistIdentifier id) there rfl
      rfl held
  | _ => exact .of_same held rfl rfl

end Schema

open Schema

variable {s t : Schema} {given : Option (Reading String)}

theorem Change.flagged (change : Change given s t) {role : String} {r : Predicator}
    (found : t.predicators.find? role = some r) : s.Flagged t role r.isOptional := by
  cases change with
  | factType id name ids objects roles picked there new =>
    exact flagged_putRoles new found (totalRoleConstraints_putRoles roles)
  | uniqueness c primary =>
    have relinked := Relinked.attachIdentifier
      { s with uniqueConstraints := s.uniqueConstraints.insert c.id c } c.id primary
    exact .of_same found relinked.predicators relinked.totalRoleConstraints
  | totalRole c q there player fresh =>
    have mandates := mandates_insert (t := { s with
      predicators := s.predicators.modify c.predicatorId fun r => { r with isOptional := false }
      totalRoleConstraints := s.totalRoleConstraints.insert c.id c }) fresh rfl role
    rw [OrderedMap.find?_modify] at found
    by_cases own : role = c.predicatorId
    · rw [if_pos own] at found
      obtain ⟨q, _, rfl⟩ := Option.map_eq_some_iff.mp found
      have still := mandates.mpr (.inl own.symm)
      exact .settled (iff_of_false Bool.false_ne_true (not_not_intro still))
    · rw [if_neg own] at found
      exact .kept r found rfl (mandates.trans (or_iff_right (Ne.symm own)))
  | objectRemoval id =>
    have flags := map_find?_dropRoles (g := (·.isOptional)) (fun _ _ => rfl) (s.eraseObject id)
      (s.played id) role
    rw [← withoutObject, found] at flags
    split at flags
    · cases flags
    · obtain ⟨q, before, same⟩ := Option.map_eq_some_iff.mp flags.symm
      obtain ⟨_, _, dropped⟩ := dropRoles_eq (s.eraseObject id) (s.played id)
      refine .kept q before same.symm (mandates_of_same ?_ role)
      rw [withoutObject, dropped]
      rfl
  | factTypeRemoval id f =>
    rw [eraseFactType, OrderedMap.find?_foldl_erase] at found
    split at found
    · cases found
    · exact .kept r found rfl (mandates_of_same rfl role)
  | constraintRemoval id category there => exact flagged_withoutConstraint there found
  | _ => exact .of_same found rfl rfl

/-- A mandatory constraint was there before, or its role was. -/
theorem Change.mandates (change : Change given s t) {role : String} (mandates : t.Mandates role) :
    s.Mandates role ∨ role ∈ s.predicators.keys := by
  cases change with
  | factType id name ids objects roles =>
    exact .inl ((mandates_of_same (totalRoleConstraints_putRoles roles) role).mp mandates)
  | uniqueness c primary =>
    have relinked := Relinked.attachIdentifier
      { s with uniqueConstraints := s.uniqueConstraints.insert c.id c } c.id primary
    exact .inl ((mandates_of_same relinked.totalRoleConstraints role).mp mandates)
  | totalRole c q there player fresh =>
    rcases (mandates_insert fresh rfl role).mp mandates with rfl | before
    · exact .inr (OrderedMap.mem_keys_of_find? there)
    · exact .inl before
  | objectRemoval id =>
    obtain ⟨_, _, dropped⟩ := dropRoles_eq (s.eraseObject id) (s.played id)
    rw [withoutObject, dropped] at mandates
    exact .inl mandates
  | constraintRemoval id category there =>
    obtain ⟨_, _, eq⟩ := withoutConstraint_eq s id category
    rw [eq] at mandates
    obtain ⟨other, c, found, refers⟩ := mandates_iff.mp mandates
    refine .inl (mandates_iff.mpr ⟨other, c, ?_, refers⟩)
    cases category with
    | totalRole => exact (OrderedMap.find?_erase_eq_some.mp found).2
    | _ => exact found
  | _ => exact .inl mandates

/-- A schema changes as an operation changes it, or it gets new roles that are left behind. -/
def Altered (given : Option (Reading String)) (s t : Schema) : Prop :=
  Change given s t ∨
    ∃ factType objects roles, NewRoles factType s 0 objects roles ∧ t = s.putRoles roles

theorem Altered.flagged (altered : Altered given s t) {role : String} {r : Predicator}
    (found : t.predicators.find? role = some r) : s.Flagged t role r.isOptional := by
  rcases altered with change | ⟨_, _, roles, new, rfl⟩
  · exact change.flagged found
  · exact flagged_putRoles new found (totalRoleConstraints_putRoles roles)

theorem Altered.mandates (altered : Altered given s t) {role : String}
    (mandates : t.Mandates role) : s.Mandates role ∨ role ∈ s.predicators.keys := by
  rcases altered with change | ⟨_, _, roles, _, rfl⟩
  · exact change.mandates mandates
  · exact .inl ((mandates_of_same (totalRoleConstraints_putRoles roles) role).mp mandates)

namespace Builder

variable {b after : Builder} {name : String} {f : Fields} {outcome : Except BuilderError Value}

/-- The arguments of a request have the types that its operation declares. -/
def isTyped (request : String × Fields) : Bool :=
  match Operation.ofName? request.1 with
  | some op => op.declares request.2
  | none => true

/-- A request for a fact type does not say which roles are optional. -/
def leavesOptional (request : String × Fields) : Bool :=
  match Operation.ofName? request.1 with
  | some .addFactType => (request.2.get "optional").isEmpty
  | _ => true

theorem altered_of_run (keyed : b.schema.predicators.KeyedBy Predicator.id)
    (typed : isTyped (name, f) = true) (run : b.run name f = (outcome, after)) :
    Altered (f.given? "id") b.schema after.schema := by
  cases outcome with
  | ok v => exact .inl (change_of_run keyed run)
  | error error =>
    rcases failure_of_run keyed run with same | ⟨op, named, checked, failure⟩
    · exact .inl (same ▸ .nothing)
    · have declared : op.declares f = true := by simpa [isTyped, named] using typed
      rcases Operation.schema_of_failure declared checked failure with same | ⟨_, _, left⟩
      · exact .inl (same ▸ .nothing)
      · exact .inr left.exists_roles

/-- Without wishes, new roles are optional. -/
theorem isOptional_of_new (keyed : b.schema.predicators.KeyedBy Predicator.id)
    (leaves : leavesOptional (name, f) = true) (run : b.run name f = (outcome, after))
    {role : String} {r : Predicator} (found : after.schema.predicators.find? role = some r)
    (absent : b.schema.predicators.find? role = none) : r.isOptional = true := by
  have unknown := (b.schema.predicators.find?_eq_none_iff role).mp absent
  rcases brings_of_run keyed run with same | ⟨op, named, brings⟩
  · rw [same, absent] at found
    cases found
  · obtain ⟨position, wish, wished, opted⟩ := (brings.roles role r found).resolve_left unknown
    have none : op.roleOptions f position = .ok none := by
      cases op with
      | addFactType =>
        have empty : (f.get "optional").isEmpty = true := by
          simpa [leavesOptional, named] using leaves
        exact congrFun (Fields.wishes_of_empty empty) position
      | _ => rfl
    obtain rfl := Except.ok.inj (wished.symm.trans none)
    exact (Reading.ok.inj opted).symm

/-- What requests keep about mandatory constraints, which may outlast their roles. -/
structure MandatoryRoles (b : Builder) : Prop where
  keyed : b.schema.Keyed
  held : ∀ role ∈ b.schema.predicators.keys, b.Counted role
  referred : ∀ role, b.schema.Mandates role → b.Counted role
  required : ∀ role r, b.schema.predicators.find? role = some r → b.schema.Mandates role →
    r.isOptional = false

theorem MandatoryRoles.of_empty {id title version : String}
    (start : b.schema = { id := id, name := title, version := version }) : b.MandatoryRoles := by
  constructor <;> rw [start]
  · exact .of_empty id title version
  · exact fun _ held => nomatch held
  · rintro _ ⟨_, member, _⟩
    cases member
  · exact fun _ _ found => nomatch found

theorem MandatoryRoles.next (before : b.MandatoryRoles)
    (altered : Altered (f.given? "id") b.schema after.schema)
    (run : b.run name f = (outcome, after)) : after.MandatoryRoles := by
  obtain ⟨keyed, held, referred, required⟩ := before
  have onward := onward_of_run run
  refine ⟨keyed.run run, onward.all_counted held, fun role mandates => ?_, ?_⟩
  · rcases altered.mandates mandates with old | old
    · exact onward.counted (referred role old)
    · exact onward.counted (held role old)
  · intro role r found mandates
    cases altered.flagged found with
    | kept q before same still => exact same.trans (required role q before (still.mp mandates))
    | new absent still =>
      -- a constraint that outlasts its role refers to a number that is not given again
      have there := onward.mem_keys (referred role (still.mp mandates))
        (OrderedMap.mem_keys_of_find? found)
      exact absurd there ((b.schema.predicators.find?_eq_none_iff role).mp absent)
    | settled optional =>
      rw [Bool.eq_false_iff]
      exact fun free => optional.mp free mandates

theorem MandatoryRoles.runAll (before : b.MandatoryRoles) {requests : List (String × Fields)}
    (typed : ∀ request ∈ requests, isTyped request = true) :
    (b.runAll requests).MandatoryRoles := by
  induction requests generalizing b with
  | nil => exact before
  | cons request rest ih =>
    rw [List.forall_mem_cons] at typed
    exact ih (before.next (altered_of_run before.keyed.predicators typed.1 rfl) rfl) typed.2

/-- All roles but those under a mandatory constraint are optional. -/
def FreeRoles (b : Builder) : Prop :=
  ∀ role r, b.schema.predicators.find? role = some r → ¬ b.schema.Mandates role →
    r.isOptional = true

theorem FreeRoles.next (before : b.FreeRoles) (keyed : b.schema.Keyed)
    (typed : isTyped (name, f) = true) (leaves : leavesOptional (name, f) = true)
    (run : b.run name f = (outcome, after)) : after.FreeRoles := by
  intro role r found free
  cases (altered_of_run keyed.predicators typed run).flagged found with
  | kept q old same still => exact same.trans (before role q old (mt still.mpr free))
  | new absent => exact isOptional_of_new keyed.predicators leaves run found absent
  | settled optional => exact optional.mpr free

theorem FreeRoles.runAll (before : b.FreeRoles) (keyed : b.schema.Keyed)
    {requests : List (String × Fields)} (typed : ∀ request ∈ requests, isTyped request = true)
    (leaves : ∀ request ∈ requests, leavesOptional request = true) :
    (b.runAll requests).FreeRoles := by
  induction requests generalizing b with
  | nil => exact before
  | cons request rest ih =>
    rw [List.forall_mem_cons] at typed leaves
    exact ih (before.next keyed typed.1 leaves.1 rfl) (keyed.run rfl) typed.2 leaves.2

/-- After any requests, whether they succeed or fail, roles under a mandatory constraint are not
optional. Where no request says which roles are optional, all others are. -/
theorem isOptional_of_requests {id title version : String}
    (start : b.schema = { id := id, name := title, version := version })
    (requests : List (String × Fields)) (typed : ∀ request ∈ requests, isTyped request = true) :
    (∀ role r, (b.runAll requests).schema.predicators.find? role = some r →
      (b.runAll requests).schema.Mandates role → r.isOptional = false) ∧
    ((∀ request ∈ requests, leavesOptional request = true) →
      ∀ role r, (b.runAll requests).schema.predicators.find? role = some r →
        ¬ (b.runAll requests).schema.Mandates role → r.isOptional = true) := by
  have empty : b.FreeRoles := by
    unfold FreeRoles
    rw [start]
    exact fun _ _ found => nomatch found
  have keyed : b.schema.Keyed := start ▸ .of_empty id title version
  constructor
  · exact ((MandatoryRoles.of_empty start).runAll typed).required
  · exact fun leaves => empty.runAll keyed typed leaves

/-- Persons have to attend, for two reasons of which one is dropped; courses once had to be
attended. The last request fails. -/
def attendance : List (String × Fields) := [
  ("add_entity", [("name", .str "Person")]),
  ("add_entity", [("name", .str "Course")]),
  ("add_binary_fact_type", [
    ("name", .str "attends"),
    ("first_object_id", .str "entity_1"),
    ("second_object_id", .str "entity_2")]),
  ("add_mandatory", [("predicator_id", .str "role_1")]),
  ("add_mandatory", [("predicator_id", .str "role_1")]),
  ("add_mandatory", [("predicator_id", .str "role_2")]),
  ("remove_constraint", [("constraint_id", .str "mandatory_1")]),
  ("remove_constraint", [("constraint_id", .str "mandatory_3")]),
  ("remove_object", [("object_id", .str "entity_3")])]

def school : Builder := ⟨{ id := "school", name := "school", version := "1.0" }, ∅, [], []⟩

theorem roles_attendance :
    (school.runAll attendance).schema.predicators.keys = ["role_1", "role_2"] ∧
      (school.runAll attendance).schema.totalRoleConstraints.values.map (·.predicatorId) =
        ["role_1"] := by
  decide +kernel

theorem isOptional_of_requests_attendance :
    (∀ request ∈ attendance, isTyped request = true) ∧
    (∀ request ∈ attendance, leavesOptional request = true) ∧
    ∃ person course,
      (school.runAll attendance).schema.predicators.find? "role_1" = some person ∧
      (school.runAll attendance).schema.predicators.find? "role_2" = some course ∧
      person.isOptional = false ∧ course.isOptional = true := by
  have typed : ∀ request ∈ attendance, isTyped request = true := by decide +kernel
  have leaves : ∀ request ∈ attendance, leavesOptional request = true := by decide +kernel
  obtain ⟨roles, mandatory⟩ := roles_attendance
  obtain ⟨required, free⟩ := isOptional_of_requests (b := school) rfl attendance typed
  have mandates : ∀ role, (school.runAll attendance).schema.Mandates role ↔ role = "role_1" := by
    intro role
    rw [← List.mem_singleton, ← mandatory]
    exact List.mem_map.symm
  have there : "role_1" ∈ (school.runAll attendance).schema.predicators.keys ∧
      "role_2" ∈ (school.runAll attendance).schema.predicators.keys := by simp [roles]
  obtain ⟨person, first⟩ := OrderedMap.exists_find?_of_mem_keys there.1
  obtain ⟨course, second⟩ := OrderedMap.exists_find?_of_mem_keys there.2
  refine ⟨typed, leaves, person, course, first, second, ?_, ?_⟩
  · exact required _ person first ((mandates _).mpr rfl)
  · exact free leaves _ course second fun held => absurd ((mandates _).mp held) (by decide)

end Builder

end FactModel
