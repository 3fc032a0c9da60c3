import FactModel.Proofs.Builder.Arranged
import FactModel.Proofs.Builder.RoleNumbers
import Mathlib.Data.List.Pairwise

/-!
Ids of elements while a schema is edited. A fact type gets its id before its roles do and enters
the schema after them, so a role may get the id that was given for its own fact type. No other two
elements share an id.
-/

namespace FactModel

/-- The kinds of elements, each with a mapping of its own. -/
inductive ElementKind where
  | entity
  | labelType
  | powerType
  | sequenceType
  | factType
  | predicator
  | uniqueness
  | totalRole
  | set
  | cardinality
  | frequency
  | enumeration
  | custom
deriving DecidableEq

def ElementKind.all : List ElementKind :=
  [entity, labelType, powerType, sequenceType, factType, predicator, uniqueness, totalRole, set,
    cardinality, frequency, enumeration, custom]

theorem ElementKind.mem_all (kind : ElementKind) : kind ∈ ElementKind.all := by
  cases kind <;> decide

namespace Schema

variable {s t : Schema}

def idsOf (s : Schema) : ElementKind → List String
  | .entity => s.entities.keys
  | .labelType => s.labelTypes.keys
  | .powerType => s.powerTypes.keys
  | .sequenceType => s.sequenceTypes.keys
  | .factType => s.factTypes.keys
  | .predicator => s.predicators.keys
  | .uniqueness => s.uniqueConstraints.keys
  | .totalRole => s.totalRoleConstraints.keys
  | .set => s.setConstraints.keys
  | .cardinality => s.cardinalityConstraints.keys
  | .frequency => s.frequencyConstraints.keys
  | .enumeration => s.enumerationConstraints.keys
  | .custom => s.customConstraints.keys

theorem ids_eq (s : Schema) : s.ids = ElementKind.all.flatMap s.idsOf := by
  simp [ids, ElementKind.all, ConstraintCategory.all, idsOf, constraintIds]

theorem mem_ids_iff {id : String} : id ∈ s.ids ↔ ∃ kind, id ∈ s.idsOf kind := by
  rw [ids_eq, List.mem_flatMap]
  exact ⟨fun ⟨kind, _, held⟩ => ⟨kind, held⟩, fun ⟨kind, held⟩ => ⟨kind, kind.mem_all, held⟩⟩

theorem mem_ids_of_mem_idsOf {id : String} {kind : ElementKind} (held : id ∈ s.idsOf kind) :
    id ∈ s.ids := mem_ids_iff.mpr ⟨kind, held⟩

theorem nodup_idsOf (s : Schema) (kind : ElementKind) : (s.idsOf kind).Nodup := by
  cases kind <;> exact OrderedMap.nodup _

theorem nodup_ids_iff : s.ids.Nodup ↔
    ∀ kind other id, id ∈ s.idsOf kind → id ∈ s.idsOf other → kind = other := by
  rw [ids_eq, List.nodup_flatMap]
  constructor
  · rintro ⟨_, apart⟩ kind other id held too
    have symmetric : Std.Symm (Function.onFun List.Disjoint s.idsOf) :=
      ⟨fun _ _ disjoint _ held too => disjoint too held⟩
    by_contra differ
    exact apart.forall kind.mem_all other.mem_all differ held too
  · intro apart
    refine ⟨fun kind _ => s.nodup_idsOf kind, ?_⟩
    have distinct : ElementKind.all.Nodup := by decide
    refine distinct.imp fun differ id held too => ?_
    exact differ (apart _ _ id held too)

/-- Two elements share an id: a fact type and a role of it. -/
inductive Shares (s : Schema) (id : String) : ElementKind → ElementKind → Prop
  | role (r : Predicator) (found : s.predicators.find? id = some r) (owner : r.factTypeId = id) :
      Shares s id .factType .predicator
  | owner (r : Predicator) (found : s.predicators.find? id = some r) (owner : r.factTypeId = id) :
      Shares s id .predicator .factType

/-- Elements share no ids, but for fact types and roles of them. -/
def Apart (s : Schema) : Prop :=
  ∀ kind other id, id ∈ s.idsOf kind → id ∈ s.idsOf other → kind = other ∨ s.Shares id kind other

/-- Where only fact types share ids with their roles, ids are distinct if these do not. -/
theorem Apart.nodup_ids_iff (apart : s.Apart) :
    s.ids.Nodup ↔ ∀ id ∈ s.factTypes.keys, id ∉ s.predicators.keys := by
  rw [Schema.nodup_ids_iff]
  constructor
  · intro distinct id held too
    cases distinct .factType .predicator id held too
  · intro differ kind other id held too
    rcases apart kind other id held too with same | shares
    · exact same
    · cases shares with
      | role => exact absurd too (differ id held)
      | owner => exact absurd held (differ id too)

/-- Elements are new under ids that no element had, and share none but as a fact type and its
roles do. -/
structure Widened (s t : Schema) : Prop where
  old : ∀ kind, ∀ id ∈ t.idsOf kind, id ∈ s.idsOf kind ∨ id ∉ s.ids
  new : ∀ kind other id, id ∈ t.idsOf kind → id ∈ t.idsOf other → id ∉ s.ids →
    kind = other ∨ t.Shares id kind other

namespace Widened

theorem of_subset (kept : ∀ kind, t.idsOf kind ⊆ s.idsOf kind) : s.Widened t where
  old kind _ held := .inl (kept kind held)
  new kind _ _ held _ fresh := absurd (mem_ids_of_mem_idsOf (kept kind held)) fresh

theorem of_insert {α : Type} (kind : ElementKind) (m : OrderedMap α) {id : String} (a : α)
    (fresh : id ∉ s.ids) (before : s.idsOf kind = m.keys)
    (made : t.idsOf = Function.update s.idsOf kind (m.insert id a).keys) : s.Widened t := by
  have only : ∀ other, ∀ x ∈ t.idsOf other, x ∈ s.idsOf other ∨ other = kind ∧ x = id := by
    intro other x held
    rw [made] at held
    by_cases same : other = kind
    · subst same
      rw [Function.update_self] at held
      rcases OrderedMap.mem_keys_insert.mp held with old | new
      · exact .inl (before ▸ old)
      · exact .inr ⟨rfl, new⟩
    · rw [Function.update_of_ne same] at held
      exact .inl held
  constructor
  · intro other x held
    rcases only other x held with old | ⟨_, rfl⟩
    · exact .inl old
    · exact .inr fresh
  · intro first second x held too unknown
    rcases only first x held with old | ⟨rfl, rfl⟩
    · exact absurd (mem_ids_of_mem_idsOf old) unknown
    · rcases only second x too with old | ⟨rfl, _⟩
      · exact absurd (mem_ids_of_mem_idsOf old) unknown
      · exact .inl rfl

theorem addFactType {id name : String} {objects : List ObjectType} {roles : List Predicator}
    (fresh : id ∉ s.ids) (new : NewRoles id s 0 objects roles) :
    s.Widened { s.putRoles roles with
      factTypes := s.factTypes.insert id ⟨id, name, roles.map (·.id), false, none⟩ } := by
  have made : ∀ x ∈ (s.putRoles roles).predicators.keys,
      x ∈ s.predicators.keys ∨ ∃ r ∈ roles, r.id = x := by
    intro x held
    obtain ⟨r, found⟩ := OrderedMap.exists_find?_of_mem_keys held
    rcases new.find?_putRoles_iff.mp found with ⟨member, same⟩ | old
    · exact .inr ⟨r, member, same⟩
    · exact .inl (OrderedMap.mem_keys_of_find? old)
  generalize widened : ({ s.putRoles roles with
    factTypes := s.factTypes.insert id ⟨id, name, roles.map (·.id), false, none⟩ } : Schema) = t
  have predicators : t.predicators = (s.putRoles roles).predicators := by rw [← widened]
  have only : ∀ kind, ∀ x ∈ t.idsOf kind, x ∈ s.idsOf kind ∨ (kind = .factType ∧ x = id) ∨
      kind = .predicator ∧ ∃ r ∈ roles, r.id = x := by
    intro kind x held
    rw [← widened] at held
    cases kind with
    | factType =>
      rcases OrderedMap.mem_keys_insert.mp held with old | rfl
      · exact .inl old
      · exact .inr (.inl ⟨rfl, rfl⟩)
    | predicator => exact (made x held).imp_right fun role => .inr ⟨rfl, role⟩
    | _ =>
      rw [putRoles_eq] at held
      exact .inl held
  have owned : ∀ x, (∃ r ∈ roles, r.id = x) → x = id →
      ∃ r, t.predicators.find? x = some r ∧ r.factTypeId = x := by
    rintro x ⟨r, member, rfl⟩ same
    exact ⟨r, predicators ▸ new.find?_eq member, (new.owner r member).trans same.symm⟩
  constructor
  · intro kind x held
    rcases only kind x held with old | ⟨_, rfl⟩ | ⟨_, r, member, rfl⟩
    · exact .inl old
    · exact .inr fresh
    · exact .inr (new.fresh r member)
  · intro first second x held too unknown
    rcases only first x held with old | ⟨rfl, here⟩ | ⟨rfl, role⟩
    · exact absurd (mem_ids_of_mem_idsOf old) unknown
    · rcases only second x too with old | ⟨rfl, _⟩ | ⟨rfl, role⟩
      · exact absurd (mem_ids_of_mem_idsOf old) unknown
      · exact .inl rfl
      · obtain ⟨r, found, owner⟩ := owned x role here
        exact .inr (.role r found owner)
    · rcases only second x too with old | ⟨rfl, here⟩ | ⟨rfl, _⟩
      · exact absurd (mem_ids_of_mem_idsOf old) unknown
      · obtain ⟨r, found, owner⟩ := owned x role here
        exact .inr (.owner r found owner)
      · exact .inl rfl

theorem withoutObject (s : Schema) (id : String) : s.Widened (s.withoutObject id) := by
  apply of_subset
  obtain ⟨_, _, dropped⟩ := dropRoles_eq (s.eraseObject id) (s.played id)
  intro kind
  cases kind with
  | predicator => exact predicators_withoutObject s id
  | factType => exact factTypes_withoutObject s id
  | entity | labelType | powerType | sequenceType =>
    rw [Schema.withoutObject, dropped]
    exact OrderedMap.keys_erase_subset ..
  | _ =>
    rw [Schema.withoutObject, dropped]
    exact List.Subset.refl _

theorem eraseFactType (s : Schema) (id : String) (f : FactType) :
    s.Widened (s.eraseFactType id f) := by
  apply of_subset
  intro kind
  cases kind with
  | predicator => exact predicators_eraseFactType s id f
  | factType => exact OrderedMap.keys_erase_subset ..
  | entity => simp [idsOf, Schema.eraseFactType]
  | _ => exact List.Subset.refl _

theorem withoutConstraint (s : Schema) (id : String) (category : ConstraintCategory) :
    s.Widened (s.withoutConstraint id category) := by
  obtain ⟨_, _, eq⟩ := withoutConstraint_eq s id category
  apply of_subset
  intro kind
  cases kind with
  | predicator => exact fun key held => (keys_withoutConstraint s id category).subst held
  | entity =>
    rw [eq]
    cases category <;> simp [idsOf, unlistIdentifier, eraseConstraint]
  | _ =>
    rw [eq]
    cases category <;> first | exact List.Subset.refl _ | exact OrderedMap.keys_erase_subset ..

end Widened

/-- A role that stays keeps its fact type, and with it its id in common. -/
theorem Shares.next {id : String} {kind other : ElementKind} (shares : s.Shares id kind other)
    (stays : ∀ r, t.predicators.find? id = some r →
      (s.predicators.find? id).map side = some (side r))
    (held : id ∈ t.idsOf kind) (too : id ∈ t.idsOf other) : t.Shares id kind other := by
  have owned : ∀ q, s.predicators.find? id = some q → q.factTypeId = id →
      id ∈ t.predicators.keys → ∃ r, t.predicators.find? id = some r ∧ r.factTypeId = id := by
    intro q before owner there
    obtain ⟨r, found⟩ := OrderedMap.exists_find?_of_mem_keys there
    have same := stays r found
    simp only [before, Option.map_some, Option.some.injEq, side, Prod.mk.injEq] at same
    exact ⟨r, found, same.1.symm.trans owner⟩
  cases shares with
  | role q before owner =>
    obtain ⟨r, found, own⟩ := owned q before owner too
    exact .role r found own
  | owner q before owner =>
    obtain ⟨r, found, own⟩ := owned q before owner held
    exact .owner r found own

theorem Shares.mem_keys {id : String} {kind other : ElementKind}
    (shares : s.Shares id kind other) : id ∈ s.predicators.keys := by
  cases shares with
  | role r found => exact OrderedMap.mem_keys_of_find? found
  | owner r found => exact OrderedMap.mem_keys_of_find? found

/-- Elements come with ids of their own, where those that are given are. -/
theorem Apart.next (apart : s.Apart) (widened : s.Widened t)
    (stays : ∀ role ∈ s.predicators.keys, ∀ r, t.predicators.find? role = some r →
      (s.predicators.find? role).map side = some (side r)) : t.Apart := by
  intro kind other id held too
  by_cases known : id ∈ s.ids
  · have before := (widened.old kind id held).resolve_right (not_not_intro known)
    have beside := (widened.old other id too).resolve_right (not_not_intro known)
    rcases apart kind other id before beside with same | shares
    · exact .inl same
    · exact .inr (shares.next (stays id shares.mem_keys) held too)
  · exact widened.new kind other id held too known

end Schema

open Schema

theorem Change.widened {s t : Schema} {given : Option (Reading String)} (change : Change given s t)
    (unused : ∀ id, given = some (.ok id) → id ∉ s.ids) : s.Widened t := by
  have fresh : ∀ {id}, Edit.Picked given s id → id ∉ s.ids := fun picked =>
    picked.elim (unused _) id
  cases change with
  | nothing => exact .of_subset fun _ => List.Subset.refl _
  | entity id name picked =>
    refine .of_insert .entity s.entities ⟨id, name, [], [], none, false⟩ (fresh picked) rfl ?_
    funext kind
    cases kind <;> rfl
  | labelType l picked =>
    refine .of_insert .labelType s.labelTypes l (fresh picked) rfl ?_
    funext kind
    cases kind <;> rfl
  | powerType p element picked =>
    refine .of_insert .powerType s.powerTypes p (fresh picked) rfl ?_
    funext kind
    cases kind <;> rfl
  | sequenceType q element picked =>
    refine .of_insert .sequenceType s.sequenceTypes q (fresh picked) rfl ?_
    funext kind
    cases kind <;> rfl
  | factType id name ids objects roles picked found new => exact .addFactType (fresh picked) new
  | specialization child parent e parents found =>
    refine .of_subset fun kind => ?_
    cases kind with
    | entity =>
      intro other held
      rcases OrderedMap.mem_keys_insert.mp held with old | rfl
      · exact old
      · exact OrderedMap.mem_keys_of_find? found
    | _ => exact List.Subset.refl _
  | objectification factType id name found picked =>
    refine .of_insert .entity s.entities ⟨id, name, [], [], some factType, false⟩ (fresh picked)
      rfl ?_
    funext kind
    cases kind with
    | factType => exact OrderedMap.keys_modify ..
    | _ => rfl
  | uniqueness c primary some_role roles picked =>
    obtain ⟨f, g, _, _, made⟩ := Relinked.attachIdentifier
      { s with uniqueConstraints := s.uniqueConstraints.insert c.id c } c.id primary
    refine .of_insert .uniqueness s.uniqueConstraints c (fresh picked) rfl ?_
    rw [made]
    funext kind
    cases kind with
    | entity | uniqueness => exact OrderedMap.keys_mapValues ..
    | _ => rfl
  | totalRole c r found player unused =>
    refine .of_insert .totalRole s.totalRoleConstraints c unused rfl ?_
    funext kind
    cases kind with
    | predicator => exact OrderedMap.keys_modify ..
    | _ => rfl
  | set c roles unused =>
    refine .of_insert .set s.setConstraints c unused rfl ?_
    funext kind
    cases kind <;> rfl
  | cardinality c role unused =>
    refine .of_insert .cardinality s.cardinalityConstraints c unused rfl ?_
    funext kind
    cases kind <;> rfl
  | frequency c factType unused =>
    refine .of_insert .frequency s.frequencyConstraints c unused rfl ?_
    funext kind
    cases kind <;> rfl
  | enumeration c label unused =>
    refine .of_insert .enumeration s.enumerationConstraints c unused rfl ?_
    funext kind
    cases kind <;> rfl
  | custom c unused =>
    refine .of_insert .custom s.customConstraints c unused rfl ?_
    funext kind
    cases kind <;> rfl
  | objectRemoval id => exact .withoutObject s id
  | factTypeRemoval id f => exact .eraseFactType s id f
  | constraintRemoval id category => exact .withoutConstraint s id category

theorem Edit.fact_ne_role (m n : Nat) : numbered "fact" m ≠ numbered "role" n := by
  intro same
  have texts := congrArg String.toList same
  simp [numbered] at texts

namespace Builder

variable {b after : Builder}

/-- Editing an empty schema gives no id twice, but to a fact type and a role of it. -/
theorem apart_of_edits {id name version : String}
    (start : b.schema = { id := id, name := name, version := version })
    (edits : b.Edits after) : after.schema.Keyed ∧ after.schema.Apart := by
  induction edits with
  | none =>
    rw [start]
    refine ⟨.of_empty id name version, fun kind _ _ held => ?_⟩
    cases kind <;> cases held
  | request _ unused run ih =>
    obtain ⟨keyed, apart⟩ := ih
    have change := change_of_run keyed.predicators run
    refine ⟨change.keyed keyed, apart.next (change.widened unused) fun role held r found => ?_⟩
    exact change.side_eq held found

/-- A request for a fact type gives an id that roles could get. -/
def GivesRoleId (request : String × Fields) : Prop :=
  Operation.ofName? request.1 = some .addFactType ∧
    ∃ n, request.2.given? "id" = some (.ok (Edit.numbered "role" n))

/-- No fact type has an id that roles could get, and no role has another one. -/
structure RoleIdsReserved (b : Builder) : Prop where
  keyed : b.schema.Keyed
  factTypes : ∀ key ∈ b.schema.factTypes.keys, ∀ n, key ≠ Edit.numbered "role" n
  roles : ∀ role ∈ b.schema.predicators.keys, b.Counted role

theorem RoleIdsReserved.next (before : b.RoleIdsReserved) {request : String × Fields}
    (other : ¬ GivesRoleId request) {outcome : Except BuilderError Value}
    (run : b.run request.1 request.2 = (outcome, after)) : after.RoleIdsReserved := by
  obtain ⟨keyed, factTypes, roles⟩ := before
  refine ⟨keyed.run run, fun key held n => ?_, (onward_of_run run).all_counted roles⟩
  rcases brings_of_run keyed.predicators run with same | ⟨op, named, brings⟩
  · exact factTypes key (same ▸ held) n
  · rcases brings.factTypes key held with old | ⟨rfl, given⟩ | ⟨m, rfl⟩
    · exact factTypes key old n
    · rintro rfl
      exact other ⟨named, n, given⟩
    · exact Edit.fact_ne_role m n

theorem RoleIdsReserved.runAll (before : b.RoleIdsReserved) {requests : List (String × Fields)}
    (others : ∀ request ∈ requests, ¬ GivesRoleId request) :
    (b.runAll requests).RoleIdsReserved := by
  induction requests generalizing b with
  | nil => exact before
  | cons request rest ih =>
    rw [List.forall_mem_cons] at others
    exact ih (before.next others.1 rfl) others.2

theorem RoleIdsReserved.apart (reserved : b.RoleIdsReserved) :
    ∀ id ∈ b.schema.factTypes.keys, id ∉ b.schema.predicators.keys := by
  intro id held too
  obtain ⟨n, _, same⟩ := reserved.roles id too
  exact reserved.factTypes id held n same

/-- After requests that succeed with unused ids, two elements share an id only if they are a fact
type and a role of it. So ids are unique where no fact type has the id of a role, as is the case
where no request gives such an id for a fact type. -/
theorem ids_of_requests {id name version : String}
    (start : b.schema = { id := id, name := name, version := version })
    (requests : List (String × Fields)) (admits : b.admits requests = true) :
    (b.runAll requests).schema.Apart ∧
    ((b.runAll requests).schema.ids.Nodup ↔
      ∀ id ∈ (b.runAll requests).schema.factTypes.keys,
        id ∉ (b.runAll requests).schema.predicators.keys) ∧
    ((∀ request ∈ requests, ¬ GivesRoleId request) → (b.runAll requests).schema.ids.Nodup) := by
  obtain ⟨_, apart⟩ := apart_of_edits start (.admitted .none admits)
  refine ⟨apart, apart.nodup_ids_iff, fun others => apart.nodup_ids_iff.mpr ?_⟩
  have empty : b.RoleIdsReserved := by
    constructor <;> rw [start]
    · exact .of_empty id name version
    · exact fun _ held => nomatch held
    · exact fun _ held => nomatch held
  exact (empty.runAll others).apart

/-- Numbered parts and what they are made of, with ids that are given as if they were generated. -/
def numberedParts : List (String × Fields) := [
  ("add_entity", [("name", .str "Part"), ("id", .str "label_1")]),
  ("add_label_type", [("name", .str "Number")]),
  ("add_fact_type", [
    ("object_ids", .arr [.str "label_1", .str "label_2"]),
    ("id", .str "unique_1")]),
  ("add_unique", [("predicator_ids", .arr [.str "role_2"]), ("id", .str "fact_1")]),
  ("add_binary_fact_type", [("name", .str "made of"), ("first_object_id", .str "label_1"),
    ("second_object_id", .str "label_1")]),
  ("add_unique", [("predicator_ids", .arr [.str "role_1"])]),
  ("remove_fact_type", [("fact_type_id", .str "unique_1")])]

theorem ids_of_requests_numbered :
    (∀ request ∈ numberedParts, ¬ GivesRoleId request) ∧
    (assembly.runAll numberedParts).schema.ids =
      ["label_1", "label_2", "fact_2", "role_3", "role_4", "fact_1", "unique_2"] ∧
    (assembly.runAll numberedParts).schema.ids.Nodup := by
  have others : ∀ request ∈ numberedParts, ¬ GivesRoleId request := by
    rintro request member ⟨named, n, given⟩
    have only : request.2.given? "id" = some (.ok "unique_1") := by
      simp only [numberedParts, List.mem_cons, List.not_mem_nil, or_false] at member
      rcases member with rfl | rfl | rfl | rfl | rfl | rfl | rfl
      case inr.inr.inl => rfl
      all_goals cases named
    rw [only] at given
    have texts := congrArg String.toList (Reading.ok.inj (Option.some.inj given))
    simp [Edit.numbered] at texts
  refine ⟨others, by decide +kernel, ?_⟩
  exact (ids_of_requests (b := assembly) rfl numberedParts (by decide +kernel)).2.2 others

/-- A fact type of parts whose id its own role gets too. -/
def clashingParts : List (String × Fields) := [
  ("add_entity", [("name", .str "Part")]),
  ("add_fact_type", [("object_ids", .arr [.str "entity_1"]), ("id", .str "role_1")])]

/-- Unused ids that are given do not make all ids unique: a role gets the id of its fact type. -/
theorem not_every_id_unique :
    ¬ ∀ (b : Builder) (id name version : String) (requests : List (String × Fields)),
      b.schema = { id := id, name := name, version := version } → b.admits requests = true →
      (b.runAll requests).schema.ids.Nodup := by
  intro claim
  have distinct := claim assembly _ _ _ clashingParts rfl (by decide +kernel)
  have held : (assembly.runAll clashingParts).schema.ids = ["entity_1", "role_1", "role_1"] := by
    decide +kernel
  rw [held] at distinct
  exact absurd distinct (by decide)

end Builder

end FactModel
