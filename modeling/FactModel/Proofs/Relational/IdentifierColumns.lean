import FactModel.Proofs.Relational.TableKeys
import FactModel.Proofs.Relational.TableNames
import FactModel.Proofs.Schema.Linked
import FactModel.Proofs.Schema.Resolution

/-!
What the identifiers of an entity become in its table. A key or a UNIQUE constraint made from an
identifier covers the roles of the identifier that have columns in the table, and no others.
-/

namespace FactModel

namespace Table

/-- The columns that hold the facts of a role, in the order of the table. -/
def columnsOf (t : Table) (role : String) : List String :=
  (t.columns.filter fun c => c.sourcePredicatorIds.head? == some role).map (·.name)

/-- The columns that hold the facts of the roles of an identifier, each once. -/
def columnsFor (t : Table) (c : UniqueConstraint) : List String :=
  (c.predicatorIds.flatMap t.columnsOf).eraseDups

theorem columnsFor_subset (t : Table) (c : UniqueConstraint) :
    t.columnsFor c ⊆ t.columnNames := by
  intro name listed
  obtain ⟨role, _, held⟩ := List.mem_flatMap.mp (List.mem_eraseDups.mp listed)
  exact List.map_subset _ (List.filter_subset_self _) held

/-- Columns that are to be unique although they are not the key. -/
def needsUnique (t : Table) (columns : List String) : Bool :=
  !(columns.isEmpty || columns == t.primaryKey)

end Table

namespace Schema

variable {s : Schema}

/-- The table of an entity holds the facts of a role that the entity plays: the fact type has no
table of its own, and it is unary or hosted through this role. -/
def ShowsRole (s : Schema) (entity role : String) : Prop :=
  ∃ r f, s.predicators.find? role = some r ∧ r.objectId = entity ∧
    s.factTypes.find? r.factTypeId = some f ∧ s.isObjectified f = false ∧
    (f.isUnary = true ∨ ∃ partner, s.host? f = some (r, partner))

/-- The facts of a role that the entity plays are kept elsewhere: in the table of an objectified
fact type, in a junction, or with the partner of the role. -/
def HidesRole (s : Schema) (entity role : String) : Prop :=
  ∃ r f, s.predicators.find? role = some r ∧ r.objectId = entity ∧
    s.factTypes.find? r.factTypeId = some f ∧
    (s.isObjectified f = true ∨ f.isUnary = false ∧ ∀ partner, s.host? f ≠ some (r, partner))

theorem roleUse_ne_nothing_iff (keyed : s.Keyed) (clean : s.issues = []) (entity role : String) :
    s.roleUse entity role ≠ .nothing ↔ s.ShowsRole entity role := by
  constructor
  · intro used
    rcases s.roleUse_cases entity role with none | ⟨f, r, _, found, player, fact, plain, unary⟩ |
      ⟨f, p, r, partner, _, _, found, player, fact, plain, _, host, same, _⟩
    · exact absurd none used
    · exact ⟨r, f, found, player, fact, plain, .inl unary⟩
    · have hosted := hosted_of_host keyed (OrderedMap.mem_values_of_find? fact) host
      have there := (keyed.id_mem_predicators hosted.host).2
      rw [same, keyed.predicators.id_of_find? found, found, Option.some.injEq] at there
      exact ⟨r, f, found, player, fact, plain, .inr ⟨partner, there ▸ host⟩⟩
  · rintro ⟨r, f, found, rfl, fact, plain, held⟩
    cases unary : f.isUnary with
    | true => simp [roleUse, found, fact, plain, unary]
    | false =>
      rw [unary] at held
      obtain ⟨partner, host⟩ := held.resolve_left Bool.false_ne_true
      have hosted := hosted_of_host keyed (OrderedMap.mem_values_of_find? fact) host
      have there := (keyed.id_mem_predicators hosted.partner).2
      obtain ⟨target, resolved⟩ :=
        Option.isSome_iff_exists.mp
          (resolved_of_issues_eq_nil clean (OrderedMap.mem_values_of_find? there))
      simp [roleUse, found, fact, plain, unary, host, resolved]

theorem exists_role_of_identifier (clean : s.issues = []) {key role : String} {e : Entity}
    (entity : s.entities.find? key = some e) {c : UniqueConstraint}
    (identifier : c ∈ s.identifiersOf e) (listed : role ∈ c.predicatorIds) :
    ∃ r f, s.predicators.find? role = some r ∧ r.objectId = key ∧
      s.factTypes.find? r.factTypeId = some f := by
  obtain ⟨id, _, unique⟩ := List.mem_filterMap.mp identifier
  have held := (OrderedMap.find?_eq_some_iff _ _ _).mp unique
  have refers : s.Refers .uniqueness id (.predicator role) :=
    ⟨_, List.mem_map_of_mem held, List.mem_map_of_mem listed⟩
  have resolves : s.predicators.contains role = true :=
    resolves_of_clean clean rfl (.constraint refers)
  obtain ⟨r, found⟩ := Option.isSome_iff_exists.mp resolves
  have owned : s.factTypes.contains r.factTypeId = true :=
    resolves_of_clean clean rfl (.predicatorFactType found)
  obtain ⟨f, fact⟩ := Option.isSome_iff_exists.mp owned
  exact ⟨r, f, found, identifiersOwn_of_clean clean key e entity c identifier role listed r found,
    fact⟩

/-- Of a role of an identifier only the place of its facts decides, as it resolves and belongs to
the entity. -/
theorem not_showsRole_iff (clean : s.issues = []) {key role : String} {e : Entity}
    (entity : s.entities.find? key = some e) {c : UniqueConstraint}
    (identifier : c ∈ s.identifiersOf e) (listed : role ∈ c.predicatorIds) :
    ¬ s.ShowsRole key role ↔ s.HidesRole key role := by
  obtain ⟨r, f, found, player, fact⟩ := exists_role_of_identifier clean entity identifier listed
  constructor
  · intro unshown
    refine ⟨r, f, found, player, fact, ?_⟩
    by_contra shown
    push Not at shown
    obtain ⟨plain, held⟩ := shown
    refine unshown ⟨r, f, found, player, fact, eq_false_of_ne_true plain, ?_⟩
    cases unary : f.isUnary with
    | true => exact .inl rfl
    | false => exact .inr (held unary)
  · rintro ⟨r', f', found', _, fact', hidden⟩ ⟨r'', f'', found'', _, fact'', plain, held⟩
    cases found'.symm.trans found''
    cases fact'.symm.trans fact''
    rcases hidden with objectified | ⟨several, unhosted⟩
    · exact Bool.false_ne_true (plain.symm.trans objectified)
    · rcases held with unary | ⟨partner, host⟩
      · exact Bool.false_ne_true (several.symm.trans unary)
      · exact unhosted partner host

/-- What the columns of a role stem from starts with the role. -/
theorem head?_sources (keyed : s.Keyed) {entity role : String}
    (used : s.roleUse entity role ≠ .nothing) :
    (s.roleUse entity role).sources.head? = some role := by
  rcases s.roleUse_cases entity role with none | ⟨_, r, use, found, _⟩ |
    ⟨_, _, r, _, _, use, found, _⟩
  · exact absurd none used
  · rw [use]
    exact congrArg some (keyed.predicators.id_of_find? found)
  · rw [use]
    exact congrArg some (keyed.predicators.id_of_find? found)

end Schema

namespace TablePlan

variable {p : TablePlan} {e : Entity}

theorem used_of_group {g : RoleGroup} (held : g ∈ p.entityGroups e) (some : g.columns ≠ []) :
    p.schema.roleUse e.id g.predicator ≠ .nothing := by
  intro none
  have columns : Renamed (p.roleColumns p.key e g.predicator).columns g.columns :=
    (mem_entityGroups held).2.columns
  rw [Derivation.roleColumns, none] at columns
  exact some (List.forall₂_nil_left_iff.mp columns)

theorem filter_columns_group (keyed : p.schema.Keyed) {g : RoleGroup} (held : g ∈ p.entityGroups e)
    (role : String) : g.columns.filter (fun c => c.sourcePredicatorIds.head? == some role) =
      if g.predicator = role then g.columns else [] := by
  have head : ∀ c ∈ g.columns, c.sourcePredicatorIds.head? = some g.predicator := by
    intro c member
    rw [sources_group held c member]
    exact Schema.head?_sources keyed (used_of_group held (List.ne_nil_of_mem member))
  split
  · rename_i same
    exact List.filter_eq_self.mpr fun c member => by simp [head c member, same]
  · rename_i other
    exact List.filter_eq_nil_iff.mpr fun c member => by simp [head c member, other]

theorem columnsOf_eq_flatMap (keyed : p.schema.Keyed) (e : Entity) (role : String) :
    (p.entityTable e).columnsOf role =
      (p.entityGroups e).flatMap fun g => if g.predicator = role then g.names else [] := by
  have lead : (p.leadColumns e).filter
      (fun c => c.sourcePredicatorIds.head? == some role) = [] := by
    refine List.filter_eq_nil_iff.mpr fun c member => ?_
    simp [sources_lead c member]
  have blind : ((fun c : Column => c.sourcePredicatorIds.head? == some role) ∘ p.marked e) =
      fun c => c.sourcePredicatorIds.head? == some role := by
    funext c
    simp
  have named : (fun c : Column => c.name) ∘ p.marked e = (·.name) := by
    funext c
    simp
  rw [Table.columnsOf, columns_entityTable, List.filter_map, List.map_map, blind, named,
    List.filter_append, lead, List.nil_append, List.filter_flatMap, List.map_flatMap]
  refine List.flatMap_congr fun g held => ?_
  rw [filter_columns_group keyed held]
  split
  · rfl
  · rfl

/-- The columns of a role are those of its group. -/
theorem columnsOf_entityTable (keyed : p.schema.Keyed) (e : Entity) (role : String) :
    (p.entityTable e).columnsOf role = namesOf (p.entityGroups e) role := by
  have distinct := p.nodup_groupRoles e
  rw [columnsOf_eq_flatMap keyed]
  by_cases listed : role ∈ p.entityRoles e
  · rw [← map_predicator_entityGroups] at listed
    obtain ⟨g, held, rfl⟩ := List.mem_map.mp listed
    rw [flatMap_of_nodup_map distinct held fun _ _ other => if_neg other, if_pos rfl,
      namesOf_of_mem distinct held]
  · have apart : ∀ g ∈ p.entityGroups e, g.predicator ≠ role := fun g held same =>
      listed (same ▸ (mem_entityGroups held).1)
    have none : (p.entityGroups e).find? (fun g => g.predicator == role) = none :=
      List.find?_eq_none.mpr fun g held => by simpa using apart g held
    rw [namesOf, none]
    exact List.flatMap_eq_nil_iff.mpr fun g held => if_neg (apart g held)

/-- A role has columns in the table of an entity if the entity makes use of it. -/
theorem namesOf_ne_nil_iff (keyed : p.schema.Keyed) (keys : p.WellKeyed) (e : Entity)
    (role : String) :
    namesOf (p.entityGroups e) role ≠ [] ↔ p.schema.roleUse e.id role ≠ .nothing := by
  have distinct := p.nodup_groupRoles e
  constructor
  · intro named
    obtain ⟨g, found⟩ : ∃ g, (p.entityGroups e).find? (fun g => g.predicator == role) = some g := by
      by_contra none
      rw [namesOf, Option.eq_none_iff_forall_ne_some.mpr fun g found => none ⟨g, found⟩] at named
      exact named rfl
    have same : g.predicator = role := by simpa using List.find?_some found
    rw [namesOf, found] at named
    rw [← same]
    exact used_of_group (List.mem_of_find?_eq_some found) (mt List.map_eq_nil_iff.mpr named)
  · intro used
    obtain ⟨r, member, player, rfl⟩ := Schema.played_of_roleUse keyed used
    have listed : r.id ∈ p.entityRoles e := by
      refine mem_entityRoles.mpr (.inr (List.mem_map_of_mem (List.mem_filter.mpr ⟨member, ?_⟩)))
      simp [player]
    rw [← map_predicator_entityGroups] at listed
    obtain ⟨g, held, same⟩ := List.mem_map.mp listed
    rw [← same, namesOf_of_mem distinct held]
    have columns : Renamed (p.roleColumns p.key e g.predicator).columns g.columns :=
      (mem_entityGroups held).2.columns
    rw [← same] at used
    exact mt List.map_eq_nil_iff.mp
      (columns.ne_nil (RoleUse.columns_ne_nil p.dialect p.tables keys.proper used))

/-! The columns of an identifier, each once -/

theorem nodup_columnsOf (p : TablePlan) (e : Entity) (role : String) :
    ((p.entityTable e).columnsOf role).Nodup :=
  (p.nodup_columnNames_entityTable e).sublist (List.filter_sublist.map _)

/-- A column holds the facts of one role. -/
theorem disjoint_columnsOf (p : TablePlan) (e : Entity) {role other : String}
    (apart : role ≠ other) :
    ((p.entityTable e).columnsOf role).Disjoint ((p.entityTable e).columnsOf other) := by
  intro name here there
  obtain ⟨c, held, rfl⟩ := List.mem_map.mp here
  obtain ⟨c', held', same⟩ := List.mem_map.mp there
  rw [List.mem_filter, beq_iff_eq] at held held'
  have equal : c' = c :=
    List.inj_on_of_nodup_map (p.nodup_columnNames_entityTable e) held'.1 held.1 same
  rw [equal, held.2, Option.some.injEq] at held'
  exact apart held'.2

theorem columnsFor_eq (p : TablePlan) (e : Entity) (c : UniqueConstraint) :
    (p.entityTable e).columnsFor c =
      c.predicatorIds.eraseDups.flatMap (p.entityTable e).columnsOf :=
  eraseDups_flatMap (p.nodup_columnsOf e) (fun _ _ => p.disjoint_columnsOf e) _

theorem primaryKey_of_natural (keyed : p.schema.Keyed) {c : UniqueConstraint}
    (primary : p.schema.primaryIdentifier? e = some c) (natural : (p.key e).origin = .natural) :
    p.primaryKey e = (p.entityTable e).columnsFor c := by
  have columns : (p.entityTable e).columnsOf = namesOf (p.entityGroups e) :=
    funext (columnsOf_entityTable keyed e)
  rw [columnsFor_eq, columns, primaryKey, primaryKeyOf, natural, naturalRoles_of_natural natural,
    Derivation.keyRoles, primary]

/-- The identifier is passed over, as the natural key is made from it. -/
def isKeyIdentifier (p : TablePlan) (e : Entity) (c : UniqueConstraint) : Bool :=
  (p.key e).isNatural && (p.schema.primaryIdentifier? e).map (·.id) == some c.id

theorem columnsFor_of_isKeyIdentifier (keyed : p.schema.Keyed) {c : UniqueConstraint}
    (listed : c ∈ p.schema.identifiersOf e) (passed : p.isKeyIdentifier e c = true) :
    (p.entityTable e).needsUnique ((p.entityTable e).columnsFor c) = false := by
  simp only [isKeyIdentifier, Bool.and_eq_true, beq_iff_eq, Option.map_eq_some_iff] at passed
  obtain ⟨natural, first, found, same⟩ := passed
  obtain ⟨_, _, held⟩ := List.mem_filterMap.mp listed
  obtain ⟨_, _, there⟩ := List.mem_filterMap.mp (List.mem_of_find?_eq_some found)
  have equal : first = c := keyed.uniqueConstraints.eq_of_id
    (OrderedMap.mem_values_of_find? there) (OrderedMap.mem_values_of_find? held) same
  have key : (p.entityTable e).primaryKey = (p.entityTable e).columnsFor c :=
    primaryKey_of_natural keyed (equal ▸ found) (Key.isNatural_iff.mp natural)
  simp [Table.needsUnique, key]

/-- The columns of the identifiers are listed once each, without those that are the key. -/
theorem uniqueConstraints_eq (keyed : p.schema.Keyed) (e : Entity) :
    (p.entityTable e).uniqueConstraints =
      (((p.schema.identifiersOf e).map (p.entityTable e).columnsFor).filter
        (p.entityTable e).needsUnique).eraseDups := by
  have run : (p.entityTable e).uniqueConstraints =
      (p.schema.identifiersOf e).foldl (fun lists c =>
        if (p.isKeyIdentifier e c ||
            !(p.entityTable e).needsUnique ((p.entityTable e).columnsFor c)) ||
          lists.contains ((p.entityTable e).columnsFor c) then lists
        else lists ++ [(p.entityTable e).columnsFor c]) [] := by
    have columns : (p.entityTable e).columnsOf = namesOf (p.entityGroups e) :=
      funext (columnsOf_entityTable keyed e)
    show p.uniqueLists e (p.entityGroups e) (p.primaryKey e) = _
    unfold uniqueLists
    refine congrArg (fun step => List.foldl step [] _) (funext₂ fun lists c => ?_)
    simp only [isKeyIdentifier, Table.needsUnique, Table.columnsFor, columns, Bool.not_not]
    cases (p.key e).isNatural && (p.schema.primaryIdentifier? e).map (·.id) == some c.id <;> rfl
  rw [run, List.filter_map]
  refine (foldl_append_new _ _ _ []).trans ?_
  refine congrArg (fun kept => (List.map _ kept).eraseDups) (List.filter_congr fun c listed => ?_)
  cases passed : p.isKeyIdentifier e c with
  | false => simp
  | true => simpa using columnsFor_of_isKeyIdentifier keyed listed passed

/-- A key that is no natural one holds the facts of no role. -/
theorem sources_of_key (keys : p.WellKeyed) (member : e ∈ p.schema.entities.values)
    (front : (p.key e).origin ≠ .natural) {c : Column} (held : c ∈ (p.entityTable e).columns)
    (inKey : c.name ∈ p.primaryKey e) : c.sourcePredicatorIds = [] := by
  obtain ⟨names, _, primary, _⟩ := lead_is_key keys member front
  rw [primary, ← names] at inKey
  obtain ⟨lead, first, same⟩ := List.mem_map.mp inKey
  have there : p.marked e lead ∈ (p.entityTable e).columns := by
    rw [columns_entityTable]
    exact List.mem_map_of_mem (List.mem_append_left _ first)
  have equal : p.marked e lead = c :=
    List.inj_on_of_nodup_map (p.nodup_columnNames_entityTable e) there held (by simpa using same)
  rw [← equal, marked_sources, sources_lead lead first]

end TablePlan

namespace Derivation

variable {d : Derivation} {e : Entity}

theorem Contributes.ne_nil (keyed : d.schema.Keyed) {role : String} {columns : List Column}
    (given : d.Contributes (d.Answers d.settled) e role columns)
    (used : d.schema.roleUse e.id role ≠ .nothing) : columns ≠ [] := by
  obtain ⟨key, rfl, answers⟩ := given
  cases refers : (d.schema.roleUse e.id role).entity? with
  | none =>
    have same : d.roleColumns (fun _ => key) e role =
        d.roleColumns (fun _ => d.dialect.surrogateKey) e role :=
      roleColumns_congr fun target some => by simp [refers] at some
    rw [same]
    exact RoleUse.columns_ne_nil _ _ (fun _ => Key.surrogate_proper d.dialect) used
  | some target =>
    have proper : key.Proper := by
      rcases answers target refers with known | ⟨rfl, _⟩
      · rw [settled_known keyed (Schema.entity_of_roleUse keyed refers), Option.some.injEq] at known
        exact known ▸ plan_key_proper keyed target
      · exact Key.surrogate_proper d.dialect
    exact RoleUse.columns_ne_nil _ _ (fun _ => proper) used

theorem mem_keyRoles {role : String} : role ∈ d.keyRoles e ↔
    ∃ c, d.schema.primaryIdentifier? e = some c ∧ role ∈ c.predicatorIds := by
  unfold keyRoles
  cases d.schema.primaryIdentifier? e with
  | none => simp
  | some c => simp [List.mem_eraseDups]

/-- An entity has a natural key if it makes use of a role of its primary identifier. -/
theorem natural_iff (keyed : d.schema.Keyed) (member : e ∈ d.schema.entities.values) :
    (d.plan.key e).origin = .natural ↔
      ∃ role ∈ d.keyRoles e, d.schema.roleUse e.id role ≠ .nothing := by
  constructor
  · intro natural
    have some := keyRoleColumns_ne_nil keyed member natural
    rw [TablePlan.keyRoleColumns, TablePlan.naturalRoles_of_natural natural] at some
    obtain ⟨c, held⟩ := List.exists_mem_of_ne_nil _ some
    obtain ⟨role, listed, held⟩ := List.mem_flatMap.mp held
    refine ⟨role, listed, fun none => ?_⟩
    have columns : (d.roleColumns d.plan.key e role).columns = [] := by
      rw [roleColumns, none]
      rfl
    exact List.ne_nil_of_mem held columns
  · rintro ⟨role, listed, used⟩
    have empty : ∀ groups, List.Forall₂ (d.Contributes (d.Answers d.settled) e) (d.keyRoles e)
        groups → groups.flatten ≠ [] := by
      intro groups given none
      obtain ⟨group, held, contributes⟩ := exists_of_forall₂ given.flip listed
      exact Contributes.ne_nil keyed contributes used (List.flatten_eq_nil_iff.mp none group held)
    generalize planned : d.plan.key e = key
    have justified := plan_justified keyed member
    rw [planned] at justified
    cases justified with
    | natural groups given some => rfl
    | inherited groups _ _ _ _ given none => exact absurd none (empty groups given)
    | surrogate groups given none => exact absurd none (empty groups given)

end Derivation

namespace Schema

variable {s : Schema}

/-- How the table of an entity renders the identifiers of the entity. -/
structure RendersIdentifiers (s : Schema) (e : Entity) (t : Table) : Prop where
  shown : ∀ role, t.columnsOf role ≠ [] ↔ s.ShowsRole e.id role
  hidden : ∀ c ∈ s.identifiersOf e, ∀ role ∈ c.predicatorIds,
    (t.columnsOf role = [] ↔ s.HidesRole e.id role)
  key : ∀ c, s.primaryIdentifier? e = some c →
    (∃ role ∈ c.predicatorIds, s.ShowsRole e.id role) → t.primaryKey = t.columnsFor c
  fallback : (∀ c, s.primaryIdentifier? e = some c →
    ∀ role ∈ c.predicatorIds, s.HidesRole e.id role) →
    ∀ column ∈ t.columns, column.name ∈ t.primaryKey → column.sourcePredicatorIds = []
  unique : t.uniqueConstraints =
    (((s.identifiersOf e).map t.columnsFor).filter t.needsUnique).eraseDups

theorem rendersIdentifiers (keyed : s.Keyed) (clean : s.issues = []) (d : Dialect) {e : Entity}
    (member : e ∈ s.entities.values) :
    s.RendersIdentifiers e ((s.plan d).entityTable e) := by
  have keys : (s.plan d).WellKeyed := Derivation.plan_wellKeyed keyed
  have shown : ∀ role, ((s.plan d).entityTable e).columnsOf role ≠ [] ↔ s.ShowsRole e.id role := by
    intro role
    rw [TablePlan.columnsOf_entityTable keyed, TablePlan.namesOf_ne_nil_iff keyed keys]
    exact roleUse_ne_nothing_iff keyed clean e.id role
  have found := keyed.entities.find?_id member
  have hidden : ∀ c ∈ s.identifiersOf e, ∀ role ∈ c.predicatorIds,
      (((s.plan d).entityTable e).columnsOf role = [] ↔ s.HidesRole e.id role) := by
    intro c identifier role listed
    rw [← not_showsRole_iff clean found identifier listed, ← shown, ne_eq, not_not]
  have used : ∀ role, s.roleUse e.id role ≠ .nothing ↔ s.ShowsRole e.id role :=
    roleUse_ne_nothing_iff keyed clean e.id
  have natural : ((s.plan d).key e).origin = .natural ↔ ∃ c, s.primaryIdentifier? e = some c ∧
      ∃ role ∈ c.predicatorIds, s.ShowsRole e.id role := by
    rw [plan, Derivation.natural_iff keyed member]
    constructor
    · rintro ⟨role, listed, use⟩
      obtain ⟨c, primary, inside⟩ := Derivation.mem_keyRoles.mp listed
      exact ⟨c, primary, role, inside, (used role).mp use⟩
    · rintro ⟨c, primary, role, inside, some⟩
      exact ⟨role, Derivation.mem_keyRoles.mpr ⟨c, primary, inside⟩, (used role).mpr some⟩
  refine ⟨shown, hidden, fun c primary some => ?_, fun none column held inKey => ?_,
    TablePlan.uniqueConstraints_eq keyed e⟩
  · exact TablePlan.primaryKey_of_natural keyed primary (natural.mpr ⟨c, primary, some⟩)
  · refine TablePlan.sources_of_key keys member (fun is => ?_) held inKey
    obtain ⟨c, primary, role, inside, some⟩ := natural.mp is
    have identifier : c ∈ s.identifiersOf e := List.mem_of_find?_eq_some primary
    exact (not_showsRole_iff clean found identifier inside).mpr (none c primary role inside) some

/-- A key or a UNIQUE constraint made from an identifier covers, in their order, the roles of the
identifier whose facts stand in the table of the entity. Each of them has a column at least; the
roles that are left out have their facts elsewhere. -/
theorem identifiers_rendered (keyed : s.Keyed) (clean : s.issues = []) (d : Dialect) :
    ∃ sql, s.relational d = .ok sql ∧ ∀ e ∈ s.entities.values,
      (∃ t ∈ sql.tables, t.kind = .entity ∧ t.sourceId = some e.id) ∧
      ∀ t ∈ sql.tables, t.kind = .entity → t.sourceId = some e.id →
        s.RendersIdentifiers e t := by
  refine ⟨s.toSql d, relational_eq_ok keyed d, fun e member => ⟨?_, fun t table kind source => ?_⟩⟩
  · exact ⟨_, entityTable_mem member d, rfl, rfl⟩
  · rcases mem_tables_toSql.mp table with ⟨other, held, rfl⟩ | ⟨f, _, rfl⟩ | ⟨f, _, rfl⟩
    · have same : other.id = e.id := Option.some.inj source
      rw [keyed.entities.eq_of_id held member same]
      exact rendersIdentifiers keyed clean d member
    · cases kind
    · cases kind

/-- Seats, identified by their row and their number; no constraint makes the number a column. -/
def seats : Schema :=
  { id := "seats", name := "Seats", version := "1"
    entities := .ofList [("seat", ⟨"seat", "Seat", ["place", "code"], [], none, false⟩)]
    labelTypes := .ofList [
      ("row", ⟨"row", "Row", .string, none, none, none, none⟩),
      ("number", ⟨"number", "Number", .integer, none, none, none, none⟩),
      ("code", ⟨"code", "Code", .string, none, none, none, none⟩)]
    factTypes := .ofList [
      ("in", ⟨"in", "in", ["inside", "around"], false, none⟩),
      ("numbered", ⟨"numbered", "numbered", ["subject", "value"], false, none⟩),
      ("coded", ⟨"coded", "coded", ["of", "text"], false, none⟩)]
    predicators := .ofList [
      ("inside", ⟨"inside", "seat", "in", 0, "seat", false⟩),
      ("around", ⟨"around", "row", "in", 1, "row", false⟩),
      ("subject", ⟨"subject", "seat", "numbered", 0, "seat", false⟩),
      ("value", ⟨"value", "number", "numbered", 1, "number", false⟩),
      ("of", ⟨"of", "seat", "coded", 0, "seat", false⟩),
      ("text", ⟨"text", "code", "coded", 1, "code", false⟩)]
    uniqueConstraints := .ofList [
      ("place", ⟨"place", "place", ["inside", "subject"], true, true⟩),
      ("code", ⟨"code", "code", ["of"], false, false⟩),
      ("single", ⟨"single", "single", ["inside"], false, false⟩)] }

def seatPlace : UniqueConstraint := ⟨"place", "place", ["inside", "subject"], true, true⟩

/-- The key of a seat is made from its place, where the row has a column and the number has none. -/
theorem identifiers_rendered_seats : seats.Keyed ∧ seats.issues = [] ∧
    ∃ sql, seats.relational .mySQL = .ok sql ∧ ∃ t ∈ sql.tables, t.sourceId = some "seat" ∧
      t.primaryKey = t.columnsFor seatPlace ∧ t.columnsOf "inside" ≠ [] ∧
      t.columnsOf "subject" = [] := by
  have keyed : seats.Keyed := by constructor <;> decide +kernel
  have clean : seats.issues = [] := List.length_eq_zero_iff.mp (by decide +kernel)
  obtain ⟨sql, derived, rendered⟩ := identifiers_rendered keyed clean .mySQL
  obtain ⟨⟨t, table, kind, source⟩, all⟩ :=
    rendered ⟨"seat", "Seat", ["place", "code"], [], none, false⟩ List.mem_cons_self
  have seat := all t table kind source
  have row : seats.ShowsRole "seat" "inside" :=
    ⟨_, _, rfl, rfl, rfl, by decide +kernel, .inr ⟨_, rfl⟩⟩
  have number : seats.HidesRole "seat" "subject" := by
    refine ⟨_, _, rfl, rfl, rfl, .inr ⟨by decide +kernel, fun partner host => ?_⟩⟩
    have unhosted : seats.host? ⟨"numbered", "numbered", ["subject", "value"], false, none⟩ =
        none := by decide +kernel
    cases unhosted.symm.trans host
  exact ⟨keyed, clean, sql, derived, t, table, source,
    seat.key seatPlace rfl ⟨"inside", List.mem_cons_self, row⟩, (seat.shown "inside").mpr row,
    (seat.hidden seatPlace List.mem_cons_self "subject" (.tail _ List.mem_cons_self)).mpr number⟩

/-- Not every identifier is covered by the constraint that is made from it. -/
theorem not_every_role_covered : ¬ ∀ (s : Schema) (d : Dialect) (sql : SqlSchema), s.Keyed →
    s.issues = [] → s.relational d = .ok sql → ∀ e ∈ s.entities.values, ∀ t ∈ sql.tables,
      t.kind = .entity → t.sourceId = some e.id → ∀ c ∈ s.identifiersOf e,
        t.primaryKey = t.columnsFor c ∨ t.columnsFor c ∈ t.uniqueConstraints →
          ∀ role ∈ c.predicatorIds, t.columnsOf role ≠ [] := by
  intro covered
  have keyed : seats.Keyed := by constructor <;> decide +kernel
  have clean : seats.issues = [] := List.length_eq_zero_iff.mp (by decide +kernel)
  have seat : (⟨"seat", "Seat", ["place", "code"], [], none, false⟩ : Entity) ∈
      seats.entities.values := List.mem_cons_self
  refine covered seats .mySQL _ keyed clean (relational_eq_ok keyed _) _ seat _
    (entityTable_mem seat _) rfl rfl seatPlace List.mem_cons_self (.inl ?_) "subject"
    (.tail _ List.mem_cons_self) ?_
  · decide +kernel
  · decide +kernel

end Schema

end FactModel
