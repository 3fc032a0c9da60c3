import FactModel.Proofs.Relational.FactTables
import FactModel.Proofs.Relational.TableKeys
import FactModel.Proofs.Relational.TableNames
import FactModel.Proofs.Schema.Linked

/-!
Every fact type is represented once: by a table of its own, or by a group of columns in the table
of the entity that hosts it.
-/

namespace FactModel

/-- The column stems from a predicator of the fact type. -/
def Column.Mentions (c : Column) (f : FactType) : Prop :=
  ∃ id ∈ f.predicators, id ∈ c.sourcePredicatorIds

namespace SqlSchema

def tablesOf (sql : SqlSchema) (id : String) : List Table :=
  sql.tables.filter fun t => t.sourceId == some id

/-- One table stands for the fact type, with columns for each of its roles, and no other table
mentions it. -/
structure HasTable (sql : SqlSchema) (f : FactType) (kind : TableKind) (t : Table) : Prop where
  only : sql.tablesOf f.id = [t]
  kind : t.kind = kind
  shown : ∀ id ∈ f.predicators, ∃ c ∈ t.columns, c.sourcePredicatorIds = [id]
  elsewhere : ∀ u ∈ sql.tables, u ≠ t → ∀ c ∈ u.columns, ¬ c.Mentions f

/-- A group of columns in the table of an entity stands for the fact type, and no other column
mentions it. -/
structure HasColumns (sql : SqlSchema) (f : FactType) (entity : String) (sources : List String)
    (group : List Column) : Prop where
  none : sql.tablesOf f.id = []
  some : group ≠ []
  stem : ∀ c ∈ group, c.sourcePredicatorIds = sources
  shown : ∃ t before after, sql.tablesOf entity = [t] ∧ t.kind = .entity ∧
    t.columns = before ++ group ++ after ∧ (∀ c ∈ before ++ after, ¬ c.Mentions f) ∧
    ∀ u ∈ sql.tables, u ≠ t → ∀ c ∈ u.columns, ¬ c.Mentions f

end SqlSchema

namespace Schema

variable {s : Schema} {f : FactType}

/-- Of a fact type without a table of its own an entity uses the only role, or the hosting one. -/
theorem role_of_mentions (keyed : s.Keyed) (linked : s.Linked) (member : f ∈ s.factTypes.values)
    {entity role id : String} (mentions : id ∈ (s.roleUse entity role).sources)
    (listed : id ∈ f.predicators) :
    s.isObjectified f = false ∧ ∃ r ∈ s.roles f, r.id = role ∧ r.objectId = entity ∧
      (f.isUnary = true ∨ ∃ partner, s.host? f = some (r, partner)) := by
  rcases s.roleUse_cases entity role with use | ⟨g, r, use, found, player, owner, plain, unary⟩ |
    ⟨g, p, r, partner, target, use, found, player, owner, plain, _, host, same, _⟩
  · simp [use, RoleUse.sources] at mentions
  · rw [use, RoleUse.sources, List.mem_singleton] at mentions
    have held := OrderedMap.mem_values_of_find? found
    have named := keyed.predicators.id_of_find? found
    have belongs := linked.factTypeId_eq keyed member held (mentions ▸ listed)
    rw [belongs, keyed.factTypes.find?_id member, Option.some.injEq] at owner
    subst owner
    refine ⟨plain, r, (mem_roles_iff f r).mpr ⟨role, ?_, found⟩, named, player, .inl unary⟩
    rw [← named, ← mentions]
    exact listed
  · have other := OrderedMap.mem_values_of_find? owner
    have hosted := hosted_of_host keyed other host
    obtain ⟨hosting, there⟩ := keyed.id_mem_predicators hosted.host
    have named := keyed.predicators.id_of_find? found
    have equal : p = r := keyed.predicators.eq_of_id (OrderedMap.mem_values_of_find? there)
      (OrderedMap.mem_values_of_find? found) same
    subst equal
    have belongs : id ∈ g.predicators := by
      rw [use, RoleUse.sources, List.mem_cons, List.mem_singleton] at mentions
      rcases mentions with rfl | rfl
      · exact hosting
      · exact (keyed.id_mem_predicators hosted.partner).1
    have fact := linked.eq_of_listed keyed member other listed belongs
    subst fact
    exact ⟨plain, p, hosted.host, named, player, .inr ⟨partner, host⟩⟩

theorem eq_of_mentions (keyed : s.Keyed) (linked : s.Linked) (member : f ∈ s.factTypes.values)
    {g : FactType} (other : g ∈ s.factTypes.values) {d : Dialect} {kind : TableKind} {c : Column}
    (held : c ∈ ((s.plan d).factTable kind g).columns) (mentions : c.Mentions f) : g = f := by
  obtain ⟨id, listed, stems⟩ := mentions
  rcases TablePlan.sources_factTable c held with none | ⟨role, inside, sources⟩
  · rw [none] at stems
    cases stems
  · rw [sources, List.mem_singleton] at stems
    subst stems
    exact linked.eq_of_listed keyed member other listed (keyed.id_mem_predicators inside).1

theorem table_of_mentions (keyed : s.Keyed) (linked : s.Linked) (member : f ∈ s.factTypes.values)
    {d : Dialect} {u : Table} (table : u ∈ (s.toSql d).tables) {c : Column} (held : c ∈ u.columns)
    (mentions : c.Mentions f) :
    (s.isObjectified f = false ∧ ∃ e ∈ s.entities.values, u = (s.plan d).entityTable e ∧
      ∃ r ∈ s.roles f, r.objectId = e.id ∧
        (f.isUnary = true ∨ ∃ partner, s.host? f = some (r, partner))) ∨
    (s.isObjectified f = true ∧ u = (s.plan d).factTable .objectified f) ∨
    (s.needsJunction f = true ∧ u = (s.plan d).factTable .junction f) := by
  rcases mem_tables_toSql.mp table with ⟨e, entity, rfl⟩ | ⟨g, fact, rfl⟩ | ⟨g, fact, rfl⟩
  · obtain ⟨id, listed, stems⟩ := mentions
    rcases TablePlan.sources_entityTable c held with none | ⟨role, sources⟩
    · rw [none] at stems
      cases stems
    · rw [sources] at stems
      obtain ⟨plain, r, inside, _, player, use⟩ := role_of_mentions keyed linked member stems listed
      exact .inl ⟨plain, e, entity, rfl, r, inside, player, use⟩
  · obtain ⟨other, objectified⟩ := mem_objectifiedFactTypes.mp fact
    have same := eq_of_mentions keyed linked member other held mentions
    subst same
    exact .inr (.inl ⟨objectified, rfl⟩)
  · obtain ⟨other, junction⟩ := mem_junctions.mp fact
    have same := eq_of_mentions keyed linked member other held mentions
    subst same
    exact .inr (.inr ⟨junction, rfl⟩)

/-! Tables of their own -/

theorem hasTable (keyed : s.Keyed) (apart : s.TableIdsApart) (linked : s.Linked)
    (member : f ∈ s.factTypes.values) {d : Dialect} {kind : TableKind}
    (table : (s.plan d).factTable kind f ∈ (s.toSql d).tables)
    (elsewhere : ∀ u ∈ (s.toSql d).tables, u ≠ (s.plan d).factTable kind f →
      ∀ c ∈ u.columns, ¬ c.Mentions f) :
    (s.toSql d).HasTable f kind ((s.plan d).factTable kind f) := by
  refine ⟨filter_of_nodup_map (nodup_sources_toSql keyed apart d) table, rfl, ?_, elsewhere⟩
  intro id listed
  rw [← linked.map_id_roles keyed member] at listed
  obtain ⟨role, inside, rfl⟩ := List.mem_map.mp listed
  obtain ⟨target, found⟩ := linked.object?_isSome keyed inside
  exact TablePlan.exists_column_of_role (p := s.plan d) (Derivation.plan_key_proper keyed) kind
    inside found

theorem hasTable_objectified (keyed : s.Keyed) (apart : s.TableIdsApart) (linked : s.Linked)
    (member : f ∈ s.factTypes.values) (d : Dialect) (objectified : s.isObjectified f = true) :
    (s.toSql d).HasTable f .objectified ((s.plan d).factTable .objectified f) := by
  refine hasTable keyed apart linked member (mem_tables_toSql.mpr
    (.inr (.inl ⟨f, mem_objectifiedFactTypes.mpr ⟨member, objectified⟩, rfl⟩))) ?_
  intro u table other c held mentions
  rcases table_of_mentions keyed linked member table held mentions with
    ⟨plain, _⟩ | ⟨_, same⟩ | ⟨junction, _⟩
  · exact absurd objectified (by simp [plain])
  · exact other same
  · have plain := isObjectified_of_junction (mem_junctions.mpr ⟨member, junction⟩)
    exact absurd objectified (by simp [plain])

theorem hasTable_junction (keyed : s.Keyed) (apart : s.TableIdsApart) (linked : s.Linked)
    (member : f ∈ s.factTypes.values) (d : Dialect) (plain : s.isObjectified f = false)
    (unhosted : 2 < f.arity ∨ f.arity = 2 ∧ s.host? f = none) :
    (s.toSql d).HasTable f .junction ((s.plan d).factTable .junction f) := by
  have junction := (linked.needsJunction_iff keyed member).mpr ⟨plain, unhosted⟩
  refine hasTable keyed apart linked member (mem_tables_toSql.mpr
    (.inr (.inr ⟨f, mem_junctions.mpr ⟨member, junction⟩, rfl⟩))) ?_
  intro u table other c held mentions
  rcases table_of_mentions keyed linked member table held mentions with
    ⟨_, _, _, _, r, _, _, unary | ⟨partner, host⟩⟩ | ⟨objectified, _⟩ | ⟨_, same⟩
  · rw [FactType.isUnary, beq_iff_eq] at unary
    omega
  · have two := (hosted_of_host keyed member host).arity
    rcases unhosted with more | ⟨_, none⟩
    · omega
    · cases none.symm.trans host
  · exact absurd objectified (by simp [plain])
  · exact other same

/-! Columns in the table of an entity -/

theorem tablesOf_eq_nil (keyed : s.Keyed) (apart : s.TableIdsApart)
    (member : f ∈ s.factTypes.values) (d : Dialect) (plain : s.isObjectified f = false)
    (placed : s.needsJunction f = false) : (s.toSql d).tablesOf f.id = [] := by
  refine List.filter_eq_nil_iff.mpr fun t table source => ?_
  rcases mem_tables_toSql.mp table with ⟨e, entity, rfl⟩ | ⟨g, fact, rfl⟩ | ⟨g, fact, rfl⟩
  · have same : e.id = f.id := by simpa [TablePlan.entityTable] using source
    exact apart e.id (mem_keys_of_entity keyed entity) (same ▸ mem_keys_of_factType keyed member)
  · have same : g.id = f.id := by simpa [TablePlan.factTable] using source
    obtain ⟨other, objectified⟩ := mem_objectifiedFactTypes.mp fact
    rw [keyed.factTypes.eq_of_id other member same, plain] at objectified
    cases objectified
  · have same : g.id = f.id := by simpa [TablePlan.factTable] using source
    obtain ⟨other, junction⟩ := mem_junctions.mp fact
    rw [keyed.factTypes.eq_of_id other member same, placed] at junction
    cases junction

theorem hasColumns (keyed : s.Keyed) (apart : s.TableIdsApart) (linked : s.Linked)
    (member : f ∈ s.factTypes.values) (d : Dialect) (plain : s.isObjectified f = false)
    (placed : s.needsJunction f = false) {r : Predicator} (role : r ∈ s.roles f) {e : Entity}
    (entity : e ∈ s.entities.values) (player : e.id = r.objectId)
    (used : s.roleUse e.id r.id ≠ .nothing)
    (sole : ∀ other ∈ s.roles f,
      (f.isUnary = true ∨ ∃ partner, s.host? f = some (other, partner)) → other = r) :
    ∃ group, (s.toSql d).HasColumns f e.id (s.roleUse e.id r.id).sources group ∧
      group.length = ((s.plan d).roleColumns (s.plan d).key e r.id).columns.length := by
  have listed : r.id ∈ (s.plan d).entityRoles e := by
    refine TablePlan.mem_entityRoles.mpr (.inr (List.mem_map_of_mem (List.mem_filter.mpr ?_)))
    exact ⟨OrderedMap.mem_values_of_find? (keyed.id_mem_predicators role).2, by simp [player]⟩
  obtain ⟨before, group, after, columns, length, stem, others⟩ :=
    TablePlan.columns_around_role listed
  have some : group ≠ [] := by
    intro none
    rw [none] at length
    exact RoleUse.columns_ne_nil d s.tableNames (Derivation.plan_key_proper keyed) used
      (List.length_eq_zero_iff.mp length.symm)
  refine ⟨group, ⟨tablesOf_eq_nil keyed apart member d plain placed, some, stem,
    (s.plan d).entityTable e, before, after,
    filter_of_nodup_map (nodup_sources_toSql keyed apart d) (entityTable_mem entity d), rfl,
    columns, ?_, ?_⟩, length⟩
  · rintro c held ⟨id, here, stems⟩
    rcases others c held with none | ⟨other, apart, sources⟩
    · rw [none] at stems
      cases stems
    · rw [sources] at stems
      obtain ⟨_, r', inside, named, _, use⟩ := role_of_mentions keyed linked member stems here
      exact apart (named.symm.trans (congrArg Predicator.id (sole r' inside use)))
  · intro u table other c held mentions
    rcases table_of_mentions keyed linked member table held mentions with
      ⟨_, e', entity', rfl, r', inside, player', use⟩ | ⟨objectified, _⟩ | ⟨junction, _⟩
    · rw [sole r' inside use, ← player] at player'
      exact other (by rw [keyed.entities.eq_of_id entity entity' player'])
    · exact absurd objectified (by simp [plain])
    · exact absurd junction (by simp [placed])

theorem hasColumns_hosted (keyed : s.Keyed) (apart : s.TableIdsApart) (linked : s.Linked)
    (member : f ∈ s.factTypes.values) (d : Dialect) {p q : Predicator}
    (host : s.host? f = some (p, q)) :
    ∃ group, (s.toSql d).HasColumns f p.objectId [p.id, q.id] group := by
  have hosted := hosted_of_host keyed member host
  obtain ⟨e, entity, player⟩ := hosted.entity
  obtain ⟨target, use⟩ := linked.roleUse_of_host keyed member host
  rw [← player] at use ⊢
  have placed : s.needsJunction f = false := by
    rw [Bool.eq_false_iff, Ne, linked.needsJunction_iff keyed member, host, hosted.arity]
    simp
  have sole : ∀ other ∈ s.roles f,
      (f.isUnary = true ∨ ∃ partner, s.host? f = some (other, partner)) → other = p := by
    rintro other _ (unary | ⟨partner, same⟩)
    · simp [FactType.isUnary, hosted.arity] at unary
    · rw [host, Option.some.injEq, Prod.mk.injEq] at same
      exact same.1.symm
  obtain ⟨group, columns, _⟩ := hasColumns keyed apart linked member d hosted.plain placed
    hosted.host entity player (by simp [use]) sole
  rw [use] at columns
  exact ⟨group, columns⟩

theorem needsJunction_of_small (linked : s.Linked) (keyed : s.Keyed)
    (member : f ∈ s.factTypes.values) (small : f.arity < 2) : s.needsJunction f = false := by
  rw [Bool.eq_false_iff, Ne, linked.needsJunction_iff keyed member]
  omega

theorem hasColumns_unary (keyed : s.Keyed) (apart : s.TableIdsApart) (linked : s.Linked)
    (member : f ∈ s.factTypes.values) (d : Dialect) (plain : s.isObjectified f = false)
    {r : Predicator} (roles : s.roles f = [r]) {e : Entity}
    (found : s.entities.find? r.objectId = some e) :
    ∃ c, (s.toSql d).HasColumns f e.id [r.id] [c] := by
  have role : r ∈ s.roles f := by simp [roles]
  have arity : f.arity = 1 := by rw [← linked.length_roles keyed member, roles]; rfl
  have unary : f.isUnary = true := by simp [FactType.isUnary, arity]
  have player := keyed.entities.id_of_find? found
  have use := linked.roleUse_of_unary keyed member plain unary role
  rw [← player] at use
  obtain ⟨group, columns, length⟩ := hasColumns keyed apart linked member d plain
    (needsJunction_of_small linked keyed member (by omega)) role
    (OrderedMap.mem_values_of_find? found) player (by simp [use])
    (fun other inside _ => by simpa [roles] using inside)
  have one : ((s.plan d).roleColumns (s.plan d).key e r.id).columns.length = 1 := by
    have flag : (s.plan d).roleColumns (s.plan d).key e r.id =
        (RoleUse.flag f r).columns d s.tableNames (s.plan d).key :=
      congrArg (RoleUse.columns d s.tableNames (s.plan d).key) use
    rw [flag]
    rfl
  rw [one] at length
  obtain ⟨c, rfl⟩ := List.length_eq_one_iff.mp length
  rw [use] at columns
  exact ⟨c, columns⟩

theorem not_mentioned (keyed : s.Keyed) (linked : s.Linked) (member : f ∈ s.factTypes.values)
    (d : Dialect) (plain : s.isObjectified f = false) {r : Predicator} (roles : s.roles f = [r])
    (found : s.entities.find? r.objectId = none) :
    ∀ t ∈ (s.toSql d).tables, ∀ c ∈ t.columns, ¬ c.Mentions f := by
  have arity : f.arity = 1 := by rw [← linked.length_roles keyed member, roles]; rfl
  intro t table c held mentions
  rcases table_of_mentions keyed linked member table held mentions with
    ⟨_, e, entity, _, other, inside, player, _⟩ | ⟨objectified, _⟩ | ⟨junction, _⟩
  · rw [roles, List.mem_singleton] at inside
    rw [← inside, player, keyed.entities.find?_id entity] at found
    cases found
  · exact absurd objectified (by simp [plain])
  · exact absurd junction (by simp [needsJunction_of_small linked keyed member (by omega)])

/-- Every fact type is represented once. An objectified one, and one that needs a junction, has a
table of its own; a hosted one has columns in the table of its host, and a unary one has a flag in
the table of the entity that plays its role. -/
theorem represented_once (keyed : s.Keyed) (apart : s.TableIdsApart) (linked : s.Linked)
    (d : Dialect) :
    ∃ sql, s.relational d = .ok sql ∧ ∀ f ∈ s.factTypes.values,
      ((f.isObjectified = true ∨ ∃ e ∈ s.entities.values, e.objectifiedFactTypeId = some f.id) →
        ∃ t, sql.HasTable f .objectified t) ∧
      (s.isObjectified f = false → 2 < f.arity ∨ f.arity = 2 ∧ s.host? f = none →
        ∃ t, sql.HasTable f .junction t) ∧
      (∀ p q, s.host? f = some (p, q) → ∃ group, sql.HasColumns f p.objectId [p.id, q.id] group) ∧
      (s.isObjectified f = false → ∀ r, s.roles f = [r] →
        (∀ e, s.entities.find? r.objectId = some e → ∃ c, sql.HasColumns f e.id [r.id] [c]) ∧
        (s.entities.find? r.objectId = none → sql.tablesOf f.id = [] ∧
          ∀ t ∈ sql.tables, ∀ c ∈ t.columns, ¬ c.Mentions f)) ∧
      (s.isObjectified f = false → f.arity = 0 → sql.tablesOf f.id = []) := by
  refine ⟨s.toSql d, relational_eq_ok keyed d, fun f member => ⟨?_, ?_, ?_, ?_, ?_⟩⟩
  · intro objectified
    have known := mem_keys_of_factType keyed member
    exact ⟨_, hasTable_objectified keyed apart linked member d
      ((isObjectified_iff known).mpr objectified)⟩
  · exact fun plain unhosted =>
      ⟨_, hasTable_junction keyed apart linked member d plain unhosted⟩
  · exact fun p q host => hasColumns_hosted keyed apart linked member d host
  · intro plain r roles
    have arity : f.arity = 1 := by rw [← linked.length_roles keyed member, roles]; rfl
    have placed := needsJunction_of_small linked keyed member (by omega)
    exact ⟨fun e found => hasColumns_unary keyed apart linked member d plain roles found,
      fun found => ⟨tablesOf_eq_nil keyed apart member d plain placed,
        not_mentioned keyed linked member d plain roles found⟩⟩
  · intro plain arity
    exact tablesOf_eq_nil keyed apart member d plain
      (needsJunction_of_small linked keyed member (by omega))

/-- Persons who know each other, work in offices and may be retired; employments are objects. -/
def staff : Schema :=
  { id := "staff", name := "Staff", version := "1"
    entities := .ofList [
      ("person", ⟨"person", "Person", [], [], none, false⟩),
      ("office", ⟨"office", "Office", [], [], none, false⟩),
      ("contract", ⟨"contract", "Contract", [], [], some "employs", false⟩)]
    factTypes := .ofList [
      ("knows", ⟨"knows", "knows", ["knower", "known"], false, none⟩),
      ("sits", ⟨"sits", "sits", ["sitter", "place"], false, none⟩),
      ("retired", ⟨"retired", "retired", ["pensioner"], false, none⟩),
      ("employs", ⟨"employs", "employs", ["employee", "workplace"], false, none⟩)]
    predicators := .ofList [
      ("knower", ⟨"knower", "knower", "knows", 0, "person", true⟩),
      ("known", ⟨"known", "known", "knows", 1, "person", true⟩),
      ("sitter", ⟨"sitter", "sitter", "sits", 0, "person", true⟩),
      ("place", ⟨"place", "office", "sits", 1, "office", true⟩),
      ("pensioner", ⟨"pensioner", "pensioner", "retired", 0, "person", true⟩),
      ("employee", ⟨"employee", "employee", "employs", 0, "person", true⟩),
      ("workplace", ⟨"workplace", "workplace", "employs", 1, "office", true⟩)]
    uniqueConstraints := .ofList [("one", ⟨"one", "one", ["place"], false, false⟩)] }

/-- One fact type of each kind: a junction, a reference to an office, a flag and an object. -/
theorem represented_once_staff : staff.Keyed ∧ staff.TableIdsApart ∧ staff.Linked ∧
    ∃ sql, staff.relational .sqlServer = .ok sql ∧
      (∃ t, sql.HasTable ⟨"knows", "knows", ["knower", "known"], false, none⟩ .junction t) ∧
      (∃ group, sql.HasColumns ⟨"sits", "sits", ["sitter", "place"], false, none⟩ "person"
        ["sitter", "place"] group) ∧
      (∃ c, sql.HasColumns ⟨"retired", "retired", ["pensioner"], false, none⟩ "person"
        ["pensioner"] [c]) ∧
      ∃ t, sql.HasTable ⟨"employs", "employs", ["employee", "workplace"], false, none⟩
        .objectified t := by
  have keyed : staff.Keyed := by constructor <;> decide +kernel
  have apart : staff.TableIdsApart := by decide +kernel
  have linked : staff.Linked := by constructor <;> decide +kernel
  obtain ⟨sql, derived, once⟩ := represented_once keyed apart linked .sqlServer
  refine ⟨keyed, apart, linked, sql, derived, ?_, ?_, ?_, ?_⟩
  · exact (once _ (.head _)).2.1 (by decide +kernel) (.inr (by decide +kernel))
  · exact (once _ (.tail _ (.head _))).2.2.1 ⟨"sitter", "sitter", "sits", 0, "person", true⟩
      ⟨"place", "office", "sits", 1, "office", true⟩ rfl
  · exact ((once _ (.tail _ (.tail _ (.head _)))).2.2.2.1 (by decide +kernel) _ rfl).1 _ rfl
  · exact (once _ (.tail _ (.tail _ (.tail _ (.head _))))).1
      (.inr ⟨_, .tail _ (.tail _ (.head _)), rfl⟩)

end Schema

end FactModel
