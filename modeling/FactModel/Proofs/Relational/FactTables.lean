import FactModel.Proofs.Relational.EntityTables

/-!
The table of an objectified fact type, and junction tables: a group of columns for each role whose
object resolves, after a number of the row where the fact type is objectified.
-/

namespace FactModel

namespace TablePlan

variable {p : TablePlan} {kind : TableKind} {f : FactType}

def placedFactRole (p : TablePlan) (kind : TableKind) (pair : Predicator × ObjectType) :
    String × RoleColumns :=
  (pair.1.id, referenceColumns p.dialect p.tables p.key pair.1.name pair.2
    (kind != .junction && pair.1.isOptional) [pair.1.id])

theorem placedFactRole_stem (p : TablePlan) (kind : TableKind) (role : Predicator)
    (target : ObjectType) : (p.placedFactRole kind (role, target)).2.StemFrom [role.id] :=
  referenceColumns_stem _ _ _ _ _ _ _

theorem placedFactRole_refers (p : TablePlan) (kind : TableKind) (role : Predicator)
    (e : Entity) :
    (p.placedFactRole kind (role, .entity e)).2.RefersTo (p.tableName e.id) (p.key e) :=
  referenceColumns_entity p.dialect p.tables p.key role.name
    (kind != .junction && role.isOptional) [role.id] e

/-- The columns in front that no role contributes. -/
def factLead (p : TablePlan) (kind : TableKind) : List Column :=
  if kind = .junction then [] else [p.dialect.surrogateColumn]

theorem factGroups_eq (p : TablePlan) (kind : TableKind) (f : FactType) : p.factGroups f kind =
    RoleGroup.place ((p.factLead kind).map (·.name))
      ((p.factRoles f).map (p.placedFactRole kind)) := by
  unfold factGroups factLead
  split <;> rfl

theorem columns_factTable (p : TablePlan) (kind : TableKind) (f : FactType) :
    (p.factTable kind f).columns =
      p.factLead kind ++ (p.factGroups f kind).flatMap (·.columns) := by
  unfold factTable factLead
  dsimp only
  split <;> rfl

theorem nodup_columnNames_factTable (p : TablePlan) (kind : TableKind) (f : FactType) :
    (p.factTable kind f).columnNames.Nodup := by
  have lead : ((p.factLead kind).map (·.name)).Nodup := by
    unfold factLead
    split <;> simp
  have groups : ((p.factGroups f kind).flatMap (·.columns)).map (·.name) =
      (p.factGroups f kind).flatMap RoleGroup.names := List.map_flatMap
  rw [Table.columnNames, columns_factTable, List.map_append, groups, factGroups_eq,
    RoleGroup.names_place, List.nodup_append]
  refine ⟨lead, Name.claimAll_nodup _ _, ?_⟩
  intro lead taken _ claimed same
  exact Name.claimAll_fresh _ _ _ claimed (same ▸ taken)

theorem mem_factRoles {role : Predicator} {target : ObjectType} :
    (role, target) ∈ p.factRoles f ↔
      role ∈ p.schema.roles f ∧ p.schema.object? role.objectId = some target := by
  simp only [factRoles, List.mem_filterMap, Option.map_eq_some_iff, Prod.mk.injEq]
  constructor
  · rintro ⟨_, listed, _, found, rfl, rfl⟩
    exact ⟨listed, found⟩
  · rintro ⟨listed, found⟩
    exact ⟨role, listed, target, found, rfl, rfl⟩

theorem mem_factGroups {g : RoleGroup} (member : g ∈ p.factGroups f kind) :
    ∃ role target, role ∈ p.schema.roles f ∧ p.schema.object? role.objectId = some target ∧
      RoleGroup.Holds (p.placedFactRole kind (role, target)) g := by
  rw [factGroups_eq] at member
  obtain ⟨placed, listed, holds⟩ := RoleGroup.exists_role_of_mem member
  obtain ⟨⟨role, target⟩, here, rfl⟩ := List.mem_map.mp listed
  rw [mem_factRoles] at here
  exact ⟨role, target, here.1, here.2, holds⟩

theorem exists_factGroup (proper : ∀ e, (p.key e).Proper) (kind : TableKind) {role : Predicator}
    {target : ObjectType} (member : role ∈ p.schema.roles f)
    (found : p.schema.object? role.objectId = some target) :
    ∃ g ∈ p.factGroups f kind, g.columns ≠ [] ∧
      RoleGroup.Holds (p.placedFactRole kind (role, target)) g := by
  have listed := List.mem_map_of_mem (f := p.placedFactRole kind)
    (mem_factRoles.mpr ⟨member, found⟩)
  obtain ⟨g, held, holds⟩ :=
    RoleGroup.exists_group_of_mem ((p.factLead kind).map (·.name)) listed
  rw [← factGroups_eq] at held
  exact ⟨g, held, holds.columns.ne_nil (referenceColumns_ne_nil _ _ _ _ _ proper), holds⟩

theorem primaryKey_junction (p : TablePlan) (f : FactType) :
    (p.factTable .junction f).primaryKey = (p.factTable .junction f).columnNames := rfl

theorem surrogate_mem_columnNames (f : FactType) (numbered : kind ≠ .junction) :
    surrogateName ∈ (p.factTable kind f).columnNames := by
  rw [Table.columnNames, columns_factTable, factLead, if_neg numbered]
  exact List.mem_cons_self

theorem primaryKey_objectified (p : TablePlan) (f : FactType) :
    (p.factTable .objectified f).primaryKey ≠ [] ∧
      (p.factTable .objectified f).primaryKey ⊆ (p.factTable .objectified f).columnNames :=
  ⟨List.cons_ne_nil _ _,
    List.cons_subset.mpr ⟨surrogate_mem_columnNames f (by decide), List.nil_subset _⟩⟩

theorem sources_factTable (c : Column) (member : c ∈ (p.factTable kind f).columns) :
    c.sourcePredicatorIds = [] ∨ ∃ role ∈ p.schema.roles f, c.sourcePredicatorIds = [role.id] := by
  rw [columns_factTable] at member
  rcases List.mem_append.mp member with lead | member
  · unfold factLead at lead
    split at lead
    · cases lead
    · rw [List.mem_singleton] at lead
      rw [lead]
      exact .inl rfl
  · obtain ⟨g, held, inside⟩ := List.mem_flatMap.mp member
    obtain ⟨role, target, listed, _, holds⟩ := mem_factGroups held
    exact .inr ⟨role, listed, holds.sources_eq (p.placedFactRole_stem kind role target) c inside⟩

theorem exists_column_of_role (proper : ∀ e, (p.key e).Proper) (kind : TableKind)
    {role : Predicator} {target : ObjectType} (member : role ∈ p.schema.roles f)
    (found : p.schema.object? role.objectId = some target) :
    ∃ c ∈ (p.factTable kind f).columns, c.sourcePredicatorIds = [role.id] := by
  obtain ⟨g, group, some, holds⟩ := exists_factGroup proper kind member found
  obtain ⟨c, column⟩ := List.exists_mem_of_ne_nil _ some
  refine ⟨c, ?_, holds.sources_eq (p.placedFactRole_stem kind role target) c column⟩
  rw [columns_factTable]
  exact List.mem_append_right _ (List.mem_flatMap.mpr ⟨g, group, column⟩)

theorem factGroups_eq_nil (kind : TableKind)
    (unplayed : ∀ role ∈ p.schema.roles f, p.schema.object? role.objectId = none) :
    p.factGroups f kind = [] := by
  have roles : p.factRoles f = [] := by
    rw [factRoles, List.filterMap_eq_nil_iff]
    intro role member
    rw [unplayed role member, Option.map_none]
  rw [factGroups_eq, roles, List.map_nil, RoleGroup.place]

/-- A junction has no columns where none of its roles resolves. -/
theorem columns_junction_eq_nil_iff (proper : ∀ e, (p.key e).Proper) :
    (p.factTable .junction f).columns = [] ↔
      ∀ role ∈ p.schema.roles f, p.schema.object? role.objectId = none := by
  constructor
  · intro none role member
    by_contra resolves
    obtain ⟨target, found⟩ := Option.ne_none_iff_exists'.mp resolves
    obtain ⟨c, held, _⟩ := exists_column_of_role proper .junction member found
    rw [none] at held
    cases held
  · intro unplayed
    rw [columns_factTable, factGroups_eq_nil .junction unplayed]
    rfl

end TablePlan

end FactModel
