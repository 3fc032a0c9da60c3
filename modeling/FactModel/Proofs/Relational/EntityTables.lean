import FactModel.Proofs.Relational.RoleGroups

/-!
The table of an entity. It starts with the columns of its primary key, and its columns have
distinct names. The key that the table has is the planned key, unless a natural key was worked
out from a reference that was cut short.
-/

namespace FactModel

namespace TablePlan

variable {p : TablePlan} {e : Entity}

def placedRole (p : TablePlan) (e : Entity) (predicator : String) : String × RoleColumns :=
  (predicator, p.roleColumns p.key e predicator)

/-- Key roles come first, then all other roles in the order of the schema. -/
def entityRoles (p : TablePlan) (e : Entity) : List String :=
  (p.naturalRoles e ++ p.played e).eraseDups

/-- The columns that the roles of a natural key have in the table. -/
def keyRoleColumns (p : TablePlan) (e : Entity) : List Column :=
  (p.naturalRoles e).flatMap fun role => (p.roleColumns p.key e role).columns

def keyGroups (p : TablePlan) (e : Entity) : List RoleGroup :=
  RoleGroup.place [] ((p.naturalRoles e).map (p.placedRole e))

/-- The key that the table of an entity has. -/
def tableKey (p : TablePlan) (e : Entity) : Key :=
  if (p.key e).isNatural then ⟨Derivation.naturalColumns (p.keyRoleColumns e), .natural⟩
  else p.key e

/-- What tables rely on in the keys of a plan. -/
structure WellKeyed (p : TablePlan) : Prop where
  proper : ∀ e, (p.key e).Proper
  surrogate : ∀ e ∈ p.schema.entities.values, (p.key e).origin = .surrogate →
    p.key e = p.dialect.surrogateKey
  natural : ∀ e ∈ p.schema.entities.values, (p.key e).origin = .natural →
    p.keyRoleColumns e ≠ []

theorem naturalRoles_of_natural (natural : (p.key e).origin = .natural) :
    p.naturalRoles e = p.keyRoles e := if_pos (Key.isNatural_iff.mpr natural)

theorem nodup_naturalRoles (p : TablePlan) (e : Entity) : (p.naturalRoles e).Nodup := by
  unfold naturalRoles Derivation.keyRoles
  split
  · split
    · exact nodup_eraseDups _
    · exact List.nodup_nil
  · exact List.nodup_nil

theorem nodup_entityRoles (p : TablePlan) (e : Entity) : (p.entityRoles e).Nodup :=
  nodup_eraseDups _

theorem mem_entityRoles {role : String} :
    role ∈ p.entityRoles e ↔ role ∈ p.naturalRoles e ∨ role ∈ p.played e := by
  rw [entityRoles, List.mem_eraseDups, List.mem_append]

theorem entityGroups_eq (p : TablePlan) (e : Entity) : p.entityGroups e =
    RoleGroup.place ((p.leadColumns e).map (·.name)) ((p.entityRoles e).map (p.placedRole e)) :=
  rfl

theorem map_predicator_entityGroups (p : TablePlan) (e : Entity) :
    (p.entityGroups e).map (·.predicator) = p.entityRoles e := by
  rw [entityGroups_eq, RoleGroup.map_predicator_place, List.map_map]
  exact List.map_id'' (fun _ => rfl) _

theorem nodup_groupRoles (p : TablePlan) (e : Entity) :
    ((p.entityGroups e).map (·.predicator)).Nodup := by
  rw [map_predicator_entityGroups]
  exact p.nodup_entityRoles e

theorem mem_entityGroups {g : RoleGroup} (member : g ∈ p.entityGroups e) :
    g.predicator ∈ p.entityRoles e ∧ RoleGroup.Holds (p.placedRole e g.predicator) g := by
  obtain ⟨placed, listed, holds⟩ := RoleGroup.exists_role_of_mem member
  obtain ⟨role, here, rfl⟩ := List.mem_map.mp listed
  have same : g.predicator = role := holds.predicator
  rw [same]
  exact ⟨here, holds⟩

/-! Names of columns -/

/-- A column as it stands in the table, where the columns of a natural key are marked. -/
def marked (p : TablePlan) (e : Entity) (c : Column) : Column :=
  if (p.key e).isNatural && (p.primaryKey e).contains c.name then
    { c with primaryKey := true, nullable := false }
  else c

theorem columns_entityTable (p : TablePlan) (e : Entity) : (p.entityTable e).columns =
    (p.leadColumns e ++ (p.entityGroups e).flatMap (·.columns)).map (p.marked e) := by
  unfold entityTable marked
  dsimp only
  split
  · rename_i natural
    simp only [natural, Bool.true_and]
    rfl
  · rename_i plain
    rw [Bool.not_eq_true] at plain
    simp [plain]

@[simp] theorem marked_name (c : Column) : (p.marked e c).name = c.name := by
  unfold marked
  split <;> rfl

@[simp] theorem marked_sources (c : Column) :
    (p.marked e c).sourcePredicatorIds = c.sourcePredicatorIds := by
  unfold marked
  split <;> rfl

@[simp] theorem marked_storedType (d : Dialect) (c : Column) :
    (p.marked e c).storedType d = c.storedType d := by
  unfold marked
  split <;> rfl

theorem columnNames_entityTable (p : TablePlan) (e : Entity) : (p.entityTable e).columnNames =
    (p.leadColumns e).map (·.name) ++ (p.entityGroups e).flatMap RoleGroup.names := by
  have groups : ((p.entityGroups e).flatMap (·.columns)).map (·.name) =
      (p.entityGroups e).flatMap RoleGroup.names := List.map_flatMap
  rw [Table.columnNames, columns_entityTable, List.map_map, ← groups, ← List.map_append]
  exact List.map_congr_left fun c _ => marked_name c

theorem leadColumns_of_natural (natural : (p.key e).origin = .natural) : p.leadColumns e = [] := by
  rw [leadColumns, natural]

theorem leadColumns_of_surrogate (surrogate : (p.key e).origin = .surrogate) :
    p.leadColumns e = [p.dialect.surrogateColumn] := by
  rw [leadColumns, surrogate]

theorem names_lead_of_inherited {parent : String} (inherited : (p.key e).origin = .inherited parent) :
    (p.leadColumns e).map (·.name) = Name.claimAll [] (p.key e).names := by
  have lengths : (Name.claimAll [] (p.key e).names).length ≤ (p.key e).columns.length := by
    simp [Key.names]
  rw [leadColumns, inherited]
  dsimp only
  rw [List.map_map]
  exact List.map_fst_zip lengths

theorem nodup_leadNames (p : TablePlan) (e : Entity) :
    ((p.leadColumns e).map (·.name)).Nodup := by
  cases origin : (p.key e).origin with
  | natural => simp [leadColumns_of_natural origin]
  | surrogate => simp [leadColumns_of_surrogate origin]
  | inherited parent =>
    rw [names_lead_of_inherited origin]
    exact Name.claimAll_nodup _ _

theorem nodup_columnNames_entityTable (p : TablePlan) (e : Entity) :
    (p.entityTable e).columnNames.Nodup := by
  rw [columnNames_entityTable, entityGroups_eq, RoleGroup.names_place, List.nodup_append]
  refine ⟨p.nodup_leadNames e, Name.claimAll_nodup _ _, ?_⟩
  intro lead taken _ claimed same
  exact Name.claimAll_fresh _ _ _ claimed (same ▸ taken)

/-! The primary key -/

theorem types_lead_of_inherited {parent : String} (inherited : (p.key e).origin = .inherited parent) :
    (p.leadColumns e).map (·.storedType p.dialect) = (p.key e).types := by
  have lengths : (p.key e).columns.length ≤ (Name.claimAll [] (p.key e).names).length := by
    simp [Key.names]
  have second := congrArg (List.map (·.dataType)) (List.map_snd_zip lengths)
  rw [leadColumns, inherited]
  dsimp only
  rw [List.map_map] at second ⊢
  exact second

theorem lead_is_key (keys : p.WellKeyed) (member : e ∈ p.schema.entities.values)
    (front : (p.key e).origin ≠ .natural) :
    (p.leadColumns e).map (·.name) = (p.key e).names ∧
      (p.leadColumns e).map (·.storedType p.dialect) = (p.key e).types ∧
      p.primaryKey e = (p.key e).names ∧
      ∀ c ∈ p.leadColumns e, c.primaryKey = true ∧ c.nullable = false := by
  cases origin : (p.key e).origin with
  | natural => exact absurd origin front
  | surrogate =>
    have primary : p.primaryKey e = [surrogateName] := by rw [primaryKey, primaryKeyOf, origin]
    rw [leadColumns_of_surrogate origin, primary, keys.surrogate e member origin]
    exact ⟨rfl, rfl, rfl, by simp [Dialect.surrogateColumn]⟩
  | inherited parent =>
    have names : Name.claimAll [] (p.key e).names = (p.key e).names :=
      Name.claimAll_eq_self (keys.proper e).distinct (by simp)
    refine ⟨(names_lead_of_inherited origin).trans names, types_lead_of_inherited origin, ?_, ?_⟩
    · rw [primaryKey, primaryKeyOf, origin]
      rfl
    · intro c held
      rw [leadColumns, origin] at held
      obtain ⟨pair, _, rfl⟩ := List.mem_map.mp held
      exact ⟨rfl, rfl⟩

theorem entityGroups_of_natural (natural : (p.key e).origin = .natural) :
    ∃ others, p.entityGroups e = p.keyGroups e ++ others := by
  have roles : p.entityRoles e =
      p.naturalRoles e ++ ((p.played e).removeAll (p.naturalRoles e)).eraseDups :=
    eraseDups_append_of_nodup (p.nodup_naturalRoles e)
  rw [entityGroups_eq, leadColumns_of_natural natural, roles, List.map_append]
  obtain ⟨taken, split⟩ := RoleGroup.place_append [] ((p.naturalRoles e).map (p.placedRole e))
    ((((p.played e).removeAll (p.naturalRoles e)).eraseDups).map (p.placedRole e))
  exact ⟨_, split⟩

theorem tableKey_of_natural (natural : (p.key e).origin = .natural) :
    p.tableKey e = ⟨Derivation.naturalColumns (p.keyRoleColumns e), .natural⟩ :=
  if_pos (Key.isNatural_iff.mpr natural)

theorem tableKey_of_not_natural (front : (p.key e).origin ≠ .natural) : p.tableKey e = p.key e :=
  if_neg (mt Key.isNatural_iff.mp front)

theorem names_keyGroups (natural : (p.key e).origin = .natural) :
    (p.keyGroups e).flatMap RoleGroup.names = (p.tableKey e).names := by
  have columns : (p.keyRoleColumns e).map (·.name) =
      (p.naturalRoles e).flatMap fun role => (p.placedRole e role).2.columns.map (·.name) :=
    List.map_flatMap
  rw [tableKey_of_natural natural, Key.names_mk, Derivation.map_name_naturalColumns, columns,
    keyGroups, RoleGroup.names_place, List.flatMap_map]

theorem types_keyGroups (natural : (p.key e).origin = .natural) :
    ((p.keyGroups e).flatMap (·.columns)).map (·.storedType p.dialect) = (p.tableKey e).types := by
  rw [tableKey_of_natural natural, Key.types_mk, Derivation.map_dataType_naturalColumns, keyGroups,
    RoleGroup.map_columns_place _ _ _ fun _ _ => rfl, List.flatMap_map]
  rw [keyRoleColumns, List.map_flatMap, List.map_flatMap]
  exact List.flatMap_congr fun role _ =>
    (RoleUse.columns_stem p.dialect p.tables p.key (p.schema.roleUse e.id role)).storedTypes _

theorem primaryKey_eq (keys : p.WellKeyed) (member : e ∈ p.schema.entities.values) :
    p.primaryKey e = (p.tableKey e).names := by
  by_cases natural : (p.key e).origin = .natural
  · obtain ⟨others, split⟩ := entityGroups_of_natural natural
    have distinct := p.nodup_groupRoles e
    have front : (p.keyGroups e).map (·.predicator) = p.naturalRoles e := by
      rw [keyGroups, RoleGroup.map_predicator_place, List.map_map]
      exact List.map_id'' (fun _ => rfl) _
    rw [split] at distinct
    have names := flatMap_namesOf distinct
    rw [front, names_keyGroups natural] at names
    rw [primaryKey, primaryKeyOf, natural, split]
    exact names
  · rw [tableKey_of_not_natural natural]
    exact (lead_is_key keys member natural).2.2.1

theorem key_columns_entityTable (keys : p.WellKeyed) (member : e ∈ p.schema.entities.values) :
    ∃ block rest, (p.entityTable e).columns = block ++ rest ∧
      block.map (·.name) = (p.tableKey e).names ∧
      block.map (·.storedType p.dialect) = (p.tableKey e).types ∧
      ∀ c ∈ block, c.primaryKey = true ∧ c.nullable = false := by
  rw [columns_entityTable]
  by_cases natural : (p.key e).origin = .natural
  · obtain ⟨others, split⟩ := entityGroups_of_natural natural
    have names : ((p.keyGroups e).flatMap (·.columns)).map (·.name) = (p.tableKey e).names :=
      List.map_flatMap.trans (names_keyGroups natural)
    have types := types_keyGroups natural
    refine ⟨((p.keyGroups e).flatMap (·.columns)).map (p.marked e),
      (others.flatMap (·.columns)).map (p.marked e), ?_, ?_, ?_, ?_⟩
    · rw [leadColumns_of_natural natural, List.nil_append, split, List.flatMap_append,
        List.map_append]
    · simpa [Function.comp_def] using names
    · simpa [Function.comp_def] using types
    · intro c held
      obtain ⟨old, present, rfl⟩ := List.mem_map.mp held
      have listed : old.name ∈ p.primaryKey e := by
        rw [primaryKey_eq keys member, ← names]
        exact List.mem_map_of_mem present
      simp [marked, Key.isNatural_iff.mpr natural, listed]
  · obtain ⟨names, types, _, marks⟩ := lead_is_key keys member natural
    have plain : (p.key e).isNatural = false := Bool.not_eq_true _ ▸ mt Key.isNatural_iff.mp natural
    have same : ∀ c, p.marked e c = c := fun c => by rw [marked, plain]; rfl
    rw [tableKey_of_not_natural natural, List.map_id'' same]
    exact ⟨p.leadColumns e, (p.entityGroups e).flatMap (·.columns), rfl, names, types, marks⟩

theorem tableKey_proper (keys : p.WellKeyed) (member : e ∈ p.schema.entities.values) :
    (p.tableKey e).Proper := by
  by_cases natural : (p.key e).origin = .natural
  · rw [tableKey_of_natural natural]
    exact Derivation.natural_proper (keys.natural e member natural)
  · rw [tableKey_of_not_natural natural]
    exact keys.proper e

theorem tableKey_names_subset (keys : p.WellKeyed) (member : e ∈ p.schema.entities.values) :
    (p.tableKey e).names ⊆ (p.entityTable e).columnNames := by
  obtain ⟨block, rest, columns, names, _⟩ := key_columns_entityTable keys member
  rw [← names, Table.columnNames, columns, List.map_append]
  exact List.subset_append_left _ _

theorem primaryKey_entityTable (keys : p.WellKeyed) (member : e ∈ p.schema.entities.values) :
    (p.entityTable e).primaryKey ≠ [] ∧
      (p.entityTable e).primaryKey ⊆ (p.entityTable e).columnNames := by
  have primary : (p.entityTable e).primaryKey = (p.tableKey e).names := primaryKey_eq keys member
  rw [primary]
  exact ⟨mt List.map_eq_nil_iff.mp (tableKey_proper keys member).some,
    tableKey_names_subset keys member⟩

/-! Where columns stem from -/

theorem sources_lead (c : Column) (member : c ∈ p.leadColumns e) : c.sourcePredicatorIds = [] := by
  cases origin : (p.key e).origin with
  | natural => simp [leadColumns_of_natural origin] at member
  | surrogate =>
    rw [leadColumns_of_surrogate origin, List.mem_singleton] at member
    rw [member]
    rfl
  | inherited parent =>
    rw [leadColumns, origin] at member
    obtain ⟨pair, _, rfl⟩ := List.mem_map.mp member
    rfl

theorem sources_group {g : RoleGroup} (held : g ∈ p.entityGroups e) (c : Column)
    (member : c ∈ g.columns) :
    c.sourcePredicatorIds = (p.schema.roleUse e.id g.predicator).sources :=
  (mem_entityGroups held).2.sources_eq (RoleUse.columns_stem _ _ _ _) c member

theorem sources_entityTable (c : Column) (member : c ∈ (p.entityTable e).columns) :
    c.sourcePredicatorIds = [] ∨ ∃ role, c.sourcePredicatorIds =
      (p.schema.roleUse e.id role).sources := by
  rw [columns_entityTable] at member
  obtain ⟨old, held, rfl⟩ := List.mem_map.mp member
  rw [marked_sources]
  rcases List.mem_append.mp held with lead | group
  · exact .inl (sources_lead old lead)
  · obtain ⟨g, listed, inside⟩ := List.mem_flatMap.mp group
    exact .inr ⟨_, sources_group listed old inside⟩

/-- The columns of a role stand side by side, and no other column stems from the role. -/
theorem columns_around_role {role : String} (listed : role ∈ p.entityRoles e) :
    ∃ before group after, (p.entityTable e).columns = before ++ group ++ after ∧
      group.length = (p.roleColumns p.key e role).columns.length ∧
      (∀ c ∈ group, c.sourcePredicatorIds = (p.schema.roleUse e.id role).sources) ∧
      ∀ c ∈ before ++ after, c.sourcePredicatorIds = [] ∨
        ∃ other, other ≠ role ∧ c.sourcePredicatorIds =
          (p.schema.roleUse e.id other).sources := by
  rw [← map_predicator_entityGroups] at listed
  obtain ⟨g, held, rfl⟩ := List.mem_map.mp listed
  obtain ⟨first, last, split⟩ := List.append_of_mem held
  -- groups have different roles, as no role is visited twice
  have apart : ∀ other ∈ first ++ last, other.predicator ≠ g.predicator := by
    have distinct := p.nodup_groupRoles e
    rw [split, List.map_append, List.map_cons,
      List.nodup_middle, List.nodup_cons, ← List.map_append] at distinct
    exact fun other inside same => distinct.1 (same ▸ List.mem_map_of_mem inside)
  have others : ∀ groups ⊆ first ++ last, ∀ c ∈ groups.flatMap (·.columns),
      ∃ other, other ≠ g.predicator ∧
        c.sourcePredicatorIds = (p.schema.roleUse e.id other).sources := by
    intro groups within c member
    obtain ⟨other, inside, member⟩ := List.mem_flatMap.mp member
    have there : other ∈ p.entityGroups e := by
      rw [split]
      rcases List.mem_append.mp (within inside) with here | here
      · exact List.mem_append_left _ here
      · exact List.mem_append_right _ (List.mem_cons_of_mem _ here)
    exact ⟨_, apart other (within inside), sources_group there c member⟩
  refine ⟨(p.leadColumns e ++ first.flatMap (·.columns)).map (p.marked e),
    g.columns.map (p.marked e), (last.flatMap (·.columns)).map (p.marked e), ?_, ?_, ?_, ?_⟩
  · rw [columns_entityTable, split]
    simp only [List.flatMap_append, List.flatMap_cons, List.map_append, List.append_assoc]
  · rw [List.length_map]
    exact (mem_entityGroups held).2.columns.length_eq.symm
  · intro c member
    obtain ⟨old, inside, rfl⟩ := List.mem_map.mp member
    rw [marked_sources]
    exact sources_group held old inside
  · rw [← List.map_append]
    intro c member
    obtain ⟨old, inside, rfl⟩ := List.mem_map.mp member
    rw [marked_sources]
    rcases List.mem_append.mp inside with inside | inside
    · rcases List.mem_append.mp inside with lead | inside
      · exact .inl (sources_lead old lead)
      · exact .inr (others first (List.subset_append_left _ _) old inside)
    · exact .inr (others last (List.subset_append_right _ _) old inside)

end TablePlan

end FactModel
