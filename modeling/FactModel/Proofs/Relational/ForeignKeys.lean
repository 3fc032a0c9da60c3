import FactModel.Proofs.Relational.FactTables

/-!
Every foreign key leads to the planned key of an entity, from as many columns of its own table.
-/

namespace FactModel

namespace Table

variable {d : Dialect} {t : Table}

def storedType? (d : Dialect) (t : Table) (name : String) : Option String :=
  (t.column? name).map (·.storedType d)

theorem column?_name (distinct : t.columnNames.Nodup) {c : Column} (member : c ∈ t.columns) :
    t.column? c.name = some c := by
  rw [column?, ← find?_of_nodup_map distinct member]
  rfl

theorem storedType?_names (distinct : t.columnNames.Nodup) {columns : List Column}
    (within : columns ⊆ t.columns) :
    (columns.map (·.name)).map (t.storedType? d) = columns.map fun c => some (c.storedType d) := by
  rw [List.map_map]
  refine List.map_congr_left fun c member => ?_
  rw [Function.comp_apply, storedType?, column?_name distinct (within member), Option.map_some]

end Table

theorem RoleGroup.reference_of_foreignKey? {g : RoleGroup} {table : String}
    {action : ForeignKeyAction} {k : ForeignKey} (made : g.foreignKey? table action = some k) :
    ∃ reference, g.reference = some reference := by
  unfold foreignKey? at made
  split at made
  · exact ⟨_, ‹_›⟩
  · cases made

theorem RoleGroup.foreignKey?_of_reference {g : RoleGroup} {reference : Reference}
    (refers : g.reference = some reference) (some : g.columns ≠ []) (table : String)
    (action : ForeignKeyAction) :
    g.foreignKey? table action = .some (roleForeignKey table g.names reference action) := by
  simp [foreignKey?, refers, some]

theorem RoleGroup.shape_of_foreignKey? {g : RoleGroup} {table : String}
    {action : ForeignKeyAction} {k : ForeignKey} (made : g.foreignKey? table action = some k) :
    k.columns = g.names ∧ g.columns ≠ [] ∧ k.name = foreignKeyName table k.columns := by
  unfold foreignKey? at made
  split at made
  · split at made
    · cases made
    · rename_i filled
      cases made
      exact ⟨rfl, by simpa using filled, rfl⟩
  · cases made

namespace TablePlan

variable {p : TablePlan}

/-- The foreign key leads from columns of a table to the planned key of an entity. -/
structure LeadsTo (p : TablePlan) (t : Table) (k : ForeignKey) (target : Entity) : Prop where
  listed : target ∈ p.schema.entities.values
  table : k.refTable = p.tableName target.id
  columns : k.refColumns = (p.key target).names
  present : k.columns ⊆ t.columnNames
  length : k.columns.length = k.refColumns.length
  types : (∀ e ∈ p.schema.entities.values, p.tableKey e = p.key e) →
    k.columns.map (t.storedType? p.dialect) = (p.key target).types.map some

/-- The foreign key of a group, where the table has the columns of the group up to their marks. -/
theorem leadsTo_of_group {t : Table} (distinct : t.columnNames.Nodup) {g : RoleGroup}
    {mark : Column → Column} (names : ∀ c, (mark c).name = c.name)
    (types : ∀ c, (mark c).storedType p.dialect = c.storedType p.dialect)
    (kept : g.columns.map mark ⊆ t.columns) {role : String × RoleColumns}
    (holds : RoleGroup.Holds role g) {sources : List String} (stem : role.2.StemFrom sources)
    {target : Entity} (listed : target ∈ p.schema.entities.values)
    (refers : role.2.RefersTo (p.tableName target.id) (p.key target)) {name : String}
    {action : ForeignKeyAction} {k : ForeignKey} (made : g.foreignKey? name action = some k) :
    p.LeadsTo t k target := by
  have reference : g.reference = some ⟨p.tableName target.id, (p.key target).names⟩ :=
    holds.reference.trans refers.reference
  have shape : k = roleForeignKey name g.names ⟨p.tableName target.id, (p.key target).names⟩
      action := by
    simp only [RoleGroup.foreignKey?, reference] at made
    split at made
    · cases made
    · exact (Option.some.inj made).symm
  have same : (g.columns.map mark).map (·.name) = g.names := by
    rw [List.map_map]
    exact List.map_congr_left fun c _ => names c
  have stored : g.columns.map (·.storedType p.dialect) = (p.key target).types := by
    rw [holds.columns.map_eq (·.storedType p.dialect) fun _ _ => rfl, stem.storedTypes,
      refers.types]
  have lengths := congrArg List.length stored
  subst shape
  refine ⟨listed, rfl, rfl, ?_, ?_, fun _ => ?_⟩
  · intro column member
    obtain ⟨c, held, rfl⟩ := List.mem_map.mp (same ▸ member)
    exact List.mem_map_of_mem (kept held)
  · simpa [roleForeignKey, RoleGroup.names, Key.names, Key.types] using lengths
  · rw [← stored]
    show g.names.map _ = _
    rw [← same, Table.storedType?_names distinct kept, List.map_map, List.map_map]
    exact List.map_congr_left fun c _ => congrArg some (types c)

theorem leadsTo_of_factTable (keyed : p.schema.Keyed) {kind : TableKind} {f : FactType}
    {k : ForeignKey} (member : k ∈ (p.factTable kind f).foreignKeys) :
    ∃ target, p.LeadsTo (p.factTable kind f) k target := by
  obtain ⟨g, held, made⟩ := List.mem_filterMap.mp member
  obtain ⟨role, o, _, found, holds⟩ := mem_factGroups held
  obtain ⟨reference, refers⟩ := RoleGroup.reference_of_foreignKey? made
  rw [holds.reference] at refers
  obtain ⟨e, rfl⟩ := referenceColumns_of_reference _ _ _ _ _ _ refers
  have kept : g.columns.map id ⊆ (p.factTable kind f).columns := by
    rw [List.map_id, columns_factTable]
    exact fun c inside => List.mem_append_right _ (List.mem_flatMap.mpr ⟨g, held, inside⟩)
  exact ⟨e, leadsTo_of_group (p.nodup_columnNames_factTable kind f) (fun _ => rfl) (fun _ => rfl)
    kept holds (p.placedFactRole_stem kind role _) (Schema.entity_of_object? keyed found).1
    (p.placedFactRole_refers kind role e) made⟩

variable {e : Entity}

theorem leadsTo_of_role (keyed : p.schema.Keyed) {g : RoleGroup} (held : g ∈ p.entityGroups e)
    {target : Entity} (use : (p.schema.roleUse e.id g.predicator).entity? = some target)
    {name : String} {action : ForeignKeyAction} {k : ForeignKey}
    (made : g.foreignKey? name action = some k) : p.LeadsTo (p.entityTable e) k target := by
  have kept : g.columns.map (p.marked e) ⊆ (p.entityTable e).columns := by
    rw [columns_entityTable, List.map_append]
    refine fun c inside => List.mem_append_right _ ?_
    obtain ⟨old, present, rfl⟩ := List.mem_map.mp inside
    exact List.mem_map_of_mem (List.mem_flatMap.mpr ⟨g, held, present⟩)
  exact leadsTo_of_group (p.nodup_columnNames_entityTable e) marked_name (marked_storedType _) kept
    (mem_entityGroups held).2 (RoleUse.columns_stem _ _ _ _)
    (Schema.entity_of_roleUse keyed use) (RoleUse.columns_entity _ _ _ use) made

theorem exists_foreignKey_of_role (keyed : p.schema.Keyed) (keys : p.WellKeyed) {role : String}
    {target : Entity} (use : (p.schema.roleUse e.id role).entity? = some target) :
    ∃ k ∈ (p.entityTable e).foreignKeys, p.LeadsTo (p.entityTable e) k target := by
  have used : p.schema.roleUse e.id role ≠ .nothing := by
    intro unused
    rw [unused] at use
    cases use
  have listed : role ∈ p.entityRoles e := by
    obtain ⟨r, held, player, rfl⟩ := Schema.played_of_roleUse keyed used
    refine mem_entityRoles.mpr (.inr (List.mem_map_of_mem (List.mem_filter.mpr ⟨held, ?_⟩)))
    rw [player, beq_self_eq_true]
  obtain ⟨g, held, holds⟩ := RoleGroup.exists_group_of_mem
    ((p.leadColumns e).map (·.name)) (List.mem_map_of_mem (f := p.placedRole e) listed)
  rw [← entityGroups_eq] at held
  have named : g.predicator = role := holds.predicator
  have refers := holds.reference.trans (RoleUse.columns_entity p.dialect p.tables p.key use).reference
  have made := RoleGroup.foreignKey?_of_reference refers (holds.columns.ne_nil
    (RoleUse.columns_ne_nil p.dialect p.tables keys.proper used)) (p.tableName e.id) .restrict
  rw [← named] at use
  exact ⟨_, List.mem_append_left _ (List.mem_filterMap.mpr ⟨g, held, made⟩),
    leadsTo_of_role keyed held use made⟩

theorem leadsTo_of_parent (keys : p.WellKeyed) (member : e ∈ p.schema.entities.values)
    {parent : Entity} (listed : parent ∈ p.schema.entities.values)
    (length : (p.key parent).columns.length = (p.primaryKey e).length)
    (types : (p.key parent).types = (p.key e).types) :
    p.LeadsTo (p.entityTable e) (p.specializationKey (p.tableName e.id) (p.primaryKey e) parent)
      parent := by
  obtain ⟨block, rest, columns, names, stored, _⟩ := key_columns_entityTable keys member
  have within : block ⊆ (p.entityTable e).columns := by
    rw [columns]
    exact List.subset_append_left _ _
  have primary : p.primaryKey e = block.map (·.name) := (primaryKey_eq keys member).trans names.symm
  -- the key of the child stands in front of its table
  refine ⟨listed, rfl, rfl, ?_, ?_, fun same => ?_⟩
  · show p.primaryKey e ⊆ _
    rw [primary]
    exact List.map_subset _ within
  · simpa [specializationKey] using length.symm
  · show (p.primaryKey e).map _ = _
    rw [primary, Table.storedType?_names (p.nodup_columnNames_entityTable e) within, types,
      ← same e member, ← stored, List.map_map]
    rfl

theorem mismatch?_eq_none {parent : Entity} {primaryKey : List String} :
    p.mismatch? e parent primaryKey = none ↔
      (p.key parent).columns.length = primaryKey.length ∧ (p.key parent).types = (p.key e).types := by
  unfold mismatch? Key.types
  dsimp only
  split
  · simp_all
  · split <;> simp_all

theorem specializationKey_mem {parent : Entity} (named : parent ∈ p.parents e)
    (fits : p.mismatch? e parent (p.primaryKey e) = none) :
    p.specializationKey (p.tableName e.id) (p.primaryKey e) parent ∈
      (p.entityTable e).foreignKeys := by
  rw [primaryKey] at fits
  refine List.mem_append_right _ (List.mem_filterMap.mpr
    ⟨parent, (List.mem_filter.mp named).1, ?_⟩)
  rw [fits]
  rfl

theorem exists_foreignKey_of_parent (keys : p.WellKeyed) (member : e ∈ p.schema.entities.values)
    {parent : Entity} (named : parent ∈ p.parents e)
    (length : (p.key parent).columns.length = (p.primaryKey e).length)
    (types : (p.key parent).types = (p.key e).types) :
    ∃ k ∈ (p.entityTable e).foreignKeys, p.LeadsTo (p.entityTable e) k parent :=
  ⟨_, specializationKey_mem named (mismatch?_eq_none.mpr ⟨length, types⟩),
    leadsTo_of_parent keys member (p.mem_parents named) length types⟩

theorem leadsTo_of_entityTable (keyed : p.schema.Keyed) (keys : p.WellKeyed)
    (member : e ∈ p.schema.entities.values) {k : ForeignKey}
    (made : k ∈ (p.entityTable e).foreignKeys) : ∃ target, p.LeadsTo (p.entityTable e) k target := by
  rcases List.mem_append.mp made with made | made
  · obtain ⟨g, held, made⟩ := List.mem_filterMap.mp made
    obtain ⟨reference, refers⟩ := RoleGroup.reference_of_foreignKey? made
    rw [(mem_entityGroups held).2.reference] at refers
    obtain ⟨target, use⟩ := RoleUse.entity_of_reference _ _ _ refers
    exact ⟨target, leadsTo_of_role keyed held use made⟩
  · obtain ⟨parent, listed, made⟩ := List.mem_filterMap.mp made
    obtain ⟨id, _, found⟩ := List.mem_filterMap.mp listed
    split at made
    · cases made
    · rename_i fits
      cases made
      obtain ⟨length, types⟩ := mismatch?_eq_none.mp fits
      exact ⟨parent, leadsTo_of_parent keys member (OrderedMap.mem_values_of_find? found) length
        types⟩

theorem leadsTo_of_mem (keyed : p.schema.Keyed) (keys : p.WellKeyed) {t : Table}
    (member : t ∈ p.tableList) {k : ForeignKey} (made : k ∈ t.foreignKeys) :
    ∃ target, p.LeadsTo t k target := by
  rcases List.mem_append.mp member with member | member
  · rcases List.mem_append.mp member with member | member
    · obtain ⟨e, listed, rfl⟩ := List.mem_map.mp member
      exact leadsTo_of_entityTable keyed keys listed made
    · obtain ⟨f, _, rfl⟩ := List.mem_map.mp member
      exact leadsTo_of_factTable keyed made
  · obtain ⟨f, _, rfl⟩ := List.mem_map.mp member
    exact leadsTo_of_factTable keyed made

end TablePlan

end FactModel
