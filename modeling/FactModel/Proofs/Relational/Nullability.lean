import FactModel.Proofs.Relational.FactTables

/-!
Which columns may be null. The columns of a role are nullable where the role is optional, unless
they belong to the primary key of their table; junction tables have no nullable column.
-/

namespace FactModel

section References

variable (d : Dialect) (tables : OrderedMap String) (keyOf : Entity → Key)

theorem nullable_referenceColumns (role : String) (target : ObjectType) (nullable : Bool)
    (sources : List String) :
    ∀ c ∈ (referenceColumns d tables keyOf role target nullable sources).columns,
      c.nullable = nullable := by
  intro c member
  cases target with
  | entity e =>
    obtain ⟨column, _, rfl⟩ := List.mem_map.mp member
    rfl
  | _ =>
    rw [List.mem_singleton.mp member]

/-- The columns of a use are those of a role, and nullable if the role is optional. -/
theorem role_of_roleUse {s : Schema} {entity predicator : String} {c : Column}
    (member : c ∈ ((s.roleUse entity predicator).columns d tables keyOf).columns) :
    ∃ role, s.predicators.find? predicator = some role ∧ c.nullable = role.isOptional ∧
      c.sourcePredicatorIds.head? = some role.id := by
  have stem := RoleUse.columns_stem d tables keyOf (s.roleUse entity predicator) c member
  rcases s.roleUse_cases entity predicator with use | ⟨f, role, use, found, _⟩ |
    ⟨f, p, role, partner, target, use, found, _⟩
  · rw [use] at member
    cases member
  · rw [use] at member stem
    rw [List.mem_singleton.mp member]
    exact ⟨role, found, rfl, rfl⟩
  · rw [use] at member stem
    refine ⟨role, found, nullable_referenceColumns _ _ _ _ _ _ _ c member, ?_⟩
    rw [stem.1]
    rfl

end References

theorem RoleGroup.Holds.exists_column_of_mem {placed : String × RoleColumns} {g : RoleGroup}
    (holds : RoleGroup.Holds placed g) {c : Column} (member : c ∈ g.columns) :
    ∃ old ∈ placed.2.columns, c = { old with name := c.name } :=
  exists_of_forall₂ holds.columns member

namespace TablePlan

variable {p : TablePlan} {e : Entity} {f : FactType}

theorem not_mem_leadNames {c : Column} (held : c ∈ (p.entityGroups e).flatMap (·.columns)) :
    c.name ∉ (p.leadColumns e).map (·.name) := by
  intro front
  have distinct := p.nodup_columnNames_entityTable e
  rw [columnNames_entityTable, List.nodup_append] at distinct
  obtain ⟨g, group, inside⟩ := List.mem_flatMap.mp held
  exact distinct.2.2 c.name front c.name
    (List.mem_flatMap.mpr ⟨g, group, List.mem_map_of_mem inside⟩) rfl

theorem nullable_marked {c : Column} (keys : p.WellKeyed) (member : e ∈ p.schema.entities.values)
    (held : c ∈ (p.entityGroups e).flatMap (·.columns)) :
    (p.marked e c).nullable = true ↔ c.nullable = true ∧ c.name ∉ p.primaryKey e := by
  unfold marked
  by_cases natural : (p.key e).origin = .natural
  · by_cases listed : c.name ∈ p.primaryKey e <;> simp [Key.isNatural_iff.mpr natural, listed]
  · -- the columns in front are the key, and no role gets a name of theirs
    obtain ⟨names, _, primary, _⟩ := lead_is_key keys member natural
    have outside : c.name ∉ p.primaryKey e := by
      rw [primary, ← names]
      exact not_mem_leadNames held
    simp [outside]

theorem nullable_entityTable (keys : p.WellKeyed) (member : e ∈ p.schema.entities.values)
    {c : Column} (held : c ∈ (p.entityTable e).columns) {role : String}
    (stems : c.sourcePredicatorIds.head? = some role) :
    ∃ key r, p.schema.predicators.find? key = some r ∧ r.id = role ∧
      (c.nullable = true ↔ r.isOptional = true ∧ c.name ∉ (p.entityTable e).primaryKey) := by
  rw [columns_entityTable] at held
  obtain ⟨placed, present, rfl⟩ := List.mem_map.mp held
  rw [marked_sources] at stems
  rcases List.mem_append.mp present with lead | group
  · rw [sources_lead placed lead] at stems
    cases stems
  · obtain ⟨g, listed, inside⟩ := List.mem_flatMap.mp group
    obtain ⟨old, column, same⟩ := (mem_entityGroups listed).2.exists_column_of_mem inside
    obtain ⟨r, found, optional, first⟩ := role_of_roleUse _ _ _ column
    have nullable : placed.nullable = r.isOptional := by
      rw [same]
      exact optional
    have source : placed.sourcePredicatorIds.head? = some r.id := by
      rw [same]
      exact first
    refine ⟨g.predicator, r, found, Option.some.inj (source.symm.trans stems), ?_⟩
    rw [nullable_marked keys member group, marked_name, nullable]
    rfl

theorem nullable_objectified {c : Column} (held : c ∈ (p.factTable .objectified f).columns)
    {role : String} (stems : c.sourcePredicatorIds.head? = some role) :
    ∃ r ∈ p.schema.roles f, r.id = role ∧
      (c.nullable = true ↔
        r.isOptional = true ∧ c.name ∉ (p.factTable .objectified f).primaryKey) := by
  have distinct := p.nodup_columnNames_factTable .objectified f
  rw [Table.columnNames, columns_factTable, List.map_append, List.nodup_append] at distinct
  rw [columns_factTable] at held
  rcases List.mem_append.mp held with lead | group
  · rw [List.mem_singleton.mp lead] at stems
    cases stems
  · have outside : c.name ≠ surrogateName := fun same =>
      distinct.2.2 surrogateName List.mem_cons_self c.name (List.mem_map_of_mem group) same.symm
    obtain ⟨g, listed, inside⟩ := List.mem_flatMap.mp group
    obtain ⟨r, target, member, _, holds⟩ := mem_factGroups listed
    obtain ⟨old, column, same⟩ := holds.exists_column_of_mem inside
    have nullable : c.nullable = r.isOptional := by
      rw [same]
      exact nullable_referenceColumns _ _ _ _ _ _ _ old column
    have source := holds.sources_eq (p.placedFactRole_stem .objectified r target) c inside
    rw [source] at stems
    refine ⟨r, member, Option.some.inj stems, ?_⟩
    rw [nullable, show (p.factTable .objectified f).primaryKey = [surrogateName] from rfl]
    simp [outside]

theorem nullable_junction {c : Column} (held : c ∈ (p.factTable .junction f).columns) :
    c.nullable = false := by
  rw [columns_factTable] at held
  obtain ⟨g, listed, inside⟩ := List.mem_flatMap.mp held
  obtain ⟨r, target, _, _, holds⟩ := mem_factGroups listed
  obtain ⟨old, column, same⟩ := holds.exists_column_of_mem inside
  rw [same]
  exact nullable_referenceColumns _ _ _ _ _ _ _ old column

end TablePlan

end FactModel
