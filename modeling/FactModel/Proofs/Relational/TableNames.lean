import FactModel.Integrity
import FactModel.Proofs.Relational.KeyShapes

/-!
The names of tables. Every element that has a table gets a name that no other table has, so that
a table is found by its name.
-/

namespace FactModel

namespace Schema

variable {s : Schema}

/-- The tables that a schema gets in a dialect, as planned. -/
def plan (s : Schema) (d : Dialect) : TablePlan := (Derivation.ofSchema s d).plan

theorem relational_eq_ok (keyed : s.Keyed) (d : Dialect) : s.relational d = .ok (s.toSql d) :=
  Derivation.result_eq_ok keyed

theorem mem_objectifiedFactTypes {f : FactType} :
    f ∈ s.objectifiedFactTypes ↔ f ∈ s.factTypes.values ∧ s.isObjectified f = true :=
  List.mem_filter

theorem mem_junctions {f : FactType} :
    f ∈ s.junctions ↔ f ∈ s.factTypes.values ∧ s.needsJunction f = true := List.mem_filter

theorem isObjectified_of_junction {f : FactType} (member : f ∈ s.junctions) :
    s.isObjectified f = false := by
  have needs := (mem_junctions.mp member).2
  simp only [needsJunction, Bool.and_eq_true, Bool.not_eq_true'] at needs
  exact needs.1.1.1

def tableIds (s : Schema) : List String := s.tableElements.map (·.1)

theorem tableIds_eq (s : Schema) : s.tableIds = s.entities.values.map (·.id) ++
    s.objectifiedFactTypes.map (·.id) ++ s.junctions.map (·.id) := by
  simp only [tableIds, tableElements, List.map_append, List.map_map, Function.comp_def]

theorem nodup_tableIds (keyed : s.Keyed) (apart : s.TableIdsApart) : s.tableIds.Nodup := by
  have facts := keyed.factTypes.nodup_ids
  have objectified : (s.objectifiedFactTypes.map (·.id)).Nodup :=
    facts.sublist (List.filter_sublist.map _)
  have junctions : (s.junctions.map (·.id)).Nodup := facts.sublist (List.filter_sublist.map _)
  have outside : ∀ e ∈ s.entities.values, ∀ f ∈ s.factTypes.values, e.id ≠ f.id := by
    intro e listed f held same
    exact apart e.id (mem_keys_of_entity keyed listed) (same ▸ mem_keys_of_factType keyed held)
  rw [tableIds_eq, List.nodup_append, List.nodup_append]
  refine ⟨⟨keyed.entities.nodup_ids, objectified, ?_⟩, junctions, ?_⟩
  · intro _ first _ second
    obtain ⟨e, listed, rfl⟩ := List.mem_map.mp first
    obtain ⟨f, held, rfl⟩ := List.mem_map.mp second
    exact outside e listed f (mem_objectifiedFactTypes.mp held).1
  · intro _ first _ second
    obtain ⟨g, junction, rfl⟩ := List.mem_map.mp second
    rcases List.mem_append.mp first with first | first
    · obtain ⟨e, listed, rfl⟩ := List.mem_map.mp first
      exact outside e listed g (mem_junctions.mp junction).1
    · obtain ⟨f, held, rfl⟩ := List.mem_map.mp first
      rw [mem_objectifiedFactTypes] at held
      intro same
      have equal := keyed.factTypes.eq_of_id held.1 (mem_junctions.mp junction).1 same
      rw [equal, isObjectified_of_junction junction] at held
      exact absurd held.2 (by simp)

theorem map_tableName (keyed : s.Keyed) (apart : s.TableIdsApart) (d : Dialect) :
    s.tableIds.map (s.plan d).tableName =
      Name.claimAll [] (s.tableElements.map fun element => Ddl.identifier element.2) := by
  have distinct := nodup_tableIds keyed apart
  generalize claimed : Name.claimAll [] (s.tableElements.map fun element =>
    Ddl.identifier element.2) = names
  have length : names.length = s.tableIds.length := by simp [← claimed, tableIds]
  have pairs : ((s.tableIds.zip names).map Prod.fst).Nodup := by
    rwa [List.map_fst_zip (Nat.le_of_eq length.symm)]
  have found : s.tableIds.map (fun id => s.tableNames.find? id) = names.map some := by
    rw [← lookup_zip distinct length]
    refine List.map_congr_left fun id _ => ?_
    rw [← OrderedMap.find?_ofList pairs, ← claimed]
    rfl
  have named : s.tableIds.map (s.plan d).tableName =
      (s.tableIds.map fun id => s.tableNames.find? id).map (·.getD "") := by
    rw [List.map_map]
    rfl
  rw [named, found, List.map_map]
  exact List.map_id'' (fun _ => rfl) names

theorem nodup_tableNames (keyed : s.Keyed) (apart : s.TableIdsApart) (d : Dialect) :
    (s.tableIds.map (s.plan d).tableName).Nodup := by
  rw [map_tableName keyed apart]
  exact Name.claimAll_nodup _ _

end Schema

namespace TablePlan

variable {p : TablePlan}

theorem mem_tableList {t : Table} : t ∈ p.tableList ↔
    (∃ e ∈ p.schema.entities.values, p.entityTable e = t) ∨
    (∃ f ∈ p.schema.objectifiedFactTypes, p.factTable .objectified f = t) ∨
    ∃ f ∈ p.schema.junctions, p.factTable .junction f = t := by
  simp only [tableList, List.mem_append, List.mem_map, or_assoc]

theorem map_name_tableList (p : TablePlan) :
    p.tableList.map (·.name) = p.schema.tableIds.map p.tableName := by
  rw [Schema.tableIds_eq]
  simp only [tableList, List.map_append, List.map_map, Function.comp_def]
  rfl

theorem map_sourceId_tableList (p : TablePlan) :
    p.tableList.map (·.sourceId) = p.schema.tableIds.map some := by
  rw [Schema.tableIds_eq]
  simp only [tableList, List.map_append, List.map_map, Function.comp_def]
  rfl

end TablePlan

namespace SqlSchema

variable {sql : SqlSchema}

theorem values_tablesByName (distinct : (sql.tables.map (·.name)).Nodup) :
    sql.tablesByName.values = sql.tables := by
  have pairs : ((sql.tables.map fun t => (t.name, t)).map Prod.fst).Nodup := by
    rwa [List.map_map]
  rw [OrderedMap.values, tablesByName, OrderedMap.entries_ofList pairs, List.map_map]
  exact List.map_id'' (fun _ => rfl) _

theorem tablesByName_find? (distinct : (sql.tables.map (·.name)).Nodup) {t : Table}
    (member : t ∈ sql.tables) : sql.tablesByName.find? t.name = some t := by
  have pairs : ((sql.tables.map fun t => (t.name, t)).map Prod.fst).Nodup := by
    rwa [List.map_map]
  rw [OrderedMap.find?_eq_some_iff, tablesByName, OrderedMap.entries_ofList pairs]
  exact List.mem_map_of_mem member

theorem table?_name (distinct : (sql.tables.map (·.name)).Nodup) {t : Table}
    (member : t ∈ sql.tables) : sql.table? t.name = some t := by
  rw [table?, ← find?_of_nodup_map distinct member]
  rfl

end SqlSchema

namespace Schema

variable {s : Schema}

theorem map_name_toSql (s : Schema) (d : Dialect) :
    (s.toSql d).tables.map (·.name) = s.tableIds.map (s.plan d).tableName :=
  TablePlan.map_name_tableList (s.plan d)

theorem nodup_names_toSql (keyed : s.Keyed) (apart : s.TableIdsApart) (d : Dialect) :
    ((s.toSql d).tables.map (·.name)).Nodup := by
  rw [map_name_toSql]
  exact nodup_tableNames keyed apart d

theorem nodup_sources_toSql (keyed : s.Keyed) (apart : s.TableIdsApart) (d : Dialect) :
    ((s.toSql d).tables.map (·.sourceId)).Nodup := by
  have sources : (s.toSql d).tables.map (·.sourceId) = s.tableIds.map some :=
    TablePlan.map_sourceId_tableList (s.plan d)
  rw [sources]
  exact (nodup_tableIds keyed apart).map fun _ _ => Option.some.inj

theorem mem_tables_toSql {d : Dialect} {t : Table} : t ∈ (s.toSql d).tables ↔
    (∃ e ∈ s.entities.values, (s.plan d).entityTable e = t) ∨
    (∃ f ∈ s.objectifiedFactTypes, (s.plan d).factTable .objectified f = t) ∨
    ∃ f ∈ s.junctions, (s.plan d).factTable .junction f = t := TablePlan.mem_tableList

theorem entityTable_mem {e : Entity} (member : e ∈ s.entities.values) (d : Dialect) :
    (s.plan d).entityTable e ∈ (s.toSql d).tables :=
  mem_tables_toSql.mpr (.inl ⟨e, member, rfl⟩)

theorem table?_entity (keyed : s.Keyed) (apart : s.TableIdsApart) {e : Entity}
    (member : e ∈ s.entities.values) (d : Dialect) :
    (s.toSql d).table? ((s.plan d).tableName e.id) = some ((s.plan d).entityTable e) :=
  SqlSchema.table?_name (nodup_names_toSql keyed apart d) (entityTable_mem member d)

end Schema

end FactModel
