import FactModel.Proofs.Relational.ForeignKeys
import FactModel.Proofs.Relational.TableKeys
import FactModel.Proofs.Relational.TableNames

/-!
What the check of a relational schema finds in a derived one.
-/

namespace FactModel

namespace SqlSchema

theorem issues_eq_nil_iff {sql : SqlSchema} : sql.issues = [] ↔
    ∀ t ∈ sql.tablesByName.values, t.primaryKey ≠ [] ∧ (∀ c ∈ t.primaryKey, c ∈ t.columnNames) ∧
      ∀ k ∈ t.foreignKeys, foreignKeyIssues sql.tablesByName t k = [] := by
  simp only [issues, List.flatMap_eq_nil_iff, tableIssues, List.append_eq_nil_iff,
    List.filterMap_eq_nil_iff]
  refine forall₂_congr fun t _ => ?_
  rw [and_assoc]
  refine and_congr ?_ (and_congr_left fun _ => forall₂_congr fun c _ => ?_)
  · simp
  · simp

theorem foreignKeyIssues_of_present {tables : OrderedMap Table} {t target : Table}
    {k : ForeignKey} (found : tables.find? k.refTable = some target)
    (present : k.columns ⊆ t.columnNames) :
    foreignKeyIssues tables t k =
      let absent := k.refColumns.filter fun c => !target.columnNames.contains c
      if absent.isEmpty then [] else [.refColumnsMissing t.name k absent] := by
  have none : (k.columns.filter fun c => !t.columnNames.contains c) = [] := by
    refine List.filter_eq_nil_iff.mpr fun c member => ?_
    simpa using present member
  simp only [foreignKeyIssues, found, none]
  cases (k.refColumns.filter fun c => !target.columnNames.contains c).isEmpty <;> rfl

end SqlSchema

namespace Schema

variable {s : Schema} {d : Dialect}

theorem junction_columns_ne_nil (keyed : s.Keyed) (clean : s.issues = []) {f : FactType}
    (junction : f ∈ s.junctions) : ((s.plan d).factTable .junction f).columnNames ≠ [] := by
  obtain ⟨listed, needs⟩ := mem_junctions.mp junction
  obtain ⟨_, _, several, _⟩ := (needsJunction_iff keyed listed).mp needs
  obtain ⟨role, member⟩ := List.exists_mem_of_length_pos (Nat.lt_of_lt_of_le Nat.two_pos several)
  have held := (keyed.id_mem_predicators member).2
  obtain ⟨target, found⟩ := Option.isSome_iff_exists.mp
    (resolved_of_issues_eq_nil clean (OrderedMap.mem_values_of_find? held))
  obtain ⟨c, present, _⟩ := TablePlan.exists_column_of_role (p := s.plan d)
    (Derivation.plan_key_proper keyed) .junction member found
  exact List.ne_nil_of_mem (List.mem_map_of_mem present)

theorem primaryKey_toSql (keyed : s.Keyed) (clean : s.issues = []) {t : Table}
    (member : t ∈ (s.toSql d).tables) : t.primaryKey ≠ [] ∧ t.primaryKey ⊆ t.columnNames := by
  rcases mem_tables_toSql.mp member with ⟨e, listed, rfl⟩ | ⟨f, _, rfl⟩ | ⟨f, junction, rfl⟩
  · exact TablePlan.primaryKey_entityTable (Derivation.plan_wellKeyed keyed) listed
  · exact TablePlan.primaryKey_objectified _ f
  · rw [TablePlan.primaryKey_junction]
    exact ⟨junction_columns_ne_nil keyed clean junction, List.Subset.refl _⟩

/-- The table of an entity has the columns that references to the entity name. -/
def Shown (s : Schema) (d : Dialect) (e : Entity) : Prop :=
  ((s.plan d).key e).names ⊆ ((s.plan d).entityTable e).columnNames

theorem foreignKeyIssues_toSql (keyed : s.Keyed) (apart : s.TableIdsApart) {t : Table}
    {k : ForeignKey} {target : Entity} (leads : (s.plan d).LeadsTo t k target) :
    SqlSchema.foreignKeyIssues (s.toSql d).tablesByName t k =
      let absent := ((s.plan d).key target).names.filter fun c =>
        !((s.plan d).entityTable target).columnNames.contains c
      if absent.isEmpty then [] else [.refColumnsMissing t.name k absent] := by
  have found : (s.toSql d).tablesByName.find? k.refTable =
      some ((s.plan d).entityTable target) := by
    rw [leads.table]
    exact SqlSchema.tablesByName_find? (nodup_names_toSql keyed apart d)
      (entityTable_mem leads.listed d)
  rw [SqlSchema.foreignKeyIssues_of_present found leads.present, leads.columns]

theorem foreignKeyIssues_eq_nil_iff (keyed : s.Keyed) (apart : s.TableIdsApart) {t : Table}
    {k : ForeignKey} {target : Entity} (leads : (s.plan d).LeadsTo t k target) :
    SqlSchema.foreignKeyIssues (s.toSql d).tablesByName t k = [] ↔ s.Shown d target := by
  rw [foreignKeyIssues_toSql keyed apart leads]
  have shown : s.Shown d target ↔ (((s.plan d).key target).names.filter fun c =>
      !((s.plan d).entityTable target).columnNames.contains c).isEmpty = true := by
    rw [List.isEmpty_iff, List.filter_eq_nil_iff]
    simp only [Shown, List.subset_def, Bool.not_eq_true', Bool.not_eq_false,
      List.contains_iff_mem]
  rw [shown]
  dsimp only
  split <;> simp_all

theorem exists_foreignKey (keyed : s.Keyed) {e : Entity} (member : e ∈ s.entities.values)
    (referred : (Derivation.ofSchema s d).Referred (Derivation.ofSchema s d).settled e) :
    ∃ t ∈ (s.toSql d).tables, ∃ k ∈ t.foreignKeys, (s.plan d).LeadsTo t k e := by
  have keys : (s.plan d).WellKeyed := Derivation.plan_wellKeyed keyed
  rcases referred with ⟨other, listed, role, refers⟩ | ⟨other, listed, columns, knows⟩
  · exact ⟨_, entityTable_mem listed d, TablePlan.exists_foreignKey_of_role keyed keys refers⟩
  · have key : (s.plan d).key other = ⟨columns, .inherited e.id⟩ :=
      Option.some.inj ((Derivation.settled_known keyed listed).symm.trans knows)
    rcases Derivation.plan_key_cases keyed listed with ⟨_, same, _⟩ | ⟨parent, named, same⟩ | same
    · cases key.symm.trans same
    · have equal := key.symm.trans same
      rw [Key.mk.injEq, KeyOrigin.inherited.injEq] at equal
      have parent_eq := keyed.entities.eq_of_id member
        ((Derivation.ofSchema s d).mem_parents named) equal.2
      subst parent_eq
      have front : ((s.plan d).key other).origin ≠ .natural := by simp [key]
      have length : ((s.plan d).key e).columns.length = ((s.plan d).primaryKey other).length := by
        rw [TablePlan.primaryKey_eq keys listed, TablePlan.tableKey_of_not_natural front, key,
          Key.names_mk, List.length_map, equal.1]
        rfl
      have types : ((s.plan d).key e).types = ((s.plan d).key other).types := by
        rw [key, Key.types_mk, equal.1]
        rfl
      exact ⟨_, entityTable_mem listed d,
        TablePlan.exists_foreignKey_of_parent keys listed named length types⟩
    · cases key.symm.trans same

theorem issues_eq_nil_iff_shown (keyed : s.Keyed) (apart : s.TableIdsApart)
    (clean : s.issues = []) (d : Dialect) :
    (s.toSql d).issues = [] ↔ ∀ e ∈ s.entities.values, s.Shown d e := by
  have keys : (s.plan d).WellKeyed := Derivation.plan_wellKeyed keyed
  rw [SqlSchema.issues_eq_nil_iff,
    SqlSchema.values_tablesByName (nodup_names_toSql keyed apart d)]
  constructor
  -- only a natural key can differ from that of the table, and then some foreign key names it
  · intro silent e member
    by_cases natural : ((s.plan d).key e).origin = .natural
    · rcases Derivation.referred_or_informed keyed member
        (Key.isNatural_iff.mpr natural) with referred | informed
      · obtain ⟨t, table, k, made, leads⟩ := exists_foreignKey keyed member referred
        exact (foreignKeyIssues_eq_nil_iff keyed apart leads).mp ((silent t table).2.2 k made)
      · have same : (s.plan d).tableKey e = (s.plan d).key e :=
          Derivation.tableKey_of_informed keyed natural informed
        rw [Shown, ← same]
        exact TablePlan.tableKey_names_subset keys member
    · rw [Shown, ← TablePlan.tableKey_of_not_natural natural]
      exact TablePlan.tableKey_names_subset keys member
  · intro shown t table
    refine ⟨(primaryKey_toSql keyed clean table).1, (primaryKey_toSql keyed clean table).2, ?_⟩
    intro k made
    obtain ⟨target, leads⟩ := TablePlan.leadsTo_of_mem (p := s.plan d) keyed keys table made
    exact (foreignKeyIssues_eq_nil_iff keyed apart leads).mpr (shown target leads.listed)

theorem shown_of_single (keyed : s.Keyed) (d : Dialect)
    (single : ∀ e ∈ s.entities.values, (Derivation.ofSchema s d).Cyclic e →
      ((s.plan d).key e).columns.length = 1) {e : Entity} (member : e ∈ s.entities.values) :
    s.Shown d e := by
  have same : ((s.plan d).tableKey e).names = ((s.plan d).key e).names :=
    Derivation.names_tableKey keyed member single
  rw [Shown, ← same]
  exact TablePlan.tableKey_names_subset (Derivation.plan_wellKeyed keyed) member

theorem exists_refColumnsMissing (keyed : s.Keyed) (apart : s.TableIdsApart)
    (clean : s.issues = []) {d : Dialect} {issue : SqlIssue}
    (found : issue ∈ (s.toSql d).issues) :
    ∃ table key absent, issue = .refColumnsMissing table key absent := by
  have keys : (s.plan d).WellKeyed := Derivation.plan_wellKeyed keyed
  rw [SqlSchema.issues, SqlSchema.values_tablesByName (nodup_names_toSql keyed apart d)] at found
  obtain ⟨t, table, found⟩ := List.mem_flatMap.mp found
  obtain ⟨some, within⟩ := primaryKey_toSql keyed clean table
  simp only [SqlSchema.tableIssues, List.mem_append, List.mem_flatMap] at found
  rcases found with (none | absent) | ⟨k, made, found⟩
  · simp [some] at none
  · obtain ⟨c, listed, missing⟩ := List.mem_filterMap.mp absent
    simp [within listed] at missing
  · obtain ⟨target, leads⟩ := TablePlan.leadsTo_of_mem (p := s.plan d) keyed keys table made
    rw [foreignKeyIssues_toSql keyed apart leads] at found
    dsimp only at found
    split at found
    · cases found
    · exact ⟨_, _, _, List.mem_singleton.mp found⟩

/-- The tables derived from a schema without issues pass the check exactly when every key that
references name stands in the table of its entity. That holds wherever entities identified
through themselves have keys of one column; where it fails, foreign keys refer to columns that
are not there, and nothing else is amiss. -/
theorem relational_integrity (keyed : s.Keyed) (apart : s.TableIdsApart) (clean : s.issues = [])
    (d : Dialect) :
    ∃ sql, s.relational d = .ok sql ∧
      (sql.issues = [] ↔ ∀ e ∈ s.entities.values, s.Shown d e) ∧
      (∀ issue ∈ sql.issues, ∃ table key absent, issue = .refColumnsMissing table key absent) ∧
      ((∀ e ∈ s.entities.values, (Derivation.ofSchema s d).Cyclic e →
        ((s.plan d).key e).columns.length = 1) → sql.issues = []) := by
  have shown := issues_eq_nil_iff_shown keyed apart clean d
  refine ⟨s.toSql d, relational_eq_ok keyed d, shown, ?_, ?_⟩
  · exact fun issue found => exists_refColumnsMissing keyed apart clean found
  · exact fun single => shown.mpr fun e member => shown_of_single keyed d single member

/-- Tasks that are identified by the task that follows. -/
def tasks : Schema :=
  { id := "tasks", name := "Tasks", version := "1"
    entities := .ofList [("task", ⟨"task", "Task", ["key"], [], none, false⟩)]
    factTypes := .ofList [("precedes", ⟨"precedes", "precedes", ["before", "after"], false, none⟩)]
    predicators := .ofList [
      ("before", ⟨"before", "first", "precedes", 0, "task", false⟩),
      ("after", ⟨"after", "next", "precedes", 1, "task", false⟩)]
    uniqueConstraints := .ofList [
      ("key", ⟨"key", "key", ["before"], true, true⟩),
      ("one", ⟨"one", "one", ["after"], false, false⟩)] }

/-- The key of a task is cut short, but it has one column. -/
theorem relational_integrity_tasks : tasks.Keyed ∧ tasks.TableIdsApart ∧ tasks.issues = [] ∧
    ∃ sql, tasks.relational .sqlite = .ok sql ∧ sql.issues = [] := by
  have keyed : tasks.Keyed := by constructor <;> decide +kernel
  have apart : tasks.TableIdsApart := by decide +kernel
  have clean : tasks.issues = [] := List.length_eq_zero_iff.mp (by decide +kernel)
  obtain ⟨sql, derived, _, _, passes⟩ := relational_integrity keyed apart clean .sqlite
  refine ⟨keyed, apart, clean, sql, derived, passes fun e member _ => ?_⟩
  obtain rfl := List.mem_singleton.mp member
  decide +kernel

/-- Parts that are identified by their code within an assembly, which is a part itself. -/
def parts : Schema :=
  { id := "parts", name := "Parts", version := "1"
    entities := .ofList [("part", ⟨"part", "Part", ["key"], [], none, false⟩)]
    labelTypes := .ofList [("code", ⟨"code", "Code", .string, none, none, none, none⟩)]
    factTypes := .ofList [
      ("within", ⟨"within", "within", ["inner", "outer"], false, none⟩),
      ("coded", ⟨"coded", "coded", ["of", "value"], false, none⟩)]
    predicators := .ofList [
      ("inner", ⟨"inner", "piece", "within", 0, "part", false⟩),
      ("outer", ⟨"outer", "assembly", "within", 1, "part", false⟩),
      ("of", ⟨"of", "of", "coded", 0, "part", false⟩),
      ("value", ⟨"value", "code", "coded", 1, "code", false⟩)]
    uniqueConstraints := .ofList [
      ("key", ⟨"key", "key", ["inner", "of"], true, true⟩),
      ("one", ⟨"one", "one", ["outer"], false, false⟩),
      ("single", ⟨"single", "single", ["of"], false, false⟩)] }

/-- The assembly counts as numbered while the key of a part is worked out, so that the key names
one column for it where the table has two. -/
theorem relational_integrity_fails_parts : parts.Keyed ∧ parts.TableIdsApart ∧ parts.issues = [] ∧
    ∃ sql, parts.relational .postgreSQL = .ok sql ∧ sql.issues ≠ [] := by
  have keyed : parts.Keyed := by constructor <;> decide +kernel
  have clean : parts.issues = [] := List.length_eq_zero_iff.mp (by decide +kernel)
  refine ⟨keyed, by decide +kernel, clean, _, relational_eq_ok keyed _, fun none => ?_⟩
  have found : (parts.toSql .postgreSQL).issues.length = 1 := by decide +kernel
  rw [none] at found
  cases found

end Schema

end FactModel
