import FactModel.Proofs.Ddl.Words
import FactModel.Proofs.Relational.ForeignKeys
import FactModel.Proofs.Relational.IdentifierColumns

/-!
The names that a derivation gives. They are identifiers that are written as they are, no two tables
share one, and no two columns of a table; checks name their column as its table does.
-/

namespace FactModel

open Ddl

theorem Ddl.isIdentifier_intercalate {separator : String} (plain : IsIdentifier separator)
    {items : List String} (each : ∀ item ∈ items, IsIdentifier item) :
    IsIdentifier (separator.intercalate items) := by
  induction items with
  | nil => exact fun _ member => nomatch member
  | cons item later ih =>
    obtain ⟨here, others⟩ := List.forall_mem_cons.mp each
    cases later with
    | nil => simpa using here
    | cons next later =>
      rw [String.intercalate_cons_cons]
      exact (here.append plain).append (ih others)

/-- Columns of a table, put together with its name. -/
theorem Ddl.isName_joined {kind table : String} (word : IsName kind) (named : IsIdentifier table)
    {columns : List String} (each : ∀ column ∈ columns, IsIdentifier column) :
    IsName (kind ++ table ++ "_" ++ String.intercalate "_" columns) := by
  have mark : IsIdentifier "_" := by decide
  exact ((word.append named).append mark).append (isIdentifier_intercalate mark each)

namespace TablePlan

variable {p : TablePlan} {t : Table}

/-! Foreign keys and indexes -/

theorem name_foreignKey (member : t ∈ p.tableList) {k : ForeignKey} (made : k ∈ t.foreignKeys) :
    k.name = foreignKeyName t.name k.columns ∨
      ∃ parent ∈ p.schema.entities.values, k.name = s!"fk_{t.name}_{p.tableName parent.id}" := by
  have grouped : ∀ {groups : List RoleGroup} {table : String} {action : ForeignKeyAction},
      k ∈ groups.filterMap (RoleGroup.foreignKey? table action) →
        k.name = foreignKeyName table k.columns := by
    intro groups table action held
    obtain ⟨g, _, made⟩ := List.mem_filterMap.mp held
    exact (RoleGroup.shape_of_foreignKey? made).2.2
  rcases mem_tableList.mp member with ⟨e, _, rfl⟩ | ⟨f, _, rfl⟩ | ⟨f, _, rfl⟩
  · rcases List.mem_append.mp made with role | child
    · exact .inl (grouped role)
    · obtain ⟨parent, listed, made⟩ := List.mem_filterMap.mp child
      obtain ⟨id, _, found⟩ := List.mem_filterMap.mp listed
      split at made
      · cases made
      · cases made
        exact .inr ⟨parent, OrderedMap.mem_values_of_find? found, rfl⟩
  · exact .inl (grouped made)
  · exact .inl (grouped made)

end TablePlan

theorem mem_indexesOf {tables : List Table} {i : Index} : i ∈ indexesOf tables ↔
    ∃ t ∈ tables, ∃ k ∈ t.foreignKeys,
      i = ⟨indexName t.name k.columns, t.name, k.columns, false⟩ := by
  simp only [indexesOf, List.mem_map, List.mem_eraseDups, List.mem_flatMap]
  constructor
  · rintro ⟨key, ⟨t, listed, k, made, rfl⟩, rfl⟩
    exact ⟨t, listed, k, made, rfl⟩
  · rintro ⟨t, listed, k, made, rfl⟩
    exact ⟨_, ⟨t, listed, k, made, rfl⟩, rfl⟩

/-! Checks -/

/-- The expressions that restrict a column of a label, under a name for the column. -/
inductive Schema.Restricts (s : Schema) (d : Dialect) (c : Column) (name : String) :
    String → Prop where
  | enumeration {l : LabelType} {values : List Value} (label : s.columnLabel? c = some l)
      (listed : values ∈ s.valueLists l) : Restricts s d c name (d.enumerationTerm name values)
  | range {l : LabelType} (label : s.columnLabel? c = some l) (bounded : l.rangeTerms name ≠ []) :
      Restricts s d c name (String.intercalate " AND " (l.rangeTerms name))

namespace TablePlan

variable {p : TablePlan} {t : Table}

theorem restricts_of_mem {c : Column} {expression : String}
    (member : expression ∈ p.checkTerms c) :
    p.schema.Restricts p.dialect c c.name expression := by
  unfold checkTerms at member
  split at member
  · cases member
  · rename_i l label
    rcases List.mem_append.mp member with list | range
    · obtain ⟨values, listed, rfl⟩ := List.mem_map.mp list
      exact .enumeration label listed
    · split at range
      · cases range
      · rename_i bounded
        rw [List.mem_singleton.mp range]
        exact .range label (by simpa using bounded)

theorem isName_checksFrom {table : String} (named : IsIdentifier table) {columns : List Column}
    (plain : ∀ c ∈ columns, IsIdentifier c.name) (used : List String) :
    ∀ k ∈ p.checksFrom table used columns, IsName k.name := by
  induction columns generalizing used with
  | nil => exact fun _ member => nomatch member
  | cons column rest ih =>
    obtain ⟨here, later⟩ := List.forall_mem_cons.mp plain
    intro k member
    rw [checksFrom] at member
    cases labelled : p.schema.columnLabel? column with
    | none =>
      rw [labelled] at member
      exact ih later used k member
    | some label =>
      have words : IsName "chk_" ∧ IsIdentifier "_" ∧ IsIdentifier "_enum" ∧
          IsIdentifier "_range" := by decide
      have base : IsName s!"chk_{table}_{column.name}" :=
        ((words.1.append named).append words.2.1).append here
      simp only [labelled, List.mem_append] at member
      rcases member with (list | range) | more
      · obtain ⟨pair, paired, rfl⟩ := List.mem_map.mp list
        refine (Name.isName_of_mem_zip ?_ paired).1
        exact List.forall_mem_map.mpr fun _ _ => base.append words.2.2.1
      · split at range
        · cases range
        · rw [List.mem_singleton.mp range]
          exact base.append words.2.2.2
      · exact ih later _ k more

end TablePlan

/-! The names of a derived schema -/

/-- The names of a table are written as they are, and its columns have different ones, which its
keys refer to. -/
structure Table.Named (t : Table) : Prop where
  table : Stable t.name
  columns : ∀ name ∈ t.columnNames, Stable name
  distinct : t.columnNames.Nodup
  primaryKey : t.primaryKey ⊆ t.columnNames
  uniqueConstraints : ∀ columns ∈ t.uniqueConstraints, columns ⊆ t.columnNames
  foreignKeys : ∀ k ∈ t.foreignKeys, k.Named
  checks : ∀ k ∈ t.checks, Stable k.name

/-- Lines that show the names of a table. Those of columns begin with a name, those of keys read as
names of columns, and those of checks give a name and what it says. -/
structure Table.Lines (t : Table) (columns keys foreignKeys checks : List String) : Prop where
  columns : columns.map (fun line => (words line.toList).head?) = t.columnNames.map some
  keys : keys.map (fun line => words line.toList) = t.keyClauses
  foreignKeys :
    List.Forall₂ (fun k line => k.clause <+: words line.toList) t.foreignKeys foreignKeys
  checks : checks = t.checks.map fun k => s!"  CONSTRAINT {k.name} CHECK ({k.expression})"

/-- A statement that shows the name of a table and below it, line by line, those of its columns, its
keys and its checks. -/
structure Table.Shown (t : Table) (statement : String) : Prop where
  table : (words statement.toList)[2]? = some t.name
  columns : (firstWords statement.toList).tail.take t.columns.length = t.columnNames.map some
  lines : ∃ columns keys foreignKeys checks, t.Lines columns keys foreignKeys checks ∧
    statement = s!"CREATE TABLE {t.name} (\n" ++
      String.intercalate ",\n" (columns ++ keys ++ foreignKeys ++ checks) ++ "\n);"

/-- A statement that shows the names of an index, its table and its columns, and nothing else. -/
def Index.Shown (i : Index) (statement : String) : Prop :=
  words statement.toList = ["CREATE", "INDEX", i.name, "ON", i.table] ++ i.columns

theorem Table.Named.lines {t : Table} (named : t.Named) : t.Lines (t.columns.map columnLine)
    ((if t.primaryKey.isEmpty then [] else [s!"  PRIMARY KEY ({names t.primaryKey})"]) ++
      t.uniqueConstraints.map fun columns => s!"  UNIQUE ({names columns})")
    (t.foreignKeys.map foreignKeyLine) (t.checks.map checkLine) where
  columns := by
    simp only [columnNames, List.map_map, Function.comp_def]
    refine List.map_congr_left fun c held => ?_
    have first := name_columnLine (named.columns c.name (List.mem_map_of_mem held)) []
    rwa [List.append_nil] at first
  keys := by
    have stable : ∀ key ⊆ t.columnNames, ∀ name ∈ key, Stable name :=
      fun _ within name held => named.columns name (within held)
    have primary : words "  PRIMARY KEY".toList = ["PRIMARY", "KEY"] := by decide +kernel
    have unique : words "  UNIQUE".toList = ["UNIQUE"] := by decide +kernel
    simp only [Table.keyClauses, List.map_append, List.map_map, Function.comp_def]
    refine congrArg₂ (· ++ ·) ?_ (List.map_congr_left fun columns held => ?_)
    · split
      · rfl
      · rw [List.map_singleton, ← primary]
        exact congrArg (fun line => [line]) <|
          words_keyLine (stable _ named.primaryKey) _ (by simp [toString])
    · rw [← unique]
      exact words_keyLine (stable _ (named.uniqueConstraints columns held)) _ (by simp [toString])
  foreignKeys := List.forall₂_map_right_iff.mpr <| List.forall₂_same.mpr fun k made =>
    words_foreignKeyLine (named.foreignKeys k made)
  checks := List.map_congr_left fun k made => checkLine_eq (named.checks k made)

theorem Table.Named.shown {t : Table} (named : t.Named) {d : Dialect}
    (plain : ∀ c ∈ t.columns, c.Plain d) : t.Shown (createTable t) where
  table := name_createTable named.table
  columns := firstWords_createTable named.table plain
  lines := by
    refine ⟨_, _, _, _, named.lines, ?_⟩
    unfold createTable tableLines
    rw [named.table.kept, List.append_assoc (t.columns.map columnLine)]

namespace Schema

variable {s : Schema}

theorem isName_tableName (keyed : s.Keyed) (apart : s.TableIdsApart) {d : Dialect} {t : Table}
    (member : t ∈ (s.toSql d).tables) : IsName t.name := by
  have listed : t.name ∈ (s.toSql d).tables.map (·.name) := List.mem_map_of_mem member
  rw [map_name_toSql, map_tableName keyed apart] at listed
  refine Name.claimAll_isName ?_ t.name listed
  exact List.forall_mem_map.mpr fun element _ => identifier_isName element.2

theorem keys_subset_columnNames (keyed : s.Keyed) {d : Dialect} {t : Table}
    (member : t ∈ (s.toSql d).tables) : t.primaryKey ⊆ t.columnNames ∧
      ∀ columns ∈ t.uniqueConstraints, columns ⊆ t.columnNames := by
  rcases mem_tables_toSql.mp member with ⟨e, listed, rfl⟩ | ⟨f, _, rfl⟩ | ⟨f, _, rfl⟩
  · refine ⟨(TablePlan.primaryKey_entityTable (Derivation.plan_wellKeyed keyed) listed).2, ?_⟩
    intro columns held
    rw [TablePlan.uniqueConstraints_eq keyed, List.mem_eraseDups, List.mem_filter] at held
    obtain ⟨c, _, rfl⟩ := List.mem_map.mp held.1
    exact Table.columnsFor_subset _ c
  · exact ⟨(TablePlan.primaryKey_objectified _ f).2, fun _ held => nomatch held⟩
  · exact ⟨List.Subset.refl _, fun _ held => nomatch held⟩

theorem leadsTo_of_mem_toSql (keyed : s.Keyed) {d : Dialect} {t : Table}
    (member : t ∈ (s.toSql d).tables) {k : ForeignKey} (made : k ∈ t.foreignKeys) :
    ∃ target, (s.plan d).LeadsTo t k target :=
  TablePlan.leadsTo_of_mem keyed (Derivation.plan_wellKeyed keyed) member made

theorem isName_foreignKey (keyed : s.Keyed) (apart : s.TableIdsApart) {d : Dialect} {t : Table}
    (member : t ∈ (s.toSql d).tables) (columns : ∀ name ∈ t.columnNames, IsName name)
    {k : ForeignKey} (made : k ∈ t.foreignKeys) : IsName k.name := by
  have words : IsName "fk_" ∧ IsIdentifier "_" := by decide
  have table := isName_tableName keyed apart member
  obtain ⟨_, leads⟩ := leadsTo_of_mem_toSql keyed member made
  rcases TablePlan.name_foreignKey member made with joined | ⟨parent, listed, joined⟩
  · rw [joined]
    exact isName_joined words.1 table.plain fun c held => (columns c (leads.present held)).plain
  · rw [joined]
    have target := isName_tableName keyed apart (entityTable_mem listed d)
    exact ((words.1.append table.plain).append words.2).append target.plain

theorem foreignKey_named (keyed : s.Keyed) (apart : s.TableIdsApart) {d : Dialect} {t : Table}
    (member : t ∈ (s.toSql d).tables) (columns : ∀ name ∈ t.columnNames, IsName name)
    {k : ForeignKey} (made : k ∈ t.foreignKeys) : k.Named := by
  obtain ⟨target, leads⟩ := leadsTo_of_mem_toSql keyed member made
  have refTable : IsName k.refTable :=
    leads.table ▸ isName_tableName keyed apart (entityTable_mem leads.listed d)
  have refColumns : ∀ name ∈ k.refColumns, IsName name := by
    have plain := Derivation.plan_key_plain (d := Derivation.ofSchema s d) keyed target
    rw [leads.columns]
    exact List.forall_mem_map.mpr fun c held => (plain c held).isName
  exact ⟨(isName_foreignKey keyed apart member columns made).stable,
    fun name held => (columns name (leads.present held)).stable, refTable.stable,
    fun name held => (refColumns name held).stable⟩

theorem named_toSql (keyed : s.Keyed) (apart : s.TableIdsApart) {d : Dialect} {t : Table}
    (member : t ∈ (s.toSql d).tables) : t.Named := by
  have table := isName_tableName keyed apart member
  have plain := TablePlan.columns_plain (Derivation.plan_key_plain keyed) member
  have columns : ∀ name ∈ t.columnNames, IsName name :=
    List.forall_mem_map.mpr fun c held => (plain c held).isName
  have checks : ∀ k ∈ t.checks, IsName k.name := by
    intro k made
    rw [TablePlan.checks_of_mem member] at made
    exact TablePlan.isName_checksFrom table.plain (fun c held => (plain c held).name) [] k made
  obtain ⟨primaryKey, uniqueConstraints⟩ := keys_subset_columnNames keyed member
  exact ⟨table.stable, fun name held => (columns name held).stable,
    TablePlan.nodup_columnNames member, primaryKey, uniqueConstraints,
    fun k made => foreignKey_named keyed apart member columns made,
    fun k made => (checks k made).stable⟩

/-- Whatever the elements of a schema are called, the names of tables differ, and so do those of the
columns of one table. All names are written as they are, statement by statement and line by line,
and checks restrict the columns by the names under which the table has them. -/
theorem names_survive (keyed : s.Keyed) (apart : s.TableIdsApart) (d : Dialect) :
    ∃ sql, s.relational d = .ok sql ∧ (sql.tables.map (·.name)).Nodup ∧
      sql.ddl = String.intercalate "\n\n"
        (sql.tables.map createTable ++ sql.indexes.map createIndex) ∧
      (∀ t ∈ sql.tables, t.Named ∧ t.Shown (createTable t) ∧
        ∀ k ∈ t.checks, ∃ c ∈ t.columns, s.Restricts d c c.name k.expression) ∧
      ∀ i ∈ sql.indexes, Stable i.name ∧ i.Shown (createIndex i) := by
  refine ⟨s.toSql d, relational_eq_ok keyed d, nodup_names_toSql keyed apart d, rfl, ?_, ?_⟩
  · intro t member
    have named := named_toSql keyed apart member
    have plain := TablePlan.columns_plain (Derivation.plan_key_plain keyed) member
    refine ⟨named, named.shown plain, fun k made => ?_⟩
    have listed := List.mem_map_of_mem (f := Check.expression) made
    rw [TablePlan.checks_of_mem member, TablePlan.checks,
      TablePlan.expressions_checksFrom] at listed
    obtain ⟨c, column, term⟩ := List.mem_flatMap.mp listed
    exact ⟨c, column, TablePlan.restricts_of_mem term⟩
  · intro i member
    obtain ⟨t, table, k, made, rfl⟩ := mem_indexesOf.mp member
    have named := named_toSql keyed apart table
    have key := named.foreignKeys k made
    have word : IsName "idx_" := by decide
    have stable : Stable (indexName t.name k.columns) :=
      (isName_joined word named.table.plain fun c held => (key.columns c held).plain).stable
    exact ⟨stable, words_createIndex stable named.table key.columns rfl⟩

/-- Cars that are called alike, and one by the name that another would get. They tow each other, in
a role whose name would end the statement. -/
def cars : Schema :=
  { id := "cars", name := "Cars", version := "1"
    entities := .ofList [
      ("first", ⟨"first", "Car", [], [], none, false⟩),
      ("second", ⟨"second", " CAR ", [], [], none, false⟩),
      ("third", ⟨"third", "car_2", [], [], none, false⟩)]
    labelTypes := .ofList [
      ("size", ⟨"size", "Size", .integer, some [.int 1, .int 2], none, none, none⟩)]
    factTypes := .ofList [
      ("known", ⟨"known", "ID", ["knower"], false, none⟩),
      ("renewed", ⟨"renewed", "id 2", ["renewer"], false, none⟩),
      ("sized", ⟨"sized", "sized", ["owner", "value"], false, none⟩),
      ("towed", ⟨"towed", "towed", ["tower", "load"], false, none⟩)]
    predicators := .ofList [
      ("knower", ⟨"knower", "knows", "known", 0, "first", true⟩),
      ("renewer", ⟨"renewer", "renews", "renewed", 0, "first", true⟩),
      ("owner", ⟨"owner", "owner", "sized", 0, "first", true⟩),
      ("value", ⟨"value", "Größe", "sized", 1, "size", true⟩),
      ("tower", ⟨"tower", "tower", "towed", 0, "first", true⟩),
      ("load", ⟨"load", "Last; --", "towed", 1, "second", true⟩)]
    uniqueConstraints := .ofList [
      ("one", ⟨"one", "one", ["owner"], false, false⟩),
      ("single", ⟨"single", "single", ["load"], false, false⟩)] }

/-- A number that makes a name free may be taken as well. -/
theorem names_survive_cars : cars.Keyed ∧ cars.TableIdsApart ∧
    ∃ sql, cars.relational .sqlServer = .ok sql ∧
      sql.tables.map (fun t => (t.name, t.columnNames)) =
        [("car", ["id", "id_2", "id_2_2", "gr__e", "last____"]), ("car_2", ["id"]),
          ("car_2_2", ["id"])] ∧
      (∀ t ∈ sql.tables, t.Named ∧ t.Shown (createTable t)) ∧
      sql.tables.flatMap (fun t => t.foreignKeys.map ForeignKey.clause) =
        [["CONSTRAINT", "fk_car_last____", "FOREIGN", "KEY", "last____", "REFERENCES", "car_2",
          "id"]] ∧
      sql.tables.flatMap (fun t => t.checks.map fun k => (k.name, k.expression)) =
        [("chk_car_gr__e_enum", "gr__e IN (1, 2)")] ∧
      sql.indexes.map (·.name) = ["idx_car_last____"] ∧
      (∀ i ∈ sql.indexes, i.Shown (createIndex i)) ∧
      String.intercalate "\n\n" (sql.tables.map createTable ++ sql.indexes.map createIndex) =
        sql.ddl ∧
      sql.ddl = String.intercalate "\n" [
        "CREATE TABLE car (",
        "  id INT IDENTITY(1,1) NOT NULL,",
        "  id_2 BIT,",
        "  id_2_2 BIT,",
        "  gr__e INT,",
        "  last____ INT,",
        "  PRIMARY KEY (id),",
        "  CONSTRAINT fk_car_last____ FOREIGN KEY (last____) REFERENCES car_2(id) " ++
          "ON DELETE RESTRICT ON UPDATE CASCADE,",
        "  CONSTRAINT chk_car_gr__e_enum CHECK (gr__e IN (1, 2))",
        ");",
        "",
        "CREATE TABLE car_2 (",
        "  id INT IDENTITY(1,1) NOT NULL,",
        "  PRIMARY KEY (id)",
        ");",
        "",
        "CREATE TABLE car_2_2 (",
        "  id INT IDENTITY(1,1) NOT NULL,",
        "  PRIMARY KEY (id)",
        ");",
        "",
        "CREATE INDEX idx_car_last____ ON car (last____);"] := by
  have keyed : cars.Keyed := by constructor <;> decide +kernel
  have apart : cars.TableIdsApart := by decide +kernel
  obtain ⟨sql, derived, _, script, tables, indexes⟩ := names_survive keyed apart .sqlServer
  obtain rfl : cars.toSql .sqlServer = sql :=
    Except.ok.inj ((relational_eq_ok keyed .sqlServer).symm.trans derived)
  refine ⟨keyed, apart, _, derived, by decide +kernel, fun t member => ?_, by decide +kernel,
    by decide +kernel, by decide +kernel, fun i member => (indexes i member).2, script.symm,
    by decide +kernel⟩
  exact ⟨(tables t member).1, (tables t member).2.1⟩

end Schema

end FactModel
