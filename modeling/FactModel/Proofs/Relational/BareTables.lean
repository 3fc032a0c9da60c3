import FactModel.Proofs.Relational.Integrity

/-!
Tables without columns. A junction table is decided on by the roles of its fact type, whether or
not something plays them, and only then the roles that nothing plays are left out. Where that
leaves none, the table has no column, no key and an empty statement; all other tables are filled.
-/

namespace FactModel

namespace Ddl

/-- The text stands between the brackets of the statement that creates the table. -/
def HasBody (t : Table) (body : String) : Prop :=
  createTable t = s!"CREATE TABLE {identifier t.name} (\n" ++ body ++ "\n);"

theorem hasBody (t : Table) : HasBody t (String.intercalate ",\n" (tableLines t)) := rfl

theorem columnLine_ne_empty (c : Column) : columnLine c ≠ "" := by
  have indented : toString "  " ≠ "" := by decide
  simp [columnLine, indented]

theorem intercalate_ne_empty (separator : String) {first : String} (some : first ≠ "")
    (rest : List String) : separator.intercalate (first :: rest) ≠ "" := by
  cases rest with
  | nil => simpa using some
  | cons next rest => simp [String.intercalate_cons_cons, some]

theorem exists_body {t : Table} (columns : t.columns ≠ []) :
    ∃ body, body ≠ "" ∧ HasBody t body := by
  refine ⟨_, ?_, hasBody t⟩
  obtain ⟨first, rest, split⟩ := List.exists_cons_of_ne_nil columns
  rw [tableLines, split]
  exact intercalate_ne_empty _ (columnLine_ne_empty first) _

end Ddl

namespace SqlSchema

variable {sql : SqlSchema} {t : Table}

theorem missingKey_not_mem_foreignKeyIssues (tables : OrderedMap Table) (k : ForeignKey)
    (other : Table) : SqlIssue.missingKey t ∉ foreignKeyIssues tables other k := by
  unfold foreignKeyIssues
  dsimp only
  repeat' split
  all_goals simp

theorem missingKey_mem_tableIssues {tables : OrderedMap Table} {other : Table} :
    SqlIssue.missingKey t ∈ tableIssues tables other ↔ t = other ∧ other.primaryKey = [] := by
  have keys : SqlIssue.missingKey t ∉
      other.foreignKeys.flatMap (foreignKeyIssues tables other) := by
    intro found
    obtain ⟨k, _, found⟩ := List.mem_flatMap.mp found
    exact missingKey_not_mem_foreignKeyIssues tables k other found
  simp [tableIssues, keys, and_comm]

/-- The check finds a table without key, where the names of tables are distinct. -/
theorem missingKey_mem_issues (distinct : (sql.tables.map (·.name)).Nodup)
    (member : t ∈ sql.tables) : SqlIssue.missingKey t ∈ sql.issues ↔ t.primaryKey = [] := by
  rw [issues, values_tablesByName distinct, List.mem_flatMap]
  simp only [missingKey_mem_tableIssues]
  constructor
  · rintro ⟨_, _, rfl, none⟩
    exact none
  · exact fun none => ⟨t, member, rfl, none⟩

end SqlSchema

namespace Table

/-- The table has columns, a primary key made of them, and a statement that names them. -/
structure Filled (t : Table) : Prop where
  columns : t.columns ≠ []
  key : t.primaryKey ≠ []
  present : t.primaryKey ⊆ t.columnNames
  body : ∃ body, body ≠ "" ∧ Ddl.HasBody t body

/-- Nothing stands in the table. -/
structure Bare (t : Table) : Prop where
  columns : t.columns = []
  key : t.primaryKey = []
  body : Ddl.HasBody t ""

theorem filled_of_key {t : Table} (some : t.primaryKey ≠ [])
    (present : t.primaryKey ⊆ t.columnNames) : t.Filled := by
  have columns : t.columns ≠ [] := by
    intro none
    rw [columnNames, none, List.map_nil, List.subset_nil] at present
    exact some present
  exact ⟨columns, some, present, Ddl.exists_body columns⟩

theorem Filled.not_bare {t : Table} (filled : t.Filled) : ¬ t.Bare :=
  fun bare => filled.columns bare.columns

end Table

namespace Schema

variable {s : Schema} {d : Dialect} {t : Table}

/-- No role of the fact type is played by an object of the schema. -/
def Unplayed (s : Schema) (f : FactType) : Prop :=
  ∀ role ∈ s.roles f, s.object? role.objectId = none

theorem bare_junction {f : FactType} (unplayed : s.Unplayed f) :
    ((s.plan d).factTable .junction f).Bare := by
  have groups : (s.plan d).factGroups f .junction = [] :=
    TablePlan.factGroups_eq_nil .junction unplayed
  have columns : ((s.plan d).factTable .junction f).columns = [] := by
    rw [TablePlan.columns_factTable, groups]
    rfl
  have lines : Ddl.tableLines ((s.plan d).factTable .junction f) = [] := by
    simp [Ddl.tableLines, TablePlan.factTable, groups, TablePlan.checks, TablePlan.checksFrom]
  have body := Ddl.hasBody ((s.plan d).factTable .junction f)
  rw [lines, String.intercalate_nil] at body
  exact ⟨columns, List.map_eq_nil_iff.mpr columns, body⟩

theorem filled_junction (keyed : s.Keyed) {f : FactType} (played : ¬ s.Unplayed f) :
    ((s.plan d).factTable .junction f).Filled := by
  refine Table.filled_of_key ?_ (List.Subset.refl _)
  rw [TablePlan.primaryKey_junction]
  refine mt List.map_eq_nil_iff.mp fun none => played ?_
  exact (TablePlan.columns_junction_eq_nil_iff (Derivation.plan_key_proper keyed)).mp none

/-- Every table is filled, or the bare junction of a fact type that nothing plays. -/
theorem filled_or_bare (keyed : s.Keyed) (member : t ∈ (s.toSql d).tables) : t.Filled ∨
    t.Bare ∧ ∃ f ∈ s.junctions, t.sourceId = some f.id ∧ s.Unplayed f := by
  rcases mem_tables_toSql.mp member with ⟨e, listed, rfl⟩ | ⟨f, _, rfl⟩ | ⟨f, junction, rfl⟩
  · have keys : (s.plan d).WellKeyed := Derivation.plan_wellKeyed keyed
    obtain ⟨some, present⟩ := TablePlan.primaryKey_entityTable keys listed
    exact .inl (Table.filled_of_key some present)
  · obtain ⟨some, present⟩ := (s.plan d).primaryKey_objectified f
    exact .inl (Table.filled_of_key some present)
  · by_cases unplayed : s.Unplayed f
    · exact .inr ⟨bare_junction unplayed, f, junction, rfl, unplayed⟩
    · exact .inl (filled_junction keyed unplayed)

theorem bare_of_unplayed (keyed : s.Keyed) (apart : s.TableIdsApart)
    (member : t ∈ (s.toSql d).tables) {f : FactType} (junction : f ∈ s.junctions)
    (source : t.sourceId = some f.id) (unplayed : s.Unplayed f) : t.Bare := by
  have listed : (s.plan d).factTable .junction f ∈ (s.toSql d).tables :=
    mem_tables_toSql.mpr (.inr (.inr ⟨f, junction, rfl⟩))
  have same := List.inj_on_of_nodup_map (nodup_sources_toSql keyed apart d) member listed source
  rw [same]
  exact bare_junction unplayed

/-- Exactly the junctions of fact types that no object plays are bare, and these are reported for
want of a key; all other tables are filled. -/
theorem bare_iff_unplayed (keyed : s.Keyed) (apart : s.TableIdsApart) (d : Dialect) :
    ∃ sql, s.relational d = .ok sql ∧
      (∀ t ∈ sql.tables, (t.Filled ↔ ¬ t.Bare) ∧
        (t.Bare ↔ ∃ f ∈ s.junctions, t.sourceId = some f.id ∧ s.Unplayed f) ∧
        (t.Bare ↔ .missingKey t ∈ sql.issues)) ∧
      ((∀ t ∈ sql.tables, t.Filled) ↔ ∀ f ∈ s.junctions, ¬ s.Unplayed f) := by
  refine ⟨s.toSql d, relational_eq_ok keyed d, fun t member => ⟨?_, ?_, ?_⟩, ?_, ?_⟩
  · refine ⟨Table.Filled.not_bare, fun some => ?_⟩
    exact (filled_or_bare keyed member).resolve_right fun other => some other.1
  · refine ⟨fun bare => ?_, fun ⟨f, junction, source, unplayed⟩ =>
      bare_of_unplayed keyed apart member junction source unplayed⟩
    exact ((filled_or_bare keyed member).resolve_left fun filled => filled.not_bare bare).2
  · rw [SqlSchema.missingKey_mem_issues (nodup_names_toSql keyed apart d) member]
    refine ⟨Table.Bare.key, fun none => ?_⟩
    exact ((filled_or_bare keyed member).resolve_left fun filled => filled.key none).1
  · intro filled f junction unplayed
    have listed : (s.plan d).factTable .junction f ∈ (s.toSql d).tables :=
      mem_tables_toSql.mpr (.inr (.inr ⟨f, junction, rfl⟩))
    exact (filled _ listed).not_bare (bare_junction unplayed)
  · intro played t member
    refine (filled_or_bare keyed member).resolve_right ?_
    rintro ⟨_, f, junction, _, unplayed⟩
    exact played f junction unplayed

/-- Persons who like something unknown, and a dislike in which nothing is known. -/
def likings : Schema :=
  { id := "likings", name := "Likings", version := "1"
    entities := .ofList [("person", ⟨"person", "Person", [], [], none, false⟩)]
    factTypes := .ofList [
      ("likes", ⟨"likes", "likes", ["fan", "idol"], false, none⟩),
      ("dislikes", ⟨"dislikes", "dislikes", ["foe", "bugbear"], false, none⟩)]
    predicators := .ofList [
      ("fan", ⟨"fan", "fan", "likes", 0, "person", false⟩),
      ("idol", ⟨"idol", "idol", "likes", 1, "ghost", false⟩),
      ("foe", ⟨"foe", "foe", "dislikes", 0, "ghost", false⟩),
      ("bugbear", ⟨"bugbear", "bugbear", "dislikes", 1, "ghost", false⟩)] }

/-- Of the tables of the likings, only that of the dislikes is bare. -/
theorem bare_iff_unplayed_likings : likings.Keyed ∧ likings.TableIdsApart ∧
    ∃ sql, likings.relational .sqlite = .ok sql ∧
      ∀ t ∈ sql.tables, t.Filled ↔ t.sourceId ≠ some "dislikes" := by
  have keyed : likings.Keyed := by constructor <;> decide +kernel
  have apart : likings.TableIdsApart := by decide +kernel
  have unplayed : ∀ f ∈ likings.junctions, likings.Unplayed f ↔ f.id = "dislikes" := by
    unfold Unplayed
    decide +kernel
  obtain ⟨sql, derived, tables, _⟩ := bare_iff_unplayed keyed apart .sqlite
  refine ⟨keyed, apart, sql, derived, fun t member => ?_⟩
  obtain ⟨filled, bare, _⟩ := tables t member
  rw [filled, bare, not_iff_not]
  constructor
  · rintro ⟨f, junction, source, none⟩
    rw [source, (unplayed f junction).mp none]
  · intro source
    obtain ⟨f, junction, named⟩ : ∃ f ∈ likings.junctions, f.id = "dislikes" := by decide +kernel
    exact ⟨f, junction, by rw [source, named], (unplayed f junction).mpr named⟩

/-- The dislikes get a table of no columns, which has no key and an empty statement. -/
theorem dislikes_bare : likings.Keyed ∧ likings.TableIdsApart ∧
    ∃ sql, likings.relational .sqlite = .ok sql ∧ ∃ t ∈ sql.tables,
      t.columns = [] ∧ t.primaryKey = [] ∧ Ddl.createTable t = "CREATE TABLE dislikes (\n\n);" := by
  have keyed : likings.Keyed := by constructor <;> decide +kernel
  refine ⟨keyed, by decide +kernel, likings.toSql .sqlite, relational_eq_ok keyed _, ?_⟩
  decide +kernel

end Schema

end FactModel
