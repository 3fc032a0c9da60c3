import FactModel.Proofs.Ddl.Literals
import FactModel.Proofs.Relational.EnumerationChecks

/-!
The statements of a script are balanced: whatever the names and texts of a schema are, each
statement closes its literals and ends with its only semicolon.
-/

namespace FactModel

namespace Ddl

open Quoting

/-! Lines of a statement -/

theorem isColumnText_columnLine {d : Dialect} {c : Column} (plain : c.Plain d) :
    IsColumnText (columnLine c) := by
  have name : IsColumnText (identifier c.name) := fun other member =>
    .inl (identifier_isIdentifier c.name other member)
  unfold columnLine
  rw [plain.default, isColumnText_append_iff, isColumnText_append_iff, isColumnText_append_iff]
  refine ⟨⟨⟨?_, ?_⟩, by decide⟩, ?_⟩
  · exact isColumnText_append_iff.mpr ⟨isColumnText_append_iff.mpr ⟨isColumnText_append_iff.mpr
      ⟨by decide, name⟩, by decide⟩, isColumnText_type plain.type⟩
  · split <;> decide
  · split <;> decide

theorem columnLine_plain {d : Dialect} {c : Column} (plain : c.Plain d) :
    Plain ';' (columnLine c) :=
  plain_of_forall (isColumnText_columnLine plain) (by decide) (by decide)

theorem actionClause_plain {event : String} (plain : Plain ';' event)
    (action : Option ForeignKeyAction) : Plain ';' (actionClause event action) := by
  cases action with
  | none => exact fun _ member => nomatch member
  | some action =>
    have word : Plain ';' action.name := by cases action <;> decide
    have blanks : Plain ';' " ON " ∧ Plain ';' " " := by decide
    simp only [actionClause, plain_append_iff]
    exact ⟨⟨⟨blanks.1, plain⟩, blanks.2⟩, word⟩

theorem foreignKeyLine_plain (k : ForeignKey) : Plain ';' (foreignKeyLine k) := by
  have events : Plain ';' "DELETE" ∧ Plain ';' "UPDATE" := by decide
  have subject : Plain ';'
      s!"  CONSTRAINT {identifier k.name} FOREIGN KEY ({names k.columns}) " := by
    simp only [plain_append_iff, toString, identifier_plain, names_plain, and_true]
    decide
  have target : Plain ';' s!"REFERENCES {identifier k.refTable}({names k.refColumns})" := by
    simp only [plain_append_iff, toString, identifier_plain, names_plain, and_true]
    decide
  unfold foreignKeyLine
  rw [plain_append_iff, plain_append_iff, plain_append_iff]
  exact ⟨⟨⟨subject, target⟩, actionClause_plain events.1 k.onDelete⟩,
    actionClause_plain events.2 k.onUpdate⟩

theorem checkLine_balanced {c : Check} (expression : Balanced ';' 0 c.expression) :
    Balanced ';' 0 (checkLine c) := by
  have front : Plain ';' s!"  CONSTRAINT {identifier c.name} CHECK (" := by
    simp only [plain_append_iff, toString, identifier_plain, and_true]
    decide
  have back : Plain ';' ")" := by decide
  exact (front.balanced.append expression).append back.balanced

theorem list_plain (front : String) (items : List String) (plain : Plain ';' front) :
    Plain ';' s!"{front} ({names items})" := by
  simp only [plain_append_iff, toString, names_plain, plain, and_true]
  decide

theorem tableLines_balanced {d : Dialect} {t : Table} (columns : ∀ c ∈ t.columns, c.Plain d)
    (checks : ∀ c ∈ t.checks, Balanced ';' 0 c.expression) :
    ∀ line ∈ tableLines t, Balanced ';' 0 line := by
  intro line member
  simp only [tableLines, List.mem_append, List.mem_map] at member
  rcases member with (((⟨c, held, rfl⟩ | key) | ⟨unique, _, rfl⟩) | ⟨k, _, rfl⟩) | ⟨c, held, rfl⟩
  · exact (columnLine_plain (columns c held)).balanced
  · split at key
    · cases key
    · rw [List.mem_singleton.mp key]
      exact (list_plain "  PRIMARY KEY" t.primaryKey (by decide)).balanced
  · exact (list_plain "  UNIQUE" unique (by decide)).balanced
  · exact (foreignKeyLine_plain k).balanced
  · exact checkLine_balanced (checks c held)

theorem createTable_balanced {d : Dialect} {t : Table} (columns : ∀ c ∈ t.columns, c.Plain d)
    (checks : ∀ c ∈ t.checks, Balanced ';' 0 c.expression) :
    Balanced ';' 1 (createTable t) := by
  have front : Plain ';' s!"CREATE TABLE {identifier t.name} (\n" := by
    simp only [plain_append_iff, toString, identifier_plain, and_true]
    decide
  have comma : Plain ';' ",\n" := by decide
  have back : Plain ';' "\n)" := by decide
  have lines := Balanced.join comma (tableLines_balanced columns checks)
  exact (front.balanced.append lines).append (back.balanced.append (balanced_mark (by decide)))

theorem createIndex_balanced (i : Index) : Balanced ';' 1 (createIndex i) := by
  have front : ∀ word, Plain ';' word → Plain ';'
      s!"CREATE {word}INDEX {identifier i.name} ON {identifier i.table} ({names i.columns}" := by
    intro word plain
    simp only [plain_append_iff, toString, identifier_plain, names_plain, plain, and_true]
    decide
  have unique : Plain ';' (if i.unique then "UNIQUE " else "") := by
    split <;> decide
  have back : Plain ';' ")" := by decide
  exact (front _ unique).balanced.append (back.balanced.append (balanced_mark (by decide)))

/-! The checks of label columns -/

theorem checkTerms_balanced {p : TablePlan} {c : Column} (plain : IsIdentifier c.name)
    (contained : ∀ l ∈ p.schema.labelTypes.values, ∀ values ∈ p.schema.valueLists l,
      ∀ v ∈ values, Contained v) :
    ∀ term ∈ p.checkTerms c, Balanced ';' 0 term := by
  intro term member
  unfold TablePlan.checkTerms at member
  split at member
  · cases member
  · rename_i l found
    have listed : l ∈ p.schema.labelTypes.values := OrderedMap.mem_values_of_find? found
    rcases List.mem_append.mp member with enumeration | range
    · obtain ⟨values, held, rfl⟩ := List.mem_map.mp enumeration
      have comma : Plain ';' ", " := by decide
      have front : Plain ';' s!"{c.name} IN (" := by
        simp only [plain_append_iff, toString, plain.plain, true_and]
        decide
      have back : Plain ';' ")" := by decide
      have list := Balanced.join comma (List.forall_mem_map.mpr fun v inside =>
        balanced_literal_of_contained (contained l listed values held v inside)
          p.dialect.numericBooleans)
      exact (front.balanced.append list).append back.balanced
    · split at range
      · cases range
      · rw [List.mem_singleton.mp range]
        refine (plain_intercalate (by decide) fun term inside => ?_).balanced
        have signs : Plain ';' " >= " ∧ Plain ';' " <= " := by decide
        simp only [LabelType.rangeTerms, List.mem_append, Option.mem_toList,
          Option.map_eq_some_iff] at inside
        rcases inside with ⟨x, _, rfl⟩ | ⟨x, _, rfl⟩
        · simp only [plain_append_iff, toString, plain.plain, bound_plain, signs, and_true]
        · simp only [plain_append_iff, toString, plain.plain, bound_plain, signs, and_true]

end Ddl

namespace Schema

open Quoting

variable {s : Schema}

/-- Whatever the names and texts of a schema, each statement of its script closes its literals and
has one semicolon outside of them, if the arrays and objects in lists of values are contained. -/
theorem script_balanced (keyed : s.Keyed)
    (contained : ∀ l ∈ s.labelTypes.values, ∀ values ∈ s.valueLists l, ∀ v ∈ values,
      Ddl.Contained v) (d : Dialect) :
    ∃ sql, s.relational d = .ok sql ∧
      (∀ t ∈ sql.tables, Balanced ';' 1 (Ddl.createTable t)) ∧
      (∀ i ∈ sql.indexes, Balanced ';' 1 (Ddl.createIndex i)) ∧
      Balanced ';' (sql.tables.length + sql.indexes.length) sql.ddl := by
  have tables : ∀ t ∈ (s.toSql d).tables, Balanced ';' 1 (Ddl.createTable t) := by
    intro t member
    have plain := TablePlan.columns_plain (Derivation.plan_key_plain keyed) member
    refine Ddl.createTable_balanced plain fun check held => ?_
    have listed := List.mem_map_of_mem (f := Check.expression) held
    rw [TablePlan.checks_of_mem member, TablePlan.checks,
      TablePlan.expressions_checksFrom] at listed
    obtain ⟨c, column, term⟩ := List.mem_flatMap.mp listed
    exact Ddl.checkTerms_balanced (plain c column).name contained _ term
  have indexes : ∀ i ∈ (s.toSql d).indexes, Balanced ';' 1 (Ddl.createIndex i) :=
    fun i _ => Ddl.createIndex_balanced i
  refine ⟨s.toSql d, relational_eq_ok keyed d, tables, indexes, ?_⟩
  have blank : Plain ';' "\n\n" := by decide
  have script := Balanced.intercalate blank (List.forall_mem_append.mpr
    ⟨List.forall_mem_map.mpr tables, List.forall_mem_map.mpr indexes⟩)
  rwa [Nat.mul_one, List.length_append, List.length_map, List.length_map] at script

/-- Cars with a plate of one of the given kinds. -/
def plates (kinds : List Value) : Schema :=
  { id := "plates", name := "Plates", version := "1"
    entities := .ofList [("car", ⟨"car", "Car'; DROP TABLE car; --", [], [], none, false⟩)]
    labelTypes := .ofList [("kind", ⟨"kind", "Kind", .string, some kinds, none, none, none⟩)]
    factTypes := .ofList [("has", ⟨"has", "has", ["plated", "plate"], false, none⟩)]
    predicators := .ofList [
      ("plated", ⟨"plated", "plated", "has", 0, "car", true⟩),
      ("plate", ⟨"plate", "plate');", "has", 1, "kind", true⟩)]
    uniqueConstraints := .ofList [("one", ⟨"one", "one", ["plated"], false, false⟩)] }

theorem keyed_plates (kinds : List Value) : (plates kinds).Keyed := by
  constructor <;> rintro _ (_ | ⟨_, _ | ⟨_, _ | _⟩⟩) <;> rfl

theorem contained_plates {kinds : List Value} (contained : ∀ v ∈ kinds, Ddl.Contained v) :
    ∀ l ∈ (plates kinds).labelTypes.values, ∀ values ∈ (plates kinds).valueLists l, ∀ v ∈ values,
      Ddl.Contained v := by
  intro l label values listed
  obtain rfl := List.mem_singleton.mp label
  have own : values = kinds := by
    have lists : values ∈ ((some kinds).filter fun list => !list.isEmpty).toList := listed
    simp only [Option.mem_toList, Option.filter_eq_some_iff, Option.some.injEq] at lists
    exact lists.1.symm
  exact own ▸ contained

/-- Semicolons and quotes in names, in texts and in an array. -/
theorem script_balanced_plates :
    let kinds := [.str "it's; here", .null, .float ⟨0x3FF8000000000000⟩,
      .arr [.str "a;b", .obj [("k;", .int (-1))]]]
    let s := plates kinds
    s.Keyed ∧ ∃ sql, s.relational .mySQL = .ok sql ∧
      sql.tables.flatMap (fun t => t.checks.map (·.expression)) =
        ["plate___ IN ('it''s; here', NULL, 1.5, ['a;b', \x7b'k;': -1\x7d])"] ∧
      (∀ t ∈ sql.tables, Balanced ';' 1 (Ddl.createTable t)) ∧ Balanced ';' 1 sql.ddl := by
  intro kinds s
  have keyed : s.Keyed := keyed_plates kinds
  have contained : ∀ v ∈ kinds, Ddl.Contained v := by
    have array : Ddl.Contained (.arr [.str "a;b", .obj [("k;", .int (-1))]]) :=
      Ddl.contained_of_quoteless (by decide)
    simp only [kinds, List.forall_mem_cons]
    exact ⟨trivial, trivial, trivial, array, fun _ member => nomatch member⟩
  obtain ⟨sql, derived, tables, _, script⟩ :=
    script_balanced keyed (contained_plates contained) .mySQL
  obtain rfl : s.toSql .mySQL = sql :=
    Except.ok.inj ((relational_eq_ok keyed .mySQL).symm.trans derived)
  refine ⟨keyed, _, derived, by decide +kernel, tables, ?_⟩
  have one : (s.toSql .mySQL).tables.length + (s.toSql .mySQL).indexes.length = 1 := by
    decide +kernel
  rwa [one] at script

/-- A quote in an array is not escaped and leaves a literal open. -/
theorem not_every_script_balanced :
    ¬ ∀ (s : Schema) (d : Dialect), s.Keyed → ∃ sql, s.relational d = .ok sql ∧
      scan .outside sql.ddl.toList ≠ .inside ∧
      countOutside ';' .outside sql.ddl.toList = sql.tables.length + sql.indexes.length := by
  intro claim
  have keyed := keyed_plates [.arr [.str "it's"]]
  obtain ⟨sql, derived, closed, _⟩ := claim (plates [.arr [.str "it's"]]) .sqlite keyed
  obtain rfl : (plates [.arr [.str "it's"]]).toSql .sqlite = sql :=
    Except.ok.inj ((relational_eq_ok keyed .sqlite).symm.trans derived)
  exact closed (by decide +kernel)

end Schema

end FactModel
