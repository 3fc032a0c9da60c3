import FactModel.Proofs.Conversion.Keyed
import FactModel.Proofs.Conversion.Lookups
import FactModel.Proofs.Relational.Lookups

/-!
From a canvas graph to statements without a failure. Nothing that a graph or a keyed schema leaves
open, repeats or lets run in circles makes a lookup fail.
-/

namespace FactModel

namespace Schema

variable {s : Schema}

theorem sources_toSql (s : Schema) (d : Dialect) :
    (s.toSql d).tables.map (fun t => (t.kind, t.sourceId)) =
      s.entities.values.map (fun e => (.entity, some e.id)) ++
      s.objectifiedFactTypes.map (fun f => (.objectified, some f.id)) ++
      s.junctions.map fun f => (.junction, some f.id) := by
  have tables : (s.toSql d).tables = (s.plan d).tableList := rfl
  simp only [tables, TablePlan.tableList, List.map_append, List.map_map]
  rfl

theorem relational_of_graph {g : Graph} {o : ConversionOptions} (converted : g.toSchema o = .ok s)
    (d : Dialect) : s.relational d = .ok (s.toSql d) :=
  relational_eq_ok (Graph.keyed_of_toSchema converted) d

/-- Every graph is converted and every keyed schema gets its tables, with a statement for each table
and index, and the same comes out when each lookup fails where it finds nothing. -/
theorem every_lookup_succeeds (g : Graph) (o : ConversionOptions) (keyed : s.Keyed) (d : Dialect) :
    (∃ t, g.toSchema { o with strict := false } = .ok t ∧ g.toSchema? o = some t) ∧
    ∃ sql, s.relational d = .ok sql ∧ s.toSql? d = some sql ∧
      (s.relational d).map SqlSchema.ddl = .ok (String.intercalate "\n\n"
        (sql.tables.map Ddl.createTable ++ sql.indexes.map Ddl.createIndex)) ∧
      sql.tables.map (fun t => (t.kind, t.sourceId)) =
        s.entities.values.map (fun e => (.entity, some e.id)) ++
        s.objectifiedFactTypes.map (fun f => (.objectified, some f.id)) ++
        s.junctions.map fun f => (.junction, some f.id) := by
  have derived := relational_eq_ok keyed d
  refine ⟨⟨_, rfl, g.toSchema?_eq_some o⟩, s.toSql d, derived, toSql?_eq_some keyed d, ?_, ?_⟩
  · rw [derived]
    rfl
  · exact sources_toSql s d

/-- A drawing with a node drawn twice, edges into nothing, from a fact type to itself and between
things of no kind, and a set constraint that cannot be halved. -/
def scribble : Graph where
  nodes := [
    ⟨"person", .entity, "Person", none, none, none, none⟩,
    ⟨"owns", .factType, "", none, none, none, none⟩,
    ⟨"person", .labelType, "", none, none, none, none⟩,
    ⟨"cloud", .other "cloud", "", none, none, none, none⟩]
  edges := [
    ⟨"role", .predicator, "person", "owns", "", none⟩,
    ⟨"role", .predicator, "owns", "person", "", some 1⟩,
    ⟨"loop", .predicator, "owns", "owns", "", none⟩,
    ⟨"lost", .predicator, "nobody", "owns", "", none⟩,
    ⟨"kind", .specialization, "cloud", "cloud", "", none⟩]
  constraints := [⟨"within", "subset", none, [], some ["role"], none, none, none, none⟩]

/-- Chapters and books that are identified by each other and specialize each other, with ids that
nothing has. -/
def knot : Schema where
  id := "knot"
  name := "Knot"
  version := "1"
  entities := .ofList [
    ("chapter", ⟨"chapter", "Chapter", ["key", "ghost"], ["book", "ghost"], none, false⟩),
    ("book", ⟨"book", "Book", ["mark"], ["chapter", "book"], some "ghost", false⟩)]
  factTypes := .ofList [
    ("within", ⟨"within", "within", ["inner", "outer"], false, none⟩),
    ("opens", ⟨"opens", "opens", ["first", "start"], false, none⟩),
    ("cites", ⟨"cites", "cites", ["citing", "cited", "reason"], false, none⟩),
    ("lends", ⟨"lends", "lends", ["item", "ghost"], true, none⟩)]
  predicators := .ofList [
    ("inner", ⟨"inner", "part", "within", 0, "chapter", false⟩),
    ("outer", ⟨"outer", "book", "within", 1, "book", false⟩),
    ("first", ⟨"first", "first", "opens", 0, "book", false⟩),
    ("start", ⟨"start", "chapter", "opens", 1, "chapter", false⟩),
    ("citing", ⟨"citing", "citing", "cites", 0, "book", false⟩),
    ("cited", ⟨"cited", "cited", "cites", 1, "book", false⟩),
    ("reason", ⟨"reason", "reason", "cites", 2, "ghost", false⟩),
    ("item", ⟨"item", "item", "lends", 0, "book", false⟩)]
  uniqueConstraints := .ofList [
    ("key", ⟨"key", "key", ["inner"], true, true⟩),
    ("mark", ⟨"mark", "mark", ["first"], true, true⟩),
    ("one", ⟨"one", "one", ["outer"], false, false⟩),
    ("single", ⟨"single", "single", ["start"], false, false⟩)]

theorem every_lookup_succeeds_knot : knot.Keyed ∧
    (∃ t, scribble.toSchema ⟨"scribble", "1", false⟩ = .ok t) ∧
    ∃ sql, knot.relational .sqlite = .ok sql ∧ knot.toSql? .sqlite = some sql ∧
      (knot.relational .sqlite).map SqlSchema.ddl = .ok (String.intercalate "\n\n"
        (sql.tables.map Ddl.createTable ++ sql.indexes.map Ddl.createIndex)) ∧
      sql.tables.map (fun t => (t.kind, t.sourceId)) =
        [(.entity, some "chapter"), (.entity, some "book"), (.objectified, some "lends"),
          (.junction, some "cites")] ∧
      sql.indexes.map Ddl.createIndex =
        ["CREATE INDEX idx_chapter_book ON chapter (book);",
          "CREATE INDEX idx_book_chapter ON book (chapter);",
          "CREATE INDEX idx_lends_item ON lends (item);",
          "CREATE INDEX idx_cites_citing ON cites (citing);",
          "CREATE INDEX idx_cites_cited ON cites (cited);"] := by
  have keyed : knot.Keyed := by constructor <;> decide +kernel
  obtain ⟨⟨t, converted, _⟩, sql, derived, strict, script, tables⟩ :=
    every_lookup_succeeds scribble ⟨"scribble", "1", false⟩ keyed .sqlite
  obtain rfl : knot.toSql .sqlite = sql :=
    Except.ok.inj ((relational_eq_ok keyed .sqlite).symm.trans derived)
  exact ⟨keyed, ⟨t, converted⟩, _, derived, strict, script, tables.trans (by decide +kernel),
    by decide +kernel⟩

end Schema

end FactModel
