import FactModel.Proofs.Relational.Lookups
import FactModel.Proofs.Relational.RetypedTables

/-!
A dialect changes the types of a relational schema and not its structure. SQLite stores several
types of data in one, so there more parents have keys of the types of a child.
-/

namespace FactModel

/-- The foreign key of an entity table to the table of a parent. -/
structure ForeignKey.Specializes (s : Schema) (t : Table) (k : ForeignKey) : Prop where
  kind : t.kind = .entity
  parent : ∃ e ∈ s.entities.values, t.sourceId = some e.id ∧ ∃ parent ∈ e.specializationOf,
    parent ∈ s.entities.keys ∧ s.tableNames.find? parent = some k.refTable
  columns : k.columns = t.primaryKey
  onDelete : k.onDelete = some .cascade
  onUpdate : k.onUpdate = some .cascade

/-- The same table up to types and terms, with more specialization keys. -/
structure Table.Widened (s : Schema) (t u : Table) : Prop where
  outline : { u.outline with foreignKeys := t.foreignKeys } = t.outline
  keys : ∃ roles fewer more, t.foreignKeys = roles ++ fewer ∧ u.foreignKeys = roles ++ more ∧
    fewer.Sublist more ∧ ∀ k ∈ more, k.Specializes s t

namespace SqlSchema

/-- The tables up to types and terms, and the indexes. -/
def outline (a : SqlSchema) : List Table × List Index := (a.tables.map Table.outline, a.indexes)

/-- The index of the keys that a table of `b` has in addition. -/
def WideIndex (a b : SqlSchema) (i : Index) : Prop :=
  ∃ pair ∈ a.tables.zip b.tables, pair.1.foreignKeys ≠ pair.2.foreignKeys ∧
    i.table = pair.1.name ∧ i.columns = pair.1.primaryKey

instance (a b : SqlSchema) (i : Index) : Decidable (a.WideIndex b i) :=
  inferInstanceAs (Decidable (∃ pair ∈ a.tables.zip b.tables, _))

/-- The same relational schema up to types and terms, with more specialization keys and the
indexes of these. -/
structure Widened (s : Schema) (a b : SqlSchema) : Prop where
  tables : List.Forall₂ (Table.Widened s) a.tables b.tables
  kept : a.indexes ⊆ b.indexes
  others : (a.indexes.filter fun i => ¬ a.WideIndex b i) =
    b.indexes.filter fun i => ¬ a.WideIndex b i
  order : s.TableIdsApart → a.indexes.Sublist b.indexes

end SqlSchema

/-! Indexes -/

namespace Table

/-- What the indexes of a table are for. -/
def indexed (t : Table) : List (String × List String) :=
  t.foreignKeys.map fun k => (t.name, k.columns)

theorem indexesOf_eq (tables : List Table) : indexesOf tables =
    (tables.flatMap indexed).eraseDups.map fun key =>
      ⟨indexName key.1 key.2, key.1, key.2, false⟩ := rfl

variable {s : Schema} {t u : Table} {ts us : List Table}

theorem indexesOf_outline (tables : List Table) :
    indexesOf (tables.map outline) = indexesOf tables := by
  rw [indexesOf_eq, List.flatMap_map, indexesOf_eq]
  rfl

namespace Widened

theorem of_outline (same : u.outline = t.outline) : Widened s t u := by
  have keys : u.outline.foreignKeys = t.outline.foreignKeys := by rw [same]
  refine ⟨by rw [same]; rfl, t.foreignKeys, [], [], by simp, ?_, .slnil, nofun⟩
  rw [List.append_nil]
  exact keys

theorem name_eq (widened : Widened s t u) : u.name = t.name := by
  have name : t.outline.name = u.name := by rw [← widened.outline]; rfl
  exact name.symm

theorem foreignKeys_sublist (widened : Widened s t u) : t.foreignKeys.Sublist u.foreignKeys := by
  obtain ⟨roles, fewer, more, left, right, within, _⟩ := widened.keys
  rw [left, right]
  exact (List.Sublist.refl roles).append within

theorem outline_eq_of_both (forth : Widened s t u) (back : Widened s u t) :
    t.outline = u.outline := by
  have keys := forth.foreignKeys_sublist.antisymm back.foreignKeys_sublist
  rw [← forth.outline, keys]
  rfl

theorem indexed_eq (widened : Widened s t u) : ∃ roles fewer more, t.indexed = roles ++ fewer ∧
    u.indexed = roles ++ more ∧ fewer.Sublist more ∧ ∀ key ∈ more, key = (t.name, t.primaryKey) := by
  obtain ⟨roles, fewer, more, left, right, within, specialize⟩ := widened.keys
  refine ⟨roles.map fun k => (t.name, k.columns), fewer.map fun k => (t.name, k.columns),
    more.map fun k => (t.name, k.columns), ?_, ?_, within.map _, ?_⟩
  · rw [indexed, left, List.map_append]
  · rw [indexed, right, List.map_append, widened.name_eq]
  · intro key listed
    obtain ⟨k, member, rfl⟩ := List.mem_map.mp listed
    rw [(specialize k member).columns]

theorem indexed_subset (widened : Widened s t u) : t.indexed ⊆ u.indexed := by
  obtain ⟨roles, fewer, more, left, right, within, _⟩ := widened.indexed_eq
  rw [left, right]
  exact ((List.Sublist.refl roles).append within).subset

theorem filter_indexed (widened : Widened s t u) {visible : String × List String → Bool}
    (hidden : t.foreignKeys ≠ u.foreignKeys → visible (t.name, t.primaryKey) = false) :
    t.indexed.filter visible = u.indexed.filter visible := by
  by_cases same : t.foreignKeys = u.foreignKeys
  · rw [indexed, indexed, same, widened.name_eq]
  · obtain ⟨roles, fewer, more, left, right, within, all⟩ := widened.indexed_eq
    have none : ∀ keys : List (String × List String), keys ⊆ more → keys.filter visible = [] := by
      intro keys inside
      refine List.filter_eq_nil_iff.mpr fun key listed => ?_
      rw [all key (inside listed), hidden same]
      exact Bool.false_ne_true
    rw [left, right, List.filter_append, List.filter_append, none fewer within.subset,
      none more fun _ listed => listed]

theorem sublist_indexed (widened : Widened s t u) :
    t.indexed.eraseDups.Sublist u.indexed.eraseDups := by
  obtain ⟨roles, fewer, more, left, right, within, all⟩ := widened.indexed_eq
  rw [left, right]
  exact sublist_eraseDups_append within all

end Widened

theorem eraseDups_indexed (distinct : (ts.map (·.name)).Nodup) :
    (ts.flatMap indexed).eraseDups = ts.flatMap fun t => t.indexed.eraseDups := by
  induction ts with
  | nil => rfl
  | cons t rest ih =>
    rw [List.map_cons, List.nodup_cons] at distinct
    have later : (rest.flatMap indexed).removeAll t.indexed = rest.flatMap indexed := by
      refine List.filter_eq_self.mpr fun key listed => ?_
      obtain ⟨other, member, inside⟩ := List.mem_flatMap.mp listed
      obtain ⟨_, _, rfl⟩ := List.mem_map.mp inside
      have apart : ∀ key ∈ t.indexed, key.1 ≠ other.name := by
        intro key here same
        obtain ⟨_, _, rfl⟩ := List.mem_map.mp here
        exact distinct.1 (List.mem_map.mpr ⟨other, member, same.symm⟩)
      simp only [Bool.not_eq_true', List.contains_eq_mem, decide_eq_false_iff_not]
      exact fun here => apart _ here rfl
    rw [List.flatMap_cons, List.eraseDups_append, later, ih distinct.2, List.flatMap_cons]

theorem outlines_eq (forth : List.Forall₂ (Widened s) ts us)
    (back : List.Forall₂ (Widened s) us ts) : ts.map outline = us.map outline := by
  induction forth with
  | nil => rfl
  | cons here _ ih =>
    cases back with
    | cons there back => rw [List.map_cons, List.map_cons, here.outline_eq_of_both there, ih back]

section Runs

variable (widened : List.Forall₂ (Widened s) ts us)
include widened

theorem names_eq : us.map (·.name) = ts.map (·.name) := by
  induction widened with
  | nil => rfl
  | cons here _ ih => rw [List.map_cons, List.map_cons, here.name_eq, ih]

theorem subset_indexes : indexesOf ts ⊆ indexesOf us := by
  have keys : ts.flatMap indexed ⊆ us.flatMap indexed := by
    induction widened with
    | nil => exact List.Subset.refl _
    | cons here _ ih =>
      rw [List.flatMap_cons, List.flatMap_cons]
      exact List.append_subset.mpr ⟨List.subset_append_of_subset_left _ here.indexed_subset,
        List.subset_append_of_subset_right _ ih⟩
  rw [indexesOf_eq, indexesOf_eq]
  refine List.map_subset _ fun key listed => ?_
  rw [List.mem_eraseDups] at listed ⊢
  exact keys listed

theorem filter_indexed (visible : String × List String → Bool)
    (hidden : ∀ pair ∈ ts.zip us, pair.1.foreignKeys ≠ pair.2.foreignKeys →
      visible (pair.1.name, pair.1.primaryKey) = false) :
    (ts.flatMap indexed).filter visible = (us.flatMap indexed).filter visible := by
  induction widened with
  | nil => rfl
  | cons here _ ih =>
    rw [List.zip_cons_cons, List.forall_mem_cons] at hidden
    rw [List.flatMap_cons, List.flatMap_cons, List.filter_append, List.filter_append,
      here.filter_indexed hidden.1, ih hidden.2]

theorem filter_indexes {visible : Index → Bool}
    (hidden : ∀ pair ∈ ts.zip us, pair.1.foreignKeys ≠ pair.2.foreignKeys → ∀ i : Index,
      i.table = pair.1.name → i.columns = pair.1.primaryKey → visible i = false) :
    (indexesOf ts).filter visible = (indexesOf us).filter visible := by
  have keys := filter_indexed widened (visible ∘ fun key =>
    ⟨indexName key.1 key.2, key.1, key.2, false⟩) fun pair listed differ =>
      hidden pair listed differ _ rfl rfl
  rw [indexesOf_eq, indexesOf_eq, List.filter_map, List.filter_map, ← eraseDups_filter,
    ← eraseDups_filter, keys]

theorem sublist_indexes (distinct : (ts.map (·.name)).Nodup) :
    (indexesOf ts).Sublist (indexesOf us) := by
  have distinct' : (us.map (·.name)).Nodup := by rwa [names_eq widened]
  rw [indexesOf_eq, indexesOf_eq, eraseDups_indexed distinct, eraseDups_indexed distinct']
  refine List.Sublist.map _ ?_
  clear distinct distinct'
  induction widened with
  | nil => exact .slnil
  | cons here _ ih =>
    rw [List.flatMap_cons, List.flatMap_cons]
    exact here.sublist_indexed.append ih

end Runs

end Table

namespace Schema

variable {s : Schema} {x y : Dialect}

theorem plan_retype (s : Schema) (typed : x ≠ .sqlite) (y : Dialect) :
    s.plan y = (s.plan x).retype y (x.translate y) := by
  have keys := Derivation.keys_retype (d := .ofSchema s x) (Dialect.translate_sqlType typed y)
  show ({ Derivation.ofSchema s y with keys := ((Derivation.ofSchema s x).inDialect y).keys } :
    TablePlan) = _
  rw [keys]
  rfl

theorem specializes_of_mem (keyed : s.Keyed) (d : Dialect) {e : Entity}
    (member : e ∈ s.entities.values) {t : Table} (kind : t.kind = .entity)
    (source : t.sourceId = some e.id) {k : ForeignKey}
    (made : k ∈ (s.plan d).specializationKeys e t.primaryKey) : k.Specializes s t := by
  obtain ⟨parent, listed, made⟩ := List.mem_filterMap.mp made
  obtain ⟨id, above, found⟩ := List.mem_filterMap.mp listed
  have named : parent.id = id := keyed.entities.id_of_find? found
  have held : parent.id ∈ (s.plan d).tables.keys :=
    (s.named d).entities parent (OrderedMap.mem_values_of_find? found)
  split at made
  · cases made
  · cases made
    refine ⟨kind, ⟨e, member, source, id, List.mem_eraseDups.mp above,
      OrderedMap.mem_keys_of_find? found, ?_⟩, rfl, rfl, rfl⟩
    rw [← named]
    exact TablePlan.find?_tableName held

theorem widened_entityTable (keyed : s.Keyed) (typed : x ≠ .sqlite) (y : Dialect) {e : Entity}
    (member : e ∈ s.entities.values) :
    Table.Widened s ((s.plan x).entityTable e) ((s.plan y).entityTable e) := by
  have types := Dialect.translate_sqlType typed y
  have plan := s.plan_retype typed y
  have primaryKey : (s.plan y).primaryKey e = (s.plan x).primaryKey e := by
    rw [plan, TablePlan.primaryKey_retype types]
  refine ⟨by rw [plan]; exact TablePlan.outline_entityTable_retype types e, _, _, _,
    TablePlan.foreignKeys_entityTable _ e, ?_, ?_, fun k made =>
      specializes_of_mem keyed y member rfl rfl made⟩
  · rw [TablePlan.foreignKeys_entityTable, primaryKey, plan]
    congr 1
    exact TablePlan.roleKeys_retype types e _ _
  · rw [plan]
    exact TablePlan.specializationKeys_retype types e _

theorem outline_factTable (typed : x ≠ .sqlite) (y : Dialect) (kind : TableKind) (f : FactType) :
    ((s.plan y).factTable kind f).outline = ((s.plan x).factTable kind f).outline := by
  rw [s.plan_retype typed y]
  exact TablePlan.outline_factTable_retype (Dialect.translate_sqlType typed y) kind f

theorem widened_tables (keyed : s.Keyed) (typed : x ≠ .sqlite) (y : Dialect) :
    List.Forall₂ (Table.Widened s) (s.toSql x).tables (s.toSql y).tables := by
  have facts : ∀ (kind : TableKind) (fs : List FactType), List.Forall₂ (Table.Widened s)
      (fs.map ((s.plan x).factTable kind)) (fs.map ((s.plan y).factTable kind)) := by
    intro kind fs
    rw [List.forall₂_map_left_iff, List.forall₂_map_right_iff, List.forall₂_same]
    exact fun f _ => .of_outline (outline_factTable typed y kind f)
  have entities : List.Forall₂ (Table.Widened s) (s.entities.values.map (s.plan x).entityTable)
      (s.entities.values.map (s.plan y).entityTable) := by
    rw [List.forall₂_map_left_iff, List.forall₂_map_right_iff, List.forall₂_same]
    exact fun e member => widened_entityTable keyed typed y member
  exact List.rel_append (List.rel_append entities (facts .objectified s.objectifiedFactTypes))
    (facts .junction s.junctions)

/-- The dialects that tell types apart agree on everything but types and terms. -/
theorem outline_eq (keyed : s.Keyed) (typed : x ≠ .sqlite) (other : y ≠ .sqlite) :
    (s.toSql x).outline = (s.toSql y).outline := by
  have tables := Table.outlines_eq (widened_tables keyed typed y) (widened_tables keyed other x)
  refine Prod.ext tables ?_
  show indexesOf (s.toSql x).tables = indexesOf (s.toSql y).tables
  rw [← Table.indexesOf_outline, tables, Table.indexesOf_outline]

theorem widened_toSql (keyed : s.Keyed) (typed : x ≠ .sqlite) (y : Dialect) :
    (s.toSql x).Widened s (s.toSql y) := by
  have tables := widened_tables keyed typed y
  refine ⟨tables, Table.subset_indexes tables, ?_, fun apart =>
    Table.sublist_indexes tables (nodup_names_toSql keyed apart x)⟩
  refine Table.filter_indexes tables fun pair listed differ i table columns => ?_
  have wide : (s.toSql x).WideIndex (s.toSql y) i := ⟨pair, listed, differ, table, columns⟩
  simp [wide]

/-- The dialect changes types and terms only, and in SQLite more parents are referred to. -/
theorem dialects_alike (keyed : s.Keyed) :
    (∀ x y, x ≠ .sqlite → y ≠ .sqlite → ∃ a b, s.relational x = .ok a ∧ s.relational y = .ok b ∧
      a.outline = b.outline) ∧
    ∀ x, x ≠ .sqlite → ∃ a b, s.relational x = .ok a ∧ s.relational .sqlite = .ok b ∧
      a.Widened s b :=
  ⟨fun x y typed other =>
    ⟨_, _, relational_eq_ok keyed x, relational_eq_ok keyed y, outline_eq keyed typed other⟩,
    fun x typed =>
      ⟨_, _, relational_eq_ok keyed x, relational_eq_ok keyed .sqlite,
        widened_toSql keyed typed .sqlite⟩⟩

/-- People with codes, and staff that is known by the day it came. Meetings are things of their own,
and letters have codes as well. -/
def arrivals : Schema :=
  { id := "arrivals", name := "Arrivals", version := "1"
    entities := .ofList [
      ("person", ⟨"person", "Person", ["codes"], [], none, false⟩),
      ("staff", ⟨"staff", "Staff", ["days"], ["person"], none, false⟩)]
    labelTypes := .ofList [
      ("code", ⟨"code", "Code", .string, none, none, none, none⟩),
      ("day", ⟨"day", "Day", .date, none, none, none, none⟩)]
    factTypes := .ofList [
      ("coded", ⟨"coded", "coded", ["of", "value"], false, none⟩),
      ("came", ⟨"came", "came", ["who", "when"], false, none⟩),
      ("met", ⟨"met", "met", ["host", "guest", "met on"], true, none⟩),
      ("wrote", ⟨"wrote", "wrote", ["writer", "letter"], false, none⟩)]
    predicators := .ofList [
      ("of", ⟨"of", "of", "coded", 0, "person", false⟩),
      ("value", ⟨"value", "code", "coded", 1, "code", false⟩),
      ("who", ⟨"who", "who", "came", 0, "staff", false⟩),
      ("when", ⟨"when", "day", "came", 1, "day", false⟩),
      ("host", ⟨"host", "host", "met", 0, "staff", false⟩),
      ("guest", ⟨"guest", "guest", "met", 1, "person", false⟩),
      ("met on", ⟨"met on", "day", "met", 2, "day", true⟩),
      ("writer", ⟨"writer", "writer", "wrote", 0, "person", false⟩),
      ("letter", ⟨"letter", "letter", "wrote", 1, "code", false⟩)]
    uniqueConstraints := .ofList [
      ("codes", ⟨"codes", "codes", ["of"], true, true⟩),
      ("days", ⟨"days", "days", ["who"], true, true⟩)] }

/-- A day is no code, except in SQLite, where the table of staff has a key more. -/
theorem dialects_alike_arrivals : arrivals.Keyed ∧
    (∃ a b, arrivals.relational .postgreSQL = .ok a ∧ arrivals.relational .mySQL = .ok b ∧
      a.outline = b.outline) ∧
    ∃ a b, arrivals.relational .postgreSQL = .ok a ∧ arrivals.relational .sqlite = .ok b ∧
      a.Widened arrivals b ∧
      a.tables.map (fun t => (t.name, t.kind, t.foreignKeys.map (·.columns))) =
        [("person", .entity, []), ("staff", .entity, []),
          ("met", .objectified, [["host"], ["guest"]]), ("wrote", .junction, [["writer"]])] ∧
      b.tables.map (fun t => (t.name, t.kind, t.foreignKeys.map (·.columns))) =
        [("person", .entity, []), ("staff", .entity, [["day"]]),
          ("met", .objectified, [["host"], ["guest"]]), ("wrote", .junction, [["writer"]])] ∧
      a.outline ≠ b.outline := by
  have keyed : arrivals.Keyed := by constructor <;> decide +kernel
  obtain ⟨alike, wider⟩ := dialects_alike keyed
  obtain ⟨a, b, left, right, widened⟩ := wider .postgreSQL (by decide)
  obtain rfl : arrivals.toSql .postgreSQL = a :=
    Except.ok.inj ((relational_eq_ok keyed .postgreSQL).symm.trans left)
  obtain rfl : arrivals.toSql .sqlite = b :=
    Except.ok.inj ((relational_eq_ok keyed .sqlite).symm.trans right)
  exact ⟨keyed, alike .postgreSQL .mySQL (by decide) (by decide), _, _, left, right, widened,
    by decide +kernel, by decide +kernel, by decide +kernel⟩

end Schema

end FactModel
