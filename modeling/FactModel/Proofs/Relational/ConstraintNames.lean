import FactModel.Proofs.Relational.EnumerationChecks
import FactModel.Proofs.Relational.StableNames

/-!
The names of foreign keys, checks and indexes. Checks have names of their own. Those of foreign keys
and indexes are put together with underscores, which tables and columns may have in their names as
well, so that two of them clash exactly where the parts read the same in one row.
-/

namespace FactModel

namespace Name

theorem exists_candidate_of_mem {used names : List String} {name : String}
    (claimed : name ∈ claimAll used names) : ∃ old ∈ names, ∃ k, name = candidate old k := by
  induction names generalizing used with
  | nil => cases claimed
  | cons first rest ih =>
    rcases List.mem_cons.mp claimed with rfl | later
    · obtain ⟨k, _, found⟩ := exists_search_claim used first
      exact ⟨first, List.mem_cons_self, k, found⟩
    · obtain ⟨old, listed, number⟩ := ih later
      exact ⟨old, List.mem_cons_of_mem _ listed, number⟩

/-- A number leaves the end of a name as it is or makes it a digit. -/
theorem getLast?_candidate {name : String} {c : Char} (last : name.toList.getLast? = some c)
    (k : Nat) : ∃ other, (candidate name k).toList.getLast? = some other ∧
      (other = c ∨ Text.isDigit other = true) := by
  unfold candidate
  split
  · exact ⟨c, last, .inl rfl⟩
  · have digits : (toString k).toList ≠ [] := by
      rw [Nat.toString_eq_repr, Nat.repr_eq_ofList_toDigits, String.toList_ofList]
      exact Nat.toDigits_ne_nil
    obtain ⟨other, found⟩ : ∃ other, (toString k).toList.getLast? = some other :=
      ⟨_, List.getLast?_eq_some_getLast digits⟩
    refine ⟨other, ?_, .inr ?_⟩
    · rw [String.toList_append, List.getLast?_append, found, Option.some_or]
    · have listed := List.mem_of_getLast? found
      rw [Nat.toString_eq_repr, Nat.repr_eq_ofList_toDigits, String.toList_ofList] at listed
      have digit := Nat.isDigit_of_mem_toDigits (by decide) (by decide) listed
      simpa [Text.isDigit, Char.isDigit, Char.le_def] using digit

theorem head?_candidate {name : String} {c : Char} (first : name.toList.head? = some c)
    (k : Nat) : (candidate name k).toList.head? = some c := by
  unfold candidate
  split
  · exact first
  · simp [first]

end Name

/-! Checks -/

namespace TablePlan

variable {p : TablePlan}

/-- The names that the checks of a table have: numbered ones, all new, for the lists of a column,
and one for its bounds. -/
inductive CheckName (table : String) (used : List String) (columns : List Column) :
    String → Prop where
  | list {c : Column} (k : Nat) (held : c ∈ columns)
      (fresh : Name.candidate (s!"chk_{table}_{c.name}" ++ "_enum") k ∉ used) :
      CheckName table used columns (Name.candidate (s!"chk_{table}_{c.name}" ++ "_enum") k)
  | range {c : Column} (held : c ∈ columns) :
      CheckName table used columns (s!"chk_{table}_{c.name}" ++ "_range")

theorem CheckName.mono {table : String} {used more : List String} {columns others : List Column}
    (fewer : used ⊆ more) (within : columns ⊆ others) {name : String}
    (shape : CheckName table more columns name) : CheckName table used others name := by
  cases shape with
  | list k held fresh => exact .list k (within held) fun taken => fresh (fewer taken)
  | range held => exact .range (within held)

theorem candidate_ne_range (base other : String) (k : Nat) :
    Name.candidate (base ++ "_enum") k ≠ other ++ "_range" := by
  intro same
  have last : (base ++ "_enum").toList.getLast? = some 'm' := by simp
  obtain ⟨c, ends, letter⟩ := Name.getLast?_candidate last k
  have final : (other ++ "_range").toList.getLast? = some 'e' := by simp
  rw [same, final, Option.some.injEq] at ends
  subst ends
  revert letter
  decide

theorem range_injective {table column other : String}
    (same : s!"chk_{table}_{column}" ++ "_range" = s!"chk_{table}_{other}" ++ "_range") :
    column = other := by
  have texts := congrArg String.toList same
  exact String.toList_inj.mp (by simpa [toString] using texts)

/-- The names of the lists of a column. -/
def listNames (p : TablePlan) (table : String) (used : List String) (c : Column) (l : LabelType) :
    List String :=
  Name.claimAll used ((p.schema.valueLists l).map fun _ => s!"chk_{table}_{c.name}" ++ "_enum")

/-- The name of the bounds of a column, if it has any. -/
def boundNames (table : String) (c : Column) (l : LabelType) : List String :=
  if (l.rangeTerms c.name).isEmpty then [] else [s!"chk_{table}_{c.name}" ++ "_range"]

theorem names_checksFrom_cons {table : String} {used : List String} {c : Column}
    {rest : List Column} {l : LabelType} (labelled : p.schema.columnLabel? c = some l) :
    (p.checksFrom table used (c :: rest)).map (·.name) =
      p.listNames table used c l ++ boundNames table c l ++
        (p.checksFrom table ((p.listNames table used c l).reverse ++ used) rest).map (·.name) := by
  have lengths : (p.listNames table used c l).length ≤ (p.schema.valueLists l).length := by
    simp [listNames]
  have lists : (((p.listNames table used c l).zip (p.schema.valueLists l)).map fun pair =>
      (⟨pair.1, p.dialect.enumerationTerm c.name pair.2⟩ : Check)).map (·.name) =
      p.listNames table used c l := by
    rw [List.map_map]
    exact List.map_fst_zip lengths
  rw [checksFrom, labelled]
  dsimp only
  rw [List.map_append, List.map_append]
  refine congrArg (· ++ _) (congrArg₂ (· ++ ·) lists ?_)
  unfold boundNames
  split <;> rfl

theorem mem_boundNames {table name : String} {c : Column} {l : LabelType}
    (listed : name ∈ boundNames table c l) : name = s!"chk_{table}_{c.name}" ++ "_range" := by
  unfold boundNames at listed
  split at listed
  · cases listed
  · exact List.mem_singleton.mp listed

theorem nodup_boundNames (table : String) (c : Column) (l : LabelType) :
    (boundNames table c l).Nodup := by
  unfold boundNames
  split
  · exact List.nodup_nil
  · exact List.nodup_singleton _

theorem mem_listNames {table name : String} {used : List String} {c : Column} {l : LabelType}
    (listed : name ∈ p.listNames table used c l) :
    name ∉ used ∧ ∃ k, name = Name.candidate (s!"chk_{table}_{c.name}" ++ "_enum") k := by
  obtain ⟨old, there, k, same⟩ := Name.exists_candidate_of_mem listed
  obtain ⟨_, _, rfl⟩ := List.mem_map.mp there
  exact ⟨Name.claimAll_fresh _ _ _ listed, k, same⟩

theorem checkName_of_mem {table : String} {used : List String} {columns : List Column}
    {name : String} (listed : name ∈ (p.checksFrom table used columns).map (·.name)) :
    CheckName table used columns name := by
  induction columns generalizing used with
  | nil => simp [checksFrom] at listed
  | cons column rest ih =>
    have onward : rest ⊆ column :: rest := List.subset_cons_self _ _
    cases labelled : p.schema.columnLabel? column with
    | none =>
      rw [checksFrom, labelled] at listed
      exact (ih listed).mono (List.Subset.refl _) onward
    | some label =>
      rw [names_checksFrom_cons labelled] at listed
      rcases List.mem_append.mp listed with here | later
      · rcases List.mem_append.mp here with list | bound
        · obtain ⟨fresh, k, rfl⟩ := mem_listNames list
          exact .list k List.mem_cons_self fresh
        · rw [mem_boundNames bound]
          exact .range List.mem_cons_self
      · exact (ih later).mono (List.subset_append_right _ _) onward

/-- The names of one column are none that later columns get, as these have other names. -/
theorem not_checkName_of_column {table name : String} {used : List String} {c : Column}
    {rest : List Column} {l : LabelType} (other : c.name ∉ rest.map (·.name))
    (here : name ∈ p.listNames table used c l ++ boundNames table c l) :
    ¬ CheckName table ((p.listNames table used c l).reverse ++ used) rest name := by
  intro later
  rcases List.mem_append.mp here with list | bound
  · cases later with
    | list k held fresh => exact fresh (List.mem_append_left _ (List.mem_reverse.mpr list))
    | range held =>
      obtain ⟨_, k, numbered⟩ := mem_listNames list
      exact candidate_ne_range _ _ k numbered.symm
  · cases later with
    | list k held fresh => exact candidate_ne_range _ _ k (mem_boundNames bound)
    | range held =>
      have same := range_injective (mem_boundNames bound)
      exact other (same ▸ List.mem_map_of_mem held)

/-- The checks of columns with different names have different names. -/
theorem nodup_checksFrom {table : String} {columns : List Column}
    (distinct : (columns.map (·.name)).Nodup) (used : List String) :
    ((p.checksFrom table used columns).map (·.name)).Nodup := by
  induction columns generalizing used with
  | nil => exact List.nodup_nil
  | cons column rest ih =>
    rw [List.map_cons, List.nodup_cons] at distinct
    cases labelled : p.schema.columnLabel? column with
    | none =>
      rw [checksFrom, labelled]
      exact ih distinct.2 used
    | some label =>
      rw [names_checksFrom_cons labelled]
      refine List.nodup_append.mpr ⟨List.nodup_append.mpr ⟨Name.claimAll_nodup _ _,
        nodup_boundNames table column label, ?_⟩, ih distinct.2 _, ?_⟩
      · intro name list bound inside same
        obtain ⟨_, k, numbered⟩ := mem_listNames list
        exact candidate_ne_range _ _ k (numbered.symm.trans (same.trans (mem_boundNames inside)))
      · rintro name here _ later rfl
        exact not_checkName_of_column distinct.1 here (checkName_of_mem later)

theorem CheckName.head? {table name : String} {used : List String} {columns : List Column}
    (shape : CheckName table used columns name) : name.toList.head? = some 'c' := by
  cases shape with
  | list k held fresh => exact Name.head?_candidate (by simp [toString]) k
  | range held => simp [toString]

theorem nodup_checks_of_mem {t : Table} (member : t ∈ p.tableList) :
    (t.checks.map (·.name)).Nodup := by
  rw [checks_of_mem member]
  exact nodup_checksFrom (nodup_columnNames member) []

theorem head?_check_of_mem {t : Table} (member : t ∈ p.tableList) {name : String}
    (listed : name ∈ t.checks.map (·.name)) : name.toList.head? = some 'c' := by
  rw [checks_of_mem member] at listed
  exact (checkName_of_mem listed).head?

end TablePlan

/-! Foreign keys -/

/-- Columns as they stand in a name. -/
def Name.joined (columns : List String) : String := String.intercalate "_" columns

/-- The foreign keys of a table, those made by roles first and then those that lead to parents, with
what their names are made of. -/
structure Table.KeyNames (t : Table) (roles parents : List ForeignKey) : Prop where
  split : t.foreignKeys = roles ++ parents
  ofRole : ∀ k ∈ roles, k.columns ≠ [] ∧ k.name = s!"fk_{t.name}_" ++ Name.joined k.columns
  apart : roles.Pairwise fun k k' => k.columns.Disjoint k'.columns
  ofParent : ∀ k ∈ parents, k.columns = t.primaryKey ∧ k.name = s!"fk_{t.name}_" ++ k.refTable
  distinct : parents.Pairwise fun k k' => k.refTable ≠ k'.refTable

/-- Names of foreign keys do not clash: neither the columns of two roles nor those of a role and the
table of a parent read the same. -/
def ForeignKey.Apart (roles parents : List ForeignKey) : Prop :=
  roles.Pairwise (fun k k' => Name.joined k.columns ≠ Name.joined k'.columns) ∧
    ∀ k ∈ roles, ∀ k' ∈ parents, Name.joined k.columns ≠ k'.refTable

theorem Table.KeyNames.nodup_iff {t : Table} {roles parents : List ForeignKey}
    (named : t.KeyNames roles parents) :
    (t.foreignKeys.map (·.name)).Nodup ↔ ForeignKey.Apart roles parents := by
  have read : ∀ first second : String,
      s!"fk_{t.name}_" ++ first ≠ s!"fk_{t.name}_" ++ second ↔ first ≠ second := by
    intro first second
    rw [ne_eq, ne_eq, String.append_right_inj]
  have between : (roles.map (·.name)).Nodup ↔
      roles.Pairwise fun k k' => Name.joined k.columns ≠ Name.joined k'.columns := by
    rw [List.Nodup, List.pairwise_map]
    refine List.Pairwise.iff_of_mem fun {k k'} held there => ?_
    rw [(named.ofRole k held).2, (named.ofRole k' there).2, read]
  have parents_nodup : (parents.map (·.name)).Nodup := by
    rw [List.Nodup, List.pairwise_map]
    refine (List.Pairwise.iff_of_mem fun {k k'} held there => ?_).mpr named.distinct
    rw [(named.ofParent k held).2, (named.ofParent k' there).2, read]
  rw [named.split, List.map_append, List.nodup_append, between, ForeignKey.Apart]
  refine and_congr_right fun _ => ?_
  rw [and_iff_right parents_nodup]
  constructor
  · intro differ k held k' there
    have names := differ _ (List.mem_map_of_mem held) _ (List.mem_map_of_mem there)
    rwa [(named.ofRole k held).2, (named.ofParent k' there).2, read] at names
  · rintro differ _ first _ second
    obtain ⟨k, held, rfl⟩ := List.mem_map.mp first
    obtain ⟨k', there, rfl⟩ := List.mem_map.mp second
    rw [(named.ofRole k held).2, (named.ofParent k' there).2, read]
    exact differ k held k' there

theorem Table.KeyNames.head?_name {t : Table} {roles parents : List ForeignKey}
    (named : t.KeyNames roles parents) (k : ForeignKey) (made : k ∈ t.foreignKeys) :
    k.name.toList.head? = some 'f' := by
  rw [named.split] at made
  rcases List.mem_append.mp made with role | parent
  · simp [(named.ofRole k role).2, toString]
  · simp [(named.ofParent k parent).2, toString]

namespace TablePlan

variable {p : TablePlan}

/-- Roles have columns of their own, so their foreign keys do not share any. -/
theorem foreignKeys_of_groups {groups : List RoleGroup}
    (distinct : (groups.flatMap (·.names)).Nodup) (table : String) (action : ForeignKeyAction) :
    (∀ k ∈ groups.filterMap (RoleGroup.foreignKey? table action),
      k.columns ≠ [] ∧ k.name = s!"fk_{table}_" ++ Name.joined k.columns) ∧
    (groups.filterMap (RoleGroup.foreignKey? table action)).Pairwise fun k k' =>
      k.columns.Disjoint k'.columns := by
  constructor
  · intro k held
    obtain ⟨g, _, made⟩ := List.mem_filterMap.mp held
    obtain ⟨columns, filled, name⟩ := RoleGroup.shape_of_foreignKey? made
    exact ⟨by simpa [columns, RoleGroup.names] using filled, name⟩
  · refine (List.nodup_flatMap.mp distinct).2.filterMap _ ?_
    intro g g' apart k made k' made'
    rw [(RoleGroup.shape_of_foreignKey? made).1, (RoleGroup.shape_of_foreignKey? made').1]
    exact apart

theorem keyNames_factTable (p : TablePlan) (kind : TableKind) (f : FactType) :
    (p.factTable kind f).KeyNames (p.factTable kind f).foreignKeys [] := by
  have distinct : ((p.factGroups f kind).flatMap (·.names)).Nodup := by
    rw [factGroups_eq, RoleGroup.names_place]
    exact Name.claimAll_nodup _ _
  obtain ⟨roles, apart⟩ := foreignKeys_of_groups distinct (p.tableName f.id)
    (if kind = .junction then .cascade else .restrict)
  exact ⟨(List.append_nil _).symm, roles, apart, by simp, .nil⟩

/-- Parents are listed once each, and their tables have different names. -/
theorem keyNames_entityTable (keyed : p.schema.Keyed)
    (names : (p.schema.entities.values.map fun e => p.tableName e.id).Nodup) (e : Entity) :
    ∃ roles parents, (p.entityTable e).KeyNames roles parents := by
  have distinct : ((p.entityGroups e).flatMap (·.names)).Nodup := by
    rw [entityGroups_eq, RoleGroup.names_place]
    exact Name.claimAll_nodup _ _
  obtain ⟨roles, apart⟩ := foreignKeys_of_groups distinct (p.tableName e.id) .restrict
  have parents : (e.specializationOf.eraseDups.filterMap p.schema.entities.find?).Pairwise
      fun parent other => p.tableName parent.id ≠ p.tableName other.id := by
    refine List.Pairwise.filterMap _ ?_ (nodup_eraseDups e.specializationOf)
    intro id id' differ parent found parent' found' same
    have equal : parent = parent' := List.inj_on_of_nodup_map names
      (OrderedMap.mem_values_of_find? found) (OrderedMap.mem_values_of_find? found') same
    refine differ ?_
    rw [← keyed.entities.id_of_find? found, ← keyed.entities.id_of_find? found', equal]
  refine ⟨_, _, rfl, roles, apart, fun k made => ?_, parents.filterMap _ ?_⟩
  · obtain ⟨parent, _, made⟩ := List.mem_filterMap.mp made
    split at made
    · cases made
    · cases made
      exact ⟨rfl, rfl⟩
  · intro parent parent' differ k made k' made'
    split at made
    · cases made
    · split at made'
      · cases made'
      · cases made
        cases made'
        exact differ

end TablePlan

/-! Indexes -/

theorem joined_eq_iff {table other columns others : String} :
    table ++ "_" ++ columns = other ++ "_" ++ others ↔
      (table = other ∧ columns = others) ∨
      (∃ middle, other = table ++ "_" ++ middle ∧ columns = middle ++ "_" ++ others) ∨
      ∃ middle, table = other ++ "_" ++ middle ∧ others = middle ++ "_" ++ columns := by
  have text : ∀ front back : String,
      (front ++ "_" ++ back).toList = front.toList ++ '_' :: back.toList := by simp
  have word : ∀ {P : List Char → Prop}, (∃ middle, P middle) ↔ ∃ middle : String, P middle.toList :=
    ⟨fun ⟨middle, holds⟩ => ⟨.ofList middle, by rwa [String.toList_ofList]⟩,
      fun ⟨middle, holds⟩ => ⟨middle.toList, holds⟩⟩
  simp only [← String.toList_inj, text, append_cons_eq_iff, word]

/-- Two indexes read the same: they are on one table and their columns read the same, or the name of
one table goes on as the columns of the other do. -/
def Index.RunsInto (i j : Index) : Prop :=
  (i.table = j.table ∧ Name.joined i.columns = Name.joined j.columns) ∨
  (∃ middle, j.table = i.table ++ "_" ++ middle ∧
    Name.joined i.columns = middle ++ "_" ++ Name.joined j.columns) ∨
  ∃ middle, i.table = j.table ++ "_" ++ middle ∧
    Name.joined j.columns = middle ++ "_" ++ Name.joined i.columns

theorem name_of_mem_indexesOf {tables : List Table} {i : Index} (member : i ∈ indexesOf tables) :
    i.name = "idx_" ++ (i.table ++ "_" ++ Name.joined i.columns) := by
  obtain ⟨t, _, k, _, rfl⟩ := mem_indexesOf.mp member
  simp [indexName, Name.joined, String.append_assoc, toString]

theorem nodup_names_indexesOf_iff (tables : List Table) :
    ((indexesOf tables).map (·.name)).Nodup ↔
      (indexesOf tables).Pairwise fun i j => ¬ i.RunsInto j := by
  rw [List.Nodup, List.pairwise_map]
  refine List.Pairwise.iff_of_mem fun {i j} held there => ?_
  rw [name_of_mem_indexesOf held, name_of_mem_indexesOf there, ne_eq, String.append_right_inj,
    joined_eq_iff, Index.RunsInto]

theorem nodup_places_indexesOf (tables : List Table) :
    ((indexesOf tables).map fun i => (i.table, i.columns)).Nodup := by
  unfold indexesOf
  rw [List.map_map]
  exact (List.map_id'' (fun _ => rfl) _).symm ▸ nodup_eraseDups _

namespace Schema

variable {s : Schema}

theorem nodup_tableNames_entities (keyed : s.Keyed) (apart : s.TableIdsApart) (d : Dialect) :
    (s.entities.values.map fun e => (s.plan d).tableName e.id).Nodup := by
  have names := nodup_tableNames keyed apart d
  rw [tableIds_eq, List.map_append, List.map_append] at names
  have entities := (List.nodup_append.mp (List.nodup_append.mp names).1).1
  rwa [List.map_map] at entities

theorem keyNames_toSql (keyed : s.Keyed) (apart : s.TableIdsApart) {d : Dialect} {t : Table}
    (member : t ∈ (s.toSql d).tables) : ∃ roles parents, t.KeyNames roles parents := by
  rcases mem_tables_toSql.mp member with ⟨e, _, rfl⟩ | ⟨f, _, rfl⟩ | ⟨f, _, rfl⟩
  · exact TablePlan.keyNames_entityTable keyed (nodup_tableNames_entities keyed apart d) e
  · exact ⟨_, _, TablePlan.keyNames_factTable _ _ f⟩
  · exact ⟨_, _, TablePlan.keyNames_factTable _ _ f⟩

/-- The checks of a table have names of their own. Two foreign keys of a table share a name only
where the columns of two roles, or those of a role and the table of a parent, read the same, and two
indexes only where their tables and columns do. -/
theorem names_distinct_iff (keyed : s.Keyed) (apart : s.TableIdsApart) (d : Dialect) :
    ∃ sql, s.relational d = .ok sql ∧
      (∀ t ∈ sql.tables, (t.checks.map (·.name)).Nodup ∧
        ∃ roles parents, t.KeyNames roles parents ∧
          ((t.foreignKeys.map (·.name) ++ t.checks.map (·.name)).Nodup ↔
            ForeignKey.Apart roles parents)) ∧
      (sql.indexes.map fun i => (i.table, i.columns)).Nodup ∧
      ((sql.indexes.map (·.name)).Nodup ↔
        sql.indexes.Pairwise fun i j => ¬ i.RunsInto j) := by
  refine ⟨s.toSql d, relational_eq_ok keyed d, fun t member => ?_,
    nodup_places_indexesOf _, nodup_names_indexesOf_iff _⟩
  have checks := TablePlan.nodup_checks_of_mem member
  obtain ⟨roles, parents, named⟩ := keyNames_toSql keyed apart member
  refine ⟨checks, roles, parents, named, ?_⟩
  rw [List.nodup_append, named.nodup_iff]
  refine and_iff_left ⟨checks, ?_⟩
  rintro _ key other check rfl
  obtain ⟨k, made, rfl⟩ := List.mem_map.mp key
  have letters := (named.head?_name k made).symm.trans (TablePlan.head?_check_of_mem member check)
  exact absurd letters (by decide)

/-- Orders are documents that cite a document; an order names a line item, and an order line an
item. -/
def invoices : Schema :=
  { id := "invoices", name := "Invoices", version := "1"
    entities := .ofList [
      ("document", ⟨"document", "Document", [], [], none, false⟩),
      ("order", ⟨"order", "Order", [], ["document"], none, false⟩),
      ("line", ⟨"line", "Order Line", [], [], none, false⟩),
      ("item", ⟨"item", "Item", [], [], none, false⟩)]
    factTypes := .ofList [
      ("cites", ⟨"cites", "cites", ["citing", "cited"], false, none⟩),
      ("names", ⟨"names", "names", ["naming", "named"], false, none⟩),
      ("sells", ⟨"sells", "sells", ["selling", "sold"], false, none⟩)]
    predicators := .ofList [
      ("citing", ⟨"citing", "order", "cites", 0, "order", true⟩),
      ("cited", ⟨"cited", "document", "cites", 1, "document", true⟩),
      ("naming", ⟨"naming", "order", "names", 0, "order", true⟩),
      ("named", ⟨"named", "line item", "names", 1, "item", true⟩),
      ("selling", ⟨"selling", "line", "sells", 0, "line", true⟩),
      ("sold", ⟨"sold", "item", "sells", 1, "item", true⟩)]
    uniqueConstraints := .ofList [
      ("once", ⟨"once", "once", ["cited"], false, false⟩),
      ("single", ⟨"single", "single", ["named"], false, false⟩),
      ("sole", ⟨"sole", "sole", ["sold"], false, false⟩)] }

/-- The line item of an order and the item of an order line have one index name. -/
theorem names_distinct_iff_invoices : invoices.Keyed ∧ invoices.TableIdsApart ∧
    ∃ sql, invoices.relational .sqlite = .ok sql ∧
      (∀ t ∈ sql.tables, (t.checks.map (·.name)).Nodup) ∧
      (∃ i ∈ sql.indexes, ∃ j ∈ sql.indexes, i ≠ j ∧ i.RunsInto j) ∧
      ¬ (sql.indexes.map (·.name)).Nodup := by
  have keyed : invoices.Keyed := by constructor <;> decide +kernel
  have apart : invoices.TableIdsApart := by decide +kernel
  obtain ⟨sql, derived, tables, _, indexes⟩ := names_distinct_iff keyed apart .sqlite
  obtain rfl : invoices.toSql .sqlite = sql :=
    Except.ok.inj ((relational_eq_ok keyed .sqlite).symm.trans derived)
  have listed : (invoices.toSql .sqlite).indexes = [
      ⟨"idx_order_document", "order", ["document"], false⟩,
      ⟨"idx_order_line_item", "order", ["line_item"], false⟩,
      ⟨"idx_order_id", "order", ["id"], false⟩,
      ⟨"idx_order_line_item", "order_line", ["item"], false⟩] := by decide +kernel
  have runs : Index.RunsInto ⟨"idx_order_line_item", "order", ["line_item"], false⟩
      ⟨"idx_order_line_item", "order_line", ["item"], false⟩ :=
    .inr (.inl ⟨"line", by decide +kernel, by decide +kernel⟩)
  refine ⟨keyed, apart, _, derived, fun t member => (tables t member).1, ?_, fun distinct => ?_⟩
  · rw [listed]
    exact ⟨_, .tail _ (.head _), _, .tail _ (.tail _ (.tail _ (.head _))), by decide, runs⟩
  · have separate := indexes.mp distinct
    rw [listed, List.pairwise_cons, List.pairwise_cons] at separate
    exact separate.2.1 _ (.tail _ (.head _)) runs

/-- Not every derived schema has different names for its foreign keys and its indexes. -/
theorem not_every_name_distinct : ¬ ∀ (s : Schema) (d : Dialect) (sql : SqlSchema), s.Keyed →
    s.TableIdsApart → s.issues = [] → s.relational d = .ok sql →
      (∀ t ∈ sql.tables, (t.foreignKeys.map (·.name) ++ t.checks.map (·.name)).Nodup) ∧
        (sql.indexes.map (·.name)).Nodup := by
  intro distinct
  have keyed : invoices.Keyed := by constructor <;> decide +kernel
  have apart : invoices.TableIdsApart := by decide +kernel
  have clean : invoices.issues = [] := List.length_eq_zero_iff.mp (by decide +kernel)
  have order : (⟨"order", "Order", [], ["document"], none, false⟩ : Entity) ∈
      invoices.entities.values := .tail _ (.head _)
  obtain ⟨tables, _⟩ := distinct invoices .sqlite _ keyed apart clean (relational_eq_ok keyed _)
  have names := (List.nodup_append.mp (tables _ (entityTable_mem order _))).1
  -- the order leads to its document and, as a document itself, to its parent
  have twice : ((invoices.plan .sqlite).entityTable
      ⟨"order", "Order", [], ["document"], none, false⟩).foreignKeys.map (·.name) =
      ["fk_order_document", "fk_order_line_item", "fk_order_document"] := by decide +kernel
  rw [twice] at names
  exact absurd names (by decide)

end Schema

end FactModel
