import FactModel.Proofs.Ddl.Quoting
import FactModel.Proofs.Lists
import FactModel.Proofs.Relational.Identifiers
import FactModel.Proofs.Relational.TableNames
import FactModel.Proofs.Validation.Enumerations

/-!
Checks of the columns that hold label values. A column has one list for each enumeration of its
label, and a list of texts reads back as the texts that a validation allows.
-/

namespace FactModel

namespace Schema

/-- The enumerations of a label, in order. -/
def enumerationsOf (s : Schema) (label : String) : List EnumerationConstraint :=
  s.enumerationConstraints.values.filter fun c => c.labelTypeId == label

variable {s : Schema}

theorem valueLists_eq {l : LabelType} (some : s.enumerationsOf l.id ≠ [])
    (filled : ∀ c ∈ s.enumerationsOf l.id, c.allowedValues ≠ []) :
    s.valueLists l = (s.enumerationsOf l.id).map (·.allowedValues) := by
  have lists : (s.enumerationConstraints.values.filterMap fun c =>
      if c.labelTypeId == l.id && !c.allowedValues.isEmpty then .some c.allowedValues else none) =
      (s.enumerationsOf l.id).map (·.allowedValues) := by
    unfold enumerationsOf at filled ⊢
    rw [← List.filterMap_eq_map, List.filterMap_filter]
    refine List.filterMap_congr fun c held => ?_
    by_cases here : c.labelTypeId = l.id
    · have values := filled c (List.mem_filter.mpr ⟨held, by simp [here]⟩)
      simp [here, values]
    · simp [here]
  have constrained : ((s.enumerationsOf l.id).map (·.allowedValues)).isEmpty = false := by
    simp [some]
  unfold valueLists
  rw [lists]
  simp only [constrained, Bool.false_eq_true, if_false]

end Schema

namespace TablePlan

variable (p : TablePlan)

/-- What the checks of a column say, in order. -/
def checkTerms (column : Column) : List String :=
  match p.schema.columnLabel? column with
  | none => []
  | some label =>
    let terms := label.rangeTerms column.name
    (p.schema.valueLists label).map (p.dialect.enumerationTerm column.name) ++
      if terms.isEmpty then [] else [String.intercalate " AND " terms]

theorem expressions_checksFrom (table : String) (used : List String) (columns : List Column) :
    (p.checksFrom table used columns).map (·.expression) = columns.flatMap p.checkTerms := by
  induction columns generalizing used with
  | nil => rfl
  | cons column rest ih =>
    rw [List.flatMap_cons, checksFrom, checkTerms]
    cases p.schema.columnLabel? column with
    | none => exact ih used
    | some label =>
      have lengths : (p.schema.valueLists label).length ≤ (Name.claimAll used
          ((p.schema.valueLists label).map fun _ =>
            s!"chk_{table}_{column.name}" ++ "_enum")).length := by simp
      have lists := congrArg (List.map (p.dialect.enumerationTerm column.name))
        (List.map_snd_zip lengths)
      rw [List.map_map] at lists
      simp only [List.map_append, List.map_map, ih]
      refine congrArg (· ++ _) (congrArg₂ (· ++ ·) lists ?_)
      split <;> rfl

end TablePlan

/-! Which column a check belongs to -/

theorem blank_append_inj {name other rest later : List Char} (here : ' ' ∉ name)
    (there : ' ' ∉ other) (same : name ++ ' ' :: rest = other ++ ' ' :: later) :
    name = other ∧ rest = later := by
  have front : ∀ cs after : List Char, ' ' ∉ cs →
      (cs ++ ' ' :: after).takeWhile (· ≠ ' ') = cs := by
    intro cs after none
    have all : ∀ c ∈ cs, decide (c ≠ ' ') = true := by
      intro c member
      exact decide_eq_true fun blank => none (blank ▸ member)
    rw [List.takeWhile_append_of_pos all]
    simp
  have names := congrArg (List.takeWhile (· ≠ ' ')) same
  rw [front name rest here, front other later there] at names
  subst names
  exact ⟨rfl, (List.cons.inj (List.append_cancel_left same)).2⟩

theorem Ddl.IsIdentifier.blank_notMem {name : String} (plain : IsIdentifier name) :
    ' ' ∉ name.toList := fun member => absurd (plain ' ' member) (by decide)

/-- What a text begins with that starts with an identifier and a blank. -/
theorem startsWith_in_iff {column other text : String} {tail : List Char}
    (here : Ddl.IsIdentifier column) (there : Ddl.IsIdentifier other)
    (written : text.toList = other.toList ++ ' ' :: tail) :
    text.startsWith s!"{column} IN (" = true ↔
      column = other ∧ ['I', 'N', ' ', '('] <+: tail := by
  have front : (s!"{column} IN (").toList = column.toList ++ ' ' :: ['I', 'N', ' ', '('] := by
    simp [toString]
  rw [String.startsWith_string_iff, front, written]
  constructor
  · rintro ⟨rest, same⟩
    rw [List.append_assoc, List.cons_append] at same
    obtain ⟨names, tails⟩ := blank_append_inj here.blank_notMem there.blank_notMem same
    exact ⟨String.toList_inj.mp names, rest, tails⟩
  · rintro ⟨rfl, rest, rfl⟩
    exact ⟨rest, by simp⟩

theorem startsWith_enumerationTerm {column other : String} (here : Ddl.IsIdentifier column)
    (there : Ddl.IsIdentifier other) (d : Dialect) (values : List Value) :
    (d.enumerationTerm other values).startsWith s!"{column} IN (" = true ↔ column = other := by
  have written : ∃ rest, (d.enumerationTerm other values).toList =
      other.toList ++ ' ' :: (['I', 'N', ' ', '('] ++ rest) := by
    refine ⟨(String.intercalate ", " (values.map (Ddl.literal d.numericBooleans))).toList ++
      [')'], ?_⟩
    simp [Dialect.enumerationTerm, toString]
  obtain ⟨rest, written⟩ := written
  rw [startsWith_in_iff here there written, and_iff_left ⟨rest, rfl⟩]

theorem toList_rangeTerms {l : LabelType} {column : String} (some : l.rangeTerms column ≠ []) :
    ∃ sign rest, (sign = '>' ∨ sign = '<') ∧
      (String.intercalate " AND " (l.rangeTerms column)).toList =
        column.toList ++ ' ' :: sign :: rest := by
  cases least : l.minValue with
  | none =>
    cases most : l.maxValue with
    | none => exact absurd (by simp [LabelType.rangeTerms, least, most]) some
    | some bound =>
      exact ⟨'<', '=' :: ' ' :: bound.text.toList, .inr rfl,
        by simp [LabelType.rangeTerms, least, most, toString]⟩
  | some bound =>
    -- a greatest value may follow
    let rest := String.intercalate " AND " ("" :: (l.maxValue.map fun x =>
      s!"{column} <= {x.text}").toList)
    refine ⟨'>', '=' :: ' ' :: bound.text.toList ++ rest.toList, .inl rfl, ?_⟩
    cases most : l.maxValue <;> simp [LabelType.rangeTerms, rest, least, most, toString]

theorem startsWith_rangeTerms {column other : String} (here : Ddl.IsIdentifier column)
    (there : Ddl.IsIdentifier other) {l : LabelType} (some : l.rangeTerms other ≠ []) :
    ¬ (String.intercalate " AND " (l.rangeTerms other)).startsWith s!"{column} IN (" = true := by
  obtain ⟨sign, rest, signs, written⟩ := toList_rangeTerms some
  rw [startsWith_in_iff here there written]
  rintro ⟨_, tail, same⟩
  have first := (List.cons.inj same).1
  rcases signs with rfl | rfl
  · cases first
  · cases first

namespace TablePlan

variable {p : TablePlan}

theorem filter_checkTerms {column other : Column} (here : Ddl.IsIdentifier column.name)
    (there : Ddl.IsIdentifier other.name) :
    (p.checkTerms other).filter (·.startsWith s!"{column.name} IN (") =
      if column.name = other.name then
        ((p.schema.columnLabel? other).map p.schema.valueLists).toList.flatten.map
          (p.dialect.enumerationTerm other.name)
      else [] := by
  unfold checkTerms
  cases p.schema.columnLabel? other with
  | none => simp
  | some label =>
    have range : (if (label.rangeTerms other.name).isEmpty = true then [] else
        [String.intercalate " AND " (label.rangeTerms other.name)]).filter
          (·.startsWith s!"{column.name} IN (") = [] := by
      split
      · rfl
      · rename_i filled
        have terms : label.rangeTerms other.name ≠ [] := by simpa using filled
        have silent := startsWith_rangeTerms here there terms
        simp only [List.filter_cons, silent, Bool.false_eq_true, if_false, List.filter_nil]
    dsimp only
    rw [List.filter_append, range, List.append_nil]
    by_cases same : column.name = other.name
    · rw [if_pos same]
      simp only [Option.map_some, Option.toList_some, List.flatten_singleton]
      refine List.filter_eq_self.mpr fun term member => ?_
      obtain ⟨values, _, rfl⟩ := List.mem_map.mp member
      exact (startsWith_enumerationTerm here there p.dialect values).mpr same
    · rw [if_neg same]
      refine List.filter_eq_nil_iff.mpr fun term member => ?_
      obtain ⟨values, _, rfl⟩ := List.mem_map.mp member
      exact mt (startsWith_enumerationTerm here there p.dialect values).mp same

/-- The lists that a column is checked against, among all checks of its table. -/
theorem filter_expressions {table : String} {columns : List Column}
    (distinct : (columns.map (·.name)).Nodup) (plain : ∀ c ∈ columns, Ddl.IsIdentifier c.name)
    {column : Column} (member : column ∈ columns) {label : LabelType}
    (labelled : p.schema.columnLabel? column = some label) :
    ((p.checks table columns).map (·.expression)).filter
        (·.startsWith s!"{column.name} IN (") =
      (p.schema.valueLists label).map (p.dialect.enumerationTerm column.name) := by
  have own := filter_checkTerms (p := p) (plain column member) (plain column member)
  rw [if_pos rfl, labelled] at own
  rw [checks, expressions_checksFrom, List.filter_flatMap]
  refine (flatMap_of_nodup_map distinct member fun other listed apart => ?_).trans ?_
  · rw [filter_checkTerms (plain column member) (plain other listed), if_neg (Ne.symm apart)]
  · simpa using own

theorem nodup_columnNames {t : Table} (member : t ∈ p.tableList) : t.columnNames.Nodup := by
  rcases mem_tableList.mp member with ⟨e, _, rfl⟩ | ⟨f, _, rfl⟩ | ⟨f, _, rfl⟩
  · exact p.nodup_columnNames_entityTable e
  · exact p.nodup_columnNames_factTable .objectified f
  · exact p.nodup_columnNames_factTable .junction f

theorem checks_of_mem {t : Table} (member : t ∈ p.tableList) :
    t.checks = p.checks t.name t.columns := by
  rcases mem_tableList.mp member with ⟨e, _, rfl⟩ | ⟨f, _, rfl⟩ | ⟨f, _, rfl⟩ <;> rfl

end TablePlan

/-- The expression restricts a column to a list that reads back as the allowed texts. -/
def EnumerationConstraint.Restricts (c : EnumerationConstraint) (column expression : String) :
    Prop :=
  ∃ list texts, expression = s!"{column} IN ({list})" ∧
    Quoting.readLiterals list = some texts ∧ c.allowedValues = texts.map .str

/-- A list of texts in the dialect restricts a column to these texts. -/
theorem EnumerationConstraint.restricts_term (d : Dialect) (column : String)
    {c : EnumerationConstraint} {texts : List String} (filled : texts ≠ [])
    (allowed : c.allowedValues = texts.map .str) :
    c.Restricts column (d.enumerationTerm column c.allowedValues) := by
  refine ⟨_, texts, rfl, ?_, allowed⟩
  show Quoting.readLiterals (String.intercalate ", "
    (c.allowedValues.map (Ddl.literal d.numericBooleans))) = some texts
  rw [allowed, List.map_map]
  exact Quoting.readLiterals_literals d.numericBooleans filled

namespace Schema

variable {s : Schema}

/-- The lists of a column are those of the enumerations of its label. -/
theorem lists_of_column (keyed : s.Keyed) {label : String} {l : LabelType}
    (found : s.labelTypes.find? label = some l) (restricted : s.enumerationsOf label ≠ [])
    (filled : ∀ c ∈ s.enumerationsOf label, c.allowedValues ≠ []) {d : Dialect} {t : Table}
    (member : t ∈ (s.toSql d).tables) {column : Column} (held : column ∈ t.columns)
    (stems : column.sourceObjectId = some label) :
    (t.checks.map (·.expression)).filter (·.startsWith s!"{column.name} IN (") =
      (s.enumerationsOf label).map fun c => d.enumerationTerm column.name c.allowedValues := by
  have id : l.id = label := keyed.labelTypes.id_of_find? found
  have plain := TablePlan.columns_plain (Derivation.plan_key_plain keyed) member
  have labelled : s.columnLabel? column = some l := by
    rw [columnLabel?, stems]
    exact found
  have lists : s.valueLists l = (s.enumerationsOf label).map (·.allowedValues) := by
    rw [← id] at restricted filled ⊢
    exact valueLists_eq restricted filled
  rw [TablePlan.checks_of_mem member, TablePlan.filter_expressions
    (TablePlan.nodup_columnNames member) (fun c listed => (plain c listed).name) held labelled]
  show (s.valueLists l).map _ = _
  rw [lists, List.map_map]
  rfl

/-- Where the enumerations of a label list texts, each column that holds the label has one list for
each of them, which reads back as the texts, and a validation rejects the other texts only. -/
theorem enumerations_agree (keyed : s.Keyed) {label : String} {l : LabelType}
    (found : s.labelTypes.find? label = some l) (restricted : s.enumerationsOf label ≠ [])
    (texts : ∀ c ∈ s.enumerationsOf label, ∃ texts ≠ [], c.allowedValues = texts.map Value.str)
    (d : Dialect) :
    ∃ sql, s.relational d = .ok sql ∧
      (∀ t ∈ sql.tables, ∀ column ∈ t.columns, column.sourceObjectId = some label →
        List.Forall₂ (fun c expression => c.Restricts column.name expression)
          (s.enumerationsOf label)
          ((t.checks.map (·.expression)).filter (·.startsWith s!"{column.name} IN ("))) ∧
      ∀ (r : Registry) (p : Population), r.Leaves s p .enumeration →
        ∃ report, validate r s p = .ok report ∧
          ∀ c ∈ s.enumerationsOf label, ∀ text, .str text ∈ (p.instances? label).getD [] →
            ((∃ x ∈ report.violations, x.Rejects c (.str text)) ↔
              .str text ∉ c.allowedValues) := by
  refine ⟨s.toSql d, relational_eq_ok keyed d, ?_, ?_⟩
  · intro t member column held stems
    have filled : ∀ c ∈ s.enumerationsOf label, c.allowedValues ≠ [] := by
      intro c listed
      obtain ⟨list, filled, same⟩ := texts c listed
      simpa [same] using filled
    rw [lists_of_column keyed found restricted filled member held stems,
      List.forall₂_map_right_iff, List.forall₂_same]
    intro c listed
    obtain ⟨list, filled, same⟩ := texts c listed
    exact EnumerationConstraint.restricts_term d column.name filled same
  · intro r p leaves
    obtain ⟨report, validated, built⟩ := Validation.mem_report_of_leaves leaves
    refine ⟨report, validated, fun c listed text held => ?_⟩
    obtain ⟨stored, here⟩ := List.mem_filter.mp listed
    have target : c.labelTypeId = label := by simpa using here
    have known : s.hasObject c.labelTypeId = true := by
      simp [hasObject, target, OrderedMap.contains, found]
    obtain ⟨list, _, same⟩ := texts c listed
    have rejects := Validation.rejects_iff keyed stored known same (target ▸ held)
    have listing : .str text ∉ c.allowedValues ↔ text ∉ list := by simp [same]
    rw [listing, ← rejects]
    refine exists_congr fun x => ?_
    constructor
    · rintro ⟨member, rejected⟩
      exact ⟨(built x rejected.constraintType).mp member, rejected⟩
    · rintro ⟨member, rejected⟩
      exact ⟨(built x rejected.constraintType).mpr member, rejected⟩

/-- Cars in one or more colors, and a color that each car has first. -/
def paints : Schema :=
  { id := "paints", name := "Paints", version := "1"
    entities := .ofList [("car", ⟨"car", "Car", [], [], none, false⟩)]
    labelTypes := .ofList [("color", ⟨"color", "Color", .string, none, none, none, none⟩)]
    factTypes := .ofList [
      ("first", ⟨"first", "first", ["painted", "coat"], false, none⟩),
      ("has", ⟨"has", "has", ["car", "paint"], false, none⟩)]
    predicators := .ofList [
      ("painted", ⟨"painted", "painted", "first", 0, "car", true⟩),
      ("coat", ⟨"coat", "coat", "first", 1, "color", true⟩),
      ("car", ⟨"car", "car", "has", 0, "car", true⟩),
      ("paint", ⟨"paint", "paint", "has", 1, "color", true⟩)]
    uniqueConstraints := .ofList [("one", ⟨"one", "one", ["painted"], false, false⟩)]
    enumerationConstraints := .ofList [
      ("sold", ⟨"sold", "sold", "color", [.str "painter's red", .str "black, white"]⟩),
      ("made", ⟨"made", "made", "color", [.str "'", .str "painter's red"]⟩)] }

def swatches : Population :=
  ⟨none, .ofList [("color", [.str "painter's red", .str "'", .int 1])], ∅⟩

/-- Both tables have a column of the label, and a quote is a text like any other. -/
theorem enumerations_agree_paints : paints.Keyed ∧
    ∃ sql, paints.relational .sqlite = .ok sql ∧
      sql.tables.flatMap (fun t => t.checks.map (·.expression)) =
        ["coat IN ('painter''s red', 'black, white')", "coat IN ('''', 'painter''s red')",
          "paint IN ('painter''s red', 'black, white')", "paint IN ('''', 'painter''s red')"] ∧
      (∀ t ∈ sql.tables, ∀ column ∈ t.columns, column.sourceObjectId = some "color" →
        List.Forall₂ (fun c expression => c.Restricts column.name expression)
          (paints.enumerationsOf "color")
          ((t.checks.map (·.expression)).filter (·.startsWith s!"{column.name} IN ("))) ∧
      ∃ report, validate .standard paints swatches = .ok report ∧
        ∃ sold ∈ paints.enumerationsOf "color",
          (∃ x ∈ report.violations, x.Rejects sold (.str "'")) ∧
          ¬ ∃ x ∈ report.violations, x.Rejects sold (.str "painter's red") := by
  have keyed : paints.Keyed := by constructor <;> decide +kernel
  have texts : ∀ c ∈ paints.enumerationsOf "color",
      ∃ texts ≠ [], c.allowedValues = texts.map Value.str := by
    rintro c (_ | ⟨_, _ | ⟨_, ⟨⟩⟩⟩)
    · exact ⟨["painter's red", "black, white"], by decide, rfl⟩
    · exact ⟨["'", "painter's red"], by decide, rfl⟩
  have color : paints.labelTypes.find? "color" =
      some ⟨"color", "Color", .string, none, none, none, none⟩ := rfl
  obtain ⟨sql, derived, columns, validated⟩ :=
    enumerations_agree keyed color (List.cons_ne_nil _ _) texts .sqlite
  obtain ⟨report, judged, rejected⟩ := validated .standard swatches
    (Registry.standard_leaves paints swatches (by decide))
  refine ⟨keyed, sql, derived, ?_, columns, report, judged, _, List.mem_cons_self, ?_, ?_⟩
  · obtain rfl : paints.toSql .sqlite = sql :=
      Except.ok.inj ((relational_eq_ok keyed .sqlite).symm.trans derived)
    decide +kernel
  · refine (rejected _ List.mem_cons_self "'" (.tail _ (.head _))).mpr ?_
    simp
  · rw [rejected _ List.mem_cons_self "painter's red" (.head _)]
    simp

end Schema

end FactModel
