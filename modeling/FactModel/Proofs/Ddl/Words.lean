import FactModel.Proofs.Ddl.Statements

/-!
Reading names back from what is written: the words of a statement, line by line. A name that is an
identifier already is written as it is, and stands among the words.
-/

namespace FactModel

namespace Ddl

/-- A name that is written as it is. -/
structure Stable (name : String) : Prop extends IsName name where
  kept : identifier name = name

/-! Names as they are -/

theorem IdentifierChar.range {c : Char} (plain : IdentifierChar c) :
    48 ≤ c.toNat ∧ c.toNat ≤ 122 ∧ (c.toNat < 65 ∨ 90 < c.toNat) := by
  have code : ∀ a b : Char, a ≤ b ↔ a.toNat ≤ b.toNat := fun a b => by
    rw [Char.le_def, UInt32.le_iff_toNat_le]
    rfl
  rcases plain with letter | digit | rfl
  · rw [code, code] at letter
    have ends : 'a'.toNat = 97 ∧ 'z'.toNat = 122 := by decide
    omega
  · simp only [Text.isDigit, Bool.and_eq_true, decide_eq_true_eq, code] at digit
    have ends : '0'.toNat = 48 ∧ '9'.toNat = 57 := by decide
    omega
  · decide

theorem IdentifierChar.toLower_eq {c : Char} (plain : IdentifierChar c) : c.toLower = c := by
  have outside := plain.range.2.2
  have ends : 'A'.val.toNat = 65 ∧ 'Z'.val.toNat = 90 := by decide
  unfold Char.toLower
  split
  · rename_i upper
    simp only [ge_iff_le, UInt32.le_iff_toNat_le, ends] at upper
    unfold Char.toNat at outside
    omega
  · rfl

theorem IdentifierChar.not_isBlank {c : Char} (plain : IdentifierChar c) :
    Text.isBlank c = false := by
  have range := plain.range
  rw [Text.isBlank, ← Bool.not_eq_true, List.contains_iff_mem, Text.blanks]
  simp only [List.mem_cons, List.not_mem_nil, or_false]
  omega

theorem IdentifierChar.kept {c : Char} (plain : IdentifierChar c) : identifierChar c = [c] := by
  have among : (('a' ≤ c && c ≤ 'z') || Text.isDigit c || c = '_') = true := by
    simpa [IdentifierChar, or_assoc] using plain
  simp only [identifierChar, plain.toLower_eq, among, if_true]

theorem IsName.stable {name : String} (named : IsName name) : Stable name := by
  refine ⟨named, ?_⟩
  have trimmed : Text.trim Text.isBlank name.toList = name.toList := by
    refine Text.trim_eq_self (fun c first => ?_) fun c last => ?_
    · exact (named.plain c (List.mem_of_mem_head? first)).not_isBlank
    · exact (named.plain c (List.mem_of_getLast? last)).not_isBlank
  have each : name.toList.flatMap identifierChar = name.toList.flatMap fun c => [c] :=
    List.flatMap_congr fun c member => (named.plain c member).kept
  have written := each.trans (List.flatMap_singleton' name.toList)
  unfold identifier
  rw [trimmed, written]
  split
  · rename_i none
    exact absurd (String.toList_eq_nil_iff.mp none) named.filled
  · exact String.ofList_toList

/-! The words of a text -/

def isBreak (c : Char) : Bool :=
  c = ' ' || c = '\n' || c = ',' || c = '(' || c = ')' || c = ';'

/-- The longest stretches of a text without breaks. -/
def words (cs : List Char) : List String :=
  ((cs.splitOnP isBreak).filter fun word => !word.isEmpty).map String.ofList

theorem words_append_break (front rest : List Char) {c : Char} (ends : isBreak c = true) :
    words (front ++ c :: rest) = words front ++ words rest := by
  rw [words, List.splitOnP_append_cons _ _ ends, List.filter_append, List.map_append]
  rfl

theorem words_break (rest : List Char) {c : Char} (ends : isBreak c = true) :
    words (c :: rest) = words rest := words_append_break [] rest ends

theorem words_of_unbroken {word : String} (filled : word ≠ "")
    (unbroken : ∀ c ∈ word.toList, isBreak c = false) : words word.toList = [word] := by
  rw [words, List.splitOnP_eq_singleton unbroken]
  simp [filled]

theorem IsName.words_eq {name : String} (named : IsName name) : words name.toList = [name] := by
  refine words_of_unbroken named.filled fun c member => ?_
  have kind := named.plain c member
  rw [← Bool.not_eq_true]
  intro ends
  simp only [isBreak, Bool.or_eq_true, decide_eq_true_eq] at ends
  rcases ends with ((((rfl | rfl) | rfl) | rfl) | rfl) | rfl <;> exact absurd kind (by decide)

theorem IsName.words_between {name : String} (named : IsName name) (front rest : List Char)
    {c d : Char} (ends : isBreak c = true) (follows : isBreak d = true) :
    words (front ++ c :: (name.toList ++ d :: rest)) = words front ++ name :: words rest := by
  rw [words_append_break _ _ ends, words_append_break _ _ follows, named.words_eq,
    List.singleton_append]

/-! Names in lines and statements -/

theorem names_eq {items : List String} (stable : ∀ item ∈ items, Stable item) :
    names items = String.intercalate ", " items := by
  unfold names
  rw [List.map_congr_left fun item member => (stable item member).kept, List.map_id']

/-- Names in a list are read one by one. -/
theorem words_names {items : List String} (stable : ∀ item ∈ items, Stable item)
    (rest : List Char) {c : Char} (ends : isBreak c = true) :
    words ((names items).toList ++ c :: rest) = items ++ words rest := by
  rw [names_eq stable]
  induction items with
  | nil => exact words_break rest ends
  | cons item later ih =>
    obtain ⟨here, others⟩ := List.forall_mem_cons.mp stable
    cases later with
    | nil =>
      rw [String.intercalate_singleton, words_append_break _ _ ends, here.words_eq]
    | cons next later =>
      have comma (text : String) : (item ++ ", " ++ text).toList ++ c :: rest =
          item.toList ++ ',' :: ' ' :: (text.toList ++ c :: rest) := by simp
      rw [String.intercalate_cons_cons, comma, words_append_break _ _ (by decide),
        words_break _ (by decide), here.words_eq, ih others]
      rfl

/-- A line that gives names in brackets reads as what it begins with and then the names. -/
theorem words_keyLine {items : List String} (stable : ∀ item ∈ items, Stable item)
    {line : String} (front : List Char)
    (written : line.toList = front ++ ' ' :: '(' :: ((names items).toList ++ [')'])) :
    words line.toList = words front ++ items := by
  have back : words [] = [] := by decide +kernel
  rw [written, words_append_break _ _ (by decide), words_break _ (by decide),
    words_names stable _ (by decide), back, List.append_nil]

end Ddl

/-- The names of a foreign key are written as they are. -/
structure ForeignKey.Named (k : ForeignKey) : Prop where
  name : Ddl.Stable k.name
  columns : ∀ name ∈ k.columns, Ddl.Stable name
  refTable : Ddl.Stable k.refTable
  refColumns : ∀ name ∈ k.refColumns, Ddl.Stable name

/-- The words of the keys of a table, its primary key before its unique columns. -/
def Table.keyClauses (t : Table) : List (List String) :=
  (if t.primaryKey.isEmpty then [] else [["PRIMARY", "KEY"] ++ t.primaryKey]) ++
    t.uniqueConstraints.map fun columns => ["UNIQUE"] ++ columns

/-- The words of a foreign key up to its actions. -/
def ForeignKey.clause (k : ForeignKey) : List String :=
  ["CONSTRAINT", k.name, "FOREIGN", "KEY"] ++ k.columns ++ ["REFERENCES", k.refTable] ++
    k.refColumns

namespace Ddl

theorem words_foreignKeyLine {k : ForeignKey} (named : k.Named) :
    k.clause <+: words (foreignKeyLine k).toList := by
  let actions := actionClause "DELETE" k.onDelete ++ actionClause "UPDATE" k.onUpdate
  have written : (foreignKeyLine k).toList =
      "  CONSTRAINT".toList ++ ' ' :: (k.name.toList ++ ' ' :: ("FOREIGN KEY".toList ++
        ' ' :: '(' :: ((names k.columns).toList ++ ')' :: ' ' :: ("REFERENCES".toList ++
          ' ' :: (k.refTable.toList ++ '(' :: ((names k.refColumns).toList ++
            ')' :: actions.toList)))))) := by
    unfold foreignKeyLine
    rw [named.name.kept, named.refTable.kept]
    simp [toString, actions]
  have front : words "  CONSTRAINT".toList = ["CONSTRAINT"] := by decide +kernel
  have kind : words "FOREIGN KEY".toList = ["FOREIGN", "KEY"] := by decide +kernel
  have target : words "REFERENCES".toList = ["REFERENCES"] := by decide +kernel
  rw [written, named.name.toIsName.words_between _ _ (by decide) (by decide), front,
    words_append_break _ _ (by decide), kind, words_break _ (by decide),
    words_names named.columns _ (by decide), words_break _ (by decide),
    named.refTable.toIsName.words_between _ _ (by decide) (by decide), target,
    words_names named.refColumns _ (by decide)]
  exact ⟨words actions.toList, by simp [ForeignKey.clause]⟩

theorem checkLine_eq {k : Check} (stable : Stable k.name) :
    checkLine k = s!"  CONSTRAINT {k.name} CHECK ({k.expression})" := by
  unfold checkLine
  rw [stable.kept]

theorem words_createIndex {i : Index} (name : Stable i.name) (table : Stable i.table)
    (columns : ∀ column ∈ i.columns, Stable column) (plain : i.unique = false) :
    words (createIndex i).toList = ["CREATE", "INDEX", i.name, "ON", i.table] ++ i.columns := by
  have written : (createIndex i).toList = "CREATE INDEX".toList ++ ' ' :: (i.name.toList ++
      ' ' :: ("ON".toList ++ ' ' :: (i.table.toList ++ ' ' :: '(' ::
        ((names i.columns).toList ++ ')' :: [';'])))) := by
    simp [createIndex, name.kept, table.kept, plain, toString]
  have front : words "CREATE INDEX".toList = ["CREATE", "INDEX"] := by decide +kernel
  have on : words "ON".toList = ["ON"] := by decide +kernel
  have back : words [';'] = [] := by decide +kernel
  rw [written, name.toIsName.words_between _ _ (by decide) (by decide), front,
    table.toIsName.words_between _ _ (by decide) (by decide), on, words_break _ (by decide),
    words_names columns _ (by decide), back, List.append_nil]
  rfl

theorem toList_createTable {t : Table} (stable : Stable t.name) : (createTable t).toList =
    "CREATE TABLE".toList ++ ' ' :: (t.name.toList ++ ' ' :: '(' :: '\n' ::
      ((String.intercalate ",\n" (tableLines t)).toList ++ "\n);".toList)) := by
  simp [createTable, stable.kept, toString]

theorem name_createTable {t : Table} (stable : Stable t.name) :
    (words (createTable t).toList)[2]? = some t.name := by
  have front : words "CREATE TABLE".toList = ["CREATE", "TABLE"] := by decide +kernel
  rw [toList_createTable stable, stable.toIsName.words_between _ _ (by decide) (by decide), front]
  rfl

/-! Columns, each in a line of the statement of its table -/

def lines (cs : List Char) : List (List Char) := cs.splitOnP (· = '\n')

theorem lines_append (rest : List Char) {line : List Char} (single : '\n' ∉ line) :
    lines (line ++ '\n' :: rest) = line :: lines rest := by
  refine List.splitOnP_append_cons_of_forall_mem (fun c member => ?_) _ (by decide) rest
  exact decide_eq_false fun ends => single (ends ▸ member)

theorem newline_notMem_columnLine {d : Dialect} {c : Column} (plain : c.Plain d) :
    '\n' ∉ (columnLine c).toList :=
  fun member => absurd (isColumnText_columnLine plain _ member) (by decide)

theorem name_columnLine {c : Column} (stable : Stable c.name) (mark : List Char) :
    (words ((columnLine c).toList ++ mark)).head? = some c.name := by
  have written : ∃ rest, (columnLine c).toList = ' ' :: ' ' :: (c.name.toList ++ ' ' :: rest) := by
    unfold columnLine
    rw [stable.kept]
    simp only [toString, String.toList_append, List.append_assoc]
    exact ⟨_, rfl⟩
  obtain ⟨rest, written⟩ := written
  rw [written, List.cons_append, List.cons_append, List.append_assoc, List.cons_append,
    words_break _ (by decide), words_break _ (by decide), words_append_break _ _ (by decide),
    stable.toIsName.words_eq]
  rfl

/-- The word that each line begins with. -/
def firstWords (cs : List Char) : List (Option String) :=
  (lines cs).map fun line => (words line).head?

theorem firstWords_append (rest : List Char) {line : List Char} (single : '\n' ∉ line) :
    firstWords (line ++ '\n' :: rest) = (words line).head? :: firstWords rest := by
  rw [firstWords, lines_append rest single, List.map_cons]
  rfl

theorem firstWords_columnLines {d : Dialect} {columns : List Column}
    (plain : ∀ c ∈ columns, c.Plain d) (others : List String) :
    (firstWords ((String.intercalate ",\n" (columns.map columnLine ++ others)).toList ++
      "\n);".toList)).take columns.length = columns.map fun c => some c.name := by
  induction columns with
  | nil => rfl
  | cons c rest ih =>
    obtain ⟨here, later⟩ := List.forall_mem_cons.mp plain
    have single := newline_notMem_columnLine here
    have first := name_columnLine here.isName.stable
    have back : "\n);".toList = '\n' :: ");".toList := by decide
    rw [List.map_cons, List.cons_append, List.length_cons, List.map_cons]
    cases following : rest.map columnLine ++ others with
    | nil =>
      have last : rest = [] := List.map_eq_nil_iff.mp (List.append_eq_nil_iff.mp following).1
      rw [String.intercalate_singleton, back, firstWords_append _ single, List.take_succ_cons, last,
        ← first [], List.append_nil]
      rfl
    | cons next more =>
      have comma : '\n' ∉ (columnLine c).toList ++ [','] := by simpa using single
      have written (text : String) : (columnLine c ++ ",\n" ++ text).toList ++ "\n);".toList =
          ((columnLine c).toList ++ [',']) ++ '\n' :: (text.toList ++ "\n);".toList) := by simp
      rw [String.intercalate_cons_cons, ← following, written, firstWords_append _ comma,
        List.take_succ_cons, ih later, first]

/-- After the line of its name, the lines of a table begin with the names of its columns. -/
theorem firstWords_createTable {d : Dialect} {t : Table} (stable : Stable t.name)
    (plain : ∀ c ∈ t.columns, c.Plain d) :
    (firstWords (createTable t).toList).tail.take t.columns.length = t.columnNames.map some := by
  have header : '\n' ∉ "CREATE TABLE ".toList ++ (t.name.toList ++ [' ', '(']) := by
    have name : '\n' ∉ t.name.toList := fun member => absurd (stable.plain _ member) (by decide)
    simpa using name
  have written : (createTable t).toList = "CREATE TABLE ".toList ++ (t.name.toList ++ [' ', '(']) ++
      '\n' :: ((String.intercalate ",\n" (tableLines t)).toList ++ "\n);".toList) := by
    rw [toList_createTable stable]
    simp
  rw [written, firstWords_append _ header, List.tail_cons, Table.columnNames, List.map_map]
  simp only [tableLines, List.append_assoc]
  exact firstWords_columnLines plain _

end Ddl

end FactModel
