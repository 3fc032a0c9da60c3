import FactModel.Ddl

/-!
Reading statements by the quoting rules of SQL: a literal stands between single quotes, and a
doubled quote inside it is one quote of its text. A text is balanced when it leaves no literal open,
wherever it is put between others.
-/

namespace FactModel

namespace Quoting

/-- Where a reader is in a text: after the second quote of a literal it may still go on. -/
inductive Zone where
  | outside
  | inside
  | ended
deriving DecidableEq

def Zone.next (z : Zone) (c : Char) : Zone :=
  match z with
  | inside => if c = '\'' then ended else inside
  | _ => if c = '\'' then inside else outside

def scan (z : Zone) (cs : List Char) : Zone := cs.foldl Zone.next z

/-- How often a mark stands outside of literals. -/
def countOutside (mark : Char) : Zone → List Char → Nat
  | _, [] => 0
  | z, c :: rest =>
    if z ≠ .inside ∧ c = mark then countOutside mark (z.next c) rest + 1
    else countOutside mark (z.next c) rest

/-- The parts between the marks that stand outside of literals. -/
def splitOutside (mark : Char) : Zone → List Char → List (List Char)
  | _, [] => [[]]
  | z, c :: rest =>
    if z ≠ .inside ∧ c = mark then [] :: splitOutside mark (z.next c) rest
    else (splitOutside mark (z.next c) rest).modifyHead (c :: ·)

/-- The text of a literal after its first quote, if it ends where the literal does. -/
def readQuoted : List Char → Option (List Char)
  | [] => none
  | '\'' :: rest => match rest with
    | [] => some []
    | '\'' :: later => ('\'' :: ·) <$> readQuoted later
    | _ => none
  | c :: rest => (c :: ·) <$> readQuoted rest

def readLiteral (cs : List Char) : Option String :=
  match cs.dropWhile (· = ' ') with
  | '\'' :: rest => String.ofList <$> readQuoted rest
  | _ => none

/-- The texts of a list of literals with commas between them. -/
def readLiterals (list : String) : Option (List String) :=
  (splitOutside ',' .outside list.toList).mapM readLiteral

/-- Read from outside of a literal, the text ends outside of one, and the mark stands so often
outside of the literals in it. -/
def Balanced (mark : Char) (count : Nat) (text : String) : Prop :=
  ∀ z ≠ Zone.inside, scan z text.toList ≠ .inside ∧ countOutside mark z text.toList = count

/-- Neither a quote nor the mark stands in the text. -/
def Plain (mark : Char) (text : String) : Prop := ∀ c ∈ text.toList, c ≠ '\'' ∧ c ≠ mark

instance (mark : Char) (text : String) : Decidable (Plain mark text) :=
  List.decidableBAll (fun c => c ≠ '\'' ∧ c ≠ mark) text.toList

variable {mark : Char} {z : Zone}

@[simp] theorem scan_nil (z : Zone) : scan z [] = z := rfl

@[simp] theorem scan_cons (z : Zone) (c : Char) (cs : List Char) :
    scan z (c :: cs) = scan (z.next c) cs := rfl

theorem scan_append (z : Zone) (front rest : List Char) :
    scan z (front ++ rest) = scan (scan z front) rest := List.foldl_append

theorem countOutside_append (mark : Char) (z : Zone) (front rest : List Char) :
    countOutside mark z (front ++ rest) =
      countOutside mark z front + countOutside mark (scan z front) rest := by
  induction front generalizing z with
  | nil => simp [countOutside]
  | cons c front ih =>
    simp only [List.cons_append, countOutside, scan_cons, ih]
    split <;> omega

theorem next_quote (closed : z ≠ .inside) : z.next '\'' = .inside := by
  cases z <;> simp_all [Zone.next]

theorem next_of_ne_quote {c : Char} (closed : z ≠ .inside) (plain : c ≠ '\'') :
    z.next c = .outside := by
  cases z <;> simp_all [Zone.next]

theorem inside_next_of_ne_quote {c : Char} (plain : c ≠ '\'') : Zone.inside.next c = .inside :=
  if_neg plain

/-! Texts without quotes -/

theorem scan_plain {cs : List Char} (closed : z ≠ .inside)
    (plain : ∀ c ∈ cs, c ≠ '\'' ∧ c ≠ mark) :
    scan z cs ≠ .inside ∧ countOutside mark z cs = 0 := by
  induction cs generalizing z with
  | nil => exact ⟨closed, rfl⟩
  | cons c rest ih =>
    obtain ⟨⟨quote, other⟩, later⟩ := List.forall_mem_cons.mp plain
    have next := next_of_ne_quote closed quote
    have here : ¬ (z ≠ .inside ∧ c = mark) := fun held => other held.2
    rw [scan_cons, countOutside, if_neg here]
    exact ih (next ▸ nofun) later

/-- A text of characters that are of one kind is plain if neither the quote nor the mark is. -/
theorem plain_of_forall {kind : Char → Prop} {text : String} (each : ∀ c ∈ text.toList, kind c)
    (quote : ¬ kind '\'') (other : ¬ kind mark) : Plain mark text := by
  intro c member
  have here := each c member
  exact ⟨fun same => quote (same ▸ here), fun same => other (same ▸ here)⟩

theorem Plain.balanced {text : String} (plain : Plain mark text) : Balanced mark 0 text :=
  fun _ closed => scan_plain closed plain

@[simp] theorem plain_append_iff {front rest : String} :
    Plain mark (front ++ rest) ↔ Plain mark front ∧ Plain mark rest := by
  simp only [Plain, String.toList_append, List.forall_mem_append]

theorem plain_intercalate {separator : String} (plain : Plain mark separator)
    {items : List String} (each : ∀ item ∈ items, Plain mark item) :
    Plain mark (separator.intercalate items) := by
  induction items with
  | nil => exact fun _ member => nomatch member
  | cons item later ih =>
    obtain ⟨here, others⟩ := List.forall_mem_cons.mp each
    cases later with
    | nil => simpa using here
    | cons next later =>
      rw [String.intercalate_cons_cons, plain_append_iff, plain_append_iff]
      exact ⟨⟨here, plain⟩, ih others⟩

theorem balanced_mark (apart : mark ≠ '\'') : Balanced mark 1 (String.ofList [mark]) := by
  intro z closed
  rw [String.toList_ofList, scan_cons, scan_nil, next_of_ne_quote closed apart, countOutside,
    if_pos ⟨closed, rfl⟩]
  exact ⟨nofun, rfl⟩

/-! Texts one after the other -/

namespace Balanced

variable {m n : Nat} {front rest : String}

theorem append (here : Balanced mark m front) (later : Balanced mark n rest) :
    Balanced mark (m + n) (front ++ rest) := by
  intro z closed
  obtain ⟨between, first⟩ := here z closed
  obtain ⟨after, second⟩ := later _ between
  rw [String.toList_append, scan_append, countOutside_append, first, second]
  exact ⟨after, rfl⟩

theorem intercalate {separator : String} (plain : Plain mark separator) {items : List String}
    (each : ∀ item ∈ items, Balanced mark n item) :
    Balanced mark (items.length * n) (separator.intercalate items) := by
  induction items with
  | nil =>
    rw [List.length_nil, Nat.zero_mul, String.intercalate_nil]
    exact fun _ closed => ⟨closed, rfl⟩
  | cons item later ih =>
    obtain ⟨here, others⟩ := List.forall_mem_cons.mp each
    cases later with
    | nil => simpa using here
    | cons next later =>
      rw [String.intercalate_cons_cons, List.length_cons, Nat.succ_mul, Nat.add_comm]
      exact (here.append plain.balanced).append (ih others)

theorem join {separator : String} (plain : Plain mark separator) {items : List String}
    (each : ∀ item ∈ items, Balanced mark 0 item) :
    Balanced mark 0 (separator.intercalate items) := intercalate plain each

end Balanced

/-! Literals of texts -/

theorem escapeQuotes_cons (c : Char) (cs : List Char) : Ddl.escapeQuotes (c :: cs) =
    (if c = '\'' then ['\'', '\''] else [c]) ++ Ddl.escapeQuotes cs := List.flatMap_cons

theorem scan_escapeQuotes (apart : mark ≠ '\'') (cs : List Char) :
    scan .inside (Ddl.escapeQuotes cs) = .inside ∧
      countOutside mark .inside (Ddl.escapeQuotes cs) = 0 := by
  induction cs with
  | nil => exact ⟨rfl, rfl⟩
  | cons c rest ih =>
    rw [escapeQuotes_cons, scan_append, countOutside_append]
    by_cases quote : c = '\''
    · subst quote
      have other : ('\'' : Char) ≠ mark := Ne.symm apart
      simpa [Zone.next, countOutside, other] using ih
    · simpa [quote, inside_next_of_ne_quote quote, countOutside] using ih

theorem toList_literal (numericBooleans : Bool) (text : String) :
    (Ddl.literal numericBooleans (.str text)).toList =
      '\'' :: Ddl.escapeQuotes text.toList ++ ['\''] := String.toList_ofList

/-- What stays inside of a literal is balanced between quotes. -/
theorem balanced_between_quotes (apart : mark ≠ '\'') {inner : List Char}
    (within : scan .inside inner = .inside ∧ countOutside mark .inside inner = 0) :
    Balanced mark 0 (String.ofList ('\'' :: inner ++ ['\''])) := by
  intro z closed
  have other : ('\'' : Char) ≠ mark := Ne.symm apart
  rw [String.toList_ofList, List.cons_append, scan_cons, countOutside, next_quote closed,
    scan_append, countOutside_append, within.1, within.2]
  simp [Zone.next, countOutside, other]

theorem balanced_literal (apart : mark ≠ '\'') (numericBooleans : Bool) (text : String) :
    Balanced mark 0 (Ddl.literal numericBooleans (.str text)) :=
  balanced_between_quotes apart (scan_escapeQuotes apart text.toList)

theorem readQuoted_escapeQuotes (cs : List Char) :
    readQuoted (Ddl.escapeQuotes cs ++ ['\'']) = some cs := by
  induction cs with
  | nil => rfl
  | cons c rest ih =>
    rw [escapeQuotes_cons, List.append_assoc]
    by_cases quote : c = '\''
    · subst quote
      simp [readQuoted, ih]
    · simp [quote, readQuoted, ih]

theorem readLiteral_literal (numericBooleans : Bool) (text : String) :
    readLiteral (Ddl.literal numericBooleans (.str text)).toList = some text := by
  rw [toList_literal, readLiteral, List.cons_append, List.dropWhile_cons_of_neg (by decide)]
  simp only [readQuoted_escapeQuotes]
  simp

theorem readLiteral_blank (cs : List Char) : readLiteral (' ' :: cs) = readLiteral cs := by
  rw [readLiteral, List.dropWhile_cons_of_pos (by decide), readLiteral]

theorem splitOutside_append {piece : List Char} (unmarked : countOutside mark z piece = 0)
    (rest : List Char) : splitOutside mark z (piece ++ rest) =
      (splitOutside mark (scan z piece) rest).modifyHead (piece ++ ·) := by
  induction piece generalizing z with
  | nil => exact (congrFun List.modifyHead_id (splitOutside mark z rest)).symm
  | cons c piece ih =>
    by_cases here : z ≠ .inside ∧ c = mark
    · rw [countOutside, if_pos here] at unmarked
      cases unmarked
    · rw [countOutside, if_neg here] at unmarked
      rw [List.cons_append, splitOutside, if_neg here, ih unmarked, List.modifyHead_modifyHead]
      rfl

theorem splitOutside_literals (numericBooleans : Bool) (text : String) (texts : List String)
    (closed : z ≠ .inside) :
    splitOutside ',' z (String.intercalate ", "
        ((text :: texts).map fun t => Ddl.literal numericBooleans (.str t))).toList =
      (Ddl.literal numericBooleans (.str text)).toList ::
        texts.map fun t => ' ' :: (Ddl.literal numericBooleans (.str t)).toList := by
  have comma : (',' : Char) ≠ '\'' := by decide
  obtain ⟨ended, unmarked⟩ := balanced_literal comma numericBooleans text z closed
  induction texts generalizing text z with
  | nil =>
    have whole := splitOutside_append unmarked []
    rw [List.append_nil] at whole
    rw [List.map_singleton, String.intercalate_singleton, whole]
    simp [splitOutside]
  | cons next texts ih =>
    have blank : Zone.outside ≠ .inside := nofun
    obtain ⟨later, none⟩ := balanced_literal comma numericBooleans next .outside blank
    have separator : (", " : String).toList = [',', ' '] := rfl
    rw [List.map_cons, List.map_cons, String.intercalate_cons_cons, String.toList_append,
      String.toList_append, List.append_assoc, splitOutside_append unmarked, separator,
      List.cons_append, List.cons_append, List.nil_append, splitOutside, if_pos ⟨ended, rfl⟩,
      next_of_ne_quote ended comma, splitOutside, if_neg (by decide),
      next_of_ne_quote blank (by decide)]
    have parts := ih next blank later none
    rw [List.map_cons] at parts
    rw [parts, List.modifyHead_cons, List.modifyHead_cons, List.append_nil, List.map_cons]

/-- A list of literals reads back as the texts that it was made of. -/
theorem readLiterals_literals (numericBooleans : Bool) {texts : List String}
    (filled : texts ≠ []) :
    readLiterals (String.intercalate ", "
      (texts.map fun t => Ddl.literal numericBooleans (.str t))) = some texts := by
  obtain ⟨text, texts, rfl⟩ := List.exists_cons_of_ne_nil filled
  have later : (texts.map fun t => ' ' :: (Ddl.literal numericBooleans (.str t)).toList).mapM
      readLiteral = some texts := by
    clear filled
    induction texts with
    | nil => rfl
    | cons next texts ih =>
      rw [List.map_cons, List.mapM_cons, readLiteral_blank, readLiteral_literal, ih]
      rfl
  rw [readLiterals, splitOutside_literals _ _ _ (by decide), List.mapM_cons, readLiteral_literal,
    later]
  rfl

end Quoting

end FactModel
