import FactModel.Proofs.Value.Numbers
import FactModel.Proofs.Value.Strings
import FactModel.Proofs.Value.Structure

/-!
Written values read back. Parts that read are put together in brackets, with any blanks between
them, to a text that reads; the reader refuses exactly the values that go deeper or hold longer
integers than it takes.
-/

namespace FactModel

namespace Value

open Text

variable {digits depth fuel : Nat} {rest : List Char}

/-! Blanks -/

def Blank (cs : List Char) : Prop := ∀ c ∈ cs, isSpace c = true

instance (cs : List Char) : Decidable (Blank cs) :=
  List.decidableBAll (fun c => isSpace c = true) cs

theorem skipSpace_append {blank : List Char} (spaces : Blank blank) (cs : List Char) :
    skipSpace (blank ++ cs) = skipSpace cs := List.dropWhile_append_of_pos spaces

theorem skipSpace_cons {c : Char} (other : isSpace c = false) (cs : List Char) :
    skipSpace (c :: cs) = c :: cs := List.dropWhile_cons_of_neg (by simp [other])

theorem read_skipSpace {blank : List Char} (spaces : Blank blank) (cs : List Char) :
    read digits fuel depth (blank ++ cs) = read digits fuel depth cs := by
  cases fuel with
  | zero => rfl
  | succ fuel => rw [read, read, skipSpace_append spaces]

theorem ends_of_blank {blank : List Char} {c : Char} (spaces : Blank blank)
    (other : isDigit c = false ∧ c ∉ ['.', 'e', 'E']) : Ends (blank ++ c :: rest) := by
  cases blank with
  | nil => exact .cons other rest
  | cons d blank =>
    have space := spaces d List.mem_cons_self
    simp only [isSpace, Bool.or_eq_true, beq_iff_eq] at space
    refine .cons ?_ _
    rcases space with ((rfl | rfl) | rfl) | rfl <;> decide

/-! Single values -/

/-- How the text of a value may begin. -/
def Starts (cs : List Char) : Prop := ∃ c tail, cs = c :: tail ∧ isSpace c = false ∧ c ≠ ']'

/-- A text that is read as a value in front of whatever ends it, or that is refused. -/
structure Reads (digits depth : Nat) (cs : List Char) (result : Option Value) : Prop where
  starts : Starts cs
  run {fuel : Nat} {rest : List Char} (enough : 2 * cs.length ≤ fuel) (ends : Ends rest) :
    read digits fuel depth (cs ++ rest) = result.map fun v => (v, rest)

/-- What is read with any steps left is read in as many as the text has characters. -/
theorem Reads.of_succ {c : Char} {tail : List Char} {result : Option Value}
    (starts : isSpace c = false ∧ c ≠ ']')
    (run : ∀ fuel rest, 2 * tail.length ≤ fuel → Ends rest →
      read digits (fuel + 1) depth (c :: tail ++ rest) = result.map fun v => (v, rest)) :
    Reads digits depth (c :: tail) result := by
  refine ⟨⟨c, tail, rfl, starts⟩, fun {fuel rest} enough ends => ?_⟩
  rw [List.length_cons] at enough
  obtain ⟨fuel, rfl⟩ := Nat.exists_eq_succ_of_ne_zero (show fuel ≠ 0 by omega)
  exact run fuel rest (by omega) ends

theorem readWord_append (word : String) (v : Value) (rest : List Char) :
    readWord word v (word.toList ++ rest) = some (v, rest) := by
  simp [readWord, dropText?]

theorem reads_word {word : String} {c : Char} {tail : List Char} {v : Value}
    (text : word.toList = c :: tail) (starts : isSpace c = false ∧ c ≠ ']')
    (step : ∀ fuel cs, read digits (fuel + 1) depth (c :: cs) = readWord word v (c :: cs)) :
    Reads digits depth word.toList (some v) := by
  rw [text]
  refine .of_succ starts fun fuel rest _ _ => ?_
  have whole := readWord_append word v rest
  rw [text] at whole
  exact (step fuel (tail ++ rest)).trans whole

theorem reads_null : Reads digits depth "null".toList (some null) :=
  reads_word (show _ = ['n', 'u', 'l', 'l'] from rfl) (by decide) fun fuel cs => by
    rw [read, skipSpace_cons rfl]
    rfl

theorem reads_bool (b : Bool) : Reads digits depth (bool b).dump (some (bool b)) := by
  cases b with
  | true =>
    rw [dump]
    exact reads_word (show _ = ['t', 'r', 'u', 'e'] from rfl) (by decide) fun fuel cs => by
      rw [read, skipSpace_cons rfl]
      rfl
  | false =>
    rw [dump]
    exact reads_word (show _ = ['f', 'a', 'l', 's', 'e'] from rfl) (by decide) fun fuel cs => by
      rw [read, skipSpace_cons rfl]
      rfl

theorem digit_apart {c : Char} (digit : isDigit c = true) :
    isSpace c = false ∧ ∀ d ∈ [']', '"', '[', '\x7b', '-', 'n', 't', 'f', 'N', 'I'], c ≠ d := by
  have others : ∀ d : Char, isDigit d = false → c ≠ d := by
    rintro d other rfl
    rw [other] at digit
    cases digit
  have marks : [']', '"', '[', '\x7b', '-', 'n', 't', 'f', 'N', 'I'].all (!isDigit ·) = true := by
    decide
  refine ⟨?_, fun d member => others d ?_⟩
  · simp [isSpace, others ' ' rfl, others '\n' rfl, others '\r' rfl, others '\t' rfl]
  · exact (Bool.not_eq_true' _).mp (List.all_eq_true.mp marks d member)

theorem read_digit {c : Char} (digit : isDigit c = true) (tail : List Char) :
    read digits (fuel + 1) depth (c :: tail) = readNumber digits false (c :: tail) := by
  obtain ⟨space, apart⟩ := digit_apart digit
  simp only [List.mem_cons, List.not_mem_nil, or_false, forall_eq_or_imp, forall_eq] at apart
  rw [read, skipSpace_cons space]
  split <;> simp_all

theorem read_minus {c : Char} (digit : isDigit c = true) (tail : List Char) :
    read digits (fuel + 1) depth ('-' :: c :: tail) = readNumber digits true (c :: tail) := by
  obtain ⟨space, apart⟩ := digit_apart digit
  simp only [List.mem_cons, List.not_mem_nil, or_false, forall_eq_or_imp, forall_eq] at apart
  rw [read, skipSpace_cons rfl]
  split <;> simp_all

/-- A number with its sign is read as one without, negated. -/
theorem reads_signed {negative : Bool} {c : Char} {tail : List Char} {result : Option Value}
    (digit : isDigit c = true)
    (run : ∀ rest, Ends rest →
      readNumber digits negative (c :: tail ++ rest) = result.map fun v => (v, rest)) :
    Reads digits depth (if negative then '-' :: c :: tail else c :: tail) result := by
  obtain ⟨space, apart⟩ := digit_apart digit
  cases negative with
  | true =>
    exact .of_succ (by decide) fun fuel rest _ ends => (read_minus digit _).trans (run rest ends)
  | false =>
    exact .of_succ ⟨space, apart ']' (by simp)⟩ fun fuel rest _ ends =>
      (read_digit digit _).trans (run rest ends)

theorem intText_eq (n : Int) : intText n =
    if decide (n < 0) then '-' :: Nat.toDigits 10 n.natAbs else Nat.toDigits 10 n.natAbs := by
  simp [intText]

theorem reads_int (n : Int) :
    Reads digits depth (intText n) (if (int n).longest ≤ digits then some (int n) else none) := by
  have read : ∀ rest, Ends rest → readNumber digits (n < 0) (Nat.toDigits 10 n.natAbs ++ rest) =
      (if (int n).longest ≤ digits then some (int n) else none).map fun v => (v, rest) := by
    intro rest ends
    have value : (if decide (n < 0) = true then -(n.natAbs : Int) else n.natAbs) = n := by
      simp only [decide_eq_true_eq]
      split <;> omega
    rw [readNumber_toDigits _ ends, value, longest]
    split_ifs <;> first | rfl | omega
  rw [intText_eq]
  cases written : Nat.toDigits 10 n.natAbs with
  | nil => exact absurd written Nat.toDigits_ne_nil
  | cons c tail =>
    rw [written] at read
    refine reads_signed (digits_toDigits n.natAbs c ?_) read
    rw [written]
    exact List.mem_cons_self

theorem head_of_readNumber {negative : Bool} {cs : List Char} {result : Value × List Char}
    (read : readNumber digits negative cs = some result) :
    ∃ c tail, cs = c :: tail ∧ isDigit c = true := by
  cases cs with
  | nil => cases read
  | cons c tail =>
    refine ⟨c, tail, rfl, ?_⟩
    by_contra other
    rw [readNumber, readWhole, spanDigits, List.takeWhile_cons_of_neg other] at read
    cases read

/-- Finite floats read back from any layout. -/
theorem reads_text {layout : DecimalLayout} {x : Binary64} (finite : x.isFinite = true)
    (room : 0 < digits) (few : layout.greatestPositional < digits) :
    Reads digits depth (layout.text x) (some (float x)) := by
  have read : ∀ rest, Ends rest →
      readNumber digits x.isNegative (layout.magnitude x ++ rest) = some (float x, rest) :=
    fun rest ends => readNumber_magnitude finite room few ends
  have number : x.isNaN = false := by
    simp only [Binary64.isFinite, bne_iff_ne] at finite
    simp [Binary64.isNaN, finite]
  have text : layout.text x =
      if x.isNegative then '-' :: layout.magnitude x else layout.magnitude x := by
    simp [DecimalLayout.text, number, finite]
  obtain ⟨c, tail, written, digit⟩ := head_of_readNumber (read [] .nil)
  rw [List.append_nil] at written
  rw [text, written]
  rw [written] at read
  exact reads_signed digit read

/-- A float as a line of one value holds it: all that are not numbers are one. -/
def merged (x : Binary64) : Binary64 := if x.isNaN then Binary64.nan else x

theorem reads_documentFloat (few : 15 < digits) (x : Binary64) :
    Reads digits depth (documentFloat.text x) (some (float (merged x))) := by
  unfold merged
  cases finite : x.isFinite with
  | true =>
    have number : x.isNaN = false := by
      simp only [Binary64.isFinite, bne_iff_ne] at finite
      simp [Binary64.isNaN, finite]
    rw [number]
    exact reads_text finite (by omega) (Int.ofNat_lt.mpr few)
  | false =>
    cases number : x.isNaN with
    | true =>
      have text : documentFloat.text x = "NaN".toList := by
        rw [DecimalLayout.text, if_pos number]
        rfl
      rw [text]
      exact reads_word (show _ = ['N', 'a', 'N'] from rfl) (by decide) fun fuel cs => by
        rw [read, skipSpace_cons rfl]
        rfl
    | false =>
      have same := Binary64.infinity_of_not_finite finite number
      cases sign : x.isNegative with
      | true =>
        have text : documentFloat.text x = '-' :: "Infinity".toList := by
          simp [DecimalLayout.text, number, finite, sign]
          rfl
        rw [text, ← same, sign]
        exact .of_succ (by decide) fun fuel rest _ _ => readWord_append "Infinity" _ rest
      | false =>
        have text : documentFloat.text x = "Infinity".toList := by
          simp [DecimalLayout.text, number, finite, sign]
          rfl
        rw [text, ← same, sign]
        exact reads_word (show _ = 'I' :: "nfinity".toList from rfl) (by decide) fun fuel cs => by
          rw [read, skipSpace_cons rfl]
          rfl

theorem reads_quoted {code : Char → List Char} (readable : Readable code) (s : String) :
    Reads digits depth ('"' :: (s.toList.flatMap code ++ ['"'])) (some (str s)) := by
  refine .of_succ (by decide) fun fuel rest _ _ => ?_
  have back := readable.readString_of_length s.toList rest
  rw [List.cons_append, List.append_assoc, List.singleton_append, read, skipSpace_cons rfl]
  simp only [back, Option.map_some, String.ofList_toList]

/-! Brackets -/

theorem readItems_skipSpace {blank : List Char} (spaces : Blank blank) (cs : List Char) :
    readItems digits fuel depth (blank ++ cs) = readItems digits fuel depth cs := by
  cases fuel with
  | zero => rfl
  | succ fuel => rw [readItems, readItems, read_skipSpace spaces]

theorem reads_empty_arr : Reads digits depth ['[', ']'] (some (arr [])) :=
  .of_succ (by decide) fun fuel rest _ _ => by
    rw [List.cons_append, List.cons_append, read, skipSpace_cons rfl]
    rfl

section Brackets

variable {α : Type} {first sep close : List Char} (front : Blank first) (blank : Blank sep)
  (closing : Blank close) {items : List α} (filled : items ≠ []) {text : α → List Char}
  {result : α → Option Value}

include front in
/-- Brackets with something in them are read one level deeper, if there is one. -/
theorem read_bracket {body : List Char} (starts : Starts body) :
    read digits (fuel + 1) depth ('[' :: (first ++ body)) =
      match depth with
      | 0 => none
      | depth + 1 =>
        (readItems digits fuel depth body).map fun (items, rest) => (arr items, rest) := by
  obtain ⟨c, tail, rfl, space, other⟩ := starts
  have opened : skipSpace (first ++ c :: tail) = c :: tail := by
    rw [skipSpace_append front, skipSpace_cons space]
  rw [read, skipSpace_cons rfl]
  simp only [opened]
  split
  · rename_i same
    exact absurd (List.cons.inj same).1 other
  · rfl

include filled in
theorem starts_joined (starts : ∀ a ∈ items, Starts (text a)) (rest : List Char) :
    Starts (List.intercalate sep (items.map text) ++ rest) := by
  cases items with
  | nil => exact absurd rfl filled
  | cons a others =>
    obtain ⟨c, tail, written, apart⟩ := starts a List.mem_cons_self
    cases others with
    | nil => exact ⟨c, tail ++ rest, by simp [written], apart⟩
    | cons next others =>
      have joined : List.intercalate sep ((a :: next :: others).map text) ++ rest =
          c :: (tail ++ sep ++ List.intercalate sep ((next :: others).map text) ++ rest) := by
        rw [List.map_cons, List.map_cons, List.intercalate_cons_cons, written]
        simp
      exact ⟨c, _, joined, apart⟩

include blank closing filled in
theorem readItems_joined (reads : ∀ a ∈ items, Reads digits depth (text a) (result a))
    (enough : 2 * ((List.intercalate (',' :: sep) (items.map text)).length + 1) ≤ fuel) :
    readItems digits fuel depth
        (List.intercalate (',' :: sep) (items.map text) ++ (close ++ ']' :: rest)) =
      (items.mapM result).map fun items => (items, rest) := by
  induction items generalizing fuel with
  | nil => exact absurd rfl filled
  | cons a others ih =>
    obtain ⟨fuel, rfl⟩ := Nat.exists_eq_succ_of_ne_zero (show fuel ≠ 0 by omega)
    have here := reads a List.mem_cons_self
    cases others with
    | nil =>
      simp only [List.map_cons, List.map_nil, List.intercalate_singleton] at enough ⊢
      rw [readItems, here.run (by omega) (ends_of_blank closing (by decide)), List.mapM_cons]
      cases result a with
      | none => rfl
      | some v =>
        have bracket : isSpace ']' = false := rfl
        simp [skipSpace_append closing, skipSpace_cons bracket]
    | cons next others =>
      simp only [List.map_cons, List.intercalate_cons_cons, List.append_assoc, List.cons_append,
        List.length_append, List.length_cons] at enough ih ⊢
      have left : 2 * ((List.intercalate (',' :: sep) (text next :: others.map text)).length + 1) ≤
          fuel := by omega
      have later := ih (List.cons_ne_nil next others)
        (fun b member => reads b (List.mem_cons_of_mem _ member)) left
      rw [readItems, here.run (by omega) (.cons (by decide) _), List.mapM_cons]
      cases result a with
      | none => rfl
      | some v =>
        simp only [Option.map_some, Option.bind_eq_bind, Option.bind_some,
          skipSpace_cons (show isSpace ',' = false from rfl), readItems_skipSpace blank, later]
        cases (next :: others).mapM result <;> rfl

include front filled in
theorem refuses_arr (starts : ∀ a ∈ items, Starts (text a)) :
    Reads digits 0 ('[' :: (first ++
      (List.intercalate (',' :: sep) (items.map text) ++ (close ++ [']'])))) none := by
  refine .of_succ (by decide) fun fuel rest _ _ => ?_
  simp only [List.cons_append, List.append_assoc]
  rw [read_bracket front (starts_joined filled starts _)]
  rfl

include front blank closing filled in
theorem reads_arr (reads : ∀ a ∈ items, Reads digits depth (text a) (result a)) :
    Reads digits (depth + 1)
      ('[' :: (first ++ (List.intercalate (',' :: sep) (items.map text) ++ (close ++ [']']))))
      ((items.mapM result).map arr) := by
  refine .of_succ (by decide) fun fuel rest enough _ => ?_
  simp only [List.cons_append, List.append_assoc, List.nil_append, List.length_append,
    List.length_cons] at enough ⊢
  rw [read_bracket front (starts_joined filled (fun a member => (reads a member).starts) _)]
  dsimp only
  rw [readItems_joined blank closing filled reads (by omega)]
  cases items.mapM result <;> rfl

end Brackets

/-! Braces -/

theorem readFields_skipSpace {blank : List Char} (spaces : Blank blank) (cs : List Char) :
    readFields digits fuel depth (blank ++ cs) = readFields digits fuel depth cs := by
  cases fuel with
  | zero => rfl
  | succ fuel => rw [readFields, readFields, skipSpace_append spaces]

theorem reads_empty_obj : Reads digits depth ['\x7b', '\x7d'] (some (obj [])) :=
  .of_succ (by decide) fun fuel rest _ _ => by
    rw [List.cons_append, List.cons_append, read, skipSpace_cons rfl]
    rfl

/-- A field as it stands between braces, its key written by a code. -/
def fieldText (code : Char → List Char) (key : String) (text : List Char) : List Char :=
  '"' :: (key.toList.flatMap code ++ '"' :: ':' :: ' ' :: text)

section Braces

variable {α : Type} {first sep close : List Char} (front : Blank first) (blank : Blank sep)
  (closing : Blank close) {fields : List α} (filled : fields ≠ []) {code : Char → List Char}
  {key : α → String} {text : α → List Char} {result : α → Option Value}

include front in
theorem read_brace {body tail : List Char} (starts : body = '"' :: tail) :
    read digits (fuel + 1) depth ('\x7b' :: (first ++ body)) =
      match depth with
      | 0 => none
      | depth + 1 =>
        (readFields digits fuel depth body).map fun (fields, rest) => (obj fields, rest) := by
  subst starts
  have opened : skipSpace (first ++ '"' :: tail) = '"' :: tail := by
    rw [skipSpace_append front, skipSpace_cons rfl]
  rw [read, skipSpace_cons rfl]
  simp only [opened]
  rfl

include filled in
theorem joined_fields_eq (rest : List Char) : ∃ tail, List.intercalate sep
    (fields.map fun a => fieldText code (key a) (text a)) ++ rest = '"' :: tail := by
  cases fields with
  | nil => exact absurd rfl filled
  | cons a others =>
    cases others with
    | nil => exact ⟨_, by rw [List.map_cons, List.map_nil, List.intercalate_singleton]; rfl⟩
    | cons next others =>
      exact ⟨_, by rw [List.map_cons, List.map_cons, List.intercalate_cons_cons]; rfl⟩

include front filled in
theorem refuses_obj : Reads digits 0 ('\x7b' :: (first ++ (List.intercalate (',' :: sep)
    (fields.map fun a => fieldText code (key a) (text a)) ++ (close ++ ['\x7d'])))) none := by
  refine .of_succ (by decide) fun fuel rest _ _ => ?_
  simp only [List.cons_append, List.append_assoc]
  obtain ⟨tail, starts⟩ := joined_fields_eq filled _
  rw [read_brace front starts]
  rfl

variable (readable : Readable code)

include readable

theorem readFields_step {name : String} {value : List Char} {found : Option Value}
    (reads : Reads digits depth value found) (enough : 2 * value.length ≤ fuel)
    (ends : Ends rest) : readFields digits (fuel + 1) depth (fieldText code name value ++ rest) =
      found.bind fun v => match skipSpace rest with
        | '\x7d' :: rest => some ([(name, v)], rest)
        | ',' :: rest => do
          let (fields, rest) ← readFields digits fuel depth rest
          some ((name, v) :: fields, rest)
        | _ => none := by
  have written : fieldText code name value ++ rest =
      '"' :: (name.toList.flatMap code ++ '"' :: ':' :: ' ' :: (value ++ rest)) := by
    simp [fieldText]
  have space : Blank [' '] := by decide
  have inner : read digits fuel depth (' ' :: (value ++ rest)) = found.map fun v => (v, rest) :=
    (read_skipSpace space (value ++ rest)).trans (reads.run enough ends)
  rw [written, readFields, skipSpace_cons rfl]
  simp only [readable.readString_of_length, Option.bind_eq_bind, Option.bind_some,
    skipSpace_cons (show isSpace ':' = false from rfl), inner, String.ofList_toList]
  cases found <;> rfl

include blank closing filled in
theorem readFields_joined (reads : ∀ a ∈ fields, Reads digits depth (text a) (result a))
    (enough : 2 * ((List.intercalate (',' :: sep)
      (fields.map fun a => fieldText code (key a) (text a))).length + 1) ≤ fuel) :
    readFields digits fuel depth (List.intercalate (',' :: sep)
        (fields.map fun a => fieldText code (key a) (text a)) ++ (close ++ '\x7d' :: rest)) =
      (fields.mapM fun a => (result a).map fun v => (key a, v)).map
        fun fields => (fields, rest) := by
  induction fields generalizing fuel with
  | nil => exact absurd rfl filled
  | cons a others ih =>
    obtain ⟨fuel, rfl⟩ := Nat.exists_eq_succ_of_ne_zero (show fuel ≠ 0 by omega)
    have here := reads a List.mem_cons_self
    have length : (text a).length ≤ (fieldText code (key a) (text a)).length := by
      simp only [fieldText, List.length_cons, List.length_append]
      omega
    cases others with
    | nil =>
      simp only [List.map_cons, List.map_nil, List.intercalate_singleton] at enough ⊢
      rw [readFields_step readable here (by omega) (ends_of_blank closing (by decide)),
        skipSpace_append closing, skipSpace_cons rfl, List.mapM_cons]
      cases result a <;> rfl
    | cons next others =>
      simp only [List.map_cons, List.intercalate_cons_cons, List.append_assoc, List.cons_append,
        List.length_append, List.length_cons] at enough ih ⊢
      have left : 2 * ((List.intercalate (',' :: sep) (fieldText code (key next) (text next) ::
          others.map fun a => fieldText code (key a) (text a))).length + 1) ≤ fuel := by omega
      have later := ih (List.cons_ne_nil next others)
        (fun b member => reads b (List.mem_cons_of_mem _ member)) left
      rw [readFields_step readable here (by omega) (.cons (by decide) _), skipSpace_cons rfl,
        List.mapM_cons]
      cases result a with
      | none => rfl
      | some v =>
        simp only [Option.bind_eq_bind, Option.bind_some, readFields_skipSpace blank, later]
        cases (next :: others).mapM fun a => (result a).map fun v => (key a, v) <;> rfl

include front blank closing filled in
theorem reads_obj (key : α → String)
    (reads : ∀ a ∈ fields, Reads digits depth (text a) (result a)) :
    Reads digits (depth + 1) ('\x7b' :: (first ++ (List.intercalate (',' :: sep)
        (fields.map fun a => fieldText code (key a) (text a)) ++ (close ++ ['\x7d']))))
      ((fields.mapM fun a => (result a).map fun v => (key a, v)).map obj) := by
  refine .of_succ (by decide) fun fuel rest enough _ => ?_
  simp only [List.cons_append, List.append_assoc, List.nil_append, List.length_append,
    List.length_cons] at enough ⊢
  obtain ⟨tail, starts⟩ := joined_fields_eq filled _
  rw [read_brace front starts]
  dsimp only
  rw [readFields_joined blank closing filled readable reads (by omega)]
  cases fields.mapM fun a => (result a).map fun v => (key a, v) <;> rfl

end Braces

end Value

end FactModel
