import FactModel.Proofs.Ddl.Quoting
import FactModel.Proofs.Relational.Identifiers

/-!
What stands in statements beside their fixed words: identifiers, native types, numbers and literals.
Only literals of texts hold quotes, and they are closed. Arrays and objects are written as they are
shown, which is harmless if no text in them holds a quote.
-/

namespace FactModel

namespace Ddl

open Quoting

theorem IsIdentifier.plain {name : String} (identifier : IsIdentifier name) : Plain ';' name :=
  plain_of_forall identifier (by decide) (by decide)

theorem identifier_plain (name : String) : Plain ';' (identifier name) :=
  (identifier_isIdentifier name).plain

theorem names_plain (items : List String) : Plain ';' (names items) := by
  refine plain_intercalate (by decide) fun item member => ?_
  obtain ⟨name, _, rfl⟩ := List.mem_map.mp member
  exact identifier_plain name

theorem numeral_plain {cs : List Char} (numeral : Numeral cs) : Plain ';' (String.ofList cs) := by
  have each : ∀ c ∈ (String.ofList cs).toList, NumeralChar c := by
    rw [String.toList_ofList]
    exact numeral
  exact plain_of_forall each (by decide) (by decide)

theorem floatText_plain (x : Binary64) : Plain ';' (String.ofList (Value.floatText.text x)) := by
  rcases Value.floatText.text_eq_word_or_numeral x with word | numeral
  · simp only [List.mem_cons, List.not_mem_nil, or_false] at word
    rcases word with word | word | word <;> rw [word] <;> decide
  · exact numeral_plain numeral

theorem bound_plain (x : RangeBound) : Plain ';' x.text := by
  unfold RangeBound.text
  split
  · exact numeral_plain (Numeral.intText _)
  · split
    · exact numeral_plain (Numeral.intText _)
    · exact floatText_plain _

/-- The characters of a column, its name and its type. -/
def ColumnChar (c : Char) : Prop :=
  IdentifierChar c ∨ ('A' ≤ c ∧ c ≤ 'Z') ∨ c ∈ [' ', ',', '(', ')']

instance (c : Char) : Decidable (ColumnChar c) :=
  inferInstanceAs (Decidable (IdentifierChar c ∨ ('A' ≤ c ∧ c ≤ 'Z') ∨ c ∈ [' ', ',', '(', ')']))

def IsColumnText (text : String) : Prop := ∀ c ∈ text.toList, ColumnChar c

instance (text : String) : Decidable (IsColumnText text) :=
  List.decidableBAll ColumnChar text.toList

theorem isColumnText_append_iff {front rest : String} :
    IsColumnText (front ++ rest) ↔ IsColumnText front ∧ IsColumnText rest := by
  simp only [IsColumnText, String.toList_append, List.forall_mem_append]

theorem isColumnText_type {d : Dialect} {text : String} (type : d.HasType text) :
    IsColumnText text := by
  rcases type with rfl | ⟨x, rfl⟩
  · cases d <;> decide
  · cases x with
    | other name =>
      have same : d.sqlType (.other name) = d.sqlType .string := by cases d <;> rfl
      rw [same]
      cases d <;> decide
    | _ => cases d <;> decide

/-! Values in a list of literals -/

/-- An array or an object that is shown without a quote left open and without a semicolon outside
of quotes. -/
def Contained : Value → Prop
  | .arr items => Balanced ';' 0 (Value.arr items).shown
  | .obj fields => Balanced ';' 0 (Value.obj fields).shown
  | _ => True

theorem balanced_literal_of_contained {v : Value} (contained : Contained v)
    (numericBooleans : Bool) : Balanced ';' 0 (literal numericBooleans v) := by
  cases v with
  | null =>
    have word : Plain ';' "NULL" := by decide
    exact word.balanced
  | bool b => cases numericBooleans <;> cases b <;> exact Plain.balanced (by decide)
  | int n =>
    show Balanced ';' 0 (Value.int n).shown
    rw [Value.shown, Value.display]
    exact (numeral_plain (Numeral.intText n)).balanced
  | float x =>
    show Balanced ';' 0 (Value.float x).shown
    rw [Value.shown, Value.display]
    exact (floatText_plain x).balanced
  | str text => exact balanced_literal (by decide) numericBooleans text
  | arr items => exact contained
  | obj fields => exact contained

/-! Arrays and objects without quotes in them -/

mutual

/-- No text and no key in the value holds a single quote. -/
def quoteless : Value → Bool
  | .str text => !text.toList.contains '\''
  | .arr items => quotelessItems items
  | .obj fields => quotelessFields fields
  | _ => true

def quotelessItems : List Value → Bool
  | [] => true
  | v :: rest => quoteless v && quotelessItems rest

def quotelessFields : List (String × Value) → Bool
  | [] => true
  | (key, v) :: rest => !key.toList.contains '\'' && quoteless v && quotelessFields rest

end

theorem hex_quoteless (width n : Nat) : '\'' ∉ Text.hex width n := by
  have digits : ∀ d < 16, Nat.digitChar d ≠ '\'' := by decide
  induction width generalizing n with
  | zero => exact List.not_mem_nil
  | succ width ih =>
    rw [Text.hex, List.mem_append, List.mem_singleton, not_or]
    exact ⟨ih _, (digits (n % 16) (Nat.mod_lt n (by decide))).symm⟩

theorem quoteChar_quoteless {c : Char} (plain : c ≠ '\'') : '\'' ∉ Text.quoteChar '\'' c := by
  unfold Text.quoteChar
  split_ifs <;> simp [hex_quoteless, Ne.symm plain]

theorem scan_within {cs : List Char} (quoteless : '\'' ∉ cs) :
    scan .inside cs = .inside ∧ countOutside ';' .inside cs = 0 := by
  induction cs with
  | nil => exact ⟨rfl, rfl⟩
  | cons c rest ih =>
    rw [List.mem_cons, not_or] at quoteless
    rw [scan_cons, countOutside, if_neg (fun held => held.1 rfl),
      inside_next_of_ne_quote (Ne.symm quoteless.1)]
    exact ih quoteless.2

theorem quote_balanced {cs : List Char} (plain : '\'' ∉ cs) :
    Balanced ';' 0 (String.ofList (Text.quote cs)) := by
  have mark : Text.quotationMark cs = '\'' := by simp [Text.quotationMark, plain]
  have inner : '\'' ∉ cs.flatMap (Text.quoteChar '\'') := by
    intro member
    obtain ⟨c, listed, inside⟩ := List.mem_flatMap.mp member
    exact quoteChar_quoteless (fun same => plain (same ▸ listed)) inside
  have balanced := balanced_between_quotes (by decide) (scan_within inner)
  rwa [← mark, ← Text.quote.eq_def] at balanced

theorem balanced_ofList_append {front rest : List Char}
    (here : Balanced ';' 0 (String.ofList front)) (later : Balanced ';' 0 (String.ofList rest)) :
    Balanced ';' 0 (String.ofList (front ++ rest)) := by
  rw [String.ofList_append]
  exact here.append later

theorem separated_balanced {parts : List (List Char)}
    (each : ∀ part ∈ parts, Balanced ';' 0 (String.ofList part)) :
    Balanced ';' 0 (String.ofList (Value.separated parts)) := by
  have comma : Plain ';' (String.ofList [',', ' ']) := by decide
  have joined : String.ofList (Value.separated parts) =
      String.intercalate (String.ofList [',', ' ']) (parts.map String.ofList) := by
    rw [← String.toList_inj, String.toList_ofList, String.toList_intercalate, List.map_map]
    simp [Value.separated, Function.comp_def]
  rw [joined]
  exact Balanced.join comma (List.forall_mem_map.mpr each)

theorem enclosed_balanced {left right : Char} (front : Plain ';' (String.ofList [left]))
    (back : Plain ';' (String.ofList [right])) {inner : List Char}
    (balanced : Balanced ';' 0 (String.ofList inner)) :
    Balanced ';' 0 (String.ofList (left :: inner ++ [right])) := by
  have opened := balanced_ofList_append front.balanced balanced
  exact balanced_ofList_append opened back.balanced

mutual

theorem display_balanced : ∀ v : Value, quoteless v = true →
    Balanced ';' 0 (String.ofList v.display)
  | .null, _ => by
    rw [Value.display]
    exact Plain.balanced (by decide)
  | .bool true, _ => by
    rw [Value.display]
    exact Plain.balanced (by decide)
  | .bool false, _ => by
    rw [Value.display]
    exact Plain.balanced (by decide)
  | .int n, _ => by
    rw [Value.display]
    exact (numeral_plain (Numeral.intText n)).balanced
  | .float x, _ => by
    rw [Value.display]
    exact (floatText_plain x).balanced
  | .str text, plain => by
    rw [Value.display]
    exact quote_balanced (by simpa [quoteless] using plain)
  | .arr items, plain => by
    rw [quoteless] at plain
    rw [Value.display]
    exact enclosed_balanced (by decide) (by decide)
      (separated_balanced (displayItems_balanced items plain))
  | .obj fields, plain => by
    rw [quoteless] at plain
    rw [Value.display]
    exact enclosed_balanced (by decide) (by decide)
      (separated_balanced (displayFields_balanced fields plain))

theorem displayItems_balanced : ∀ items : List Value, quotelessItems items = true →
    ∀ part ∈ Value.displayItems items, Balanced ';' 0 (String.ofList part)
  | [], _ => fun _ member => nomatch member
  | v :: rest, plain => by
    rw [quotelessItems, Bool.and_eq_true] at plain
    rw [Value.displayItems]
    exact List.forall_mem_cons.mpr
      ⟨display_balanced v plain.1, displayItems_balanced rest plain.2⟩

theorem displayFields_balanced : ∀ fields : List (String × Value),
    quotelessFields fields = true →
    ∀ part ∈ Value.displayFields fields, Balanced ';' 0 (String.ofList part)
  | [], _ => fun _ member => nomatch member
  | (key, v) :: rest, plain => by
    rw [quotelessFields, Bool.and_eq_true, Bool.and_eq_true] at plain
    have colon : Plain ';' (String.ofList [':', ' ']) := by decide
    have unquoted : '\'' ∉ key.toList := by simpa using plain.1.1
    have pair := balanced_ofList_append colon.balanced (display_balanced v plain.1.2)
    rw [Value.displayFields]
    refine List.forall_mem_cons.mpr ⟨?_, displayFields_balanced rest plain.2⟩
    exact balanced_ofList_append (quote_balanced unquoted) pair

end

/-- Values without single quotes in them are contained. -/
theorem contained_of_quoteless {v : Value} (plain : quoteless v = true) : Contained v := by
  have shown := display_balanced v plain
  cases v with
  | arr items => exact shown
  | obj fields => exact shown
  | _ => trivial

end Ddl

end FactModel
