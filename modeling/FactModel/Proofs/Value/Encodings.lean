import FactModel.Proofs.Text.Numerals
import FactModel.Proofs.Value.Strings

/-!
Which values share an encoding: nothing else is written like a string or like `null`.
-/

namespace FactModel

namespace Value

theorem encode_eq_encode_iff (v w : Value) :
    v.encode = w.encode ↔ v.canonical.dump = w.canonical.dump := String.ofList_inj

theorem intText_ne_null (n : Int) : intText n ≠ ['n', 'u', 'l', 'l'] :=
  (Numeral.intText n).ne_cons (by decide)

theorem documentFloat_ne_null (x : Binary64) :
    documentFloat.text x ≠ ['n', 'u', 'l', 'l'] := by
  rcases documentFloat.text_eq_word_or_numeral x with word | numeral
  · intro same
    rw [same] at word
    exact absurd word (by decide)
  · exact numeral.ne_cons (by decide)

/-- Nothing else is encoded like `null`. -/
theorem encode_eq_null_iff (v : Value) : v.encode = Value.null.encode ↔ v = .null := by
  refine ⟨fun same => ?_, fun same => same ▸ rfl⟩
  rw [encode_eq_encode_iff] at same
  have text : Value.null.canonical.dump = ['n', 'u', 'l', 'l'] := by simp [canonical, dump]
  rw [text] at same
  cases v with
  | null => rfl
  | bool b => cases b <;> simp [canonical, dump] at same
  | int n => exact absurd (by simpa [canonical, dump] using same) (intText_ne_null n)
  | float x =>
    cases whole : x.toInt? with
    | some n =>
      simp only [canonical, whole, dump] at same
      exact absurd same (intText_ne_null n)
    | none =>
      simp only [canonical, whole, dump] at same
      exact absurd same (documentFloat_ne_null x)
  | str s => simp [canonical, dump, Text.encodeAscii] at same
  | arr items => simp [canonical, dump] at same
  | obj fields => simp [canonical, dump] at same

/-! Values that are written like a string -/

open Text

theorem numeral_ne_quoted {cs rest : List Char} {mark : Char} (numeral : Numeral cs)
    (quotes : mark = '\'' ∨ mark = '"') : cs ≠ mark :: rest := by
  rcases quotes with rfl | rfl
  · exact numeral.ne_cons (by decide)
  · exact numeral.ne_cons (by decide)

/-- A string is encoded like itself only. -/
theorem encode_eq_str_iff (v : Value) (text : String) :
    v.encode = (Value.str text).encode ↔ v = .str text := by
  refine ⟨fun same => ?_, fun same => same ▸ rfl⟩
  rw [encode_eq_encode_iff] at same
  have written : (Value.str text).canonical.dump = encodeAscii text.toList := by
    simp [canonical, dump]
  rw [written] at same
  cases v with
  | null => simp [canonical, dump, encodeAscii] at same
  | bool b => cases b <;> simp [canonical, dump, encodeAscii] at same
  | int n =>
    simp only [canonical, dump] at same
    exact absurd same (numeral_ne_quoted (Numeral.intText n) (.inr rfl))
  | float x =>
    cases whole : x.toInt? with
    | some n =>
      simp only [canonical, whole, dump] at same
      exact absurd same (numeral_ne_quoted (Numeral.intText n) (.inr rfl))
    | none =>
      simp only [canonical, whole, dump] at same
      rcases documentFloat.text_eq_word_or_numeral x with word | numeral
      · rw [same] at word
        simp [documentFloat, encodeAscii] at word
      · exact absurd same (numeral_ne_quoted numeral (.inr rfl))
  | str other =>
    simp only [canonical, dump] at same
    rw [String.toList_inj.mp (readable_encodeAsciiChar.injective same)]
  | arr items => simp [canonical, dump, encodeAscii] at same
  | obj fields => simp [canonical, dump, encodeAscii] at same

/-- A string is shown like itself only. -/
theorem shown_eq_str_iff (v : Value) (text : String) :
    v.shown = (Value.str text).shown ↔ v = .str text := by
  refine ⟨fun same => ?_, fun same => same ▸ rfl⟩
  have quotes := quotationMark_cases text.toList
  have other : ∀ c rest, c ∈ ['N', 'T', 'F', 'n', 'i', '-', '[', '\x7b'] →
      c :: rest ≠ Text.quote text.toList := by
    intro c rest listed equal
    have first : c = quotationMark text.toList := (List.cons.inj equal).1
    rcases quotes with mark | mark
    · rw [first, mark] at listed
      exact absurd listed (by decide)
    · rw [first, mark] at listed
      exact absurd listed (by decide)
  have same : v.display = Text.quote text.toList := by
    have texts := String.ofList_inj.mp same
    simpa only [display] using texts
  cases v with
  | null =>
    simp only [display] at same
    exact absurd same (other 'N' ['o', 'n', 'e'] (by simp))
  | bool b =>
    cases b with
    | false =>
      simp only [display] at same
      exact absurd same (other 'F' ['a', 'l', 's', 'e'] (by simp))
    | true =>
      simp only [display] at same
      exact absurd same (other 'T' ['r', 'u', 'e'] (by simp))
  | int n =>
    simp only [display] at same
    exact absurd same (numeral_ne_quoted (Numeral.intText n) quotes)
  | float x =>
    simp only [display] at same
    rcases floatText.text_eq_word_or_numeral x with word | numeral
    · rw [same] at word
      simp only [List.mem_cons, List.not_mem_nil, or_false] at word
      rcases word with word | word | word
      · exact absurd word.symm (other 'n' ['a', 'n'] (by simp))
      · exact absurd word.symm (other 'i' ['n', 'f'] (by simp))
      · exact absurd word.symm (other '-' ['i', 'n', 'f'] (by simp))
    · exact absurd same (numeral_ne_quoted numeral quotes)
  | str another =>
    simp only [display] at same
    rw [String.toList_inj.mp (quote_injective same)]
  | arr items =>
    simp only [display] at same
    exact absurd same (other '[' _ (by simp))
  | obj fields =>
    simp only [display] at same
    exact absurd same (other '\x7b' _ (by simp))

end Value

end FactModel
