import FactModel.Value

/-!
The characters that numbers are written with: digits, a point, an exponent mark and signs. What
is not a number is written as a word of the layout.
-/

namespace FactModel

def NumeralChar (c : Char) : Prop := c.isDigit = true ∨ c ∈ ['.', 'e', '+', '-']

instance (c : Char) : Decidable (NumeralChar c) :=
  inferInstanceAs (Decidable (c.isDigit = true ∨ c ∈ ['.', 'e', '+', '-']))

def Numeral (cs : List Char) : Prop := ∀ c ∈ cs, NumeralChar c

instance (cs : List Char) : Decidable (Numeral cs) := List.decidableBAll NumeralChar cs

namespace Numeral

theorem append {front rest : List Char} (here : Numeral front) (later : Numeral rest) :
    Numeral (front ++ rest) := List.forall_mem_append.mpr ⟨here, later⟩

theorem cons {c : Char} {cs : List Char} (first : NumeralChar c) (rest : Numeral cs) :
    Numeral (c :: cs) := List.forall_mem_cons.mpr ⟨first, rest⟩

theorem of_subset {cs part : List Char} (numeral : Numeral cs) (within : part ⊆ cs) :
    Numeral part := fun c member => numeral c (within member)

/-- What starts with another character is no number. -/
theorem ne_cons {c : Char} {cs rest : List Char} (numeral : Numeral cs)
    (other : ¬ NumeralChar c) : cs ≠ c :: rest := by
  rintro rfl
  exact other (numeral c List.mem_cons_self)

theorem toDigits (n : Nat) : Numeral (Nat.toDigits 10 n) := fun _ member =>
  .inl (Nat.isDigit_of_mem_toDigits (by decide) (by decide) member)

theorem zeros (n : Nat) : Numeral (DecimalLayout.zeros n) := by
  intro c member
  rw [List.eq_of_mem_replicate member]
  decide

theorem intText (n : Int) : Numeral (Value.intText n) := by
  unfold Value.intText
  split
  · exact (toDigits _).cons (by decide)
  · exact toDigits _

theorem positional {digits : List Char} (numeral : Numeral digits) (exponent : Int) :
    Numeral (DecimalLayout.positional digits exponent) := by
  have front := numeral.of_subset (List.take_subset (digits.length + exponent).toNat digits)
  have back := numeral.of_subset (List.drop_subset (digits.length + exponent).toNat digits)
  unfold DecimalLayout.positional
  dsimp only
  split
  · exact (numeral.append (zeros _)).append (by decide)
  · split
    · exact front.append (back.cons (by decide))
    · exact (((zeros _).cons (by decide)).cons (by decide)).append numeral

theorem exponential (layout : DecimalLayout) {digits : List Char} (numeral : Numeral digits)
    (scientific : Int) : Numeral (layout.exponential digits scientific) := by
  have sign : NumeralChar (if scientific < 0 then '-' else '+') := by
    split <;> decide
  have power := (zeros (layout.exponentWidth - (Nat.toDigits 10 scientific.natAbs).length)).append
    (toDigits scientific.natAbs)
  have mark : NumeralChar 'e' := by decide
  unfold DecimalLayout.exponential
  dsimp only
  rw [List.append_assoc, List.cons_append, List.cons_append]
  refine append ?_ ((power.cons sign).cons mark)
  split
  · exact fun _ member => nomatch member
  · exact numeral
  · have parts := List.forall_mem_cons.mp numeral
    exact cons parts.1 (cons (by decide) parts.2)

theorem magnitude (layout : DecimalLayout) (x : Binary64) : Numeral (layout.magnitude x) := by
  unfold DecimalLayout.magnitude
  split
  · decide
  · dsimp only
    split
    · exact (toDigits _).positional _
    · exact (toDigits _).exponential layout _

end Numeral

/-- A float is written as a number or as one of the words for what is none. -/
theorem DecimalLayout.text_eq_word_or_numeral (layout : DecimalLayout) (x : Binary64) :
    layout.text x ∈ [layout.nan.toList, layout.infinity.toList, layout.negativeInfinity.toList] ∨
      Numeral (layout.text x) := by
  unfold DecimalLayout.text
  split
  · simp
  · split
    · right
      split
      · exact (Numeral.magnitude layout x).cons (by decide)
      · exact Numeral.magnitude layout x
    · split <;> simp

end FactModel
