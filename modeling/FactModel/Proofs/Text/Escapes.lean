import FactModel.Text.Digits
import FactModel.Text.Quoted
import Mathlib.Algebra.Order.Ring.Nat
import Mathlib.Tactic.SplitIfs

/-!
Quoted texts can be told apart: the hexadecimal digits of an escape give its number back, and the
code of a character is recognized at the front of any text that it starts.
-/

namespace FactModel.Text

theorem hexValue?_hexDigit (n : Nat) : hexValue? (hexDigit n) = some (n % 16) := by
  have digits : ∀ d < 16, hexValue? (Nat.digitChar d) = some d := by decide
  exact digits (n % 16) (Nat.mod_lt n (by decide))

theorem length_hex (width n : Nat) : (hex width n).length = width := by
  induction width generalizing n with
  | zero => rfl
  | succ width ih => rw [hex, List.length_append, ih, List.length_singleton]

theorem hexNumber?_hex (width n : Nat) : hexNumber? (hex width n) = some (n % 16 ^ width) := by
  induction width generalizing n with
  | zero => simp [hex, hexNumber?, Nat.mod_one]
  | succ width ih =>
    have split : n % 16 ^ (width + 1) = 16 * (n / 16 % 16 ^ width) + n % 16 := by
      rw [Nat.pow_succ', Nat.mod_mul, Nat.add_comm]
    have front := ih (n / 16)
    unfold hexNumber? at front ⊢
    rw [hex, List.foldlM_append, front, split]
    simp [hexValue?_hexDigit]

theorem hexNumber?_take_hex {width n : Nat} (small : n < 16 ^ width) (rest : List Char) :
    hexNumber? ((hex width n ++ rest).take width) = some n := by
  rw [List.take_left' (length_hex width n), hexNumber?_hex, Nat.mod_eq_of_lt small]

/-- Texts that are written character by character up to a stop are equal when what is written is,
if a reader finds each character at the front of its code. -/
theorem flatMap_injective_of_read {read : List Char → Option Char} {code : Char → List Char}
    {stop : Char} (reads : ∀ c rest, read (code c ++ rest) = some c)
    (stops : ∀ rest, read (stop :: rest) = none) {cs others : List Char}
    (same : cs.flatMap code ++ [stop] = others.flatMap code ++ [stop]) : cs = others := by
  induction cs generalizing others with
  | nil =>
    cases others with
    | nil => rfl
    | cons d others =>
      have heads := congrArg read same
      rw [List.flatMap_cons, List.append_assoc, reads] at heads
      rw [List.flatMap_nil, List.nil_append, stops] at heads
      cases heads
  | cons c cs ih =>
    cases others with
    | nil =>
      have heads := congrArg read same
      rw [List.flatMap_cons, List.append_assoc, reads, List.flatMap_nil, List.nil_append,
        stops] at heads
      cases heads
    | cons d others =>
      rw [List.flatMap_cons, List.flatMap_cons, List.append_assoc, List.append_assoc] at same
      have heads := congrArg read same
      rw [reads, reads, Option.some.injEq] at heads
      subst heads
      rw [ih (List.append_cancel_left same)]

/-! Texts quoted for a reader's eyes -/

/-- The character that a code stands for at the front of a quoted text. -/
def readQuotedChar (mark : Char) : List Char → Option Char
  | '\\' :: 'n' :: _ => some '\n'
  | '\\' :: 'r' :: _ => some '\r'
  | '\\' :: 't' :: _ => some '\t'
  | '\\' :: 'x' :: rest => (hexNumber? (rest.take 2)).map Char.ofNat
  | '\\' :: 'u' :: rest => (hexNumber? (rest.take 4)).map Char.ofNat
  | '\\' :: 'U' :: rest => (hexNumber? (rest.take 8)).map Char.ofNat
  | '\\' :: c :: _ => some c
  | c :: _ => if c = mark then none else some c
  | [] => none

theorem ofNat_hexNumber? {width : Nat} {c : Char} (small : c.toNat < 16 ^ width)
    (rest : List Char) :
    (hexNumber? ((hex width c.toNat ++ rest).take width)).map Char.ofNat = some c := by
  rw [hexNumber?_take_hex small, Option.map_some, Char.ofNat_toNat]

theorem readQuotedChar_quoteChar {mark : Char} (quotes : mark = '\'' ∨ mark = '"') (c : Char)
    (rest : List Char) : readQuotedChar mark (quoteChar mark c ++ rest) = some c := by
  have last : c.toNat < 16 ^ 8 := c.val.toNat_lt
  unfold quoteChar
  split_ifs with special newline carriage tab printable narrow middle
  · rw [Bool.or_eq_true, decide_eq_true_eq, decide_eq_true_eq] at special
    rcases special with rfl | rfl
    · rcases quotes with rfl | rfl <;> rfl
    · rfl
  · exact newline ▸ rfl
  · exact carriage ▸ rfl
  · exact tab ▸ rfl
  · simp_all [readQuotedChar]
  · exact ofNat_hexNumber? narrow rest
  · exact ofNat_hexNumber? middle rest
  · exact ofNat_hexNumber? last rest

theorem quotationMark_cases (cs : List Char) :
    quotationMark cs = '\'' ∨ quotationMark cs = '"' := by
  unfold quotationMark
  split
  · exact .inr rfl
  · exact .inl rfl

/-- Quoted texts are equal only if the texts are. -/
theorem quote_injective {cs others : List Char} (same : quote cs = quote others) : cs = others := by
  obtain ⟨marks, inner⟩ := List.cons.inj same
  rw [← marks] at inner
  refine flatMap_injective_of_read (readQuotedChar_quoteChar (quotationMark_cases cs)) ?_ inner
  intro rest
  rcases quotationMark_cases cs with mark | mark <;> rw [mark] <;> rfl

end FactModel.Text
