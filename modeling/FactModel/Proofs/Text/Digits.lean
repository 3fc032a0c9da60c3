import FactModel.Text.Blank
import FactModel.Text.Digits
import Mathlib.Algebra.Group.Nat.Defs

/-!
Decimal digits. A span of digits ends where something else follows, and the digits of a number
count back to it.
-/

namespace FactModel.Text

def Digits (cs : List Char) : Prop := ∀ c ∈ cs, isDigit c = true

theorem Digits.append {front rest : List Char} (here : Digits front) (later : Digits rest) :
    Digits (front ++ rest) := List.forall_mem_append.mpr ⟨here, later⟩

theorem digits_toDigits (n : Nat) : Digits (Nat.toDigits 10 n) := fun _ member =>
  Nat.isDigit_of_mem_toDigits (by decide) (by decide) member

theorem digits_replicate_zero (n : Nat) : Digits (List.replicate n '0') := by
  intro c member
  rw [List.eq_of_mem_replicate member]
  decide

theorem spanDigits_append_of_digits {cs rest : List Char} (digits : Digits cs)
    (stop : ∀ c ∈ rest.head?, isDigit c = false) : spanDigits (cs ++ rest) = (cs, rest) := by
  have none : rest.takeWhile isDigit = [] := by
    cases rest with
    | nil => rfl
    | cons c tail => exact List.takeWhile_cons_of_neg (by simp [stop c rfl])
  rw [spanDigits, List.takeWhile_append_of_pos digits, List.dropWhile_append_of_pos digits,
    none, dropWhile_eq_self stop, List.append_nil]

/-! The number of digits -/

theorem number_toDigits (n : Nat) : number (Nat.toDigits 10 n) = n :=
  Nat.ofDigitChars_ten_toDigits

theorem number_append (front rest : List Char) :
    number (front ++ rest) = 10 ^ rest.length * number front + number rest := by
  have split : number (front ++ rest) = Nat.ofDigitChars 10 rest (number front) :=
    Nat.ofDigitChars_append 0
  rw [split, Nat.ofDigitChars_eq_ofDigitChars_zero]
  rfl

theorem number_replicate_zero (n : Nat) : number (List.replicate n '0') = 0 := by
  have zeros : number (List.replicate n '0') = 10 ^ n * 0 := Nat.ofDigitChars_replicate_zero
  rwa [Nat.mul_zero] at zeros

theorem number_zeros_append (n : Nat) (cs : List Char) :
    number (List.replicate n '0' ++ cs) = number cs := by
  rw [number_append, number_replicate_zero, Nat.mul_zero, Nat.zero_add]

/-- No number but zero begins with the digit zero. -/
theorem head_toDigits_ne_zero {n : Nat} (some : n ≠ 0) :
    ∀ rest, Nat.toDigits 10 n ≠ '0' :: rest := by
  induction n using Nat.strongRecOn with
  | ind n ih =>
    intro rest same
    rw [Nat.toDigits_eq_if (by decide)] at same
    split at same
    · have zero := (List.cons.inj same).1
      rw [Nat.digitChar_eq_zero] at zero
      exact some zero
    · have fewer : n / 10 < n := by omega
      cases front : Nat.toDigits 10 (n / 10) with
      | nil => exact Nat.toDigits_ne_nil front
      | cons c tail =>
        rw [front, List.cons_append] at same
        have first := (List.cons.inj same).1
        exact ih (n / 10) fewer (by omega) tail (first ▸ front)

end FactModel.Text
