import FactModel.Proofs.Text.Escapes
import FactModel.Value.Parser

/-!
Strings read back, whether every character outside printable ASCII is escaped or only those that
have to be.
-/

namespace FactModel

namespace Value

open Text

theorem hexNumber?_digits {n : Nat} (small : n < 0x10000) :
    hexNumber? [hexDigit (n / 16 / 16 / 16), hexDigit (n / 16 / 16), hexDigit (n / 16),
      hexDigit n] = some n := by
  have value := hexNumber?_hex 4 n
  rwa [Nat.mod_eq_of_lt (show n < 16 ^ 4 from small)] at value

theorem readString_unitEscape {fuel n : Nat} {rest tail left : List Char} (small : n < 0x10000)
    (scalar : n < 0xD800 ∨ 0xDFFF < n) (later : readString fuel rest = some (tail, left)) :
    readString (fuel + 1) (unitEscape n ++ rest) = some (Char.ofNat n :: tail, left) := by
  have high : isHigh n = false := by
    simp only [isHigh, Bool.and_eq_false_iff, decide_eq_false_iff_not]
    omega
  have low : isLow n = false := by
    simp only [isLow, Bool.and_eq_false_iff, decide_eq_false_iff_not]
    omega
  simp [unitEscape, hex, readString, hexNumber?_digits small, high, low, later]

theorem readString_pair {fuel : Nat} {rest tail left : List Char} (offset : Nat)
    (small : offset < 0x100000) (later : readString fuel rest = some (tail, left)) :
    readString (fuel + 1) (unitEscape (0xD800 + offset / 0x400) ++
      unitEscape (0xDC00 + offset % 0x400) ++ rest) =
        some (Char.ofNat (0x10000 + offset) :: tail, left) := by
  have first : 0xD800 + offset / 0x400 < 0xDC00 := by omega
  have second : 0xDC00 + offset % 0x400 < 0xE000 := by omega
  have high : isHigh (0xD800 + offset / 0x400) = true := by
    simp only [isHigh, Bool.and_eq_true, decide_eq_true_eq]
    omega
  have low : isLow (0xDC00 + offset % 0x400) = true := by
    simp only [isLow, Bool.and_eq_true, decide_eq_true_eq]
    omega
  have joined : joinUnits (0xD800 + offset / 0x400) (0xDC00 + offset % 0x400) =
      Char.ofNat (0x10000 + offset) := by
    have number : 0x10000 + (0xD800 + offset / 0x400 - 0xD800) * 0x400 +
        (0xDC00 + offset % 0x400 - 0xDC00) = 0x10000 + offset := by omega
    rw [joinUnits, number]
  simp [unitEscape, hex, readString, hexNumber?_digits (Nat.lt_trans first (by decide)),
    hexNumber?_digits (Nat.lt_trans second (by decide)), high, low, joined, later]

theorem escaped?_of_shortEscape? {c e : Char} (short : shortEscape? c = some e) :
    escaped? e = some c ∧ e ≠ 'u' := by
  unfold shortEscape? at short
  split_ifs at short
  all_goals
    subst_vars
    obtain rfl := Option.some.inj short
    exact ⟨rfl, by decide⟩

/-- A code for characters that reads back in front of any string. -/
structure Readable (code : Char → List Char) : Prop where
  ne_nil (c : Char) : code c ≠ []
  read {fuel : Nat} (c : Char) {rest tail left : List Char}
    (later : readString fuel rest = some (tail, left)) :
    readString (fuel + 1) (code c ++ rest) = some (c :: tail, left)

theorem readString_escape {fuel : Nat} {c e : Char} {rest tail left : List Char}
    (short : shortEscape? c = some e) (later : readString fuel rest = some (tail, left)) :
    readString (fuel + 1) ('\\' :: e :: rest) = some (c :: tail, left) := by
  obtain ⟨back, apart⟩ := escaped?_of_shortEscape? short
  simp [readString, apart, back, later]

/-- A character that needs no escape stands for itself. -/
theorem readString_plain {fuel : Nat} {c : Char} {rest tail left : List Char}
    (ordinary : shortEscape? c = none) (printable : ¬ c.toNat < 0x20)
    (later : readString fuel rest = some (tail, left)) :
    readString (fuel + 1) (c :: rest) = some (c :: tail, left) := by
  have quote : c ≠ '"' := by
    rintro rfl
    cases ordinary
  have slash : c ≠ '\\' := by
    rintro rfl
    cases ordinary
  rw [readString]
  · simp [slash, printable, later]
  · exact fun same => quote same
  · intros
    contradiction
  · intros
    contradiction

theorem readable_encodeAsciiChar : Readable encodeAsciiChar := by
  refine ⟨fun c => ?_, fun {fuel} c {rest tail left} later => ?_⟩
  · unfold encodeAsciiChar unitEscape
    split
    · simp
    · split_ifs <;> simp
  · have valid : c.toNat < 0xD800 ∨ 0xDFFF < c.toNat ∧ c.toNat < 0x110000 := c.valid
    unfold encodeAsciiChar
    split
    · rename_i e short
      exact readString_escape short later
    · rename_i ordinary
      split_ifs with control printable middle
      · have read := readString_unitEscape (by omega) (by omega) later (n := c.toNat)
        rwa [Char.ofNat_toNat] at read
      · exact readString_plain ordinary control later
      · have read := readString_unitEscape (by omega) (by omega) later (n := c.toNat)
        rwa [Char.ofNat_toNat] at read
      · have read := readString_pair (c.toNat - 0x10000) (by omega) later
        rwa [Nat.add_sub_cancel' (by omega), Char.ofNat_toNat] at read

theorem readable_encodeChar : Readable encodeChar := by
  refine ⟨fun c => ?_, fun {fuel} c {rest tail left} later => ?_⟩
  · unfold encodeChar unitEscape
    split
    · simp
    · split <;> simp
  · unfold encodeChar
    split
    · rename_i e short
      exact readString_escape short later
    · rename_i ordinary
      split_ifs with control
      · have read := readString_unitEscape (by omega) (by omega) later (n := c.toNat)
        rwa [Char.ofNat_toNat] at read
      · exact readString_plain ordinary control later

namespace Readable

variable {code : Char → List Char}

theorem readString_flatMap (readable : Readable code) {fuel : Nat} {cs : List Char}
    (enough : cs.length < fuel) (rest : List Char) :
    readString fuel (cs.flatMap code ++ '"' :: rest) = some (cs, rest) := by
  induction cs generalizing fuel with
  | nil =>
    obtain ⟨fuel, rfl⟩ := Nat.exists_eq_succ_of_ne_zero (Nat.ne_of_gt enough)
    simp [readString]
  | cons c cs ih =>
    obtain ⟨fuel, rfl⟩ := Nat.exists_eq_succ_of_ne_zero (Nat.ne_of_gt (Nat.zero_lt_of_lt enough))
    rw [List.flatMap_cons, List.append_assoc]
    exact readable.read c (ih (Nat.lt_of_succ_lt_succ enough))

theorem length_le (readable : Readable code) (cs : List Char) :
    cs.length ≤ (cs.flatMap code).length := by
  induction cs with
  | nil => exact Nat.zero_le _
  | cons c cs ih =>
    have some := List.length_pos_iff.mpr (readable.ne_nil c)
    rw [List.flatMap_cons, List.length_append, List.length_cons]
    omega

/-- As many steps as there are characters left are enough. -/
theorem readString_of_length (readable : Readable code) (cs rest : List Char) :
    readString ((cs.flatMap code ++ '"' :: rest).length + 1) (cs.flatMap code ++ '"' :: rest) =
      some (cs, rest) := by
  apply readable.readString_flatMap
  have most := readable.length_le cs
  rw [List.length_append]
  omega

theorem injective (readable : Readable code) {cs others : List Char}
    (same : '"' :: cs.flatMap code ++ ['"'] = '"' :: others.flatMap code ++ ['"']) :
    cs = others := by
  have inner : cs.flatMap code ++ ['"'] = others.flatMap code ++ ['"'] := (List.cons.inj same).2
  have first := readable.readString_of_length cs []
  have second := readable.readString_of_length others []
  rw [inner, second] at first
  exact (congrArg Prod.fst (Option.some.inj first)).symm

end Readable

end Value

end FactModel
