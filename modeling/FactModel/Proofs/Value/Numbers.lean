import FactModel.Proofs.Binary64.Shortest
import FactModel.Proofs.Text.Digits
import FactModel.Value.Parser

/-!
Numbers read back. Every layout writes a finite float so that its shortest decimal is read, and an
integer is read digit by digit, as many digits as the reader takes.
-/

namespace FactModel

namespace Value

open Text

/-- What may follow a number: nothing that it could go on with. -/
def Ends (rest : List Char) : Prop := ∀ c ∈ rest.head?, isDigit c = false ∧ c ∉ ['.', 'e', 'E']

theorem Ends.nil : Ends [] := fun _ member => nomatch member

theorem Ends.cons {c : Char} (other : isDigit c = false ∧ c ∉ ['.', 'e', 'E']) (rest : List Char) :
    Ends (c :: rest) := by
  rintro _ ⟨⟩
  exact other

/-! The parts of a number -/

variable {limit : Nat} {negative : Bool} {whole places power rest : List Char}

/-- The digits in front of a point: one zero, or no zero first. -/
structure Whole (whole : List Char) : Prop where
  digits : Digits whole
  ne_nil : whole ≠ []
  plain : ∀ tail, whole = '0' :: tail → tail = []

theorem Whole.zero : Whole ['0'] :=
  ⟨by simp [Digits, isDigit], by simp, fun _ same => (List.cons.inj same).2.symm⟩

theorem Whole.toDigits (n : Nat) : Whole (Nat.toDigits 10 n) := by
  refine ⟨digits_toDigits n, Nat.toDigits_ne_nil, fun tail same => ?_⟩
  rcases Nat.eq_zero_or_pos n with rfl | positive
  · rw [Nat.toDigits_zero] at same
    exact (List.cons.inj same).2.symm
  · exact absurd same (head_toDigits_ne_zero positive.ne' tail)

/-- The first digit of a number that is not zero may stand before any digits. -/
theorem Whole.of_head? {n : Nat} (some : n ≠ 0) (digits : Digits whole)
    (same : whole.head? = (Nat.toDigits 10 n).head?) : Whole whole := by
  cases written : Nat.toDigits 10 n with
  | nil => exact absurd written Nat.toDigits_ne_nil
  | cons c tail =>
    rw [written, List.head?_cons] at same
    refine ⟨digits, List.ne_nil_of_mem (List.mem_of_head? same), fun rest zero => ?_⟩
    rw [zero, List.head?_cons, Option.some.injEq] at same
    exact absurd (same ▸ written) (head_toDigits_ne_zero some tail)

theorem readWhole_append (shape : Whole whole) (stop : ∀ c ∈ rest.head?, isDigit c = false) :
    readWhole (whole ++ rest) = some (whole, rest) := by
  unfold readWhole
  rw [spanDigits_append_of_digits shape.digits stop]
  cases whole with
  | nil => exact absurd rfl shape.ne_nil
  | cons c tail =>
    cases tail with
    | nil => split <;> simp_all
    | cons d tail =>
      have first : c ≠ '0' := by
        rintro rfl
        exact absurd (shape.plain _ rfl) (List.cons_ne_nil d tail)
      split <;> simp_all

/-- Places behind a point, if there are any. -/
def pointed (places : List Char) : List Char := if places = [] then [] else '.' :: places

theorem readPlaces_pointed (places rest : List Char) (digits : Digits places)
    (stop : ∀ c ∈ rest.head?, isDigit c = false ∧ c ≠ '.') :
    readPlaces (pointed places ++ rest) =
      some (if places = [] then none else some places, rest) := by
  unfold pointed readPlaces
  split_ifs with empty
  · cases rest with
    | nil => rfl
    | cons c tail =>
      have other := (stop c rfl).2
      rw [List.nil_append]
      split <;> simp_all
  · simp only [List.cons_append,
      spanDigits_append_of_digits digits fun c first => (stop c first).1]

theorem readPower_ends (ends : Ends rest) : readPower rest = some (none, rest) := by
  cases rest with
  | nil => rfl
  | cons c tail =>
    have other := (ends c rfl).2
    simp only [List.mem_cons, List.not_mem_nil, or_false, not_or] at other
    simp [readPower, other]

/-- An exponent with its sign, after the mark `e`. -/
def powered (size : Int) (power : List Char) : List Char :=
  'e' :: (if size < 0 then '-' else '+') :: power

theorem readPower_powered {size : Int} (digits : Digits power) (some : power ≠ [])
    (value : number power = size.natAbs) (ends : Ends rest) :
    readPower (powered size power ++ rest) = .some (.some size, rest) := by
  have span := spanDigits_append_of_digits digits fun c first => (ends c first).1
  unfold readPower powered
  split_ifs with sign
  all_goals
    simp only [List.cons_append, decide_true, Bool.true_or, if_true, span]
    cases power with
    | nil => exact absurd rfl some
    | cons c tail =>
      simp only [value, Bool.false_eq_true, if_false]
      congr 3
      omega

/-! Whole numbers -/

theorem readNumber_toDigits (n : Nat) (ends : Ends rest) :
    readNumber limit negative (Nat.toDigits 10 n ++ rest) =
      if limit < (Nat.toDigits 10 n).length then none
      else some (int (if negative then -(n : Int) else n), rest) := by
  have places := readPlaces_pointed [] rest (fun _ member => nomatch member)
    fun c first => ⟨(ends c first).1, fun same => (ends c first).2 (by simp [same])⟩
  rw [pointed, if_pos rfl, List.nil_append, if_pos rfl] at places
  unfold readNumber
  rw [readWhole_append (Whole.toDigits n) fun c first => (ends c first).1]
  simp only [Option.bind_eq_bind, Option.bind_some, places, readPower_ends ends, number_toDigits]
  split <;> rfl

/-! Floats -/

theorem readNumber_places (negative : Bool) (shape : Whole whole) (few : whole.length ≤ limit)
    (digits : Digits places) (some : places ≠ []) (ends : Ends rest) :
    readNumber limit negative (whole ++ '.' :: places ++ rest) = .some
      (float (Binary64.ofDecimal negative (number (whole ++ places)) (-places.length)), rest) := by
  have read := readPlaces_pointed places rest digits
    fun c first => ⟨(ends c first).1, fun same => (ends c first).2 (by simp [same])⟩
  rw [pointed, if_neg some, if_neg some] at read
  unfold readNumber
  rw [List.append_assoc, readWhole_append shape (by rintro _ ⟨⟩; rfl)]
  simp only [Option.bind_eq_bind, Option.bind_some, if_neg (Nat.not_lt.mpr few), read,
    readPower_ends ends, Option.getD_some, Option.getD_none, zero_sub]

theorem readNumber_powered (negative : Bool) {size : Int} (shape : Whole whole)
    (few : whole.length ≤ limit) (digits : Digits places) (powers : Digits power) (some : power ≠ [])
    (value : number power = size.natAbs) (ends : Ends rest) :
    readNumber limit negative (whole ++ pointed places ++ powered size power ++ rest) = .some
      (float (Binary64.ofDecimal negative (number (whole ++ places)) (size - places.length)),
        rest) := by
  have read := readPlaces_pointed places (powered size power ++ rest) digits
    (by rintro _ ⟨⟩; decide)
  have stop : ∀ c ∈ (pointed places ++ (powered size power ++ rest)).head?, isDigit c = false := by
    unfold pointed
    split <;> rintro _ ⟨⟩ <;> rfl
  unfold readNumber
  rw [List.append_assoc, List.append_assoc, readWhole_append shape stop]
  simp only [Option.bind_eq_bind, Option.bind_some, if_neg (Nat.not_lt.mpr few), read,
    readPower_powered powers some value ends]
  cases places with
  | nil => simp
  | cons c tail => simp

/-! Layouts -/

/-- Written without an exponent, a decimal is read as the same digits before the same power of ten,
up to a zero behind them. -/
theorem readNumber_positional (negative : Bool) {n : Nat} {exponent : Int} (some : n ≠ 0)
    (room : 0 < limit) (few : (Nat.toDigits 10 n).length + exponent ≤ limit) (ends : Ends rest) :
    ∃ (digits : Nat) (power : Int), (digits : ℚ) * 10 ^ power = n * 10 ^ exponent ∧
      readNumber limit negative (DecimalLayout.positional (Nat.toDigits 10 n) exponent ++ rest) =
        .some (float (Binary64.ofDecimal negative digits power), rest) := by
  have all := digits_toDigits n
  unfold DecimalLayout.positional DecimalLayout.zeros
  dsimp only
  split_ifs with large middle
  · have shape : Whole (Nat.toDigits 10 n ++ List.replicate exponent.toNat '0') := by
      refine .of_head? some (all.append (digits_replicate_zero _)) ?_
      rw [List.head?_append_of_ne_nil _ Nat.toDigits_ne_nil]
    have short : (Nat.toDigits 10 n ++ List.replicate exponent.toNat '0').length ≤ limit := by
      rw [List.length_append, List.length_replicate]
      omega
    have read := readNumber_places negative shape short (digits_replicate_zero 1)
      (by decide) ends
    refine ⟨_, _, ?_, read⟩
    rw [number_append, number_replicate_zero, number_append, number_replicate_zero, number_toDigits,
      List.length_replicate, List.length_replicate]
    have power : (10 : ℚ) ^ exponent = 10 ^ exponent.toNat := by
      rw [← zpow_natCast, Int.toNat_of_nonneg large]
    rw [power, zpow_neg, zpow_natCast]
    push_cast
    ring
  · have shape : Whole ((Nat.toDigits 10 n).take
        ((Nat.toDigits 10 n).length + exponent).toNat) := by
      refine .of_head? some (fun c member => all c (List.mem_of_mem_take member)) ?_
      rw [List.head?_take, if_neg (by omega)]
    have short : ((Nat.toDigits 10 n).take
        ((Nat.toDigits 10 n).length + exponent).toNat).length ≤ limit := by
      rw [List.length_take]
      omega
    have places : (Nat.toDigits 10 n).drop ((Nat.toDigits 10 n).length + exponent).toNat ≠ [] := by
      rw [Ne, List.drop_eq_nil_iff]
      omega
    have read := readNumber_places negative shape short
      (fun c member => all c (List.mem_of_mem_drop member)) places ends
    refine ⟨_, _, ?_, read⟩
    rw [List.take_append_drop, number_toDigits, List.length_drop]
    congr 2
    omega
  · have read := readNumber_places negative Whole.zero room
      ((digits_replicate_zero (-(((Nat.toDigits 10 n).length : Int) + exponent)).toNat).append all)
      (List.append_ne_nil_of_right_ne_nil _ Nat.toDigits_ne_nil) ends
    refine ⟨_, _, ?_, read⟩
    have value : number (['0'] ++ (List.replicate
        (-((Nat.toDigits 10 n).length + exponent)).toNat '0' ++ Nat.toDigits 10 n)) = n := by
      rw [← List.replicate_one, number_zeros_append, number_zeros_append, number_toDigits]
    rw [value, List.length_append, List.length_replicate]
    congr 2
    omega

theorem readNumber_exponential (layout : DecimalLayout) (negative : Bool) {n : Nat}
    (scientific : Int) (some : n ≠ 0) (room : 0 < limit) (ends : Ends rest) :
    readNumber limit negative (layout.exponential (Nat.toDigits 10 n) scientific ++ rest) =
      .some (float (Binary64.ofDecimal negative n
        (scientific - ((Nat.toDigits 10 n).length - 1 : Nat))), rest) := by
  have all := digits_toDigits n
  have powers : Digits (DecimalLayout.zeros (layout.exponentWidth -
      (Nat.toDigits 10 scientific.natAbs).length) ++ Nat.toDigits 10 scientific.natAbs) :=
    (digits_replicate_zero _).append (digits_toDigits _)
  cases written : Nat.toDigits 10 n with
  | nil => exact absurd written Nat.toDigits_ne_nil
  | cons c tail =>
    have value : number ([c] ++ tail) = n := by
      rw [List.singleton_append, ← written, number_toDigits]
    rw [written] at all
    have first : Digits [c] ∧ Digits tail :=
      ⟨fun d member => all d (List.mem_cons.mpr (.inl (List.mem_singleton.mp member))),
        fun d member => all d (List.mem_cons_of_mem c member)⟩
    have shape : Whole [c] := .of_head? some first.1 (by rw [written]; rfl)
    have size : number (DecimalLayout.zeros (layout.exponentWidth -
        (Nat.toDigits 10 scientific.natAbs).length) ++ Nat.toDigits 10 scientific.natAbs) =
          scientific.natAbs := by
      rw [DecimalLayout.zeros, number_zeros_append, number_toDigits]
    have read := readNumber_powered negative shape room first.2 powers
      (List.append_ne_nil_of_right_ne_nil _ Nat.toDigits_ne_nil) size ends
    have text : layout.exponential (c :: tail) scientific = [c] ++ pointed tail ++
        powered scientific (DecimalLayout.zeros (layout.exponentWidth -
          (Nat.toDigits 10 scientific.natAbs).length) ++ Nat.toDigits 10 scientific.natAbs) := by
      unfold DecimalLayout.exponential pointed powered
      cases tail with
      | nil => simp
      | cons d tail => simp
    rw [text, read, value]
    rfl

/-- A finite float is written so that it is read as itself. -/
theorem readNumber_magnitude {layout : DecimalLayout} {x : Binary64} (finite : x.isFinite = true)
    (room : 0 < limit) (few : layout.greatestPositional < limit) (ends : Ends rest) :
    readNumber limit x.isNegative (layout.magnitude x ++ rest) = some (float x, rest) := by
  unfold DecimalLayout.magnitude
  split_ifs with zero
  · have read := readNumber_places x.isNegative Whole.zero room
      (digits_replicate_zero 1) (by decide) ends
    have same : Binary64.ofDecimal x.isNegative 0 (-1) = x := Binary64.zero_of_mantissa zero
    have value : number (['0'] ++ List.replicate 1 '0') = 0 := rfl
    rw [value, List.length_replicate, Nat.cast_one, same] at read
    exact read
  · have reaches := Binary64.reaches_shortest zero
    have some : x.shortest.1 ≠ 0 := by
      intro none
      have positive := reaches.pos zero
      simp [none] at positive
    have length := Nat.length_toDigits_pos (b := 10) (n := x.shortest.1)
    dsimp only
    split_ifs with positional
    · rw [Bool.and_eq_true, decide_eq_true_eq, decide_eq_true_eq] at positional
      have few : (Nat.toDigits 10 x.shortest.1).length + x.shortest.2 ≤ limit := by omega
      obtain ⟨digits, power, value, read⟩ := readNumber_positional x.isNegative
        some room few ends
      rw [read, Binary64.ofDecimal_eq finite zero (value ▸ reaches)]
    · have read := readNumber_exponential layout x.isNegative
        (x.shortest.2 + (Nat.toDigits 10 x.shortest.1).length - 1) some room ends
      have power : x.shortest.2 + (Nat.toDigits 10 x.shortest.1).length - 1 -
          ((Nat.toDigits 10 x.shortest.1).length - 1 : Nat) = x.shortest.2 := by omega
      rw [read, power, Binary64.ofDecimal_eq finite zero reaches]

end Value

end FactModel
