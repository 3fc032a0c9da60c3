import FactModel.Binary64.Decimal
import Mathlib.Algebra.Order.Field.Power
import Mathlib.Tactic.FieldSimp
import Mathlib.Tactic.Linarith
import Mathlib.Tactic.Positivity
import Mathlib.Tactic.Ring

/-!
Rounding to binary64. A finite number is told by its sign, its power and its mantissa, and every
rational within half a gap of its magnitude rounds back to it.
-/

namespace FactModel

@[simp] theorem cast_twoTo (n : Nat) : ((twoTo n : Nat) : ℚ) = 2 ^ n := by
  show ((2 ^ n : Nat) : ℚ) = 2 ^ n
  exact Nat.cast_pow 2 n

@[simp] theorem cast_tenTo (n : Nat) : ((tenTo n : Nat) : ℚ) = 10 ^ n := by
  show ((10 ^ n : Nat) : ℚ) = 10 ^ n
  exact Nat.cast_pow 10 n

theorem twoTo_pos (n : Nat) : 0 < twoTo n := Nat.pow_pos (by decide)

theorem tenTo_pos (n : Nat) : 0 < tenTo n := Nat.pow_pos (by decide)

theorem two_zpow_add (p : Int) (n : Nat) : (2 : ℚ) ^ (p + n) = 2 ^ n * 2 ^ p := by
  rw [zpow_add₀ two_ne_zero, zpow_natCast, mul_comm]

theorem two_pow_le_ten_pow {n k : Nat} (less : n ≤ 3 * k) : (2 : ℚ) ^ n ≤ 10 ^ k := by
  calc (2 : ℚ) ^ n ≤ 2 ^ (3 * k) := pow_le_pow_right₀ one_le_two less
    _ = (2 ^ 3) ^ k := pow_mul 2 3 k
    _ ≤ 10 ^ k := pow_le_pow_left₀ (by norm_num) (by norm_num) k

/-- A power is the quotient of the two whole powers of which one is trivial. -/
theorem zpow_eq_div (b : ℚ) (z : Int) : b ^ z = b ^ z.toNat / b ^ (-z).toNat := by
  obtain ⟨n, rfl | rfl⟩ := z.eq_nat_or_neg
  · simp
  · simp [zpow_neg]

theorem scaled_lt_iff (num den : Nat) (z : Int) :
    num * twoTo (-z).toNat < den * twoTo z.toNat ↔ (num : ℚ) < den * 2 ^ z := by
  have unit : (0 : ℚ) < 2 ^ (-z).toNat := by positivity
  rw [zpow_eq_div 2 z, ← mul_div_assoc, lt_div_iff₀ unit]
  exact_mod_cast Iff.rfl

/-! Rounding to integers -/

theorem roundHalfEven_eq {num den k : Nat} (positive : 0 < den)
    (low : (k : ℚ) - 1 / 2 ≤ num / den) (high : (num : ℚ) / den ≤ k + 1 / 2)
    (tie : k % 2 = 0 ∨ (k : ℚ) - 1 / 2 < num / den ∧ (num : ℚ) / den < k + 1 / 2) :
    roundHalfEven num den = k := by
  have bottom : (0 : ℚ) < den := by exact_mod_cast positive
  rw [le_div_iff₀ bottom] at low
  rw [div_le_iff₀ bottom] at high
  rw [lt_div_iff₀ bottom, div_lt_iff₀ bottom] at tie
  -- the same bounds doubled, between whole numbers
  have least : 2 * (k * den) ≤ 2 * num + den := by
    have bound : (2 : ℚ) * (k * den) ≤ 2 * num + den := by linarith
    exact_mod_cast bound
  have most : 2 * num ≤ 2 * (k * den) + den := by
    have bound : (2 : ℚ) * num ≤ 2 * (k * den) + den := by linarith
    exact_mod_cast bound
  have even : k % 2 = 0 ∨ 2 * (k * den) < 2 * num + den ∧ 2 * num < 2 * (k * den) + den := by
    refine tie.imp_right fun strict => ⟨?_, ?_⟩
    · have bound : (2 : ℚ) * (k * den) < 2 * num + den := by linarith [strict.1]
      exact_mod_cast bound
    · have bound : (2 : ℚ) * num < 2 * (k * den) + den := by linarith [strict.2]
      exact_mod_cast bound
  have split := Nat.div_add_mod num den
  have small := Nat.mod_lt num positive
  have cases : k = num / den ∨ k = num / den + 1 := by
    have above : k < num / den + 2 := by
      by_contra far
      have product := Nat.mul_le_mul_right den (Nat.le_of_not_lt far)
      have expand : (num / den + 2) * den = den * (num / den) + 2 * den := by ring
      omega
    have below : num / den ≤ k := by
      by_contra far
      have product := Nat.mul_le_mul_right den (Nat.lt_of_not_le far)
      have expand : (k + 1) * den = k * den + den := by ring
      have order : num / den * den = den * (num / den) := by ring
      rw [Nat.succ_eq_add_one] at product
      omega
    omega
  unfold roundHalfEven
  dsimp only
  rcases cases with same | same
  · have product : k * den = den * (num / den) := by rw [same]; ring
    split_ifs <;> omega
  · have product : k * den = den * (num / den) + den := by rw [same]; ring
    split_ifs <;> omega

/-- A quotient is the quotient of its scaled terms, times the scale. -/
theorem div_eq_scaled (num den : Nat) (p : Int) : (num : ℚ) / den =
    ((num * twoTo (-p).toNat : Nat) : ℚ) / ((den * twoTo p.toNat : Nat) : ℚ) * 2 ^ p := by
  have down : (2 : ℚ) ^ (-p).toNat ≠ 0 := by positivity
  have up : (2 : ℚ) ^ p.toNat ≠ 0 := by positivity
  rw [zpow_eq_div 2 p]
  push_cast [cast_twoTo]
  field_simp

namespace Binary64

/-! The parts of a number -/

theorem exponentField_lt (x : Binary64) : x.exponentField < 2048 :=
  Nat.mod_lt _ (twoTo_pos 11)

theorem fraction_lt (x : Binary64) : x.fraction < 2 ^ 52 := Nat.mod_lt _ (twoTo_pos 52)

theorem withSign_fields (x : Binary64) :
    withSign x.isNegative (x.exponentField * 2 ^ 52 + x.fraction) = x := by
  obtain ⟨bits⟩ := x
  have bound := bits.toNat_lt
  have value : (if (bits.toNat / 2 ^ 63 == 1) = true then
      2 ^ 63 + (bits.toNat / 2 ^ 52 % 2 ^ 11 * 2 ^ 52 + bits.toNat % 2 ^ 52) else
      bits.toNat / 2 ^ 52 % 2 ^ 11 * 2 ^ 52 + bits.toNat % 2 ^ 52) = bits.toNat := by
    simp only [beq_iff_eq]
    split <;> omega
  have powers : twoTo 63 = 2 ^ 63 ∧ twoTo 52 = 2 ^ 52 ∧ twoTo 11 = 2 ^ 11 := ⟨rfl, rfl, rfl⟩
  simp only [withSign, isNegative, exponentField, fraction, powers, value, UInt64.ofNat_toNat]

theorem zero_of_mantissa {x : Binary64} (none : x.mantissa = 0) : zero x.isNegative = x := by
  have unit : twoTo 52 = 2 ^ 52 := rfl
  have fields : x.exponentField * 2 ^ 52 + x.fraction = 0 := by
    unfold mantissa at none
    split at none <;> omega
  have same := x.withSign_fields
  rwa [fields] at same

theorem infinity_of_not_finite {x : Binary64} (unbounded : x.isFinite = false)
    (number : x.isNaN = false) : infinity x.isNegative = x := by
  have field : x.exponentField = 2047 := by simpa [isFinite] using unbounded
  have none : x.fraction = 0 := by simpa [isNaN, field] using number
  have same := x.withSign_fields
  rwa [field, none] at same

theorem mantissa_lt (x : Binary64) : x.mantissa < 2 ^ 53 := by
  have small := x.fraction_lt
  unfold mantissa
  have unit : twoTo 52 = 2 ^ 52 := rfl
  split <;> omega

/-- The bits below the sign count the numbers of a power after those of all lesser powers. -/
theorem fields_eq (x : Binary64) : x.exponentField * 2 ^ 52 + x.fraction =
    (x.power + 1074).toNat * 2 ^ 52 + x.mantissa := by
  have unit : twoTo 52 = 2 ^ 52 := rfl
  unfold power mantissa
  split <;> omega

theorem magnitude_lt (x : Binary64) (finite : x.isFinite = true) :
    (x.power + 1074).toNat * 2 ^ 52 + x.mantissa < 2047 * 2 ^ 52 := by
  have field := x.exponentField_lt
  have small := x.fraction_lt
  have apart : x.exponentField ≠ 2047 := by simpa [isFinite] using finite
  rw [← x.fields_eq]
  omega

theorem power_ge (x : Binary64) : -1074 ≤ x.power := by
  unfold power
  split <;> omega

theorem power_le (x : Binary64) (finite : x.isFinite = true) : x.power ≤ 971 := by
  have field := x.exponentField_lt
  have apart : x.exponentField ≠ 2047 := by simpa [isFinite] using finite
  unfold power
  split <;> omega

/-! What rounds to a number -/

/-- In quarters of its unit, how far below a number the interval begins that rounds to it: the gap
below a power of two is half as wide. -/
def lowGap (x : Binary64) : Nat := if x.fraction = 0 && 1 < x.exponentField then 1 else 2

/-- The magnitudes that round to a number. The ends of the interval belong to even mantissas. -/
structure Reaches (x : Binary64) (q : ℚ) : Prop where
  low : ((4 * x.mantissa : ℚ) - x.lowGap) / 4 * 2 ^ x.power ≤ q
  high : q ≤ ((4 * x.mantissa : ℚ) + 2) / 4 * 2 ^ x.power
  tie : x.mantissa % 2 = 0 ∨ ((4 * x.mantissa : ℚ) - x.lowGap) / 4 * 2 ^ x.power < q ∧
    q < ((4 * x.mantissa : ℚ) + 2) / 4 * 2 ^ x.power

theorem lowGap_cases (x : Binary64) :
    x.lowGap = 2 ∧ (x.power = -1074 ∨ 2 ^ 52 < x.mantissa) ∨
      x.lowGap = 1 ∧ x.mantissa = 2 ^ 52 ∧ -1074 < x.power := by
  have unit : twoTo 52 = 2 ^ 52 := rfl
  unfold lowGap mantissa power
  split
  · rename_i bottom
    rw [Bool.and_eq_true, decide_eq_true_eq, decide_eq_true_eq] at bottom
    right
    split <;> omega
  · rename_i wide
    rw [Bool.and_eq_true, decide_eq_true_eq, decide_eq_true_eq] at wide
    left
    split <;> omega

theorem binaryExponent_spec {num den : Nat} (top : num ≠ 0) (bottom : den ≠ 0) :
    (2 : ℚ) ^ binaryExponent num den ≤ num / den ∧
      (num : ℚ) / den < 2 ^ (binaryExponent num den + 1) := by
  have positive : (0 : ℚ) < den := by exact_mod_cast Nat.pos_of_ne_zero bottom
  have two : (2 : ℚ) ≠ 0 := by norm_num
  have numLow : (2 : ℚ) ^ num.log2 ≤ num := by exact_mod_cast Nat.log2_self_le top
  have numHigh : (num : ℚ) < 2 ^ num.log2 * 2 := by exact_mod_cast Nat.lt_log2_self (n := num)
  have denLow : (2 : ℚ) ^ den.log2 ≤ den := by exact_mod_cast Nat.log2_self_le bottom
  have denHigh : (den : ℚ) < 2 ^ den.log2 * 2 := by exact_mod_cast Nat.lt_log2_self (n := den)
  have unit : (0 : ℚ) < 2 ^ den.log2 := by positivity
  have other : (0 : ℚ) < 2 ^ num.log2 := by positivity
  rw [le_div_iff₀ positive, div_lt_iff₀ positive, mul_comm _ (den : ℚ), mul_comm _ (den : ℚ)]
  unfold binaryExponent
  dsimp only
  have power : (2 : ℚ) ^ ((num.log2 : Int) - den.log2) = 2 ^ num.log2 / 2 ^ den.log2 := by
    rw [zpow_sub₀ two, zpow_natCast, zpow_natCast]
  split
  · rename_i less
    rw [scaled_lt_iff] at less
    refine ⟨?_, by simpa using less⟩
    rw [zpow_sub_one₀ two, power]
    have bound : (den : ℚ) * (2 ^ num.log2 / 2 ^ den.log2 * 2⁻¹) =
        den / (2 ^ den.log2 * 2) * 2 ^ num.log2 := by field_simp
    rw [bound]
    have part : (den : ℚ) / (2 ^ den.log2 * 2) ≤ 1 := by
      rw [div_le_one (by positivity)]
      exact denHigh.le
    nlinarith
  · rename_i enough
    rw [scaled_lt_iff] at enough
    refine ⟨not_lt.mp enough, ?_⟩
    rw [zpow_add_one₀ two, power]
    have bound : (den : ℚ) * (2 ^ num.log2 / 2 ^ den.log2 * 2) =
        den / 2 ^ den.log2 * (2 ^ num.log2 * 2) := by field_simp
    rw [bound]
    have part : 1 ≤ (den : ℚ) / 2 ^ den.log2 := by
      rw [one_le_div unit]
      exact denLow
    nlinarith

variable {x : Binary64} {q : ℚ}

theorem unit_pos (x : Binary64) : (0 : ℚ) < 2 ^ x.power := by positivity

theorem lowGap_le (x : Binary64) : (x.lowGap : ℚ) ≤ 2 := by
  rcases x.lowGap_cases with ⟨two, _⟩ | ⟨one, _⟩
  · rw [two]; norm_num
  · rw [one]; norm_num

theorem Reaches.pos (reaches : x.Reaches q) (nonzero : x.mantissa ≠ 0) : 0 < q := by
  have one : (1 : ℚ) ≤ x.mantissa := by exact_mod_cast Nat.one_le_iff_ne_zero.mpr nonzero
  have part : (0 : ℚ) < (4 * x.mantissa - x.lowGap) / 4 := by linarith [x.lowGap_le]
  exact lt_of_lt_of_le (mul_pos part x.unit_pos) reaches.low

theorem Reaches.gt_least (reaches : x.Reaches q) (nonzero : x.mantissa ≠ 0) :
    (1 / 2 : ℚ) ^ 1075 ≤ q := by
  have one : (1 : ℚ) ≤ x.mantissa := by exact_mod_cast Nat.one_le_iff_ne_zero.mpr nonzero
  have part : (1 : ℚ) / 2 ≤ (4 * x.mantissa - x.lowGap) / 4 := by linarith [x.lowGap_le]
  have unit : (2 : ℚ) ^ (-1074 : Int) ≤ 2 ^ x.power :=
    zpow_le_zpow_right₀ (by norm_num) x.power_ge
  calc (1 / 2 : ℚ) ^ 1075 = 1 / 2 * 2 ^ (-1074 : Int) := by
        rw [pow_succ', zpow_neg, one_div, inv_pow]; norm_cast
    _ ≤ 1 / 2 * 2 ^ x.power := by linarith
    _ ≤ (4 * x.mantissa - x.lowGap) / 4 * 2 ^ x.power :=
        mul_le_mul_of_nonneg_right part x.unit_pos.le
    _ ≤ q := reaches.low

theorem Reaches.lt_next (reaches : x.Reaches q) : q < 2 ^ (x.power + 53) := by
  have bound : (x.mantissa : ℚ) + 1 ≤ 2 ^ 53 := by exact_mod_cast x.mantissa_lt
  have part : ((4 * x.mantissa : ℚ) + 2) / 4 < 2 ^ 53 := by linarith
  calc q ≤ ((4 * x.mantissa : ℚ) + 2) / 4 * 2 ^ x.power := reaches.high
    _ < 2 ^ 53 * 2 ^ x.power := mul_lt_mul_of_pos_right part x.unit_pos
    _ = 2 ^ (x.power + 53) := (two_zpow_add x.power 53).symm

/-- The grid on which a magnitude is rounded is that of the number it reaches, except that just
below a power of two it is that of the numbers before it. -/
theorem Reaches.grid (reaches : x.Reaches q) {e : Int} (low : (2 : ℚ) ^ e ≤ q)
    (high : q < 2 ^ (e + 1)) : max (e - 52) (-1074) = x.power ∨
      x.lowGap = 1 ∧ x.mantissa = 2 ^ 52 ∧ -1074 < x.power ∧ q < 2 ^ (x.power + 52) ∧
        max (e - 52) (-1074) = x.power - 1 := by
  have one : (1 : ℚ) < 2 := by norm_num
  have least := x.power_ge
  have most : e < x.power + 53 := (zpow_lt_zpow_iff_right₀ one).mp (low.trans_lt reaches.lt_next)
  have unit := x.unit_pos
  have shift : (2 : ℚ) ^ (x.power + 52) = 2 ^ 52 * 2 ^ x.power := two_zpow_add x.power 52
  by_cases normal : (2 : ℚ) ^ (x.power + 52) ≤ q
  · have above : x.power + 52 < e + 1 :=
      (zpow_lt_zpow_iff_right₀ one).mp (normal.trans_lt high)
    left
    omega
  · have less := not_le.mp normal
    have below : e < x.power + 52 := (zpow_lt_zpow_iff_right₀ one).mp (low.trans_lt less)
    rcases x.lowGap_cases with ⟨two, lowest | inside⟩ | ⟨single, power, above⟩
    · left
      omega
    · -- half a gap below such a mantissa is still above the power of two
      have bound : (2 : ℚ) ^ 52 + 1 ≤ x.mantissa := by exact_mod_cast inside
      have start := reaches.low
      rw [two] at start
      rw [shift] at less
      have part : (2 : ℚ) ^ 52 ≤ (4 * x.mantissa - (2 : Nat)) / 4 := by push_cast; linarith
      have reached := mul_le_mul_of_nonneg_right part unit.le
      linarith
    · right
      refine ⟨single, power, above, less, ?_⟩
      have start := reaches.low
      rw [single, power] at start
      have half : (2 : ℚ) ^ (x.power + 51) = 2 ^ 51 * 2 ^ x.power := two_zpow_add x.power 51
      have part : (2 : ℚ) ^ 51 ≤ (4 * (2 ^ 52 : Nat) - (1 : Nat)) / 4 := by norm_num
      have reached := mul_le_mul_of_nonneg_right part unit.le
      have above : x.power + 51 < e + 1 :=
        (zpow_lt_zpow_iff_right₀ one).mp (half.le.trans (reached.trans start) |>.trans_lt high)
      omega

theorem rounded_eq {num den k : Nat} {p : Int} (positive : 0 < den)
    (low : ((k : ℚ) - 1 / 2) * 2 ^ p ≤ num / den) (high : (num : ℚ) / den ≤ (k + 1 / 2) * 2 ^ p)
    (tie : k % 2 = 0 ∨
      ((k : ℚ) - 1 / 2) * 2 ^ p < num / den ∧ (num : ℚ) / den < (k + 1 / 2) * 2 ^ p) :
    roundHalfEven (num * twoTo (-p).toNat) (den * twoTo p.toNat) = k := by
  have unit : (0 : ℚ) < 2 ^ p := by positivity
  rw [div_eq_scaled num den p] at low high tie
  apply roundHalfEven_eq (Nat.mul_pos positive (twoTo_pos _))
  · exact le_of_mul_le_mul_right low unit
  · exact le_of_mul_le_mul_right high unit
  · exact tie.imp_right fun strict =>
      ⟨lt_of_mul_lt_mul_right strict.1 unit.le, lt_of_mul_lt_mul_right strict.2 unit.le⟩

/-- A quotient that reaches a number rounds to it. -/
theorem ofRatio_eq {num den : Nat} (finite : x.isFinite = true) (nonzero : x.mantissa ≠ 0)
    (bottom : den ≠ 0) (reaches : x.Reaches (num / den)) : ofRatio x.isNegative num den = x := by
  have positive := Nat.pos_of_ne_zero bottom
  have top : num ≠ 0 := by
    rintro rfl
    have some := reaches.pos nonzero
    simp at some
  have unit : twoTo 52 = 2 ^ 52 := rfl
  have bound := x.magnitude_lt finite
  have fields : withSign x.isNegative ((x.power + 1074).toNat * 2 ^ 52 + x.mantissa) = x := by
    rw [← x.fields_eq]
    exact x.withSign_fields
  obtain ⟨low, high⟩ := binaryExponent_spec top bottom
  unfold ofRatio
  rw [if_neg top]
  dsimp only
  rcases reaches.grid low high with same | ⟨single, mantissa, above, less, next⟩
  · have rounded : roundHalfEven (num * twoTo (-x.power).toNat) (den * twoTo x.power.toNat) =
        x.mantissa := by
      have part : (x.mantissa : ℚ) - 1 / 2 ≤ (4 * x.mantissa - x.lowGap) / 4 := by
        linarith [x.lowGap_le]
      have start := mul_le_mul_of_nonneg_right part x.unit_pos.le
      have finish : ((4 * x.mantissa : ℚ) + 2) / 4 = x.mantissa + 1 / 2 := by ring
      obtain ⟨least, most, tie⟩ := reaches
      rw [finish] at most tie
      exact rounded_eq positive (start.trans least) most
        (tie.imp_right fun strict => ⟨start.trans_lt strict.1, strict.2⟩)
    rw [same, rounded, unit, Nat.min_eq_left bound.le, fields]
  · have rounded : roundHalfEven (num * twoTo (-(x.power - 1)).toNat)
        (den * twoTo (x.power - 1).toNat) = 2 ^ 53 := by
      have step : (2 : ℚ) ^ x.power = 2 * 2 ^ (x.power - 1) := by
        rw [zpow_sub_one₀ (by norm_num)]; ring
      have shift : (2 : ℚ) ^ (x.power + 52) = 2 ^ 52 * 2 ^ x.power := two_zpow_add x.power 52
      have start := reaches.low
      rw [single, mantissa, step] at start
      rw [shift, step] at less
      have even : (2 : Nat) ^ 53 % 2 = 0 := by norm_num
      refine rounded_eq (k := 2 ^ 53) positive ?_ ?_ (.inl even)
      · push_cast at start ⊢
        linarith
      · push_cast
        have unit : (0 : ℚ) < 2 ^ (x.power - 1) := by positivity
        linarith
    have magnitude : (x.power - 1 + 1074).toNat * 2 ^ 52 + 2 ^ 53 =
        (x.power + 1074).toNat * 2 ^ 52 + x.mantissa := by omega
    rw [next, rounded, unit, magnitude, Nat.min_eq_left bound.le, fields]

theorem exponent_le_of_reaches {digits : Nat} {exponent : Int} (finite : x.isFinite = true)
    (some : digits ≠ 0) (reaches : x.Reaches (digits * 10 ^ exponent)) : exponent ≤ 400 := by
  by_contra large
  have one : (1 : ℚ) ≤ digits := by exact_mod_cast Nat.one_le_iff_ne_zero.mpr some
  have positive : (0 : ℚ) < 10 ^ exponent := by positivity
  have power := x.power_le finite
  have impossible : (10 : ℚ) ^ (401 : Nat) < 10 ^ (401 : Nat) := by
    calc (10 : ℚ) ^ (401 : Nat) = 10 ^ ((401 : Nat) : Int) := (zpow_natCast 10 401).symm
      _ ≤ 10 ^ exponent := zpow_le_zpow_right₀ (by norm_num) (by omega)
      _ ≤ digits * 10 ^ exponent := le_mul_of_one_le_left positive.le one
      _ < 2 ^ (x.power + 53) := reaches.lt_next
      _ ≤ 2 ^ ((1024 : Nat) : Int) := zpow_le_zpow_right₀ one_le_two (by omega)
      _ = 2 ^ (1024 : Nat) := zpow_natCast 2 1024
      _ ≤ 10 ^ (401 : Nat) := two_pow_le_ten_pow (by norm_num)
  exact lt_irrefl _ impossible

theorem exponent_ge_of_reaches {digits : Nat} {exponent : Int} (nonzero : x.mantissa ≠ 0)
    (reaches : x.Reaches (digits * 10 ^ exponent)) : -(400 + digits.log2 : Int) ≤ exponent := by
  by_contra small
  have count : (digits : ℚ) < 2 ^ (digits.log2 + 1) := by
    exact_mod_cast Nat.lt_log2_self (n := digits)
  have positive : (0 : ℚ) < 10 ^ exponent := by positivity
  have unit : (10 : ℚ) ^ exponent ≤ (10 ^ (401 + digits.log2))⁻¹ := by
    rw [← zpow_natCast, ← zpow_neg]
    exact zpow_le_zpow_right₀ (by norm_num) (by push_cast; omega)
  have room : (2 : ℚ) ^ (digits.log2 + 1) * 2 ^ 1075 ≤ 10 ^ (401 + digits.log2) := by
    rw [← pow_add]
    exact two_pow_le_ten_pow (by omega)
  have impossible : (digits : ℚ) * 10 ^ exponent < digits * 10 ^ exponent := by
    calc (digits : ℚ) * 10 ^ exponent < 2 ^ (digits.log2 + 1) * 10 ^ exponent :=
          mul_lt_mul_of_pos_right count positive
      _ ≤ 2 ^ (digits.log2 + 1) * (10 ^ (401 + digits.log2))⁻¹ :=
          mul_le_mul_of_nonneg_left unit (by positivity)
      _ ≤ (1 / 2) ^ 1075 := by
          rw [← div_eq_mul_inv, one_div, inv_pow, div_le_iff₀ (by positivity), inv_mul_eq_div,
            le_div_iff₀ (by positivity)]
          exact room
      _ ≤ digits * 10 ^ exponent := reaches.gt_least nonzero
  exact lt_irrefl _ impossible

/-- A decimal that reaches a number reads as it. -/
theorem ofDecimal_eq {digits : Nat} {exponent : Int} (finite : x.isFinite = true)
    (nonzero : x.mantissa ≠ 0) (reaches : x.Reaches (digits * 10 ^ exponent)) :
    ofDecimal x.isNegative digits exponent = x := by
  have some : digits ≠ 0 := by
    rintro rfl
    have positive := reaches.pos nonzero
    simp at positive
  have most := exponent_le_of_reaches finite some reaches
  have least := exponent_ge_of_reaches nonzero reaches
  have value : ((digits * tenTo exponent.toNat : Nat) : ℚ) / (tenTo (-exponent).toNat : Nat) =
      digits * 10 ^ exponent := by
    rw [zpow_eq_div 10 exponent]
    push_cast [cast_tenTo]
    ring
  unfold ofDecimal
  rw [if_neg (by simp only [Bool.or_eq_true, decide_eq_true_eq]; omega), if_neg (by omega)]
  exact ofRatio_eq finite nonzero (tenTo_pos _).ne' (value ▸ reaches)

end Binary64

end FactModel
