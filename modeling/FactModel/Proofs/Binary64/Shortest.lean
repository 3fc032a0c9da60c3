import FactModel.Proofs.Binary64.Rounding
import Mathlib.Data.Nat.Cast.Order.Field

/-!
The shortest decimal of a number reads back to it: on the grid of seventeen places the nearest
point is closer than the ends of the interval that rounds to the number, and whatever point is
taken lies within that interval.
-/

namespace FactModel

theorem roundHalfEven_near (num : Nat) {den : Nat} (positive : 0 < den) :
    (num : ℚ) / den - 1 / 2 ≤ roundHalfEven num den ∧
      (roundHalfEven num den : ℚ) ≤ num / den + 1 / 2 := by
  have bottom : (0 : ℚ) < den := by exact_mod_cast positive
  have split := Nat.div_add_mod num den
  have small := Nat.mod_lt num positive
  have cases : (roundHalfEven num den = num / den ∧ 2 * (num % den) ≤ den) ∨
      roundHalfEven num den = num / den + 1 ∧ den ≤ 2 * (num % den) := by
    unfold roundHalfEven
    dsimp only
    split_ifs <;> omega
  have value : (num : ℚ) = den * (num / den : Nat) + (num % den : Nat) := by
    exact_mod_cast split.symm
  rw [sub_le_iff_le_add, div_le_iff₀ bottom, ← sub_le_iff_le_add, le_div_iff₀ bottom]
  rcases cases with ⟨same, less⟩ | ⟨same, more⟩
  · have half : 2 * ((num % den : Nat) : ℚ) ≤ den := by exact_mod_cast less
    have some : (0 : ℚ) ≤ (num % den : Nat) := by positivity
    rw [same]
    constructor <;> linarith
  · have half : (den : ℚ) ≤ 2 * (num % den : Nat) := by exact_mod_cast more
    have rest : ((num % den : Nat) : ℚ) ≤ den := by exact_mod_cast small.le
    rw [same]
    push_cast
    constructor <;> linarith

theorem cast_div_le_iff {a b c d : Nat} (left : 0 < b) (right : 0 < d) :
    (a : ℚ) / b ≤ c / d ↔ a * d ≤ c * b := by
  have leftUnit : (0 : ℚ) < b := by exact_mod_cast left
  have rightUnit : (0 : ℚ) < d := by exact_mod_cast right
  rw [div_le_div_iff₀ leftUnit rightUnit]
  exact_mod_cast Iff.rfl

theorem cast_div_lt_iff {a b c d : Nat} (left : 0 < b) (right : 0 < d) :
    (a : ℚ) / b < c / d ↔ a * d < c * b := by
  rw [← not_le, cast_div_le_iff right left, not_le]

theorem decimal_eq (digits : Nat) (exponent : Int) : (digits : ℚ) * 10 ^ exponent =
    (digits * tenTo exponent.toNat : Nat) / (tenTo (-exponent).toNat : Nat) := by
  rw [zpow_eq_div 10 exponent]
  push_cast [cast_tenTo]
  ring

theorem ten_pow_le_of_length {n : Nat} (some : n ≠ 0) :
    10 ^ ((Nat.toDigits 10 n).length - 1) ≤ n := by
  by_contra less
  rcases Nat.eq_zero_or_pos ((Nat.toDigits 10 n).length - 1) with zero | positive
  · rw [zero] at less
    omega
  · have short := (Nat.length_toDigits_le_iff (by decide) positive).mpr (Nat.lt_of_not_le less)
    have some := Nat.length_toDigits_pos (b := 10) (n := n)
    omega

namespace Binary64

variable {x : Binary64} {q : ℚ}

/-! The interval of a number -/

theorem den_pos (x : Binary64) : 0 < x.roundingInterval.den := twoTo_pos _

/-- Quarters of the unit, over the common denominator of the interval. -/
theorem quarter_eq (x : Binary64) (n : Nat) :
    (n : ℚ) / 4 * 2 ^ x.power = ((n * twoTo (x.power - 2).toNat : Nat) : ℚ) /
      (x.roundingInterval.den : Nat) := by
  have shift : (2 : ℚ) ^ x.power = 2 ^ (x.power - 2) * 4 := by
    have power : x.power = x.power - 2 + (2 : Nat) := by push_cast; ring
    rw [power, two_zpow_add, mul_comm]
    norm_num
  have other : -(x.power - 2) = 2 - x.power := by ring
  rw [shift, zpow_eq_div 2 (x.power - 2), other]
  show _ = _ / ((twoTo (2 - x.power).toNat : Nat) : ℚ)
  push_cast [cast_twoTo]
  ring

theorem value_eq (x : Binary64) :
    (x.roundingInterval.value : ℚ) / x.roundingInterval.den = x.mantissa * 2 ^ x.power := by
  have quarter := x.quarter_eq (4 * x.mantissa)
  have whole : ((4 * x.mantissa : Nat) : ℚ) / 4 = x.mantissa := by push_cast; ring
  rw [whole] at quarter
  exact quarter.symm

theorem contains_iff {digits : Nat} {exponent : Int} (nonzero : x.mantissa ≠ 0) :
    x.roundingInterval.contains digits exponent = true ↔ x.Reaches (digits * 10 ^ exponent) := by
  have gap : x.lowGap ≤ 4 * x.mantissa := by
    rcases x.lowGap_cases with ⟨two, _⟩ | ⟨one, _⟩ <;> omega
  have low : ((4 * x.mantissa : ℚ) - x.lowGap) / 4 * 2 ^ x.power =
      (x.roundingInterval.low : ℚ) / x.roundingInterval.den := by
    have whole : ((4 * x.mantissa - x.lowGap : Nat) : ℚ) = 4 * x.mantissa - x.lowGap := by
      push_cast [Nat.cast_sub gap]
      rfl
    rw [← whole]
    exact x.quarter_eq (4 * x.mantissa - x.lowGap)
  have high : ((4 * x.mantissa : ℚ) + 2) / 4 * 2 ^ x.power =
      (x.roundingInterval.high : ℚ) / x.roundingInterval.den := by
    have whole : ((4 * x.mantissa + 2 : Nat) : ℚ) = 4 * x.mantissa + 2 := by push_cast; rfl
    rw [← whole]
    exact x.quarter_eq (4 * x.mantissa + 2)
  have closed : x.roundingInterval.closed = decide (x.mantissa % 2 = 0) := rfl
  have unit := tenTo_pos (-exponent).toNat
  have reaches : x.Reaches (digits * 10 ^ exponent) ↔ _ ∧ _ ∧ _ :=
    ⟨fun h => ⟨h.low, h.high, h.tie⟩, fun h => ⟨h.1, h.2.1, h.2.2⟩⟩
  rw [reaches, low, high, decimal_eq, cast_div_le_iff x.den_pos unit,
    cast_div_le_iff unit x.den_pos, cast_div_lt_iff x.den_pos unit, cast_div_lt_iff unit x.den_pos]
  unfold RoundingInterval.contains
  rw [closed]
  by_cases even : x.mantissa % 2 = 0
  · simp [even]
  · simp only [even, decide_false, Bool.false_eq_true, if_false, Bool.and_eq_true,
      decide_eq_true_eq, false_or]
    exact ⟨fun strict => ⟨strict.1.le, strict.2.le, strict⟩, fun h => h.2.2⟩

/-! Places -/

/-- The first digit before the point, or the first that is not zero behind it, has a value of at
most the number. -/
theorem places_le (nonzero : x.mantissa ≠ 0) :
    (10 : ℚ) ^ (x.roundingInterval.places - 1) ≤ x.mantissa * 2 ^ x.power := by
  have ten : (10 : ℚ) ≠ 0 := by norm_num
  have bottom : (0 : ℚ) < x.roundingInterval.den := by exact_mod_cast x.den_pos
  rw [← x.value_eq]
  unfold RoundingInterval.places
  split
  · rename_i whole
    have some : x.roundingInterval.value / x.roundingInterval.den ≠ 0 :=
      (Nat.div_pos whole x.den_pos).ne'
    have length := Nat.length_toDigits_pos (b := 10)
      (n := x.roundingInterval.value / x.roundingInterval.den)
    have power : ((10 ^ ((Nat.toDigits 10
        (x.roundingInterval.value / x.roundingInterval.den)).length - 1) : Nat) : ℚ) ≤
          (x.roundingInterval.value / x.roundingInterval.den : Nat) :=
      Nat.cast_le.mpr (ten_pow_le_of_length some)
    calc (10 : ℚ) ^ (((Nat.toDigits 10
          (x.roundingInterval.value / x.roundingInterval.den)).length : Int) - 1)
        = (10 ^ ((Nat.toDigits 10
            (x.roundingInterval.value / x.roundingInterval.den)).length - 1) : Nat) := by
          rw [Nat.cast_pow, ← zpow_natCast, Nat.cast_sub length]
          norm_num
      _ ≤ _ := power
      _ ≤ (x.roundingInterval.value : ℚ) / x.roundingInterval.den := Nat.cast_div_le
  · rename_i fraction
    have behind : ∀ j : Nat, (10 : ℚ) ^ (-(j : Int) - 1) ≤
        x.roundingInterval.value / x.roundingInterval.den ↔
          x.roundingInterval.den ≤ x.roundingInterval.value * tenTo (j + 1) := by
      intro j
      have power : -(j : Int) - 1 = -((j + 1 : Nat) : Int) := by push_cast; ring
      rw [power, zpow_neg, zpow_natCast, inv_eq_one_div, div_le_div_iff₀ (by positivity) bottom,
        one_mul, ← cast_tenTo]
      exact_mod_cast Iff.rfl
    split
    · rename_i j found
      exact (behind j).mpr (by simpa using List.find?_some found)
    · -- even the least number has a digit among the first four hundred
      have one : (1 : ℚ) ≤ x.mantissa := by exact_mod_cast Nat.one_le_iff_ne_zero.mpr nonzero
      have apart : (2 : ℚ) ^ 1074 ≤ 10 ^ 401 := two_pow_le_ten_pow (by norm_num)
      rw [x.value_eq]
      calc (10 : ℚ) ^ (-400 - 1 : Int) = (10 ^ 401)⁻¹ := by
            rw [← zpow_natCast, ← zpow_neg]
            norm_num
        _ ≤ (2 ^ 1074)⁻¹ := inv_anti₀ (by positivity) apart
        _ = 2 ^ (-1074 : Int) := by
            rw [← zpow_natCast, ← zpow_neg]
            norm_num
        _ ≤ 2 ^ x.power := zpow_le_zpow_right₀ one_le_two x.power_ge
        _ ≤ x.mantissa * 2 ^ x.power := le_mul_of_one_le_left x.unit_pos.le one

/-! Points on a grid -/

/-- On a grid of steps that are small beside a number the nearest point rounds to it. -/
theorem reaches_nearest {exponent : Int}
    (fine : (10 : ℚ) ^ exponent * 10 ^ 16 ≤ x.mantissa * 2 ^ x.power) :
    x.Reaches (roundHalfEven (x.roundingInterval.value * tenTo (-exponent).toNat)
      (x.roundingInterval.den * tenTo exponent.toNat) * 10 ^ exponent) := by
  have step : (0 : ℚ) < 10 ^ exponent := by positivity
  have unit := x.unit_pos
  have scaled : ((x.roundingInterval.value * tenTo (-exponent).toNat : Nat) : ℚ) /
      (x.roundingInterval.den * tenTo exponent.toNat : Nat) =
        x.mantissa * 2 ^ x.power / 10 ^ exponent := by
    rw [← x.value_eq, zpow_eq_div 10 exponent]
    push_cast [cast_tenTo]
    field_simp
  obtain ⟨low, high⟩ := roundHalfEven_near
    (x.roundingInterval.value * tenTo (-exponent).toNat)
    (Nat.mul_pos x.den_pos (tenTo_pos exponent.toNat))
  rw [scaled] at low high
  generalize (roundHalfEven (x.roundingInterval.value * tenTo (-exponent).toNat)
    (x.roundingInterval.den * tenTo exponent.toNat) : ℚ) = point at *
  have above : x.mantissa * 2 ^ x.power - 10 ^ exponent / 2 ≤ point * 10 ^ exponent := by
    have product := mul_le_mul_of_nonneg_right low step.le
    rw [sub_mul, div_mul_cancel₀ _ step.ne'] at product
    linarith
  have below : point * 10 ^ exponent ≤ x.mantissa * 2 ^ x.power + 10 ^ exponent / 2 := by
    have product := mul_le_mul_of_nonneg_right high step.le
    rw [add_mul, div_mul_cancel₀ _ step.ne'] at product
    linarith
  have half : (10 : ℚ) ^ exponent / 2 < 2 ^ x.power / 2 ∧
      (10 : ℚ) ^ exponent / 2 < x.lowGap / 4 * 2 ^ x.power := by
    have most : (x.mantissa : ℚ) ≤ 2 ^ 53 := by exact_mod_cast x.mantissa_lt.le
    have bound := mul_le_mul_of_nonneg_right most unit.le
    have apart : (2 : ℚ) ^ 53 < 10 ^ 16 := by norm_num
    have small : (10 : ℚ) ^ exponent * 10 ^ 16 < 2 ^ x.power * 10 ^ 16 := by nlinarith
    have less : (10 : ℚ) ^ exponent < 2 ^ x.power := lt_of_mul_lt_mul_right small (by norm_num)
    refine ⟨by linarith, ?_⟩
    rcases x.lowGap_cases with ⟨two, _⟩ | ⟨single, power, _⟩
    · rw [two]
      push_cast
      linarith
    · rw [single]
      rw [power] at fine
      push_cast at fine ⊢
      linarith
  have lowStrict : ((4 * x.mantissa : ℚ) - x.lowGap) / 4 * 2 ^ x.power < point * 10 ^ exponent := by
    linarith [half.2]
  have highStrict : point * 10 ^ exponent < ((4 * x.mantissa : ℚ) + 2) / 4 * 2 ^ x.power := by
    linarith [half.1]
  exact ⟨lowStrict.le, highStrict.le, .inr ⟨lowStrict, highStrict⟩⟩

theorem contains_of_onGrid? {i : RoundingInterval} {exponent : Int} {digits : Nat}
    (found : i.onGrid? exponent = some digits) : i.contains digits exponent = true := by
  unfold RoundingInterval.onGrid? at found
  dsimp only at found
  split_ifs at found <;> simp_all

theorem value_stripZeros (fuel digits : Nat) (exponent : Int) :
    ((stripZeros fuel digits exponent).1 : ℚ) * 10 ^ (stripZeros fuel digits exponent).2 =
      digits * 10 ^ exponent := by
  induction fuel generalizing digits exponent with
  | zero => rfl
  | succ fuel ih =>
    unfold stripZeros
    split
    · rename_i tens
      rw [Bool.and_eq_true, decide_eq_true_eq] at tens
      have split : (digits : ℚ) = (digits / 10 : Nat) * 10 := by
        exact_mod_cast (Nat.div_mul_cancel (Nat.dvd_of_mod_eq_zero tens.1)).symm
      rw [ih, zpow_add_one₀ (by norm_num), split]
      ring
    · rfl

/-- The shortest decimal of a number rounds to it. -/
theorem reaches_shortest (nonzero : x.mantissa ≠ 0) :
    x.Reaches (x.shortest.1 * 10 ^ x.shortest.2) := by
  unfold shortest
  dsimp only
  split
  · rename_i digits exponent found
    obtain ⟨g, _, taken⟩ := List.exists_of_findSome?_eq_some found
    obtain ⟨point, placed, same⟩ := Option.map_eq_some_iff.mp taken
    cases same
    rw [value_stripZeros]
    exact (contains_iff nonzero).mp (contains_of_onGrid? placed)
  · rename_i missing
    have last : x.roundingInterval.onGrid? (x.roundingInterval.places - (16 + 1 : Nat)) = none := by
      have none := List.findSome?_eq_none_iff.mp missing _
        (List.mem_map.mpr ⟨16, List.mem_range.mpr (by decide), rfl⟩)
      simpa using none
    have fine : (10 : ℚ) ^ (x.roundingInterval.places - (16 + 1 : Nat)) * 10 ^ 16 ≤
        x.mantissa * 2 ^ x.power := by
      have power : x.roundingInterval.places - 1 =
          x.roundingInterval.places - (16 + 1 : Nat) + (16 : Nat) := by push_cast; ring
      have least := places_le nonzero
      rwa [power, zpow_add₀ (by norm_num), zpow_natCast] at least
    have near := (contains_iff nonzero).mpr (reaches_nearest fine)
    rw [RoundingInterval.onGrid?] at last
    rw [if_pos near] at last
    cases last

end Binary64

end FactModel
