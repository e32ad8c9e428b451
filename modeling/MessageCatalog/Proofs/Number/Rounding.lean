import Mathlib.Algebra.Order.Field.Power
import Mathlib.Data.Int.Log
import Mathlib.Data.Rat.Floor
import Mathlib.Tactic.FieldSimp
import Mathlib.Tactic.Linarith
import Mathlib.Tactic.NormNum
import Mathlib.Tactic.Positivity
import Mathlib.Tactic.Ring
import MessageCatalog.Number.Shortest

/-!
Rounding to a binary format. Only the value of a fraction counts, not how it is written, and the
magnitudes of the format round to themselves.
-/

namespace MessageCatalog

namespace Fraction

def rational (value : Fraction) : ℚ := value.numerator / value.denominator

variable {value left right : Fraction}

theorem denominator_scale_pos {base : Nat} (power : Int) (positive : 0 < base)
    (proper : 0 < value.denominator) : 0 < (value.scale base power).denominator := by
  unfold scale
  split
  · exact proper
  · exact Nat.mul_pos proper (Nat.pow_pos positive)

theorem rational_scale {base : Nat} (power : Int) (positive : 0 < base) :
    (value.scale base power).rational = value.rational * (base : ℚ) ^ power := by
  have nonzero : (base : ℚ) ≠ 0 := by exact_mod_cast positive.ne'
  unfold scale rational
  split
  · next up =>
      obtain ⟨steps, rfl⟩ := Int.eq_ofNat_of_zero_le up
      simp only [Int.toNat_natCast, Nat.pow_eq, Nat.cast_mul, Nat.cast_pow, zpow_natCast]
      ring
  · next down =>
      obtain ⟨steps, shape⟩ := Int.eq_ofNat_of_zero_le (show 0 ≤ -power by omega)
      have same : power = -(steps : Int) := by omega
      rw [same]
      simp only [neg_neg, Int.toNat_natCast, Nat.pow_eq, Nat.cast_mul, Nat.cast_pow, zpow_neg,
        zpow_natCast]
      field_simp

theorem rational_power {base : Nat} (exponent : Int) (positive : 0 < base) :
    (power base exponent).rational = (base : ℚ) ^ exponent := by
  rw [power, rational_scale exponent positive]
  simp [rational]

theorem lt_iff (leftProper : 0 < left.denominator) (rightProper : 0 < right.denominator) :
    left.lt right = true ↔ left.rational < right.rational := by
  have leftPositive : (0 : ℚ) < left.denominator := by exact_mod_cast leftProper
  have rightPositive : (0 : ℚ) < right.denominator := by exact_mod_cast rightProper
  rw [lt, decide_eq_true_eq, rational, rational, div_lt_div_iff₀ leftPositive rightPositive]
  exact_mod_cast Iff.rfl

theorem rational_pos (some_value : value.numerator ≠ 0) (proper : 0 < value.denominator) :
    0 < value.rational := by
  have above : (0 : ℚ) < value.numerator := by exact_mod_cast Nat.pos_of_ne_zero some_value
  have below : (0 : ℚ) < value.denominator := by exact_mod_cast proper
  exact div_pos above below

/-- The binary logarithm of a number is that of its highest digit. -/
theorem log2_bounds {number : Nat} (nonzero : number ≠ 0) :
    (2 : ℚ) ^ (number.log2 : Int) ≤ number ∧ (number : ℚ) < 2 ^ ((number.log2 : Int) + 1) := by
  constructor
  · rw [zpow_natCast]
    exact_mod_cast Nat.log2_self_le nonzero
  · rw [← Nat.cast_succ, zpow_natCast]
    exact_mod_cast Nat.lt_log2_self

theorem binaryPlace_bounds (some_value : value.numerator ≠ 0) (proper : 0 < value.denominator) :
    (2 : ℚ) ^ (value.binaryPlace - 1) < value.rational ∧
      value.rational < 2 ^ (value.binaryPlace + 1) := by
  have above := log2_bounds some_value
  have below := log2_bounds proper.ne'
  have positive : (0 : ℚ) < value.denominator := by exact_mod_cast proper
  have two : (2 : ℚ) ≠ 0 := by norm_num
  rw [rational, lt_div_iff₀ positive, div_lt_iff₀ positive, binaryPlace]
  generalize (value.numerator.log2 : Int) = top at *
  generalize (value.denominator.log2 : Int) = bottom at *
  constructor
  · calc (2 : ℚ) ^ (top - bottom - 1) * value.denominator
        < 2 ^ (top - bottom - 1) * 2 ^ (bottom + 1) := by
          exact mul_lt_mul_of_pos_left below.2 (by positivity)
      _ = 2 ^ top := by rw [← zpow_add₀ two]; congr 1; omega
      _ ≤ value.numerator := above.1
  · calc (value.numerator : ℚ) < 2 ^ (top + 1) := above.2
      _ = 2 ^ (top - bottom + 1) * 2 ^ bottom := by rw [← zpow_add₀ two]; congr 1; omega
      _ ≤ 2 ^ (top - bottom + 1) * value.denominator := by
          exact mul_le_mul_of_nonneg_left below.1 (by positivity)

theorem log_eq_of_bounds {number : ℚ} {place : Int} (lower : (2 : ℚ) ^ place ≤ number)
    (upper : number < 2 ^ (place + 1)) : Int.log 2 number = place := by
  have positive : 0 < number := lt_of_lt_of_le (by positivity) lower
  have atLeast : place ≤ Int.log 2 number := by
    rw [← Int.zpow_le_iff_le_log one_lt_two positive]
    exact_mod_cast lower
  have below : Int.log 2 number < place + 1 := by
    rw [← Int.lt_zpow_iff_log_lt one_lt_two positive]
    exact_mod_cast upper
  omega

/-- The place of the first binary digit. -/
theorem top_eq_log (some_value : value.numerator ≠ 0) (proper : 0 < value.denominator) :
    (if value.lt (power 2 value.binaryPlace) then value.binaryPlace - 1 else value.binaryPlace) =
      Int.log 2 value.rational := by
  have bounds := binaryPlace_bounds some_value proper
  have powerProper : 0 < (power 2 value.binaryPlace).denominator :=
    denominator_scale_pos _ two_pos Nat.one_pos
  have compared := lt_iff proper powerProper
  rw [rational_power _ two_pos] at compared
  symm
  split
  · next smaller =>
      apply log_eq_of_bounds bounds.1.le
      rw [sub_add_cancel]
      exact_mod_cast compared.mp smaller
  · next notSmaller =>
      apply log_eq_of_bounds _ bounds.2
      exact_mod_cast not_lt.mp (mt compared.mpr notSmaller)

end Fraction

theorem roundQuotient_mul (numerator denominator : Nat) {factor : Nat} (positive : 0 < factor) :
    roundQuotient (numerator * factor) (denominator * factor) =
      roundQuotient numerator denominator := by
  simp only [roundQuotient, Nat.mul_div_mul_right _ _ positive, Nat.mul_mod_mul_right, ← mul_assoc,
    Nat.mul_lt_mul_right positive]

theorem roundQuotient_congr {left right : Fraction} (leftProper : 0 < left.denominator)
    (rightProper : 0 < right.denominator) (same : left.rational = right.rational) :
    roundQuotient left.numerator left.denominator =
      roundQuotient right.numerator right.denominator := by
  have leftNonzero : (left.denominator : ℚ) ≠ 0 := by exact_mod_cast leftProper.ne'
  have rightNonzero : (right.denominator : ℚ) ≠ 0 := by exact_mod_cast rightProper.ne'
  have crossed : left.numerator * right.denominator = right.numerator * left.denominator := by
    rw [Fraction.rational, Fraction.rational, div_eq_div_iff leftNonzero rightNonzero] at same
    exact_mod_cast same
  rw [← roundQuotient_mul left.numerator left.denominator rightProper, crossed,
    mul_comm left.denominator, roundQuotient_mul _ _ leftProper]

theorem roundQuotient_of_natural {value : Fraction} {number : Nat} (proper : 0 < value.denominator)
    (exact : value.rational = number) :
    roundQuotient value.numerator value.denominator = number := by
  have same : value.rational = (⟨number, 1⟩ : Fraction).rational := by
    rw [exact, Fraction.rational]
    simp
  rw [roundQuotient_congr proper Nat.one_pos same]
  simp [roundQuotient, Nat.mod_one]

namespace BinaryFormat

variable {format : BinaryFormat} {left right : Fraction}

/-- The exponent of the last digit that is kept of a value. -/
def unitOf (format : BinaryFormat) (value : ℚ) : Int :=
  max format.leastExponent (Int.log 2 value - (format.precision - 1 : Nat))

theorem nearestRank?_eq {value : Fraction} (some_value : value.numerator ≠ 0)
    (proper : 0 < value.denominator) :
    format.nearestRank? value =
      let unit := format.unitOf value.rational
      let scaled := value.scale 2 (-unit)
      let rank := (unit - format.leastExponent).toNat * format.hiddenBit +
        roundQuotient scaled.numerator scaled.denominator
      if rank < format.limit then some rank else none := by
  simp only [nearestRank?, some_value, if_false, Fraction.top_eq_log some_value proper]
  rfl

theorem nearestRank?_congr (leftProper : 0 < left.denominator) (rightProper : 0 < right.denominator)
    (same : left.rational = right.rational) :
    format.nearestRank? left = format.nearestRank? right := by
  have zeros : left.numerator = 0 ↔ right.numerator = 0 := by
    have leftNonzero : (left.denominator : ℚ) ≠ 0 := by exact_mod_cast leftProper.ne'
    have rightNonzero : (right.denominator : ℚ) ≠ 0 := by exact_mod_cast rightProper.ne'
    have vanish : left.rational = 0 ↔ right.rational = 0 := by rw [same]
    simpa [Fraction.rational, leftNonzero, rightNonzero] using vanish
  by_cases zero : left.numerator = 0
  · simp [nearestRank?, zero, zeros.mp zero]
  · rw [nearestRank?_eq zero leftProper, nearestRank?_eq (mt zeros.mpr zero) rightProper, same]
    have scaled := roundQuotient_congr
      (Fraction.denominator_scale_pos (-format.unitOf right.rational) two_pos leftProper)
      (Fraction.denominator_scale_pos (-format.unitOf right.rational) two_pos rightProper)
      (by rw [Fraction.rational_scale _ two_pos, Fraction.rational_scale _ two_pos, same])
    simp only [scaled]

theorem hiddenBit_pos (format : BinaryFormat) : 0 < format.hiddenBit := Nat.pow_pos two_pos

/-- What a magnitude is rounded to when its last kept digit stands at `unit` and nothing is lost. -/
theorem nearestRank?_of_exact {value : Fraction} {unit : Int} {mantissa : Nat}
    (some_value : value.numerator ≠ 0) (proper : 0 < value.denominator)
    (last : format.unitOf value.rational = unit)
    (exact : value.rational = mantissa * (2 : ℚ) ^ unit)
    (finite : (unit - format.leastExponent).toNat * format.hiddenBit + mantissa < format.limit) :
    format.nearestRank? value =
      some ((unit - format.leastExponent).toNat * format.hiddenBit + mantissa) := by
  have scaledProper := Fraction.denominator_scale_pos (-unit) two_pos proper
  have scaledExact : (value.scale 2 (-unit)).rational = mantissa := by
    rw [Fraction.rational_scale _ two_pos, exact, Nat.cast_ofNat, mul_assoc,
      ← zpow_add₀ (by norm_num)]
    simp
  have rounded := roundQuotient_of_natural scaledProper scaledExact
  rw [nearestRank?_eq some_value proper, last]
  simp only [rounded, finite, if_true]

end BinaryFormat

namespace Binary

variable {format : BinaryFormat}

theorem magnitude_proper (value : Binary format) : 0 < value.magnitude.denominator :=
  Fraction.denominator_scale_pos _ two_pos Nat.one_pos

theorem rational_magnitude (value : Binary format) :
    value.magnitude.rational = value.mantissa * (2 : ℚ) ^ value.exponent := by
  rw [magnitude, Fraction.rational_scale _ two_pos, Fraction.rational]
  simp

theorem magnitude_nonzero {value : Binary format} (nonzero : value.mantissa ≠ 0) :
    value.magnitude.numerator ≠ 0 := by
  have positive : 0 < value.magnitude.rational := by
    rw [rational_magnitude]
    have above : (0 : ℚ) < value.mantissa := by exact_mod_cast Nat.pos_of_ne_zero nonzero
    positivity
  intro zero
  simp [Fraction.rational, zero] at positive

/-- Below the hidden bit the ranks are the mantissas at the least exponent. -/
theorem nearestRank?_of_subnormal {value : Binary format} (small : value.rank < format.hiddenBit)
    (nonzero : value.rank ≠ 0) : format.nearestRank? value.magnitude = some value.rank := by
  have mantissa : value.mantissa = value.rank := if_pos small
  have exponent : value.exponent = format.leastExponent := if_pos small
  have exact := value.rational_magnitude
  have some_value := magnitude_nonzero (mantissa ▸ nonzero)
  rw [mantissa, exponent] at exact
  have last : format.unitOf value.magnitude.rational = format.leastExponent := by
    have below : value.magnitude.rational <
        ((2 : Nat) : ℚ) ^ (((format.precision - 1 : Nat) : Int) + format.leastExponent) := by
      have bound : (value.rank : ℚ) < 2 ^ (format.precision - 1) := by exact_mod_cast small
      rw [exact, Nat.cast_ofNat, zpow_add₀ (by norm_num), zpow_natCast]
      exact mul_lt_mul_of_pos_right bound (by positivity)
    have place := (Int.lt_zpow_iff_log_lt one_lt_two
      (Fraction.rational_pos some_value value.magnitude_proper)).mp below
    rw [BinaryFormat.unitOf]
    omega
  have rounded := BinaryFormat.nearestRank?_of_exact some_value value.magnitude_proper last exact
  simp only [sub_self, Int.toNat_zero, Nat.zero_mul, Nat.zero_add] at rounded
  exact rounded value.finite

/-- From the hidden bit on a rank tells the exponent and the digits behind the hidden bit. -/
theorem nearestRank?_of_normal {value : Binary format} (large : format.hiddenBit ≤ value.rank) :
    format.nearestRank? value.magnitude = some value.rank := by
  have notSmall : ¬ value.rank < format.hiddenBit := not_lt.mpr large
  have mantissa : value.mantissa = format.hiddenBit + value.rank % format.hiddenBit :=
    if_neg notSmall
  have exponent :
      value.exponent = format.leastExponent + (value.rank / format.hiddenBit : Nat) - 1 :=
    if_neg notSmall
  have someBinade : 1 ≤ value.rank / format.hiddenBit := Nat.div_pos large format.hiddenBit_pos
  have remainder := Nat.mod_lt value.rank format.hiddenBit_pos
  have hidden : (format.hiddenBit : ℚ) = 2 ^ (format.precision - 1) := by exact_mod_cast rfl
  have exact := value.rational_magnitude
  have some_value : value.magnitude.numerator ≠ 0 := by
    apply magnitude_nonzero
    have := format.hiddenBit_pos
    omega
  have lower : (format.hiddenBit : ℚ) ≤ value.mantissa := by
    exact_mod_cast mantissa ▸ Nat.le_add_right _ _
  have upper : (value.mantissa : ℚ) < format.hiddenBit * 2 := by
    have bound : value.mantissa < format.hiddenBit * 2 := by omega
    exact_mod_cast bound
  have last : format.unitOf value.magnitude.rational = value.exponent := by
    have place : Int.log 2 value.magnitude.rational =
        ((format.precision - 1 : Nat) : Int) + value.exponent := by
      apply Fraction.log_eq_of_bounds
      · rw [exact, zpow_add₀ (by norm_num), zpow_natCast, ← hidden]
        exact mul_le_mul_of_nonneg_right lower (by positivity)
      · rw [exact, add_right_comm, zpow_add₀ (by norm_num), zpow_add_one₀ (by norm_num),
          zpow_natCast, ← hidden]
        exact mul_lt_mul_of_pos_right upper (by positivity)
    rw [BinaryFormat.unitOf]
    omega
  have whole : (value.exponent - format.leastExponent).toNat * format.hiddenBit + value.mantissa =
      value.rank := by
    have steps : (value.exponent - format.leastExponent).toNat =
        value.rank / format.hiddenBit - 1 := by omega
    obtain ⟨further, shape⟩ := Nat.exists_eq_add_of_le' someBinade
    have divided := Nat.div_add_mod value.rank format.hiddenBit
    rw [steps, mantissa, shape, Nat.add_sub_cancel]
    rw [shape] at divided
    linarith
  have rounded := BinaryFormat.nearestRank?_of_exact some_value value.magnitude_proper last exact
  rw [whole] at rounded
  exact rounded value.finite

/-- The magnitudes of a format round to themselves. -/
theorem nearestRank?_magnitude (value : Binary format) :
    format.nearestRank? value.magnitude = some value.rank := by
  by_cases large : format.hiddenBit ≤ value.rank
  · exact nearestRank?_of_normal large
  · by_cases nonzero : value.rank = 0
    · have mantissa : value.mantissa = 0 := by
        rw [Binary.mantissa, BinaryFormat.mantissa, if_pos (not_le.mp large), nonzero]
      have zero : value.magnitude.numerator = 0 := by
        unfold magnitude Fraction.scale
        split <;> simp [mantissa]
      rw [BinaryFormat.nearestRank?, if_pos zero, nonzero]
    · exact nearestRank?_of_subnormal (not_le.mp large) nonzero

end Binary

end MessageCatalog
