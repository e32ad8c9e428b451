import Mathlib.Data.Nat.Digits.Defs
import MessageCatalog.Number.Basic
import MessageCatalog.Proofs.Number.Rounding

/-!
Decimals and the binary values nearest to them. Zeros at the end of the digits, with the exponent
that belongs to them, change nothing, and the shortest decimal of a double reads back as that
double.
-/

namespace MessageCatalog

namespace Decimal

/-- The number of places up to the highest digit. -/
def height (value : Decimal) : Int := (Nat.toDigits 10 value.digits).length + value.exponent

def rational (value : Decimal) : ℚ := value.digits * (10 : ℚ) ^ value.exponent

theorem rational_toFraction (value : Decimal) : value.toFraction.rational = value.rational := by
  rw [toFraction, Fraction.rational_scale _ (by norm_num), Fraction.rational, rational]
  simp

theorem toFraction_proper (value : Decimal) : 0 < value.toFraction.denominator :=
  Fraction.denominator_scale_pos _ (by norm_num) Nat.one_pos

theorem toDigits_zeros {digits : Nat} (nonzero : digits ≠ 0) (zeros : Nat) :
    Nat.toDigits 10 (digits * 10 ^ zeros) = Nat.toDigits 10 digits ++ List.replicate zeros '0' := by
  induction zeros with
  | zero => simp
  | succ zeros induction =>
      have positive : 0 < digits * 10 ^ zeros :=
        Nat.mul_pos (Nat.pos_of_ne_zero nonzero) (by positivity)
      have appended :=
        Nat.toDigits_append_toDigits (by norm_num : 1 < 10) positive (by norm_num : 0 < 10)
      have shape : digits * 10 ^ (zeros + 1) = 10 * (digits * 10 ^ zeros) + 0 := by ring
      rw [shape, ← appended, induction, List.replicate_succ', List.append_assoc]
      rfl

/-- Zeros at the end of the digits stand for places of the exponent. -/
theorem rank?_zeros (format : BinaryFormat) (digits zeros : Nat) (exponent : Int) :
    rank? format ⟨digits * 10 ^ zeros, exponent⟩ = rank? format ⟨digits, exponent + zeros⟩ := by
  by_cases zero : digits = 0
  · simp [rank?, zero]
  · have nonzero : digits * 10 ^ zeros ≠ 0 := Nat.mul_ne_zero zero (by positivity)
    have height : ((Nat.toDigits 10 (digits * 10 ^ zeros)).length : Int) + exponent =
        (Nat.toDigits 10 digits).length + (exponent + zeros) := by
      rw [toDigits_zeros zero, List.length_append, List.length_replicate]
      push_cast
      ring
    have nearest : format.nearestRank? (toFraction ⟨digits * 10 ^ zeros, exponent⟩) =
        format.nearestRank? (toFraction ⟨digits, exponent + zeros⟩) := by
      apply BinaryFormat.nearestRank?_congr (toFraction_proper _) (toFraction_proper _)
      rw [rational_toFraction, rational_toFraction, rational, rational, zpow_add₀ (by norm_num),
        zpow_natCast]
      push_cast
      ring
    simp only [rank?, zero, nonzero, if_false, height, nearest]

variable {value : Decimal}

theorem digits_bounds (nonzero : value.digits ≠ 0) :
    (10 : ℚ) ^ (value.height - 1) ≤ value.rational ∧ value.rational < 10 ^ value.height := by
  have positive : 0 < (Nat.toDigits 10 value.digits).length := Nat.length_toDigits_pos
  have below : value.digits < 10 ^ (Nat.toDigits 10 value.digits).length :=
    (Nat.length_toDigits_le_iff (by norm_num) positive).mp le_rfl
  have above : 10 ^ ((Nat.toDigits 10 value.digits).length - 1) ≤ value.digits := by
    by_contra small
    by_cases single : (Nat.toDigits 10 value.digits).length - 1 = 0
    · rw [single, pow_zero] at small
      omega
    · have short :=
        (Nat.length_toDigits_le_iff (by norm_num) (Nat.pos_of_ne_zero single)).mpr (not_le.mp small)
      omega
  have exponents : value.height - 1 =
      (((Nat.toDigits 10 value.digits).length - 1 : Nat) : Int) + value.exponent := by
    rw [height]
    omega
  rw [exponents, height, rational, zpow_add₀ (by norm_num), zpow_add₀ (by norm_num), zpow_natCast,
    zpow_natCast]
  constructor
  · exact mul_le_mul_of_nonneg_right (by exact_mod_cast above) (by positivity)
  · exact mul_lt_mul_of_pos_right (by exact_mod_cast below) (by positivity)

/-- Values in the range of doubles are rounded as exact fractions. -/
theorem rank?_eq_nearest (format : BinaryFormat) (nonzero : value.digits ≠ 0)
    (lower : (10 : ℚ) ^ (-324 : Int) ≤ value.rational) (upper : value.rational < 10 ^ (309 : Int)) :
    rank? format value = format.nearestRank? value.toFraction := by
  have bounds := digits_bounds nonzero
  have ten : (1 : ℚ) < 10 := by norm_num
  have notAbove : value.height - 1 < 309 :=
    (zpow_lt_zpow_iff_right₀ ten).mp (bounds.1.trans_lt upper)
  have notBelow : -324 < value.height := (zpow_lt_zpow_iff_right₀ ten).mp (lower.trans_lt bounds.2)
  rw [height] at notAbove notBelow
  have finite : ¬ 310 < ((Nat.toDigits 10 value.digits).length : Int) + value.exponent := by omega
  have notTiny : ¬ ((Nat.toDigits 10 value.digits).length : Int) + value.exponent < -330 := by omega
  simp only [rank?, nonzero, finite, notTiny, if_false]

end Decimal

namespace Binary

theorem rational_exactDecimal {format : BinaryFormat} (value : Binary format) :
    value.exactDecimal.rational = value.magnitude.rational := by
  rw [rational_magnitude, exactDecimal]
  split
  · next up =>
      obtain ⟨steps, shape⟩ := Int.eq_ofNat_of_zero_le up
      rw [shape, Decimal.rational]
      simp
  · next down =>
      obtain ⟨steps, shape⟩ := Int.eq_ofNat_of_zero_le (show 0 ≤ -value.exponent by omega)
      have same : value.exponent = -(steps : Int) := by omega
      have ten : (10 : ℚ) ^ steps = 5 ^ steps * 2 ^ steps := by
        rw [← mul_pow]
        norm_num
      rw [same, Decimal.rational]
      simp only [neg_neg, Int.toNat_natCast, Nat.pow_eq, Nat.cast_mul, Nat.cast_pow, Nat.cast_ofNat,
        zpow_neg, zpow_natCast, ten]
      field_simp

theorem double_parts (value : Binary64) :
    -1074 ≤ value.exponent ∧ value.exponent ≤ 971 ∧ value.mantissa < 2 ^ 53 := by
  have finite : value.rank < 2047 * 2 ^ 52 := value.finite
  have hidden : BinaryFormat.double.hiddenBit = 2 ^ 52 := rfl
  have least : BinaryFormat.double.leastExponent = -1074 := rfl
  unfold exponent mantissa BinaryFormat.exponent BinaryFormat.mantissa
  rw [hidden, least]
  split <;> omega

theorem mantissa_ne_zero {format : BinaryFormat} {value : Binary format}
    (nonzero : value.rank ≠ 0) :
    value.mantissa ≠ 0 := by
  have positive := format.hiddenBit_pos
  unfold mantissa BinaryFormat.mantissa
  split <;> omega

theorem double_range {value : Binary64} (nonzero : value.rank ≠ 0) :
    (10 : ℚ) ^ (-324 : Int) ≤ value.magnitude.rational ∧
      value.magnitude.rational < 10 ^ (309 : Int) := by
  obtain ⟨lowest, highest, short⟩ := double_parts value
  have some_digit : (1 : ℚ) ≤ value.mantissa := by
    exact_mod_cast Nat.one_le_iff_ne_zero.mpr (mantissa_ne_zero nonzero)
  have bound : (value.mantissa : ℚ) < 2 ^ 53 := by exact_mod_cast short
  rw [rational_magnitude]
  constructor
  · have least : (2 : ℚ) ^ 1074 ≤ 10 ^ 324 := by
      exact_mod_cast (by decide +kernel : 2 ^ 1074 ≤ 10 ^ 324)
    calc (10 : ℚ) ^ (-324 : Int) = (10 ^ 324)⁻¹ := by rw [zpow_neg, zpow_ofNat]
      _ ≤ (2 ^ 1074)⁻¹ := inv_anti₀ (by positivity) least
      _ = 1 * 2 ^ (-1074 : Int) := by rw [zpow_neg, zpow_ofNat, one_mul]
      _ ≤ value.mantissa * 2 ^ value.exponent :=
        mul_le_mul some_digit (zpow_le_zpow_right₀ one_le_two lowest) (by positivity)
          (by positivity)
  · have greatest : (2 : ℚ) ^ 1024 < 10 ^ 309 := by
      exact_mod_cast (by decide +kernel : 2 ^ 1024 < 10 ^ 309)
    calc (value.mantissa : ℚ) * 2 ^ value.exponent ≤ value.mantissa * 2 ^ (971 : Int) :=
          mul_le_mul_of_nonneg_left (zpow_le_zpow_right₀ one_le_two highest) (by positivity)
      _ < 2 ^ 53 * 2 ^ (971 : Int) := mul_lt_mul_of_pos_right bound (by positivity)
      _ = 2 ^ 1024 := by rw [zpow_ofNat, ← pow_add]
      _ < 10 ^ (309 : Int) := by rw [zpow_ofNat]; exact greatest

theorem rank?_exactDecimal {value : Binary64} (nonzero : value.rank ≠ 0) :
    value.exactDecimal.rank? .double = some value.rank := by
  have range := double_range nonzero
  rw [← rational_exactDecimal] at range
  have digits : value.exactDecimal.digits ≠ 0 := by
    intro zero
    have positive := lt_of_lt_of_le (by positivity) range.1
    simp [Decimal.rational, zero] at positive
  rw [Decimal.rank?_eq_nearest .double digits range.1 range.2, ← nearestRank?_magnitude value]
  apply BinaryFormat.nearestRank?_congr (Decimal.toFraction_proper _) value.magnitude_proper
  rw [Decimal.rational_toFraction, rational_exactDecimal]

theorem readsBack_onGrid? {format : BinaryFormat} {value : Binary format} {unit : Int}
    {decimal : Decimal} (found : value.onGrid? unit = some decimal) :
    decimal.rank? format = some value.rank := by
  have reads : value.readsBack decimal = true := by
    unfold onGrid? at found
    dsimp only at found
    split at found
    · next below above =>
        split at found
        · cases found
          exact below
        · cases found
          exact above
    · next below _ =>
        cases found
        exact below
    · next _ above =>
        cases found
        exact above
    · cases found
  simpa [readsBack] using reads

/-- The shortest decimal of a double reads back as that double. -/
theorem rank?_shortest {value : Binary64} (nonzero : value.rank ≠ 0) :
    value.shortest.rank? .double = some value.rank := by
  unfold shortest
  dsimp only
  split
  · next decimal found =>
      obtain ⟨further, _, onGrid⟩ := List.exists_of_findSome?_eq_some found
      exact readsBack_onGrid? onGrid
  · exact rank?_exactDecimal nonzero

end Binary

end MessageCatalog
