import MessageCatalog.Insert.Basic
import MessageCatalog.Proofs.Number.WireText

/-!
Whole numbers inside messages. A number below `10 ^ 15` with a whole value is written by that value,
whether a whole number or a double holds it. The exact value of a double is its mantissa times a
power of two, so that cutting it off at the point is seen to lose nothing where the value is whole,
and below `10 ^ 15` the result is far inside 64 bits.
-/

namespace MessageCatalog

open Text

/-- A fraction is whole where its denominator divides its numerator. -/
theorem Fraction.rational_eq_natural_iff {value : Fraction} (proper : 0 < value.denominator)
    (whole : Nat) :
    value.rational = whole ↔ value.numerator = whole * value.denominator := by
  have nonzero : (value.denominator : ℚ) ≠ 0 := by exact_mod_cast proper.ne'
  rw [rational, div_eq_iff nonzero]
  exact_mod_cast Iff.rfl

namespace Binary

variable {format : BinaryFormat} {value : Binary format}

/-- The exact value. -/
def rational (value : Binary format) : ℚ :=
  (if value.negative then -1 else 1) * (value.mantissa * (2 : ℚ) ^ value.exponent)

theorem rational_eq (value : Binary format) :
    value.rational =
      if value.negative then -value.magnitude.rational else value.magnitude.rational := by
  rw [rational, rational_magnitude]
  split
  · rw [neg_one_mul]
  · rw [one_mul]

theorem abs_rational (value : Binary format) : |value.rational| = value.magnitude.rational := by
  have nonnegative : 0 ≤ value.magnitude.rational := by
    rw [rational_magnitude]
    positivity
  rw [rational_eq]
  split
  · rw [abs_neg, abs_of_nonneg nonnegative]
  · exact abs_of_nonneg nonnegative

theorem isBelow_iff {bound : Nat} : value.isBelow bound = true ↔ |value.rational| < bound := by
  have limit : (⟨bound, 1⟩ : Fraction).rational = bound := by simp [Fraction.rational]
  rw [isBelow, Fraction.lt_iff value.magnitude_proper Nat.one_pos, limit, abs_rational]

theorem rational_truncate (whole : value.isWhole = true) :
    (value.truncate : ℚ) = value.rational := by
  have divides : value.magnitude.numerator % value.magnitude.denominator = 0 := by
    simpa [isWhole] using whole
  have quotient : value.magnitude.rational =
      (value.magnitude.numerator / value.magnitude.denominator : Nat) := by
    rw [Fraction.rational_eq_natural_iff value.magnitude_proper,
      Nat.div_mul_cancel (Nat.dvd_of_mod_eq_zero divides)]
  rw [rational_eq, quotient, truncate]
  split
  all_goals
    push_cast
    rfl

theorem isWhole_iff : value.isWhole = true ↔ ∃ whole : Int, value.rational = whole := by
  constructor
  · intro whole
    exact ⟨value.truncate, (rational_truncate whole).symm⟩
  · intro given
    obtain ⟨whole, exact⟩ := given
    have natural : value.magnitude.rational = (whole.natAbs : Nat) := by
      rw [← abs_rational, exact, Nat.cast_natAbs, Int.cast_abs]
    have multiple := (Fraction.rational_eq_natural_iff value.magnitude_proper _).mp natural
    simp [isWhole, multiple]

/-- The conversion of a whole double that messages write as a whole number: it stays within 64 bits
and is exact. -/
theorem toInt64_exact (whole : value.isWhole = true)
    (small : value.isBelow Number.wholeLimit = true) :
    Int64.minValue.toInt ≤ value.truncate ∧ value.truncate ≤ Int64.maxValue.toInt ∧
      (value.toInt64.toInt : ℚ) = value.rational := by
  have exact := rational_truncate whole
  have bound : |value.truncate| < 10 ^ 15 := by
    have limit := isBelow_iff.mp small
    rw [← exact] at limit
    exact_mod_cast limit
  have range := abs_lt.mp bound
  have lower : Int64.minValue.toInt ≤ value.truncate := by
    have least : Int64.minValue.toInt = -(2 ^ 63) := by decide
    omega
  have upper : value.truncate ≤ Int64.maxValue.toInt := by
    have greatest : Int64.maxValue.toInt = 2 ^ 63 - 1 := by decide
    omega
  refine ⟨lower, upper, ?_⟩
  rw [toInt64, Int64.toInt_ofIntClamp lower upper, exact]

end Binary

namespace Number

/-- The exact value. -/
def rational : Number → ℚ
  | integer value => value
  | double value => value.rational

/-- The value is a whole one below `10 ^ 15`. -/
structure Whole (number : Number) (whole : Int) : Prop where
  value : number.rational = whole
  small : whole.natAbs < 10 ^ 15

theorem Whole.fits {number : Number} {whole : Int} (given : number.Whole whole) :
    fits whole = true := by
  have small := given.small
  have least : leastInteger = -(2 ^ 63) := by decide
  have limit : integerLimit = 2 ^ 64 := by decide
  simp only [Number.fits, Bool.and_eq_true, decide_eq_true_eq]
  omega

theorem plainText_of_whole {number : Number} {whole : Int} (given : number.Whole whole) :
    number.plainText = intText whole := by
  cases number with
  | integer value =>
      have exact : (value : ℚ) = whole := given.value
      have same : value = whole := by exact_mod_cast exact
      rw [plainText, same]
  | double value =>
      have exact : value.rational = whole := given.value
      have nothingBehind : value.isWhole = true := Binary.isWhole_iff.mpr ⟨whole, exact⟩
      have small : value.isBelow wholeLimit = true := by
        rw [Binary.isBelow_iff, exact, ← Int.cast_abs, Int.abs_eq_natAbs]
        exact_mod_cast given.small
      have guarded : (value.isWhole && value.isBelow wholeLimit) = true := by
        rw [nothingBehind, small, Bool.and_self]
      have converted := (Binary.toInt64_exact nothingBehind small).2.2
      have same : value.toInt64.toInt = whole := by
        rw [exact] at converted
        exact_mod_cast converted
      rw [plainText, if_pos guarded, same]

/-- Whole numbers of 64 bits have different texts, as each is read from its own. -/
theorem intText_inj {left right : Int} (leftFits : fits left = true)
    (rightFits : fits right = true) :
    intText left = intText right ↔ left = right := by
  constructor
  · intro same
    obtain ⟨numeral, parsed, read⟩ := readsFrom_integer leftFits
    obtain ⟨other, otherParsed, otherRead⟩ := readsFrom_integer rightFits
    rw [same, otherParsed] at parsed
    cases parsed
    rw [read] at otherRead
    cases otherRead
    rfl
  · exact congrArg intText

theorem intText_eq_toString (value : Int) : intText value = toString value := by
  cases value with
  | ofNat magnitude => rfl
  | negSucc magnitude =>
      rw [intText, if_pos (Int.negSucc_lt_zero magnitude)]
      rfl

end Number

theorem Insert.plainText_number (value : Number) : (number value).plainText = value.plainText := by
  have written : (number value).toJson.plainText = value.plainText.toList := rfl
  rw [plainText, written, String.ofList_toList]

/-- Whole values below `10 ^ 15` are written in plain decimal digits by value alone: the texts of
two such numbers are equal exactly where the values are. A double is converted to 64 bits for it
only where that is exact and within the range. -/
theorem Insert.whole_numbers_written_by_value {left right : Number} {first second : Int}
    (leftWhole : left.Whole first) (rightWhole : right.Whole second) :
    (number left).plainText = toString first ∧
      ((number left).plainText = (number right).plainText ↔ left.rational = right.rational) ∧
      ∀ value : Binary64, value.isWhole = true → value.isBelow Number.wholeLimit = true →
        Int64.minValue.toInt ≤ value.truncate ∧ value.truncate ≤ Int64.maxValue.toInt ∧
          (value.toInt64.toInt : ℚ) = value.rational := by
  have leftText := Number.plainText_of_whole leftWhole
  have rightText := Number.plainText_of_whole rightWhole
  refine ⟨?_, ?_, ?_⟩
  · rw [plainText_number, leftText, Number.intText_eq_toString]
  · rw [plainText_number, plainText_number, leftText, rightText, leftWhole.value, rightWhole.value,
      Int.cast_inj]
    exact Number.intText_inj leftWhole.fits rightWhole.fits
  · intro value whole small
    exact Binary.toInt64_exact whole small

/-- Minus zero and zero. -/
theorem Insert.whole_numbers_written_by_value_zeros :
    (Number.double ⟨true, 0, by decide⟩).Whole 0 ∧ (Number.integer 0).Whole 0 ∧
      (number (.double ⟨true, 0, by decide⟩)).plainText = toString (0 : Int) := by
  have minusZero : (Number.double ⟨true, 0, by decide⟩).Whole 0 := by
    constructor
    · have nothing : (⟨true, 0, by decide⟩ : Binary64).mantissa = 0 := rfl
      simp [Number.rational, Binary.rational, nothing]
    · decide
  have zero : (Number.integer 0).Whole 0 := ⟨rfl, by decide⟩
  exact ⟨minusZero, zero, (whole_numbers_written_by_value minusZero zero).1⟩

/-- Two is written alike in all its forms; from `10 ^ 15` on a double is written as the double it
is. -/
example : ["2", "2.0", "2e0", "-999999999999999.0", "1e15"].map (fun text =>
    ((Numeral.ofJson? text.toList).bind Number.ofNumeral?).map Number.plainText) =
      [some "2", some "2", some "2", some "-999999999999999", some "1000000000000000.0"] := by
  decide +kernel

end MessageCatalog
