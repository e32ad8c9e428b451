import MessageCatalog.Number.Decimal

/-!
The shortest decimal that reads back as a given binary value. For one digit, two digits and so on,
the two neighbours of the value on the grid of that many digits are tried; the first grid with a
neighbour that reads back wins, of two the nearer, of two equally near the even one.
-/

namespace MessageCatalog.Binary

variable {format : BinaryFormat}

def readsBack (value : Binary format) (decimal : Decimal) : Bool :=
  decimal.rank? format == some value.rank

/-- The exponent of the first decimal digit: the greatest `e` with `10 ^ e` at most the value. The
estimate from the binary logarithm is at most one off. -/
def decimalPlace (value : Fraction) : Int :=
  let estimate := Int.fdiv (value.binaryPlace * 30103) 100000
  if !value.lt (Fraction.power 10 (estimate + 1)) then estimate + 1
  else if !value.lt (Fraction.power 10 estimate) then estimate
  else estimate - 1

/-- The better of the two neighbours of `value` in units of `10 ^ unit` that read back. -/
def onGrid? (value : Binary format) (unit : Int) : Option Decimal :=
  let scaled := value.magnitude.scale 10 (-unit)
  let below : Decimal := ⟨scaled.numerator / scaled.denominator, unit⟩
  let above : Decimal := ⟨scaled.numerator / scaled.denominator + 1, unit⟩
  match readsBack value below, readsBack value above with
  | true, true =>
      if roundQuotient scaled.numerator scaled.denominator = below.digits then some below
      else some above
  | true, false => some below
  | false, true => some above
  | false, false => none

/-- All digits of the value, which is a multiple of a power of ten. -/
def exactDecimal (value : Binary format) : Decimal :=
  if 0 ≤ value.exponent then ⟨value.mantissa * Nat.pow 2 value.exponent.toNat, 0⟩
  else ⟨value.mantissa * Nat.pow 5 (-value.exponent).toNat, value.exponent⟩

/-- Seventeen digits suffice for a double, and fewer for a single; the exact digits close the
search. -/
def shortest (value : Binary format) : Decimal :=
  let place := decimalPlace value.magnitude
  match (List.range 17).findSome? (fun further : Nat => onGrid? value (place - further)) with
  | some decimal => decimal
  | none => exactDecimal value

end MessageCatalog.Binary
