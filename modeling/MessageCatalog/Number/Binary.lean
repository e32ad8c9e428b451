/-!
Finite binary floating-point values, exactly. A magnitude is known by its rank among the magnitudes
of its format: zero has rank zero and each further value one more. Rank, mantissa and exponent
determine each other, so values compare, round and print in integer arithmetic.
-/

namespace MessageCatalog

/-- A binary interchange format: `precision` bits of mantissa, the exponent of the smallest unit,
and the rank at which magnitudes stop being finite. -/
structure BinaryFormat where
  precision : Nat
  leastExponent : Int
  limit : Nat

namespace BinaryFormat

def double : BinaryFormat := ⟨53, -1074, 2047 * Nat.pow 2 52⟩

def single : BinaryFormat := ⟨24, -149, 255 * Nat.pow 2 23⟩

def hiddenBit (format : BinaryFormat) : Nat := Nat.pow 2 (format.precision - 1)

def mantissa (format : BinaryFormat) (rank : Nat) : Nat :=
  if rank < format.hiddenBit then rank else format.hiddenBit + rank % format.hiddenBit

def exponent (format : BinaryFormat) (rank : Nat) : Int :=
  if rank < format.hiddenBit then format.leastExponent
  else format.leastExponent + (rank / format.hiddenBit : Nat) - 1

end BinaryFormat

/-- A quotient rounded to the nearest whole number, a half to the even neighbour. -/
def roundQuotient (numerator denominator : Nat) : Nat :=
  let whole := numerator / denominator
  let rest := numerator % denominator
  if 2 * rest < denominator then whole
  else if denominator < 2 * rest then whole + 1
  else whole + whole % 2

/-- A positive fraction, not necessarily in lowest terms. -/
structure Fraction where
  numerator : Nat
  denominator : Nat

namespace Fraction

def scale (base : Nat) (power : Int) (value : Fraction) : Fraction :=
  if 0 ≤ power then ⟨value.numerator * Nat.pow base power.toNat, value.denominator⟩
  else ⟨value.numerator, value.denominator * Nat.pow base (-power).toNat⟩

def lt (left right : Fraction) : Bool :=
  left.numerator * right.denominator < right.numerator * left.denominator

def power (base : Nat) (exponent : Int) : Fraction := scale base exponent ⟨1, 1⟩

/-- The difference of the binary logarithms, at most one off the logarithm of the value. -/
def binaryPlace (value : Fraction) : Int :=
  (value.numerator.log2 : Int) - (value.denominator.log2 : Int)

end Fraction

/-- The rank of the magnitude nearest to `value`, or nothing when that is not finite. The unit is
chosen so that the quotient has at most `precision` bits; a quotient that rounds up to one bit
more is the first rank of the next binade all the same. -/
def BinaryFormat.nearestRank? (format : BinaryFormat) (value : Fraction) : Option Nat :=
  if value.numerator = 0 then some 0
  else
    let place := value.binaryPlace
    let top := if value.lt (Fraction.power 2 place) then place - 1 else place
    let unit := max format.leastExponent (top - (format.precision - 1 : Nat))
    let scaled := value.scale 2 (-unit)
    let rank := (unit - format.leastExponent).toNat * format.hiddenBit +
      roundQuotient scaled.numerator scaled.denominator
    if rank < format.limit then some rank else none

/-- A finite value of a format. -/
structure Binary (format : BinaryFormat) where
  negative : Bool
  rank : Nat
  finite : rank < format.limit
deriving DecidableEq

abbrev Binary64 := Binary .double

abbrev Binary32 := Binary .single

namespace Binary

variable {format : BinaryFormat}

def ofRank? (format : BinaryFormat) (negative : Bool) (rank : Nat) : Option (Binary format) :=
  if finite : rank < format.limit then some ⟨negative, rank, finite⟩ else none

def mantissa (value : Binary format) : Nat := format.mantissa value.rank

def exponent (value : Binary format) : Int := format.exponent value.rank

def magnitude (value : Binary format) : Fraction :=
  Fraction.scale 2 value.exponent ⟨value.mantissa, 1⟩

/-- Nothing stands behind the point. -/
def isWhole (value : Binary format) : Bool :=
  value.magnitude.numerator % value.magnitude.denominator == 0

/-- The magnitude is less than a whole number. -/
def isBelow (value : Binary format) (bound : Nat) : Bool := value.magnitude.lt ⟨bound, 1⟩

/-- The value cut off at the point; both zeros have the value zero. -/
def truncate (value : Binary format) : Int :=
  let whole : Int := (value.magnitude.numerator / value.magnitude.denominator : Nat)
  if value.negative then -whole else whole

/-- The value as a whole number of 64 bits: cut off at the point, and beyond either end the end. -/
def toInt64 (value : Binary format) : Int64 := Int64.ofIntClamp value.truncate

/-- The nearest value of another format, if that is finite. -/
def convert? (target : BinaryFormat) (value : Binary format) : Option (Binary target) := do
  let rank ← target.nearestRank? value.magnitude
  ofRank? target value.negative rank

/-- Numeric equality: the two zeros are equal. -/
def same (left right : Binary format) : Bool :=
  left.rank == right.rank && (left.negative == right.negative || left.rank == 0)

end Binary

end MessageCatalog
