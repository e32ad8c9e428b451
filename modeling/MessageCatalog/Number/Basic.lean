import MessageCatalog.Number.Shortest

/-!
The numbers of a document: whole numbers of 64 bits, signed or unsigned, and finite doubles. Their
text has two forms. The wire form keeps the two kinds apart (`2` and `2.0`); the plain form, used
inside messages, writes a double with a whole value below `10 ^ 15` as the whole number it is.

A numeral is read as the double nearest to it. That is an idealisation: a reader that does its best
with powers of ten of limited precision can be off by one unit in the last place where a numeral has
16 or 17 digits, for example at `31.245270191439438`.
-/

namespace MessageCatalog

open Text

inductive Number where
  | integer (value : Int)
  | double (value : Binary64)
deriving DecidableEq

/-- Where the text of a binary value changes from positional to scientific: the least and the
greatest exponent of the first digit that are written positionally. -/
structure Layout where
  leastPositional : Int
  greatestPositional : Int

namespace Layout

def double : Layout := ⟨-5, 15⟩

def single : Layout := ⟨-6, 12⟩

/-- Positional text has at least one digit after the point; scientific text has a point only with
further digits, and its exponent always has a sign. -/
def write (layout : Layout) (digits : List Char) (place : Int) : List Char :=
  if layout.leastPositional ≤ place && place ≤ layout.greatestPositional then
    if 0 ≤ place then
      let count := place.toNat + 1
      let whole := digits.take count ++ List.replicate (count - digits.length) '0'
      let fraction := digits.drop count
      whole ++ '.' :: (if fraction.isEmpty then ['0'] else fraction)
    else '0' :: '.' :: List.replicate ((-place).toNat - 1) '0' ++ digits
  else
    let mark := if place < 0 then ['e', '-'] else ['e', '+']
    let power := (natText place.natAbs).toList
    match digits with
    | [] => []
    | [only] => only :: mark ++ power
    | first :: more => first :: '.' :: more ++ mark ++ power

end Layout

def dropTrailingZeros (digits : List Char) : List Char :=
  (digits.reverse.dropWhile (· == '0')).reverse

/-- The text with the fewest digits. -/
def Binary.text {format : BinaryFormat} (layout : Layout) (value : Binary format) : String :=
  let magnitude :=
    if value.rank = 0 then ['0', '.', '0']
    else
      let decimal := value.shortest
      let digits := Nat.toDigits 10 decimal.digits
      let place := (digits.length : Int) - 1 + decimal.exponent
      layout.write (dropTrailingZeros digits) place
  String.ofList (if value.negative then '-' :: magnitude else magnitude)

def Binary64.wireText (value : Binary64) : String := value.text .double

def Binary32.wireText (value : Binary32) : String := value.text .single

namespace Number

def leastInteger : Int := -(Int.pow 2 63)

def integerLimit : Int := Int.pow 2 64

def fits (value : Int) : Bool := leastInteger ≤ value && value < integerLimit

/-- Whole numbers must fit; every finite double is a number. -/
def Fits : Number → Prop
  | integer value => fits value = true
  | double _ => True

/-- A numeral without point and exponent is a whole number when it fits, except for minus zero,
which only a double can hold; all else is a double. -/
def ofNumeral? (numeral : Numeral) : Option Number :=
  match numeral.fraction, numeral.power with
  | none, none =>
      let magnitude := (readDigitsFrom 10 0 numeral.whole).getD 0
      let value : Int := if numeral.negative then -(magnitude : Int) else magnitude
      if fits value && !(numeral.negative && magnitude == 0) then some (integer value)
      else (numeral.toBinary? .double).map double
  | _, _ => (numeral.toBinary? .double).map double

def wireText : Number → String
  | integer value => intText value
  | double value => value.wireText

/-- Whole doubles below this magnitude are written as whole numbers in messages. -/
def wholeLimit : Nat := Nat.pow 10 15

def plainText : Number → String
  | integer value => intText value
  | double value =>
      if value.isWhole && value.isBelow wholeLimit then intText value.toInt64.toInt
      else value.wireText

/-- Numeric equality within a kind; a whole number never equals a double. -/
def same : Number → Number → Bool
  | integer left, integer right => left == right
  | double left, double right => left.same right
  | _, _ => false

end Number

end MessageCatalog
