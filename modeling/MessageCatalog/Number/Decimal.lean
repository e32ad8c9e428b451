import MessageCatalog.Number.Binary
import MessageCatalog.Text.Digits

/-!
Decimal numerals: their written parts, the decimal value they stand for, and the binary value
nearest to it.
-/

namespace MessageCatalog

open Text

/-- The value `digits * 10 ^ exponent`. -/
structure Decimal where
  digits : Nat
  exponent : Int
deriving DecidableEq

namespace Decimal

def toFraction (value : Decimal) : Fraction := Fraction.scale 10 value.exponent ⟨value.digits, 1⟩

/-- The rank of the nearest magnitude. Values with their first digit at `10 ^ 310` or above are no
finite value of either format and values below `10 ^ (-330)` are nearest to zero, so that the exact
quotient is formed for moderate exponents only. -/
def rank? (format : BinaryFormat) (value : Decimal) : Option Nat :=
  let places : Int := (Nat.toDigits 10 value.digits).length
  if value.digits = 0 then some 0
  else if 310 < places + value.exponent then none
  else if places + value.exponent < -330 then some 0
  else format.nearestRank? value.toFraction

end Decimal

/-- A written decimal numeral. `fraction` is present when a point is, `power` when an exponent
is. -/
structure Numeral where
  negative : Bool
  whole : List Char
  fraction : Option (List Char)
  power : Option Int

namespace Numeral

/-- The exponent part of a numeral: nothing, or `e` with an optional sign and digits. -/
def readPower : List Char → Option (Option Int)
  | [] => some none
  | mark :: rest =>
      if mark = 'e' || mark = 'E' then
        match rest with
        | '-' :: digits => (readDigits? 10 digits).map fun value => some (-(value : Int))
        | '+' :: digits => (readDigits? 10 digits).map fun value => some (value : Int)
        | digits => (readDigits? 10 digits).map fun value => some (value : Int)
      else none

/-- Digits, an optional point with digits, an optional exponent, and nothing else. -/
def ofUnsigned? (negative : Bool) (text : List Char) : Option Numeral :=
  let whole := text.takeWhile isDigit
  match text.dropWhile isDigit with
  | '.' :: rest =>
      (readPower (rest.dropWhile isDigit)).map
        fun power => ⟨negative, whole, some (rest.takeWhile isDigit), power⟩
  | rest => (readPower rest).map fun power => ⟨negative, whole, none, power⟩

def HasDigit (numeral : Numeral) : Bool :=
  !numeral.whole.isEmpty || !(numeral.fraction.getD []).isEmpty

/-- A lone zero, or digits that another one leads. -/
def wholeFits : List Char → Bool
  | [] => false
  | ['0'] => true
  | first :: _ => first != '0'

/-- A point has digits behind it. -/
def fractionFits : Option (List Char) → Bool
  | some [] => false
  | _ => true

def fitsJson (numeral : Numeral) : Bool := wholeFits numeral.whole && fractionFits numeral.fraction

/-- The numerals of a JSON document: no plus sign, no needless leading zero, digits on both sides
of a point. -/
def ofJson? (text : List Char) : Option Numeral := do
  let numeral ← match text with
    | '-' :: rest => ofUnsigned? true rest
    | rest => ofUnsigned? false rest
  if numeral.fitsJson then some numeral else none

/-- Free-standing numerals: either sign, a point with digits on one side at least. -/
def ofText? (text : List Char) : Option Numeral := do
  let numeral ← match text with
    | '-' :: rest => ofUnsigned? true rest
    | '+' :: rest => ofUnsigned? false rest
    | rest => ofUnsigned? false rest
  if numeral.HasDigit then some numeral else none

def toDecimal (numeral : Numeral) : Decimal :=
  let fraction := numeral.fraction.getD []
  ⟨(readDigitsFrom 10 0 (numeral.whole ++ fraction)).getD 0,
    numeral.power.getD 0 - (fraction.length : Int)⟩

/-- The nearest value of a format, or nothing when the numeral is too large for one. -/
def toBinary? (format : BinaryFormat) (numeral : Numeral) : Option (Binary format) := do
  let rank ← numeral.toDecimal.rank? format
  Binary.ofRank? format numeral.negative rank

end Numeral

end MessageCatalog
