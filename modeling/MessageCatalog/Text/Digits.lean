/-!
Whole numbers as text: the digits of a number in a base, and the number that a run of digits
writes. Reading keeps to ASCII digits.
-/

namespace MessageCatalog.Text

def isDigit (c : Char) : Bool := '0' ≤ c && c ≤ '9'

/-- The value of a digit in bases up to sixteen, either case. -/
def digitValue? (base : Nat) (c : Char) : Option Nat :=
  let value :=
    if '0' ≤ c && c ≤ '9' then c.toNat - '0'.toNat
    else if 'a' ≤ c && c ≤ 'f' then c.toNat - 'a'.toNat + 10
    else if 'A' ≤ c && c ≤ 'F' then c.toNat - 'A'.toNat + 10
    else 16
  if value < base then some value else none

/-- The number written by `digits` after `start`; fails on a character that is no digit. -/
def readDigitsFrom (base start : Nat) (digits : List Char) : Option Nat :=
  digits.foldlM (fun value c => (digitValue? base c).map (base * value + ·)) start

/-- The number written by one or more digits. -/
def readDigits? (base : Nat) (digits : List Char) : Option Nat :=
  if digits.isEmpty then none else readDigitsFrom base 0 digits

def natText (value : Nat) : String := toString value

def intText (value : Int) : String :=
  if value < 0 then "-" ++ natText value.natAbs else natText value.natAbs

def hexDigit (value : Nat) : Char :=
  if value < 10 then Char.ofNat ('0'.toNat + value) else Char.ofNat ('a'.toNat + (value - 10))

/-- Exactly `width` lower-case hexadecimal digits, highest first. -/
def hexText (width value : Nat) : List Char :=
  match width with
  | 0 => []
  | width + 1 => hexText width (value / 16) ++ [hexDigit (value % 16)]

theorem hexText_length (width value : Nat) : (hexText width value).length = width := by
  induction width generalizing value with
  | zero => rfl
  | succ width induction => simp [hexText, induction]

end MessageCatalog.Text
