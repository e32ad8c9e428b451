import MessageCatalog.Text.Alphanumeric.Table

/-!
Letters and numbers in the sense of Unicode: the property `Alphabetic`, and the three categories of
numbers, which hold fractions and superscript digits too.
-/

namespace MessageCatalog.Text

def inRanges (ranges : List (Nat × Nat)) (code : Nat) : Bool :=
  ranges.any fun range => range.1 ≤ code && code ≤ range.2

def isAlphabetic (c : Char) : Bool :=
  if c.toNat < 0x80 then c.isAlpha else inRanges alphabeticRanges c.toNat

def isNumeric (c : Char) : Bool :=
  if c.toNat < 0x80 then c.isDigit else inRanges numericRanges c.toNat

def isAlphanumeric (c : Char) : Bool := isAlphabetic c || isNumeric c

end MessageCatalog.Text
