import MessageCatalog.Document.Node
import MessageCatalog.Yaml.Token

/-!
What YAML scalars stand for. A plain scalar is null, a truth value, a whole number or a float when
it is spelled like one, and text otherwise; all other styles are text. A tag of the standard schema
overrides the spelling; a tag of an application leaves no document value at all.
-/

namespace MessageCatalog.Yaml

open Text

def isNullText (text : List Char) : Bool :=
  ["~", "null", "Null", "NULL"].contains (String.ofList text)

def readBoolean? (text : List Char) : Option Bool :=
  if ["true", "True", "TRUE"].contains (String.ofList text) then some true
  else if ["false", "False", "FALSE"].contains (String.ofList text) then some false
  else none

def dropSign : List Char → List Char
  | '+' :: rest => rest
  | '-' :: rest => rest
  | text => text

/-- Digits behind a leading zero are text. -/
def isZeroLed (text : List Char) : Bool :=
  match dropSign text with
  | '0' :: rest => !rest.isEmpty && rest.all isDigit
  | _ => false

/-- The digits of a number with a base mark, which may be empty or wrong. -/
def baseDigits? : List Char → Option (Nat × List Char)
  | '0' :: 'x' :: digits => some (16, digits)
  | '0' :: 'o' :: digits => some (8, digits)
  | '0' :: 'b' :: digits => some (2, digits)
  | _ => none

def readMagnitude? (text : List Char) : Option Nat :=
  match baseDigits? text with
  | some (base, digits) => readDigits? base digits
  | none => readDigits? 10 text

/-- A whole number of any size: an optional sign and digits in one of four bases. -/
def readWhole? (text : List Char) : Option Int :=
  if isZeroLed text then none
  else
    match text with
    | '-' :: rest => (readMagnitude? rest).map fun value => -(value : Int)
    | '+' :: rest => (readMagnitude? rest).map fun value => (value : Int)
    | rest => (readMagnitude? rest).map fun value => (value : Int)

/-- A whole number that no minus sign stands before, when it fits 64 bits. -/
def readCount? (text : List Char) : Option Nat :=
  match text with
  | '-' :: _ => none
  | _ => do
      let value ← readWhole? text
      if value < Number.integerLimit then some value.toNat else none

/-- Whole numbers of more than 64 and up to 128 bits are recognised, but are no document values. -/
def isWide (value : Int) : Bool := -(Int.pow 2 127) ≤ value && value < Int.pow 2 128

def isSpecialFloat (text : List Char) : Bool :=
  [".inf", ".Inf", ".INF", "+.inf", "+.Inf", "+.INF", "-.inf", "-.Inf", "-.INF", ".nan", ".NaN",
    ".NAN"].contains (String.ofList text)

/-- Infinities and not-a-number have no document value but null. -/
def readFloat? (text : List Char) : Option Json :=
  if isSpecialFloat text then some .null
  else do
    let numeral ← Numeral.ofText? text
    let value ← numeral.toBinary? .double
    some (.number (.double value))

def wholeJson? (value : Int) : Option Json :=
  if Number.fits value then some (.number (.integer value)) else none

/-- The document value of a plain scalar. -/
def plainValue? (text : List Char) : Option Json :=
  if text.isEmpty || isNullText text then some .null
  else
    match readBoolean? text, readWhole? text with
    | some value, _ => some (.boolean value)
    | none, some value =>
        if isWide value then wholeJson? value
        else some ((readFloat? text).getD (.text (String.ofList text)))
    | none, none =>
        if isZeroLed text then some (.text (String.ofList text))
        else some ((readFloat? text).getD (.text (String.ofList text)))

def standardTag (name : String) : List Char := ("tag:yaml.org,2002:" ++ name).toList

def isApplicationTag (tag : Option (List Char)) : Bool := tag.any fun tag => tag.head? == some '!'

/-- The document value of a scalar with a tag. -/
def taggedValue? (tag text : List Char) : Option Json :=
  if isApplicationTag (some tag) then none
  else if tag == standardTag "bool" then (readBoolean? text).map .boolean
  else if tag == standardTag "int" then (readWhole? text).bind wholeJson?
  else if tag == standardTag "float" then readFloat? text
  else if tag == standardTag "null" then (if isNullText text then some .null else none)
  else some (.text (String.ofList text))

def value? (tag : Option (List Char)) (style : ScalarStyle) (text : List Char) : Option Json :=
  match tag with
  | some tag => taggedValue? tag text
  | none => if style = .plain then plainValue? text else some (.text (String.ofList text))

/-- Flags and counts are read from plain scalars, and from literal ones that are tagged as such. -/
def isLiteralOf (name : String) (tag : Option (List Char)) (style : ScalarStyle) : Bool :=
  style = .plain || (style = .literal && tag == some (standardTag name))

/-- Only a plain scalar stands for nothing. One that is tagged as null and is not spelled like it
says neither. -/
def absence? (tag : Option (List Char)) (style : ScalarStyle) (text : List Char) : Option Bool :=
  if style != .plain then some false
  else
    match tag with
    | none => some (text.isEmpty || isNullText text)
    | some tag =>
        if tag != standardTag "null" then some false
        else if isNullText text then some true
        else none

/-- The readings of a scalar. Where text is wanted every scalar is taken as its text. -/
def readings (tag : Option (List Char)) (style : ScalarStyle) (text : List Char) : Scalar where
  text := some (String.ofList text)
  value := value? tag style text
  boolean := if isLiteralOf "bool" tag style then readBoolean? text else none
  count := if isLiteralOf "int" tag style then readCount? text else none
  absence := absence? tag style text
  isVoid := style = .plain && text.isEmpty

/-- The readings of a document in which nothing is written. -/
def nothingWritten : Scalar := ⟨none, some .null, none, none, some true, true⟩

end MessageCatalog.Yaml
