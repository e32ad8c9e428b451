import MessageCatalog.Text.Digits

/-!
What can be wrong with inserts: a whole side that is no object or no array, or one value that has
no form as an insert.
-/

namespace MessageCatalog

inductive InsertSide where
  | named
  | positional
deriving DecidableEq

inductive InsertPlace where
  | key (key : String)
  | index (index : Nat)
deriving DecidableEq

/-- Why a value cannot be an insert. -/
inductive Unsupported where
  | numberOutOfRange
  | floatKeyNotFinite
  | keyNotText
  | refused (reason : String)
  | patternTooLarge
deriving DecidableEq

inductive InsertError where
  | shape (side : InsertSide)
  | unsupported (place : InsertPlace) (cause : Unsupported)
deriving DecidableEq

def InsertSide.wanted : InsertSide → String
  | named => "named inserts must be an object"
  | positional => "positional inserts must be an array"

def InsertPlace.message : InsertPlace → String
  | key name => "namedInserts '" ++ name ++ "'"
  | index position => "positionalInserts value with index: '" ++ Text.natText position ++ "'"

def Unsupported.reason : Unsupported → String
  | numberOutOfRange => "number out of range"
  | floatKeyNotFinite => "float key must be finite (got NaN or +/-inf)"
  | keyNotText => "key must be a string"
  | refused reason => reason
  | patternTooLarge => "Compiled regex exceeds size limit of 65536 bytes."

def InsertError.message : InsertError → String
  | shape side => side.wanted ++ " if defined"
  | unsupported place cause => place.message ++ " is of unsupported type: " ++ cause.reason

end MessageCatalog
