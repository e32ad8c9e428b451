import MessageCatalog.Insert.Basic
import MessageCatalog.Insert.Error

/-!
Values of a host program offered as inserts, and their form as document values. Whole numbers must
fit 64 bits, a floating-point value that is not finite becomes null, and the keys of a mapping must
have a text form: that of a single has the digits of its own format. The parts of a value are taken
in order, so the first part without a form decides the reason of a failure.
-/

namespace MessageCatalog

open Text

/-- In `floating` and `single` nothing stands for a value that is infinite or no number. -/
inductive Datum where
  | json (value : Json)
  | nothing
  | wrapped (inner : Datum)
  | integer (value : Int)
  | floating (value : Option Binary64)
  | single (value : Option Binary32)
  | character (value : Char)
  | bytes (values : List Nat)
  | refused (reason : String)
  | sequence (items : List Datum)
  | mapping (entries : List (Datum × Datum))
  | variant (name : String)
  | variantOf (name : String) (inner : Datum)
deriving Inhabited

namespace Datum

def ofJsonKey : Json → Except Unsupported String
  | .text value => .ok value
  | .boolean value => .ok (if value then "true" else "false")
  | .number value => .ok value.wireText
  | _ => .error .keyNotText

/-- Whole numbers of any size can be keys. -/
def keyText : Datum → Except Unsupported String
  | json value => ofJsonKey value
  | integer value => .ok (intText value)
  | floating (some value) => .ok value.wireText
  | floating none => .error .floatKeyNotFinite
  | single (some value) => .ok value.wireText
  | single none => .error .floatKeyNotFinite
  | character value => .ok (String.singleton value)
  | refused reason => .error (.refused reason)
  | variant name => .ok name
  | _ => .error .keyNotText

/-- A single becomes the double of the same value. -/
def singleJson (value : Option Binary32) : Json :=
  match value.bind (Binary.convert? .double) with
  | some value => .number (.double value)
  | none => .null

mutual

def toJson : Datum → Except Unsupported Json
  | json value => .ok value
  | nothing => .ok .null
  | wrapped inner => toJson inner
  | integer value =>
      if Number.fits value then .ok (.number (.integer value)) else .error .numberOutOfRange
  | floating (some value) => .ok (.number (.double value))
  | floating none => .ok .null
  | single value => .ok (singleJson value)
  | character value => .ok (.text (String.singleton value))
  | bytes values => .ok (.array (values.map fun value : Nat => .number (.integer value)))
  | refused reason => .error (.refused reason)
  | sequence items => (itemsToJson items).map .array
  | mapping entries => (entriesToJson entries).map fun pairs => .object (Keyed.ofPairs pairs)
  | variant name => .ok (.text name)
  | variantOf name inner => (toJson inner).map fun value => .object [(name, value)]

def itemsToJson : List Datum → Except Unsupported (List Json)
  | [] => .ok []
  | item :: rest => do
      let value ← toJson item
      let values ← itemsToJson rest
      .ok (value :: values)

def entriesToJson : List (Datum × Datum) → Except Unsupported (List (String × Json))
  | [] => .ok []
  | (key, item) :: rest => do
      let key ← keyText key
      let value ← toJson item
      let pairs ← entriesToJson rest
      .ok ((key, value) :: pairs)

end

def toInsert (datum : Datum) : Except Unsupported Insert := datum.toJson.map Insert.ofJson

end Datum

end MessageCatalog
