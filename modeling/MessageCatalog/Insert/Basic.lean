import MessageCatalog.Json.Printer

/-!
The values that take the place of placeholders. A value is nothing, text, a number, a flag, or a
structured document; what it looks like inside a message is its plain text.
-/

namespace MessageCatalog

inductive Insert where
  | absent
  | text (value : String)
  | number (value : Number)
  | boolean (value : Bool)
  | list (items : List Json)
  | fields (members : List (String × Json))

namespace Insert

def ofJson : Json → Insert
  | .null => absent
  | .text value => text value
  | .number value => number value
  | .boolean value => boolean value
  | .array items => list items
  | .object members => fields members

def toJson : Insert → Json
  | absent => .null
  | text value => .text value
  | number value => .number value
  | boolean value => .boolean value
  | list items => .array items
  | fields members => .object members

theorem ofJson_toJson (value : Insert) : ofJson value.toJson = value := by cases value <;> rfl

theorem toJson_ofJson (value : Json) : (ofJson value).toJson = value := by cases value <;> rfl

def kind : Insert → String
  | absent => "absent"
  | text _ => "string"
  | number _ => "number"
  | boolean _ => "boolean"
  | list _ => "struct"
  | fields _ => "struct"

end Insert

namespace Json

mutual

/-- The text of a value inside a message: strings without quotes, arrays as their items with commas
between, objects as a fixed word. -/
def plainText : Json → List Char
  | null => "null".toList
  | boolean true => "true".toList
  | boolean false => "false".toList
  | number value => value.plainText.toList
  | text value => value.toList
  | array items => itemsPlainText items
  | object _ => "[object Object]".toList

/-- Inside an array nothing is written for null. -/
def itemsPlainText : List Json → List Char
  | [] => []
  | [item] => if item.isNull then [] else plainText item
  | item :: rest => (if item.isNull then [] else plainText item) ++ ',' :: itemsPlainText rest

end

end Json

def Insert.plainText (value : Insert) : String := String.ofList value.toJson.plainText

end MessageCatalog
