import MessageCatalog.Insert.Named
import MessageCatalog.Insert.Positional

/-!
Errors that name a catalog and a message code. On the wire an error is an object with its code under
two names; older writers use only the second name, and `inserts` for the positional inserts.
-/

namespace MessageCatalog

/-- `message` is for developers; what users see is the catalog's message for the code. -/
structure CodedError where
  code : String
  catalog : String
  message : String
  named : NamedInserts
  positional : PositionalInserts

namespace CodedError

def defaultName : String := "DEFAULT"

def orDefault (name : String) : String := if name.isEmpty then defaultName else name

/-- An empty code or catalog stands for the default one. -/
def make (code catalog message : String) (named : NamedInserts) (positional : PositionalInserts) :
    CodedError :=
  ⟨orDefault code, orDefault catalog, message, named, positional⟩

def simple (code catalog message : String) : CodedError := make code catalog message .empty []

def withNamed (named : NamedInserts) (error : CodedError) : CodedError := { error with named }

def withPositional (positional : PositionalInserts) (error : CodedError) : CodedError :=
  { error with positional }

/-- The text of a string, number or boolean; a number has its wire form. -/
def scalarText? : Json → Option String
  | .text value => some value
  | .number value => some value.wireText
  | .boolean value => some (if value then "true" else "false")
  | _ => none

def textOf? (field : String) (payload : Json) : Option String :=
  (payload.member? field).bind scalarText?

/-- The raw positional inserts: the current name unless it is missing or null, else the older. -/
def rawPositional (payload : Json) : Option Json :=
  match payload.member? "positionalInserts" with
  | some .null => payload.member? "inserts"
  | none => payload.member? "inserts"
  | current => current

/-- Reads the wire form. The named inserts are checked before the positional ones. -/
def ofPayload (payload : Json) : Except InsertError CodedError := do
  let code := (textOf? "messageCode" payload).orElse fun _ => textOf? "messageNumber" payload
  let catalog := textOf? "catalog" payload
  let message := textOf? "message" payload
  let named ← NamedInserts.ofRaw (payload.member? "namedInserts")
  let positional ← PositionalInserts.ofRaw (rawPositional payload)
  .ok (make (code.getD "") (catalog.getD "") (message.getD "") named positional)

def present (field : String) (payload : Json) : Bool :=
  match payload.member? field with
  | some value => !value.isNull
  | none => false

/-- Whether a payload names a catalog and a message code. -/
def looksCoded (payload : Json) : Bool :=
  present "catalog" payload && (present "messageCode" payload || present "messageNumber" payload)

/-- The code is written under both of its names. -/
def members (error : CodedError) : List (String × Json) :=
  [("messageCode", .text error.code), ("messageNumber", .text error.code),
    ("catalog", .text error.catalog), ("message", .text error.message),
    ("namedInserts", error.named.toJson),
    ("positionalInserts", PositionalInserts.toJson error.positional)]

def toJson (error : CodedError) : Json := .object error.members

def same (left right : CodedError) : Bool :=
  left.code == right.code && left.catalog == right.catalog && left.message == right.message &&
    left.named.same right.named && PositionalInserts.same left.positional right.positional

theorem make_code_ne_empty (code catalog message : String) (named : NamedInserts)
    (positional : PositionalInserts) :
    (make code catalog message named positional).code ≠ "" ∧
      (make code catalog message named positional).catalog ≠ "" := by
  constructor <;>
  · simp only [make, orDefault]
    split <;> simp_all [defaultName]

end CodedError

end MessageCatalog
