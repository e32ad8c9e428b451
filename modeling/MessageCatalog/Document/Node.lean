import MessageCatalog.Json.Basic

/-!
A document as written, before a type is asked of it. What a scalar stands for depends on what is
wanted in its place (text, any value, a flag, a count, something optional), so a scalar carries its
reading in each place; members may repeat and keep the order of the text. The two written forms of
documents, JSON and YAML, differ only in the readings they give to their scalars and in whether a
record may be written as a sequence of its fields.
-/

namespace MessageCatalog

inductive DocumentForm where
  | json
  | yaml
deriving DecidableEq

/-- The readings of a scalar. `absence` says whether it stands for nothing where something optional
is wanted, `isVoid` that nothing is written at all, which also serves as an empty mapping or
sequence. -/
structure Scalar where
  text : Option String
  value : Option Json
  boolean : Option Bool
  count : Option Nat
  absence : Option Bool
  isVoid : Bool

/-- An `owned` node is a collection that an application has marked as its own: it can be read as a
record, but is no document value. -/
inductive Node where
  | scalar (scalar : Scalar)
  | sequence (items : List Node)
  | mapping (members : List (Node × Node))
  | owned (inner : Node)

namespace Node

def text? : Node → Option String
  | scalar readings => readings.text
  | _ => none

def boolean? : Node → Option Bool
  | scalar readings => readings.boolean
  | _ => none

def count? : Node → Option Nat
  | scalar readings => readings.count
  | _ => none

def absence? : Node → Option Bool
  | scalar readings => readings.absence
  | _ => some false

/-- The text that a scalar is by itself, not only where text is wanted. -/
def ownText? : Node → Option String
  | scalar readings =>
      match readings.value with
      | some (.text value) => some value
      | _ => none
  | _ => none

/-- The members, with keys read as text. -/
def members? : Node → Option (List (String × Node))
  | mapping members => members.mapM fun member => member.1.text?.map fun key => (key, member.2)
  | scalar readings => if readings.isVoid then some [] else none
  | sequence _ => none
  | owned inner => members? inner

def items? : Node → Option (List Node)
  | sequence items => some items
  | scalar readings => if readings.isVoid then some [] else none
  | mapping _ => none
  | owned inner => items? inner

mutual

/-- The document value with keys read by `readKey`: a repeated key keeps its first place and takes
its last value. -/
def valueWith? (readKey : Node → Option String) : Node → Option Json
  | scalar readings => readings.value
  | sequence items => (itemsWith? readKey items).map Json.array
  | mapping members =>
      (membersWith? readKey members).map fun pairs => Json.object (Keyed.ofPairs pairs)
  | owned _ => none

def itemsWith? (readKey : Node → Option String) : List Node → Option (List Json)
  | [] => some []
  | item :: rest => do
      let value ← valueWith? readKey item
      let values ← itemsWith? readKey rest
      some (value :: values)

def membersWith? (readKey : Node → Option String) :
    List (Node × Node) → Option (List (String × Json))
  | [] => some []
  | (key, item) :: rest => do
      let key ← readKey key
      let value ← valueWith? readKey item
      let pairs ← membersWith? readKey rest
      some ((key, value) :: pairs)

end

/-- The document value where a value is wanted: text is wanted of every key. -/
def toJson? (node : Node) : Option Json := node.valueWith? text?

/-- The document value taken as it stands: its keys must be texts by themselves. -/
def asIs? (node : Node) : Option Json := node.valueWith? ownText?

/-- Reads something optional with `read`. -/
def optional? {Value : Type} (read : Node → Option Value) (node : Node) :
    Option (Option Value) := do
  if ← node.absence? then some none else (read node).map some

/-- A mapping whose values are all read with `read`; a repeated key takes its last value. -/
def keyed? {Value : Type} (read : Node → Option Value) (node : Node) : Option (Keyed Value) := do
  let members ← node.members?
  let pairs ← members.mapM fun member => (read member.2).map fun value => (member.1, value)
  some (Keyed.ofPairs pairs)

/-- The members of a record under one of its own field names; a field must not be given twice. -/
def field? (name : String) (members : List (String × Node)) : Option (Option Node) :=
  match members.filter (fun member => member.1 == name) with
  | [] => some none
  | [member] => some (some member.2)
  | _ => none

mutual

/-- Collections stand in each other at most `limit` deep. -/
def nestsWithin : Nat → Node → Bool
  | _, scalar _ => true
  | 0, sequence _ => false
  | limit + 1, sequence items => itemsNestWithin limit items
  | 0, mapping _ => false
  | limit + 1, mapping members => membersNestWithin limit members
  | limit, owned inner => nestsWithin limit inner

def itemsNestWithin : Nat → List Node → Bool
  | _, [] => true
  | limit, item :: rest => nestsWithin limit item && itemsNestWithin limit rest

def membersNestWithin : Nat → List (Node × Node) → Bool
  | _, [] => true
  | limit, (key, item) :: rest =>
      nestsWithin limit key && nestsWithin limit item && membersNestWithin limit rest

end

end Node

end MessageCatalog
