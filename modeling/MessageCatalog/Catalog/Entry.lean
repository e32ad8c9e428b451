import MessageCatalog.Insert.Named

/-!
A message entry as it stands in a catalog. Every field of its own is optional; all other members
are kept as they are, in their order.
-/

namespace MessageCatalog

structure Entry where
  message : Option String
  action : Option String
  detail : Option String
  namedInserts : Option NamedInserts
  url : Option String
  extra : List (String × Json)

namespace Entry

def fieldNames : List String := ["message", "action", "detail", "namedInserts", "url"]

/-- The members of a record that are no fields of its own, taken as they stand. -/
def readExtra? (fields : List String) (members : List (String × Node)) :
    Option (List (String × Json)) := do
  let others := members.filter fun member => !fields.contains member.1
  let pairs ← others.mapM fun member => member.2.asIs?.map fun value => (member.1, value)
  some (Keyed.ofPairs pairs)

/-- A field that may be missing or stand for nothing. -/
def readField? {Value : Type} (read : Node → Option Value) (name : String)
    (members : List (String × Node)) : Option (Option Value) := do
  match ← Node.field? name members with
  | none => some none
  | some node => node.optional? read

def ofNode? (node : Node) : Option Entry := do
  let members ← node.members?
  let message ← readField? Node.text? "message" members
  let action ← readField? Node.text? "action" members
  let detail ← readField? Node.text? "detail" members
  let namedInserts ← readField? NamedInserts.ofNode? "namedInserts" members
  let url ← readField? Node.text? "url" members
  let extra ← readExtra? fieldNames members
  some ⟨message, action, detail, namedInserts, url, extra⟩

def textMember (name : String) : Option String → List (String × Json)
  | none => []
  | some text => [(name, .text text)]

def insertsMember : Option NamedInserts → List (String × Json)
  | none => []
  | some inserts => [("namedInserts", inserts.toJson)]

def toJson (entry : Entry) : Json :=
  .object (textMember "message" entry.message ++ textMember "action" entry.action ++
    textMember "detail" entry.detail ++ insertsMember entry.namedInserts ++
    textMember "url" entry.url ++ entry.extra)

end Entry

end MessageCatalog
