import MessageCatalog.Catalog.Entry

/-!
A message with all inserts applied. The insert context is present only when it was asked for.
-/

namespace MessageCatalog

structure Message where
  message : String
  action : Option String
  detail : Option String
  url : Option String
  namedInserts : Option NamedInserts
  extra : List (String × Json)

namespace Message

def fieldNames : List String := ["message", "action", "detail", "url", "namedInserts"]

def ofNode? (node : Node) : Option Message := do
  let members ← node.members?
  let message ← (← Node.field? "message" members).bind Node.text?
  let action ← Entry.readField? Node.text? "action" members
  let detail ← Entry.readField? Node.text? "detail" members
  let url ← Entry.readField? Node.text? "url" members
  let namedInserts ← Entry.readField? NamedInserts.ofNode? "namedInserts" members
  let extra ← Entry.readExtra? fieldNames members
  some ⟨message, action, detail, url, namedInserts, extra⟩

def toJson (message : Message) : Json :=
  .object (Entry.textMember "message" (some message.message) ++
    Entry.textMember "action" message.action ++ Entry.textMember "detail" message.detail ++
    Entry.textMember "url" message.url ++ Entry.insertsMember message.namedInserts ++ message.extra)

end Message

end MessageCatalog
