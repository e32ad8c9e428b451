import MessageCatalog.Document.Node

/-!
The part of a document that a reader asks for. Of a record only the members under its field names
are read; everything else in it is passed over unread, so that the limits on documents do not hold
there.
-/

namespace MessageCatalog

/-- The whole of a document, or a record with the part to be read of each field. -/
inductive Selection where
  | whole
  | record (fields : List (String × Selection))

namespace Node

mutual

/-- Keeps what is selected. A record may be written as a sequence of its fields, and keys that
cannot be read are kept. -/
def select : Selection → Node → Node
  | .whole, node => node
  | .record fields, mapping members =>
      mapping (members.filter (fun member => member.1.text?.isNone) ++ selectMembers fields members)
  | .record fields, sequence items => sequence (selectItems fields items)
  | .record _, node => node

def selectMembers : List (String × Selection) → List (Node × Node) → List (Node × Node)
  | [], _ => []
  | (name, selection) :: rest, members =>
      (members.filter fun member => member.1.text? == some name).map
        (fun member => (member.1, select selection member.2)) ++ selectMembers rest members

def selectItems : List (String × Selection) → List Node → List Node
  | (_, selection) :: rest, item :: items => select selection item :: selectItems rest items
  | _, items => items

end

theorem select_whole (node : Node) : node.select .whole = node := by
  cases node <;> simp [select]

end Node

end MessageCatalog
