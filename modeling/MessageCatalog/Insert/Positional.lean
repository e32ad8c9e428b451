import MessageCatalog.Document.Node
import MessageCatalog.Insert.Datum

/-!
Inserts addressed by position: the value at index `n` takes the place of the placeholder whose name
is the decimal text of `n`.
-/

namespace MessageCatalog

abbrev PositionalInserts := List Insert

namespace PositionalInserts

/-- Adds a value of the host program at the end. -/
def push (value : Datum) (inserts : PositionalInserts) : Except InsertError PositionalInserts :=
  match value.toInsert with
  | .ok insert => .ok (inserts ++ [insert])
  | .error cause => .error (.unsupported (.index inserts.length) cause)

def toJson (inserts : PositionalInserts) : Json := .array (inserts.map Insert.toJson)

/-- Reads inserts that came as a document. Nothing and null mean no inserts; anything else but an
array is refused. -/
def ofRaw : Option Json → Except InsertError PositionalInserts
  | none => .ok []
  | some .null => .ok []
  | some (.array items) => .ok (items.map Insert.ofJson)
  | some _ => .error (.shape .positional)

def ofNode? (node : Node) : Option PositionalInserts := do
  let items ← node.items?
  items.mapM fun item => item.toJson?.map Insert.ofJson

def same (left right : PositionalInserts) : Bool :=
  left.length == right.length &&
    (left.zip right).all fun pair => pair.1.toJson.same pair.2.toJson

theorem shape_of_refused {raw : Option Json} {failure : InsertError}
    (refused : ofRaw raw = .error failure) :
    failure = .shape .positional := by
  unfold ofRaw at refused
  split at refused
  all_goals cases refused
  rfl

theorem ofRaw_toJson (inserts : PositionalInserts) :
    ofRaw (some (toJson inserts)) = .ok inserts := by
  simp [toJson, ofRaw, Function.comp_def, Insert.ofJson_toJson]

end PositionalInserts

end MessageCatalog
