import MessageCatalog.Document.Node
import MessageCatalog.Insert.Datum

/-!
Inserts addressed by name. The set keeps its keys distinct and in the order in which they were
first written; substitution runs in this order.
-/

namespace MessageCatalog

structure NamedInserts where
  entries : Keyed Insert
  distinct : Keyed.Distinct entries

namespace NamedInserts

def empty : NamedInserts := ⟨[], by simp [Keyed.Distinct, Keyed.keys]⟩

def set (key : String) (value : Insert) (inserts : NamedInserts) : NamedInserts :=
  ⟨inserts.entries.put key value, Keyed.distinct_put key value inserts.entries inserts.distinct⟩

def get? (key : String) (inserts : NamedInserts) : Option Insert := inserts.entries.get? key

def keys (inserts : NamedInserts) : List String := inserts.entries.keys

def size (inserts : NamedInserts) : Nat := inserts.entries.length

def isEmpty (inserts : NamedInserts) : Bool := inserts.entries.isEmpty

def ofPairs (pairs : List (String × Insert)) : NamedInserts :=
  ⟨Keyed.ofPairs pairs, Keyed.distinct_ofPairs pairs⟩

/-- The inserts of `upper` written over `lower`: keys in both keep the place they have in `lower`
and take the value they have in `upper`. -/
def overlay (lower upper : NamedInserts) : NamedInserts :=
  ⟨lower.entries.overlay upper.entries,
    Keyed.distinct_overlay lower.entries upper.entries lower.distinct⟩

/-- Adds a value of the host program, which must have a form as an insert. -/
def add (key : String) (value : Datum) (inserts : NamedInserts) : Except InsertError NamedInserts :=
  match value.toInsert with
  | .ok insert => .ok (inserts.set key insert)
  | .error cause => .error (.unsupported (.key key) cause)

def members (inserts : NamedInserts) : List (String × Json) :=
  inserts.entries.map fun entry => (entry.1, entry.2.toJson)

def toJson (inserts : NamedInserts) : Json := .object inserts.members

def ofMembers (members : List (String × Json)) : NamedInserts :=
  ofPairs (members.map fun member => (member.1, Insert.ofJson member.2))

/-- Reads inserts that came as a document. Nothing and null mean no inserts; anything else but an
object is refused. -/
def ofRaw : Option Json → Except InsertError NamedInserts
  | none => .ok empty
  | some .null => .ok empty
  | some (.object members) => .ok (ofMembers members)
  | some _ => .error (.shape .named)

/-- Reads a mapping, writing its members one after the other. -/
def ofNode? (node : Node) : Option NamedInserts := do
  let members ← node.members?
  let pairs ← members.mapM fun member =>
    member.2.toJson?.map fun value => (member.1, Insert.ofJson value)
  some (ofPairs pairs)

/-- Equality of insert sets: order matters between inserts, not inside their values. -/
def same (left right : NamedInserts) : Bool :=
  left.entries.length == right.entries.length &&
    (left.entries.zip right.entries).all fun pair =>
      pair.1.1 == pair.2.1 && pair.1.2.toJson.same pair.2.2.toJson

theorem shape_of_refused {raw : Option Json} {failure : InsertError}
    (refused : ofRaw raw = .error failure) :
    failure = .shape .named := by
  unfold ofRaw at refused
  split at refused
  all_goals cases refused
  rfl

theorem get?_overlay (key : String) (lower upper : NamedInserts) :
    (lower.overlay upper).get? key = (upper.get? key).or (lower.get? key) :=
  Keyed.get?_overlay key lower.entries upper.entries upper.distinct

theorem ofMembers_members (inserts : NamedInserts) : ofMembers inserts.members = inserts := by
  cases inserts with
  | mk entries distinct =>
      have same : (entries.map fun entry => (entry.1, entry.2.toJson)).map
          (fun member => (member.1, Insert.ofJson member.2)) = entries := by
        simp [Function.comp_def, Insert.ofJson_toJson]
      simp only [ofMembers, members, ofPairs, NamedInserts.mk.injEq]
      rw [same]
      exact Keyed.ofPairs_of_distinct entries distinct

/-- The document of an insert set reads back as that set. -/
theorem ofRaw_toJson (inserts : NamedInserts) : ofRaw (some inserts.toJson) = .ok inserts := by
  simp [toJson, ofRaw, ofMembers_members]

end NamedInserts

end MessageCatalog
