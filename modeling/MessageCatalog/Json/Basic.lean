import MessageCatalog.Keyed
import MessageCatalog.Number.Basic

/-!
Document values. An object keeps its members in order; that their keys are distinct is the
predicate `Json.WellFormed`, which every reader in this library establishes.
-/

namespace MessageCatalog

inductive Json where
  | null
  | boolean (value : Bool)
  | number (value : Number)
  | text (value : String)
  | array (items : List Json)
  | object (members : List (String × Json))
deriving Inhabited

namespace Json

def isNull : Json → Bool
  | null => true
  | _ => false

def isObject : Json → Bool
  | object _ => true
  | _ => false

/-- The member of an object; other values have no members. -/
def member? (key : String) : Json → Option Json
  | object members => Keyed.get? key members
  | _ => none

mutual

def WellFormed : Json → Prop
  | array items => ItemsWellFormed items
  | object members => Keyed.Distinct members ∧ MembersWellFormed members
  | _ => True

def ItemsWellFormed : List Json → Prop
  | [] => True
  | item :: rest => WellFormed item ∧ ItemsWellFormed rest

def MembersWellFormed : List (String × Json) → Prop
  | [] => True
  | (_, value) :: rest => WellFormed value ∧ MembersWellFormed rest

end

mutual

/-- Equality of documents: the order of an object's members does not matter. -/
def same : Json → Json → Bool
  | null, null => true
  | boolean left, boolean right => left == right
  | number left, number right => left.same right
  | text left, text right => left == right
  | array left, array right => sameItems left right
  | object left, object right => left.length == right.length && sameMembers left right
  | _, _ => false

def sameItems : List Json → List Json → Bool
  | [], [] => true
  | left :: lefts, right :: rights => same left right && sameItems lefts rights
  | _, _ => false

def sameMembers : List (String × Json) → List (String × Json) → Bool
  | [], _ => true
  | (key, left) :: lefts, rights =>
      (match Keyed.get? key rights with
        | some right => same left right
        | none => false) && sameMembers lefts rights

end

end Json

end MessageCatalog
