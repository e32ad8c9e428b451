import MessageCatalog.Yaml.Tree

/-!
Anchors and aliases. A name may be declared as an anchor more than once. A declaration has a number,
which is how many different names were declared before it, and an alias has the number of the last
declaration of its name. Of the nodes with a number the last one in the document is what it stands
for, even where that node stands behind the alias or around it.
-/

namespace MessageCatalog.Yaml

/-- A tree with anchors by number. -/
abbrev NumberedTree := Tree Nat

/-- The names declared so far, each with the number of its last declaration. -/
abbrev Numbering := List (List Char × Nat)

namespace Numbering

def declare (name : List Char) (numbering : Numbering) : Numbering :=
  (name, numbering.length) :: numbering.filter fun entry => entry.1 != name

end Numbering

def numberProperties (numbering : Numbering) (properties : NamedProperties) :
    Properties Nat × Numbering :=
  match properties.anchor with
  | none => (⟨none, properties.tag⟩, numbering)
  | some name => (⟨some numbering.length, properties.tag⟩, numbering.declare name)

mutual

/-- Puts numbers for names; a node is declared before the nodes in it. An alias must have been
declared. -/
def numberTree : NamedTree → Numbering → Option (NumberedTree × Numbering)
  | .alias name, numbering => (numbering.lookup name).map fun number => (.alias number, numbering)
  | .scalar properties style text, numbering =>
      let (properties, numbering) := numberProperties numbering properties
      some (.scalar properties style text, numbering)
  | .sequence properties items, numbering => do
      let (properties, numbering) := numberProperties numbering properties
      let (items, numbering) ← numberItems items numbering
      some (.sequence properties items, numbering)
  | .mapping properties members, numbering => do
      let (properties, numbering) := numberProperties numbering properties
      let (members, numbering) ← numberMembers members numbering
      some (.mapping properties members, numbering)

def numberItems : List NamedTree → Numbering → Option (List NumberedTree × Numbering)
  | [], numbering => some ([], numbering)
  | item :: rest, numbering => do
      let (item, numbering) ← numberTree item numbering
      let (rest, numbering) ← numberItems rest numbering
      some (item :: rest, numbering)

def numberMembers : List (NamedTree × NamedTree) → Numbering →
    Option (List (NumberedTree × NumberedTree) × Numbering)
  | [], numbering => some ([], numbering)
  | (key, value) :: rest, numbering => do
      let (key, numbering) ← numberTree key numbering
      let (value, numbering) ← numberTree value numbering
      let (rest, numbering) ← numberMembers rest numbering
      some ((key, value) :: rest, numbering)

end

/-- The nodes that numbers stand for. -/
abbrev Targets := List (Nat × NumberedTree)

namespace Targets

/-- A number that is given again stands for the later node. -/
def put (anchor : Option Nat) (tree : NumberedTree) (targets : Targets) : Targets :=
  match anchor with
  | none => targets
  | some number => (number, tree) :: targets.filter fun entry => entry.1 != number

mutual

/-- Adds the anchored nodes of a tree in the order of the document. -/
def putAll : NumberedTree → Targets → Targets
  | .alias _, targets => targets
  | .scalar properties style text, targets =>
      targets.put properties.anchor (.scalar properties style text)
  | .sequence properties items, targets =>
      putItems items (targets.put properties.anchor (.sequence properties items))
  | .mapping properties members, targets =>
      putMembers members (targets.put properties.anchor (.mapping properties members))

def putItems : List NumberedTree → Targets → Targets
  | [], targets => targets
  | item :: rest, targets => putItems rest (putAll item targets)

def putMembers : List (NumberedTree × NumberedTree) → Targets → Targets
  | [], targets => targets
  | (key, value) :: rest, targets => putMembers rest (putAll value (putAll key targets))

end

def ofTree (tree : NumberedTree) : Targets := putAll tree []

end Targets

end MessageCatalog.Yaml
