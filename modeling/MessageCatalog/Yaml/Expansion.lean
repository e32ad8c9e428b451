import MessageCatalog.Document.Selection
import MessageCatalog.Yaml.Anchor
import MessageCatalog.Yaml.CoreSchema

/-!
Trees read as document nodes, with the nodes that aliases stand for in the place of the aliases. The
nodes are built in levels: on each level an alias takes its node from the level below, where all
that stands for one number is shared. A node that stands for itself has no end; it is cut off at the
bottom with a node that no reader accepts.
-/

namespace MessageCatalog.Yaml

/-- A node with the number of aliases followed inside it and its nesting depth. -/
structure Expanded where
  node : Node
  jumps : Nat
  depth : Nat

namespace Expanded

def cutOff : Expanded := ⟨.scalar ⟨none, none, none, none, none, false⟩, 0, 0⟩

def ownIfTagged (tag : Option (List Char)) (node : Node) : Node :=
  if isApplicationTag tag then .owned node else node

def ofItems (tag : Option (List Char)) (items : List Expanded) : Expanded :=
  ⟨ownIfTagged tag (.sequence (items.map node)), (items.map jumps).foldl (· + ·) 0,
    (items.map depth).foldl max 0 + 1⟩

def ofMembers (tag : Option (List Char)) (members : List (Expanded × Expanded)) : Expanded :=
  ⟨ownIfTagged tag (.mapping (members.map fun member => (member.1.node, member.2.node))),
    (members.map fun member => member.1.jumps + member.2.jumps).foldl (· + ·) 0,
    (members.map fun member => max member.1.depth member.2.depth).foldl max 0 + 1⟩

def follow (target : Expanded) : Expanded := { target with jumps := target.jumps + 1 }

end Expanded

/-- What the numbers stand for on one level. -/
abbrev Level := List (Nat × Expanded)

def Level.at (level : Level) (number : Nat) : Expanded := (level.lookup number).getD .cutOff

mutual

def expand (below : Level) : NumberedTree → Expanded
  | .alias number => (below.at number).follow
  | .scalar properties style text => ⟨.scalar (readings properties.tag style text), 0, 0⟩
  | .sequence properties items => .ofItems properties.tag (expandItems below items)
  | .mapping properties members => .ofMembers properties.tag (expandMembers below members)

def expandItems (below : Level) : List NumberedTree → List Expanded
  | [] => []
  | item :: rest => expand below item :: expandItems below rest

def expandMembers (below : Level) : List (NumberedTree × NumberedTree) → List (Expanded × Expanded)
  | [] => []
  | (key, value) :: rest => (expand below key, expand below value) :: expandMembers below rest

end

def levelAt (targets : Targets) : Nat → Level
  | 0 => []
  | height + 1 =>
      let below := levelAt targets height
      targets.map fun (number, tree) => (number, expand below tree)

/-- The targets of a document and the level from which it is read. -/
structure Anchorage where
  targets : Targets
  level : Level

namespace Anchorage

/-- Aliases that lead from node to node without coming back are no more than there are targets, and
each one after the first stands one collection deeper. -/
def ofTree (depthLimit : Nat) (tree : NumberedTree) : Anchorage :=
  let targets := Targets.ofTree tree
  ⟨targets, levelAt targets (min depthLimit targets.length)⟩

/-- The node at a place, and how many aliases are followed to it. -/
def resolve? (anchorage : Anchorage) : NumberedTree → Option (NumberedTree × Nat)
  | .alias number => (anchorage.targets.lookup number).map fun tree => (tree, 1)
  | tree => some (tree, 0)

mutual

/-- Reads what is selected of a tree. The keys of a record are read all the same, and must be
text. -/
def select (anchorage : Anchorage) : Selection → NumberedTree → Option Expanded
  | .whole, tree => some (expand anchorage.level tree)
  | .record fields, tree => do
      match ← anchorage.resolve? tree with
      | (.mapping properties members, jumps) => do
          let keyed ← members.mapM fun (key, value) =>
            let key := expand anchorage.level key
            key.node.text?.map fun name => (name, key, value)
          let read ← selectMembers anchorage fields keyed
          let passed := keyed.filter fun (name, _, _) => !fields.any (·.1 == name)
          let record := Expanded.ofMembers properties.tag read
          some { record with
            jumps := record.jumps + jumps + (passed.map (·.2.1.jumps)).foldl (· + ·) 0 }
      | _ => some (expand anchorage.level tree)

def selectMembers (anchorage : Anchorage) : List (String × Selection) →
    List (String × Expanded × NumberedTree) → Option (List (Expanded × Expanded))
  | [], _ => some []
  | (field, selection) :: rest, keyed => do
      let read ← (keyed.filter fun (name, _, _) => name == field).mapM fun (_, key, value) =>
        (select anchorage selection value).map fun value => (key, value)
      let others ← selectMembers anchorage rest keyed
      some (read ++ others)

end

end Anchorage

end MessageCatalog.Yaml
