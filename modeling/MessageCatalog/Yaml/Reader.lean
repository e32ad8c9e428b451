import MessageCatalog.Yaml.Expansion
import MessageCatalog.Yaml.Token.Lexer

/-!
YAML text read as a document. How often aliases are followed in all is limited in proportion to the
size of the text, and so is nesting; both limits hold for what is read.
-/

namespace MessageCatalog.Yaml

mutual

/-- The marks that a tree is written with: one for a scalar or alias, two for a collection. -/
def marks : NumberedTree → Nat
  | .alias _ => 1
  | .scalar _ _ _ => 1
  | .sequence _ items => 2 + itemMarks items
  | .mapping _ members => 2 + memberMarks members

def itemMarks : List NumberedTree → Nat
  | [] => 0
  | item :: rest => marks item + itemMarks rest

def memberMarks : List (NumberedTree × NumberedTree) → Nat
  | [] => 0
  | (key, value) :: rest => marks key + marks value + memberMarks rest

end

def depthLimit : Nat := 128

def jumpsPerMark : Nat := 100

/-- Reads what is selected of a text. -/
def readNode? (selection : Selection) (text : List Char) : Option Node := do
  let tokens ← tokens? text
  match ← Tree.ofTokens? tokens with
  | none => some (.scalar nothingWritten)
  | some tree => do
      let (tree, _) ← numberTree tree []
      let read ← (Anchorage.ofTree depthLimit tree).select selection tree
      if read.depth ≤ depthLimit && read.jumps ≤ jumpsPerMark * marks tree then some read.node
      else none

end MessageCatalog.Yaml
