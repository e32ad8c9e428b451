import MessageCatalog.Insert.Named
import MessageCatalog.Insert.Positional
import MessageCatalog.Template.Replacement

/-!
Inserts made ready for substitution. There is one rule for each insert, first the positional ones
by index, then the named ones in their order, and the rules are applied to the whole text one after
the other. So a value that holds a placeholder is expanded by the rules behind its own only.
-/

namespace MessageCatalog.Template

structure Rule where
  key : List Char
  value : List Char
deriving DecidableEq

abbrev Substitution := List Rule

namespace Substitution

def apply (substitution : Substitution) (template : List Char) : List Char :=
  substitution.foldl (fun text rule => replaceAll rule.key rule.value text) template

def render (substitution : Substitution) (template : String) : String :=
  String.ofList (substitution.apply template.toList)

theorem apply_append (left right : Substitution) (template : List Char) :
    apply (left ++ right) template = apply right (apply left template) := by
  simp [apply]

end Substitution

/-- Which keys make a pattern that is not too large. -/
class KeySize where
  fits : List Char → Bool

/-- The number of characters that stands in for the cap on patterns. The cap is `2 ^ 16` bytes for
the compiled pattern. How many bytes a key takes there depends on its characters, since all the case
variants of a letter are compiled, so a number of characters draws the line roughly and no more. -/
def keyLimit : Nat := 4096

instance : KeySize := ⟨fun key => key.length ≤ keyLimit⟩

namespace Substitution

variable [KeySize]

/-- The rule of one insert; a key that does not fit is blamed on the place of the insert. -/
def ruleAt (place : InsertPlace) (key : List Char) (value : Insert) : Except InsertError Rule :=
  if KeySize.fits key then .ok ⟨key, value.plainText.toList⟩
  else .error (.unsupported place .patternTooLarge)

def positionalRules (start : Nat) : PositionalInserts → Except InsertError Substitution
  | [] => .ok []
  | value :: rest => do
      let rule ← ruleAt (.index start) (Text.natText start).toList value
      let rules ← positionalRules (start + 1) rest
      .ok (rule :: rules)

def namedRule (entry : String × Insert) : Except InsertError Rule :=
  ruleAt (.key entry.1) entry.1.toList entry.2

/-- Fails with the first key that does not fit, whether or not a template mentions it. -/
def ofInserts (named : NamedInserts) (positional : PositionalInserts) :
    Except InsertError Substitution := do
  let indexed ← positionalRules 0 positional
  let keyed ← named.entries.mapM namedRule
  .ok (indexed ++ keyed)

end Substitution

def applyInserts [KeySize] (template : String) (named : NamedInserts)
    (positional : PositionalInserts) :
    Except InsertError String := do
  let substitution ← Substitution.ofInserts named positional
  .ok (substitution.render template)

end MessageCatalog.Template
